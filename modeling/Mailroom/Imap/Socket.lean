import Mailroom.Imap.Client
import Mailroom.Text.Space

/-!
# Clients over a socket

How a client connects and logs in over a secured socket: the steps that it takes on the socket, and
the deadlines under which it takes them.
-/

namespace Mailroom.Imap.Socket

/-- What a client does with its socket. Times are in milliseconds. -/
inductive Step where
  | opened (host : String) (port timeout : Nat)
  | timeoutSet (timeout : Nat)
  /-- The socket was secured for the server of a name. -/
  | secured (name : String)
  | sent (command : String)
  | shutDown
  | closed
deriving DecidableEq, Repr

/-- What the network does: whether opening and securing the socket fail, and the server's reply to
the login. -/
structure Line where
  opening : Option Fault
  securing : Option Fault
  loginReply : String

structure State where
  line : Line
  steps : List Step

namespace State

def add (s : State) (steps : List Step) : State :=
  { s with steps := s.steps ++ steps }

end State

def quoted (s : String) : String :=
  String.ofList ('"' :: (s.toList.flatMap fun c =>
    if c = '"' ∨ c = '\\' then ['\\', c] else [c]) ++ ['"'])

def hexDigit (n : UInt8) : Char :=
  if n < 10 then Char.ofNat (0x30 + n.toNat) else Char.ofNat (0x57 + n.toNat)

/-- An octet as it stands between quotes in a refusal. -/
def octetText (mark : Char) (b : UInt8) : List Char :=
  let c := Char.ofNat b.toNat
  if c = mark ∨ c = '\\' then ['\\', c]
  else if c = '\n' then ['\\', 'n']
  else if c = '\r' then ['\\', 'r']
  else if c = '\t' then ['\\', 't']
  else if 0x20 ≤ b && b < 0x7f then [c]
  else ['\\', 'x', hexDigit (b / 16), hexDigit (b % 16)]

/-- Octets as a refusal shows them: in single quotes, or in double ones if only single ones
occur. -/
def octetsText (s : List UInt8) : String :=
  let mark := if s.contains 0x27 && !s.contains 0x22 then '"' else '\''
  String.ofList ('b' :: mark :: s.flatMap (octetText mark) ++ [mark])

/-- What a reply to the login means: its first word tells, the rest explains. -/
def readLogin (reply : String) : Except Fault Unit :=
  let word := String.ofList (reply.toList.takeWhile (· != ' '))
  let rest := Charset.Utf8.encode ((reply.toList.dropWhile (· != ' ')).drop 1)
  if word = "OK" then .ok ()
  else if word = "BAD" then
    .error ⟨.login, s!"LOGIN command error: BAD [{octetsText rest}]"⟩
  else
    .error ⟨.login, octetsText rest⟩

/-- Opens and secures a socket. The connection has a deadline of its own; securing the socket and
all that follows share the other one. -/
def open? (host : String) (port connectTimeout readTimeout : Nat) (s : State) :
    Except Fault Unit × State :=
  let s := s.add [.opened host port connectTimeout]
  match s.line.opening with
  | some f => (.error f, s)
  | none =>
    let s := s.add [.timeoutSet readTimeout, .secured host]
    match s.line.securing with
    | some f => (.error f, s.add [.closed])
    | none => (.ok (), s.add [.timeoutSet readTimeout])

/-- Sends the login; commands are ASCII. -/
def logIn (user password : String) (s : State) : Except Fault Unit × State :=
  if Text.isAscii user && Text.isAscii password then
    (readLogin s.line.loginReply, s.add [.sent s!"LOGIN {user} {quoted password}"])
  else
    (.error ⟨.value, "credentials outside ASCII"⟩, s)

/-- A call that the other end of this line does not understand. -/
def unknown : Fault :=
  ⟨.refusal, "unknown command"⟩

def outcome (s : State) : (c : Call) → Except Fault c.Reply × State
  | .connect host port connectTimeout readTimeout =>
    open? host port connectTimeout readTimeout s
  | .login user password => logIn user password s
  | .shutdown => (.ok (), s.add [.shutDown, .closed])
  | _ => (.error unknown, s)

def peer : Peer State where
  answer _ c s := ⟨(outcome s c).1, 0, (outcome s c).2⟩
  setTimeout _ ms s := s.add [.timeoutSet ms]

end Mailroom.Imap.Socket
