import Mailroom.Check
import Mailroom.Task.Basic
import Mailroom.Settings

/-!
# Sessions

A session is one authenticated client, used for one task. A session whose conversation is in an
unknown state is given up: it issues no further commands, and closing it drops the connection
instead of logging out.
-/

namespace Mailroom.Imap

structure Session where
  client : ClientId
deriving DecidableEq, Repr

/-- The texts that tell a refusal of credentials from other refusals. -/
def credentialMarks : List String :=
  ["AUTHENTICATIONFAILED", "AUTHENTICATION FAILED", "AUTHORIZATIONFAILED", "INVALID CREDENTIALS"]

namespace Fault

def whileConnecting (f : Fault) : Error :=
  match f.kind with
  | .timeout => .connectTimeout
  | .tls | .certificate => .handshakeFailed f.message
  | .value => .unusableHost
  | .abort | .refusal | .login | .system => .connectFailed f.message

def whileLoggingIn (f : Fault) : Failure :=
  match f.kind with
  | .timeout => .refused .loginTimeout
  | .login => .refused (.credentialsRejected f.message)
  | .value => .escaped (.clientValue f.message)
  | .abort | .refusal | .system | .tls | .certificate =>
    let text := (Text.upper f.message).toList
    if credentialMarks.any fun mark => Text.contains mark.toList text then
      .refused (.credentialsRejected f.message)
    else
      .refused (.loginFailed f.message)

def whileIssuing (verb : String) (f : Fault) : Failure :=
  match f.kind with
  | .timeout => .refused (.verbTimeout verb)
  | .abort =>
    if Text.contains "timed out".toList (Text.lowerChars f.message.toList) then
      .refused (.verbTimeout verb)
    else
      .refused (.verbFailed verb f.message)
  | .value => .escaped (.clientValue f.message)
  | .refusal | .login | .system | .tls | .certificate => .refused (.verbFailed verb f.message)

end Fault

variable {σ α : Type}

/-- Drops the connection; a failure to do so is only logged. -/
def shutdownQuietly (p : Peer σ) (client : ClientId) : Task σ Unit := do
  match ← Task.ask p client .shutdown with
  | .ok _ => return
  | .error f =>
    if f.kind = .value then
      Task.escape (.clientValue f.message)
    else
      Task.log .debug .imap s!"Ignoring shutdown failure: {f.message}"

def openClient (p : Peer σ) (s : Settings) (a : Account) : Task σ ClientId := do
  let client := (← get).clients
  match ← Task.ask p client (.connect a.host a.port s.connectTimeout s.greetingTimeout) with
  | .error f => Task.refuse f.whileConnecting
  | .ok _ =>
    modify fun w => { w with clients := client + 1 }
    return client

/-- Connects and logs in. Accounts without a secure connection are refused, because the password is
sent. -/
def connect (p : Peer σ) (s : Settings) (a : Account) : Task σ Session := do
  if !a.secure then
    Task.refuse .insecureAccount
  Task.check (Check.host a.host)
  let client ← openClient p s a
  match ← Task.ask p client (.login a.user a.password) with
  | .error f =>
    if f.kind ≠ .value then
      shutdownQuietly p client
    throw f.whileLoggingIn
  | .ok _ =>
    Task.setTimeout p client s.socketTimeout
    Task.log .info .imap s!"Connected to IMAP server {a.host}:{a.port} as account {a.id}"
    return ⟨client⟩

namespace Session

def isAbandoned (s : Session) : Task σ Bool := do
  return (← get).abandoned.contains s.client

/-- Logs out, or drops the connection of a session that was given up. Closing again does nothing. -/
def close (p : Peer σ) (s : Session) : Task σ Unit := do
  if (← get).closed.contains s.client then
    return
  modify fun w => { w with closed := s.client :: w.closed }
  if ← s.isAbandoned then
    shutdownQuietly p s.client
  else
    match ← Task.ask p s.client .logout with
    | .ok _ => return
    | .error f =>
      if f.kind = .value then
        Task.escape (.clientValue f.message)
      else
        Task.log .debug .imap s!"Ignoring logout failure: {f.message}"

/-- Runs a task with a session and closes the session, however the task ends. -/
def within (p : Peer σ) (s : Session) (body : Task σ α) : Task σ α := do
  let r ← Task.observe body
  s.close p
  Task.ofExcept r

/-- Issues a command. A failure after which the state of the conversation is unknown makes the
session given up. -/
def issue (p : Peer σ) (s : Session) (verb : String) (c : Call) : Task σ c.Reply := do
  if ← s.isAbandoned then
    Task.refuse (.verbNotIssued verb)
  match ← Task.ask p s.client c with
  | .ok r => return r
  | .error f =>
    if f.kind.isAbandoning then
      modify fun w => { w with abandoned := s.client :: w.abandoned }
    throw (f.whileIssuing verb)

def noop (p : Peer σ) (s : Session) : Task σ Unit :=
  s.issue p "NOOP" .noop

def capabilities (p : Peer σ) (s : Session) : Task σ (List String) := do
  return (← s.issue p "CAPABILITY" .capabilities).map fun t => Text.upper t.toText

/-- A mailbox by its name and the character between the levels of its name. -/
structure Mailbox where
  name : String
  delimiter : Option String
deriving DecidableEq, Repr

def mailboxes (p : Peer σ) (s : Session) : Task σ (List Mailbox) := do
  return (← s.issue p "LIST" .listFolders).map fun f =>
    ⟨f.name.toText, f.delimiter.map Token.toText⟩

def number (t : Token) : Task σ Int :=
  match t.toInt? with
  | some n => return n
  | none => Task.escape .unreadableNumber

def epoch (items : Items) : Task σ Int :=
  match items.find? "UIDVALIDITY" with
  | none | some .missing => Task.refuse .noUidValidity
  | some (.single t) => number t
  | some (.many _) => Task.escape .unexpectedValue

/-- Selects a mailbox and gives its UIDVALIDITY. A server that refuses is taken to have no such
mailbox. -/
def select (p : Peer σ) (s : Session) (mailbox : String) (readOnly : Bool) : Task σ Int := do
  let verb := if readOnly then "EXAMINE" else "SELECT"
  match ← Task.attempt (s.issue p verb (.select mailbox readOnly)) with
  | .ok items => epoch items
  | .error e =>
    if e.code = .internal && !(← s.isAbandoned) then
      Task.refuse (.mailboxUnavailable (Text.lower verb) mailbox e.message)
    else
      Task.refuse e

/-- The UIDs of the messages that match, the newest first. -/
def search (p : Peer σ) (s : Session) (criteria : List Search.Atom) : Task σ (List Int) := do
  let ts ← s.issue p "UID SEARCH" (.search criteria (Search.charset? criteria))
  return (← ts.mapM number).mergeSort fun a b => b ≤ a

def fetch (p : Peer σ) (s : Session) (uid : Int) (items : List FetchItem) : Task σ Items := do
  let found ← s.issue p "UID FETCH" (.fetch uid items)
  match found.find? (·.1 == uid) with
  | some (_, items) => return items
  | none => Task.refuse (.messageMissing uid)

def fetchHeader (p : Peer σ) (s : Session) (uid : Int) : Task σ (Value × List String) := do
  let items ← s.fetch p uid [.flags, .headerFields]
  match items.body? with
  | some header => return (header, items.flags)
  | none => Task.refuse .noHeaders

def fetchFlags (p : Peer σ) (s : Session) (uid : Int) : Task σ (List String) := do
  return (← s.fetch p uid [.flags]).flags

def fetchSource (p : Peer σ) (s : Session) (uid : Int) : Task σ Value := do
  match (← s.fetch p uid [.source]).body? with
  | some source => return source
  | none => Task.refuse .noBody

def addFlags (p : Peer σ) (s : Session) (uid : Int) (flags : List String) : Task σ Unit :=
  s.issue p "UID STORE" (.addFlags uid flags)

def removeFlags (p : Peer σ) (s : Session) (uid : Int) (flags : List String) : Task σ Unit :=
  s.issue p "UID STORE" (.removeFlags uid flags)

def copy (p : Peer σ) (s : Session) (uid : Int) (mailbox : String) : Task σ Unit :=
  s.issue p "UID COPY" (.copy uid mailbox)

def move (p : Peer σ) (s : Session) (uid : Int) (mailbox : String) : Task σ Unit :=
  s.issue p "UID MOVE" (.move uid mailbox)

def expunge (p : Peer σ) (s : Session) (uid : Int) : Task σ Unit :=
  s.issue p "UID EXPUNGE" (.expunge uid)

def append (p : Peer σ) (s : Session) (mailbox : String) (source : List UInt8) : Task σ Unit :=
  s.issue p "APPEND" (.append mailbox source)

end Session

end Mailroom.Imap
