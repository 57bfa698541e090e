import Mailroom.Charset.Utf8
import Mailroom.Search.Criteria
import Mailroom.Text.Digit

/-!
# Mail clients

The calls that a mail client understands, what each of them gives back, and the ways in which a
call can fail. A `Peer` is everything on the other side of the calls: client, network and server.
-/

namespace Mailroom.Imap

inductive FaultKind where
  | timeout
  /-- The server ended the conversation. -/
  | abort
  /-- The server refused a command. -/
  | refusal
  /-- The server refused the credentials. -/
  | login
  | system
  | tls
  | certificate
  /-- The client refused its arguments. -/
  | value
deriving DecidableEq, Repr

structure Fault where
  kind : FaultKind
  message : String
deriving DecidableEq, Repr

namespace FaultKind

/-- Whether a failure leaves the conversation in an unknown state. -/
def isAbandoning : FaultKind → Bool
  | timeout | abort | system | tls | certificate => true
  | refusal | login | value => false

end FaultKind

inductive Token where
  | octets (s : List UInt8)
  | text (s : String)
  | number (n : Int)
deriving DecidableEq, Repr

namespace Token

/-- The text of an atom; octets are read as UTF-8. -/
def toText : Token → String
  | octets s => String.ofList (Charset.Utf8.decode s)
  | text s => s
  | number n => toString n

/-- The whole number that an atom is or spells; octets spell one only in ASCII. -/
def toInt? : Token → Option Int
  | number n => some n
  | text s => Text.readInt? s
  | octets s => if s.all (· < 0x80) then Text.readInt? (octets s).toText else none

end Token

inductive Value where
  | missing
  | single (t : Token)
  | many (ts : List Token)
deriving DecidableEq, Repr

def Value.octets? : Value → Option (List UInt8)
  | single (.octets s) => some s
  | _ => none

/-- Named values of an answer, in the order in which the server gave them. -/
abbrev Items := List (Token × Value)

def ascii (s : String) : List UInt8 :=
  s.toList.map fun c => .ofNat c.toNat

namespace Items

def find? (items : Items) (name : String) : Option Value :=
  (List.find? (fun i => i.1 == .octets (ascii name)) items).map (·.2)

def flags (items : Items) : List String :=
  match items.find? "FLAGS" with
  | some (.many ts) => ts.map Token.toText
  | _ => []

/-- Whether a name is that of a body section or of a whole message. -/
def isBodyName : Token → Bool
  | .octets s => (ascii "BODY[").isPrefixOf s || (ascii "RFC822").isPrefixOf s
  | _ => false

def body? (items : Items) : Option Value :=
  match List.find? (fun i => isBodyName i.1) items with
  | none | some (_, .missing) => none
  | some (_, v) => some v

end Items

/-- What is fetched of a message. Fetching a body does not mark the message as seen. -/
inductive FetchItem where
  | flags
  | headerFields
  | source
deriving DecidableEq, Repr

def FetchItem.text : FetchItem → String
  | flags => "FLAGS"
  | headerFields => "BODY.PEEK[HEADER.FIELDS (DATE FROM TO CC SUBJECT)]"
  | source => "BODY.PEEK[]"

/-- A mailbox as a server lists it; its attributes are not used. -/
structure Folder where
  delimiter : Option Token
  name : Token
deriving DecidableEq, Repr

/-- The calls of a client. Times are in milliseconds. -/
inductive Call where
  | connect (host : String) (port connectTimeout readTimeout : Nat)
  | login (user password : String)
  | noop
  | capabilities
  | listFolders
  | select (mailbox : String) (readOnly : Bool)
  | search (criteria : List Search.Atom) (charset : Option String)
  | fetch (uid : Int) (items : List FetchItem)
  | addFlags (uid : Int) (flags : List String)
  | removeFlags (uid : Int) (flags : List String)
  | copy (uid : Int) (mailbox : String)
  | move (uid : Int) (mailbox : String)
  | expunge (uid : Int)
  | append (mailbox : String) (source : List UInt8)
  | logout
  | shutdown
deriving DecidableEq, Repr

namespace Call

@[reducible] def Reply : Call → Type
  | capabilities => List Token
  | listFolders => List Folder
  | select .. => Items
  | search .. => List Token
  | fetch .. => List (Int × Items)
  | connect .. | login .. | noop | addFlags .. | removeFlags .. | copy .. | move .. | expunge _
  | append .. | logout | shutdown => Unit

end Call

/-- The kinds of calls. Fetching counts as three kinds, by what is fetched. -/
inductive Verb where
  | connect
  | login
  | noop
  | capabilities
  | listFolders
  | select
  | search
  | fetchSource
  | fetchFlags
  | fetchHeader
  | addFlags
  | removeFlags
  | copy
  | move
  | expunge
  | append
  | logout
  | shutdown
deriving DecidableEq, Repr

namespace Call

def verb : Call → Verb
  | connect .. => .connect
  | login .. => .login
  | noop => .noop
  | capabilities => .capabilities
  | listFolders => .listFolders
  | select .. => .select
  | search .. => .search
  | fetch _ items =>
    if items.contains .flags then
      if items.length = 1 then .fetchFlags else .fetchHeader
    else
      .fetchSource
  | addFlags .. => .addFlags
  | removeFlags .. => .removeFlags
  | copy .. => .copy
  | move .. => .move
  | expunge _ => .expunge
  | append .. => .append
  | logout => .logout
  | shutdown => .shutdown

def uid? : Call → Option Int
  | fetch uid _ | addFlags uid _ | removeFlags uid _ | copy uid _ | move uid _ | expunge uid =>
    some uid
  | _ => none

end Call

/-- Counts the clients that were constructed, the first being 0. -/
abbrev ClientId := Nat

/-- The other side's reaction to a call: how the call ended, how many milliseconds that took, and
the state it leaves. -/
structure Answer (σ α : Type) where
  outcome : Except Fault α
  delay : Nat
  next : σ

/-- The other side of all calls, with states `σ`. Setting a client's deadline cannot fail. -/
structure Peer (σ : Type) where
  answer : ClientId → (c : Call) → σ → Answer σ c.Reply
  setTimeout : ClientId → Nat → σ → σ

inductive Event where
  | called (client : ClientId) (call : Call) (outcome : Except Fault call.Reply)
  | timeoutSet (client : ClientId) (milliseconds : Nat)

end Mailroom.Imap
