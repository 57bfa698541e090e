import Mailroom.Imap.Client

/-!
# Mailboxes in memory

A mailbox that keeps its messages in the order in which they arrived, and what a server does to it.
-/

namespace Mailroom.Imap

/-- A message as a server keeps it. A server may be unable to tell its flags or its body. -/
structure StoredMessage where
  uid : Int
  source : List UInt8
  flags : List String
  hidesFlags : Bool
  hidesBody : Bool
deriving DecidableEq, Repr

/-- The octets up to the first blank line, and that line; all of them without one. What is done is
kept in front, last first. -/
def headerSectionOnto (done : List UInt8) : List UInt8 → List UInt8
  | [] => done.reverse
  | 0x0a :: 0x0a :: _ => (0x0a :: 0x0a :: done).reverse
  | 0x0a :: 0x0d :: 0x0a :: _ => (0x0a :: 0x0d :: 0x0a :: done).reverse
  | b :: r => headerSectionOnto (b :: done) r

namespace StoredMessage

def headerSection (m : StoredMessage) : List UInt8 :=
  headerSectionOnto [] m.source

def addFlags (new : List String) (m : StoredMessage) : StoredMessage :=
  { m with flags := new.foldl (fun fs f => if fs.contains f then fs else fs ++ [f]) m.flags }

def removeFlags (old : List String) (m : StoredMessage) : StoredMessage :=
  { m with flags := m.flags.filter fun f => !old.contains f }

def octets (s : String) : Token :=
  .octets (Charset.Utf8.encode s.toList)

def tell (m : StoredMessage) : FetchItem → Items
  | .flags =>
    if m.hidesFlags then [] else [(octets "FLAGS", .many (m.flags.map octets))]
  | .headerFields =>
    if m.hidesBody then []
    else
      [(octets "BODY[HEADER.FIELDS (DATE FROM TO CC SUBJECT)]",
        .single (.octets m.headerSection))]
  | .source =>
    if m.hidesBody then [] else [(octets "BODY[]", .single (.octets m.source))]

end StoredMessage

/-- A mailbox as a server keeps it. Without a UIDVALIDITY none is told; with a range every search
finds its numbers. -/
structure StoredMailbox where
  name : String
  delimiter : Option String
  uidvalidity : Option Int
  range : Option (Int × Int)
  messages : List StoredMessage
  /-- One above the largest number that was ever given. -/
  nextUid : Int
deriving DecidableEq, Repr

namespace StoredMailbox

def message? (b : StoredMailbox) (uid : Int) : Option StoredMessage :=
  b.messages.find? (·.uid == uid)

/-- Adds a message at the end under its own number. -/
def deposit (b : StoredMailbox) (m : StoredMessage) : StoredMailbox :=
  { b with messages := b.messages ++ [m], nextUid := max b.nextUid (m.uid + 1) }

/-- Adds a message at the end under the next number. -/
def receive (b : StoredMailbox) (m : StoredMessage) : StoredMailbox :=
  b.deposit { m with uid := b.nextUid }

def change (b : StoredMailbox) (uid : Int) (f : StoredMessage → StoredMessage) : StoredMailbox :=
  { b with messages := b.messages.map fun m => if m.uid == uid then f m else m }

def remove (b : StoredMailbox) (uid : Int) : StoredMailbox :=
  { b with messages := b.messages.filter (·.uid != uid) }

/-- Removes a message that is marked as deleted. -/
def expunge (b : StoredMailbox) (uid : Int) : StoredMailbox :=
  { b with messages := b.messages.filter fun m => !(m.uid == uid && m.flags.contains "\\Deleted") }

/-- The numbers that every search finds. -/
def found (b : StoredMailbox) : List Int :=
  match b.range with
  | some (low, high) => (List.range (high - low + 1).toNat).map fun i => low + Int.ofNat i
  | none => b.messages.map (·.uid)

def status (b : StoredMailbox) : Items :=
  (b.uidvalidity.map fun n => (StoredMessage.octets "UIDVALIDITY", Value.single (.number n))).toList

end StoredMailbox

end Mailroom.Imap
