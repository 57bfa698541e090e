import Mailroom.Clock

/-!
# The cursor store

Snapshots of searches under tokens. An entry lives until its deadline, which creating it and
moving it on renew; every operation first drops the entries whose deadline has come. When a new
entry exceeds the capacity, the entries with the earliest deadlines go, of equals the oldest.
-/

namespace Mailroom.Cursor

/-- Names an entry: the number of entries created before it, plus one. -/
abbrev Token := Nat

def tokenText (t : Token) : String :=
  s!"cursor-{t}"

/-- A search's messages, newest first, and how far they have been paged. -/
structure Entry where
  accountId : String
  mailbox : String
  uidvalidity : Int
  uids : List Int
  offset : Int
  includeSnippet : Bool
  snippetMaxChars : Int
  expiresAt : Instant
deriving DecidableEq, Repr

/-- How many entries are held, and until when an entry lives that is renewed at some time. -/
structure Policy where
  capacity : Nat
  deadline : Instant → Instant

/-- The entries in the order of their creation, and the number of entries ever created. -/
structure Store where
  entries : List (String × Entry)
  created : Nat
deriving DecidableEq, Repr

namespace Store

def empty : Store :=
  ⟨[], 0⟩

def isLive (now : Instant) (e : Entry) : Bool :=
  now < e.expiresAt

def purge (now : Instant) (s : Store) : Store :=
  { s with entries := s.entries.filter fun e => isLive now e.2 }

def find? (s : Store) (token : String) : Option Entry :=
  (s.entries.find? (·.1 == token)).map (·.2)

/-- Whether `a` stands before `b` in the order of eviction, given that it stands first in the
store. -/
def goesFirst (a b : String × Entry) : Bool :=
  a.2.expiresAt ≤ b.2.expiresAt

/-- Drops the entries with the earliest deadlines until the capacity is kept. -/
def evict (capacity : Nat) (s : Store) : Store :=
  let victims := (s.entries.mergeSort goesFirst).take (s.entries.length - capacity)
  { s with entries := s.entries.filter fun e => !victims.any (·.1 == e.1) }

def size (now : Instant) (s : Store) : Nat × Store :=
  let s := s.purge now
  (s.entries.length, s)

def create (p : Policy) (now : Instant) (e : Entry) (s : Store) : String × Store :=
  let s := s.purge now
  let token := tokenText (s.created + 1)
  let stored := { e with expiresAt := p.deadline now }
  (token, evict p.capacity ⟨s.entries ++ [(token, stored)], s.created + 1⟩)

def get (now : Instant) (token : String) (s : Store) : Option Entry × Store :=
  let s := s.purge now
  (s.find? token, s)

/-- Moves a live entry on and renews its deadline; an unknown token changes nothing. -/
def advance (p : Policy) (now : Instant) (token : String) (offset : Int) (s : Store) : Store :=
  let s := s.purge now
  { s with entries := s.entries.map fun e =>
      if e.1 == token then (e.1, { e.2 with offset := offset, expiresAt := p.deadline now })
      else e }

def delete (now : Instant) (token : String) (s : Store) : Store :=
  let s := s.purge now
  { s with entries := s.entries.filter (·.1 != token) }

end Store

end Mailroom.Cursor
