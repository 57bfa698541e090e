import Mailroom.Calendar.Date
import Mailroom.Text.Space

/-!
# Search criteria

The keys of a mailbox search and the list of words and dates that a client sends for them.
-/

namespace Mailroom.Search

inductive Atom where
  | word (s : String)
  | date (d : Date)
deriving DecidableEq, Repr

inductive Key where
  | text (s : String)
  | sender (s : String)
  | recipient (s : String)
  | subject (s : String)
  | unseen
  /-- On this date or later. -/
  | since (d : Date)
  /-- Earlier than this date. -/
  | before (d : Date)
  | all
deriving DecidableEq, Repr

def Key.atoms : Key → List Atom
  | text s => [.word "TEXT", .word s]
  | sender s => [.word "FROM", .word s]
  | recipient s => [.word "TO", .word s]
  | subject s => [.word "SUBJECT", .word s]
  | unseen => [.word "UNSEEN"]
  | since d => [.word "SINCE", .date d]
  | before d => [.word "BEFORE", .date d]
  | all => [.word "ALL"]

def atoms (keys : List Key) : List Atom :=
  keys.flatMap Key.atoms

/-- The character set to announce: UTF-8 if some word needs it. -/
def charset? (criteria : List Atom) : Option String :=
  if criteria.any (fun
    | .word s => !Text.isAscii s
    | .date _ => false) then
    some "UTF-8"
  else
    none

end Mailroom.Search
