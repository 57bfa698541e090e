import Mailroom.Calendar.Date

/-!
# Moments

A date with a time of day in UTC, to the microsecond.
-/

namespace Mailroom

structure Moment where
  date : Date
  hour : Nat
  minute : Nat
  second : Nat
  micro : Nat
deriving DecidableEq, Repr

namespace Moment

/-- The written form with milliseconds; what is finer is dropped. -/
def stamp (m : Moment) : String :=
  m.date.iso ++ String.ofList ('T' :: Date.padded 2 m.hour ++ ':' :: Date.padded 2 m.minute ++
    ':' :: Date.padded 2 m.second ++ '.' :: Date.padded 3 (m.micro / 1000) ++ ['Z'])

def two? : List Char → Option (Nat × List Char)
  | a :: b :: r => (Date.month? a b).map (·, r)
  | _ => none

/-- Reads `:` and two digits, zero if there is no `:`. -/
def colonTwo? : List Char → Option (Nat × List Char)
  | ':' :: r => two? r
  | r => some (0, r)

/-- Reads a fraction of a second in microseconds; further digits are dropped. -/
def fraction : List Char → Nat × List Char
  | '.' :: r =>
    let ds := (r.takeWhile Char.isDigit).take 6
    let n := Text.ofDigits (ds.map fun c => c.toNat - 0x30)
    (n * Nat.pow 10 (6 - ds.length), r.dropWhile Char.isDigit)
  | r => (0, r)

/-- Reads the distance to UTC in seconds. -/
def zone? : List Char → Option Int
  | [] => some 0
  | ['Z'] => some 0
  | sign :: r => do
    let (hours, r) ← two? r
    let (minutes, r) ← colonTwo? r
    let (seconds, r) ← colonTwo? r
    let total : Int := 3600 * hours + 60 * minutes + seconds
    if !r.isEmpty then none
    else if sign == '+' then some total
    else if sign == '-' then some (-total)
    else none

/-- Reads a date, a separator, a time of day and a distance to UTC, and moves to UTC. -/
def ofIso? (s : String) : Option Moment := do
  let cs := s.toList
  let date ← Date.ofIso? (String.ofList (cs.take 10))
  let (hour, r) ← two? (cs.drop 11)
  let (minute, r) ← colonTwo? r
  let (second, r) ← colonTwo? r
  let (micro, r) := fraction r
  let shift ← zone? r
  let total : Int := 3600 * hour + 60 * minute + second - shift
  let date ← date.addDays? (Int.fdiv total 86400)
  let rest := (Int.fmod total 86400).toNat
  return ⟨date, rest / 3600, rest / 60 % 60, rest % 60, micro⟩

end Moment

end Mailroom
