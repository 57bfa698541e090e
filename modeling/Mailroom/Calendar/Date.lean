import Mailroom.Text.Digit

/-!
# Calendar dates

Dates of the Gregorian calendar from the year 1 to the year 9999, their day numbers, and their
written form `YYYY-MM-DD`.
-/

namespace Mailroom

def isLeap (year : Nat) : Bool :=
  year % 4 == 0 && (year % 100 != 0 || year % 400 == 0)

def monthLength (year month : Nat) : Nat :=
  match month with
  | 2 => if isLeap year then 29 else 28
  | 4 | 6 | 9 | 11 => 30
  | _ => 31

structure Date where
  year : Nat
  month : Nat
  day : Nat
  valid : (1 ≤ year ∧ year ≤ 9999) ∧ (1 ≤ month ∧ month ≤ 12) ∧
    1 ≤ day ∧ day ≤ monthLength year month
deriving DecidableEq, Repr

namespace Date

def of? (year month day : Nat) : Option Date :=
  if h : (1 ≤ year ∧ year ≤ 9999) ∧ (1 ≤ month ∧ month ≤ 12) ∧
      1 ≤ day ∧ day ≤ monthLength year month then
    some ⟨year, month, day, h⟩
  else
    none

/-- The number of days before the first of January of a year. -/
def daysBeforeYear (year : Nat) : Nat :=
  let y := year - 1
  365 * y + y / 4 - y / 100 + y / 400

/-- The number of days of a year before the first of a month. -/
def daysBeforeMonth (year : Nat) : Nat → Nat
  | 0 => 0
  | 1 => 0
  | month + 1 => daysBeforeMonth year month + monthLength year month

/-- The number of a date, counted from 1 for the first of January of the year 1. -/
def ordinal (d : Date) : Nat :=
  daysBeforeYear d.year + daysBeforeMonth d.year d.month + d.day

def maxOrdinal : Nat := 3652059

/-- The first year from `year` on whose end is not before a day number. -/
def yearFrom : Nat → Nat → Nat → Nat
  | 0, year, _ => year
  | fuel + 1, year, n =>
    if n ≤ daysBeforeYear (year + 1) then year else yearFrom fuel (year + 1) n

/-- The first month from `month` on whose end is not before a day of a year. -/
def monthFrom (year : Nat) : Nat → Nat → Nat → Nat
  | 0, month, _ => month
  | fuel + 1, month, n =>
    if n ≤ daysBeforeMonth year (month + 1) then month else monthFrom year fuel (month + 1) n

/-- The date with a number. A year has at most 366 days, so `(n - 1) / 366 + 1` is not after its
year, and over 9999 years it falls short by less than forty. -/
def ofOrdinal? (n : Int) : Option Date :=
  if 1 ≤ n ∧ n ≤ maxOrdinal then
    let n := n.toNat
    let year := yearFrom 40 ((n - 1) / 366 + 1) n
    let rest := n - daysBeforeYear year
    let month := monthFrom year 11 1 rest
    of? year month (rest - daysBeforeMonth year month)
  else
    none

/-- The date some days later, or earlier if the number is negative. -/
def addDays? (d : Date) (days : Int) : Option Date :=
  ofOrdinal? (d.ordinal + days)

def before (a b : Date) : Bool :=
  a.year < b.year || (a.year == b.year &&
    (a.month < b.month || (a.month == b.month && a.day < b.day)))

def padded (width n : Nat) : List Char :=
  let ds := Nat.toDigits 10 n
  List.replicate (width - ds.length) '0' ++ ds

def iso (d : Date) : String :=
  String.ofList (padded 4 d.year ++ '-' :: padded 2 d.month ++ '-' :: padded 2 d.day)

/-- The value of a month of two ASCII digits. -/
def month? (a b : Char) : Option Nat :=
  if a.isDigit && b.isDigit then some (10 * (a.toNat - 0x30) + (b.toNat - 0x30)) else none

/-- The value of a day: the first digit is an ASCII digit, the second may be of any script after
`1` and `2`. -/
def day? (a b : Char) : Option Nat :=
  if a == '1' || a == '2' then
    (Text.digitValue? b).map (10 * (a.toNat - 0x30) + ·)
  else
    month? a b

/-- Reads `YYYY-MM-DD`. The digits of the year may be of any script. -/
def ofIso? (s : String) : Option Date :=
  match s.toList with
  | [y₁, y₂, y₃, y₄, '-', m₁, m₂, '-', d₁, d₂] => do
    let year := [← Text.digitValue? y₁, ← Text.digitValue? y₂, ← Text.digitValue? y₃,
      ← Text.digitValue? y₄]
    of? (Text.ofDigits year) (← month? m₁ m₂) (← day? d₁ d₂)
  | _ => none

end Date

end Mailroom
