import Mailroom.Text.Space

/-!
# Decimal digits

Digits of every script, and reading whole numbers written with them.
-/

namespace Mailroom.Text

/-- The zeros of the decimal digit runs of Unicode 14; each is followed by its digits 1 to 9. -/
def digitZeros : List Nat :=
  [
    0x30, 0x660, 0x6f0, 0x7c0, 0x966, 0x9e6, 0xa66, 0xae6, 0xb66, 0xbe6, 0xc66, 0xce6, 0xd66,
    0xde6, 0xe50, 0xed0, 0xf20, 0x1040, 0x1090, 0x17e0, 0x1810, 0x1946, 0x19d0, 0x1a80, 0x1a90,
    0x1b50, 0x1bb0, 0x1c40, 0x1c50, 0xa620, 0xa8d0, 0xa900, 0xa9d0, 0xa9f0, 0xaa50, 0xabf0, 0xff10,
    0x104a0, 0x10d30, 0x11066, 0x110f0, 0x11136, 0x111d0, 0x112f0, 0x11450, 0x114d0, 0x11650,
    0x116c0, 0x11730, 0x118e0, 0x11950, 0x11c50, 0x11d50, 0x11da0, 0x16a60, 0x16ac0, 0x16b50,
    0x1d7ce, 0x1d7d8, 0x1d7e2, 0x1d7ec, 0x1d7f6, 0x1e140, 0x1e2f0, 0x1e950, 0x1fbf0]

/-- The value of a decimal digit of any script. -/
def digitValue? (c : Char) : Option Nat :=
  if c.toNat < 0x80 then
    if c.isDigit then some (c.toNat - 0x30) else none
  else
    (digitZeros.find? fun z => z ≤ c.toNat && c.toNat ≤ z + 9).map (c.toNat - ·)

/-- The number that a list of digit values writes in base ten. -/
def ofDigits (ds : List Nat) : Nat :=
  ds.foldl (fun n d => 10 * n + d) 0

/-- Whole numbers are read up to this many digits, leading zeros counted. -/
def maxDigits : Nat := 4300

def digitsWithUnderscores? : List Char → Option (List Nat)
  | [] => none
  | [c] => (digitValue? c).map ([·])
  | c :: '_' :: r => do
    let d ← digitValue? c
    return d :: (← digitsWithUnderscores? r)
  | c :: r => do
    let d ← digitValue? c
    return d :: (← digitsWithUnderscores? r)

/-- Reads a whole number the lenient way: blanks around it, a sign, digits of any script, single
underscores between digits, and at most `maxDigits` digits. -/
def readInt? (s : String) : Option Int := do
  let body := trimBy isSpace s.toList
  let (negative, digits) := match body with
    | '-' :: r => (true, r)
    | '+' :: r => (false, r)
    | r => (false, r)
  let ds ← digitsWithUnderscores? digits
  if ds.length ≤ maxDigits then
    let n := ofDigits ds
    return if negative then -(n : Int) else n
  else
    none

end Mailroom.Text
