/-!
# Lines and uuencode

A line of octets ends at a line feed, a carriage return, or both in this order. In uuencode there
are data lines between a line `begin <mode> <name>` and a line `end`. A line begins with the number
of octets it holds, and four characters stand for three octets.
-/

namespace Mailroom.Transfer

/-- The lines of `s` without their ends; `line` holds the octets of the line begun, last first,
`done` the finished lines, last first. -/
def linesOnto (done : List (List UInt8)) (line : List UInt8) : List UInt8 → List (List UInt8)
  | [] => (if line.isEmpty then done else line.reverse :: done).reverse
  | [b] => linesOnto (if b == 0x0a || b == 0x0d then line.reverse :: done
      else (b :: line).reverse :: done) [] []
  | 0x0d :: 0x0a :: r => linesOnto (line.reverse :: done) [] r
  | b :: r =>
    if b == 0x0a || b == 0x0d then linesOnto (line.reverse :: done) [] r
    else linesOnto done (b :: line) r

def lines (s : List UInt8) : List (List UInt8) :=
  linesOnto [] [] s

namespace Uuencode

def isBlank (b : UInt8) : Bool :=
  b == 0x20 || b == 0x09 || b == 0x0a || b == 0x0d || b == 0x0c

/-- The octal digits after an optional sign and an optional `0o`, single underscores between. -/
def isOctalDigits : List UInt8 → Bool
  | [] => false
  | [d] => 0x30 ≤ d && d ≤ 0x37
  | d :: 0x5f :: r => 0x30 ≤ d && d ≤ 0x37 && isOctalDigits r
  | d :: r => 0x30 ≤ d && d ≤ 0x37 && isOctalDigits r

def isMode (s : List UInt8) : Bool :=
  let s := ((s.dropWhile isBlank).reverse.dropWhile isBlank).reverse
  let s := match s with
    | 0x2b :: r => r
    | 0x2d :: r => r
    | r => r
  match s with
  | 0x30 :: 0x6f :: 0x5f :: r => isOctalDigits r
  | 0x30 :: 0x4f :: 0x5f :: r => isOctalDigits r
  | 0x30 :: 0x6f :: r => isOctalDigits r
  | 0x30 :: 0x4f :: r => isOctalDigits r
  | r => isOctalDigits r

def isBegin (line : List UInt8) : Bool :=
  let word : List UInt8 := [0x62, 0x65, 0x67, 0x69, 0x6e, 0x20]
  word.isPrefixOf line && isMode ((line.drop word.length).takeWhile (· != 0x20))

def value? (b : UInt8) : Option Nat :=
  if 0x20 ≤ b && b ≤ 0x60 then some ((b.toNat - 0x20) % 64) else none

/-- The octets of groups of four values; a last group is filled up with zeros. -/
def octets : List Nat → List UInt8
  | a :: b :: c :: d :: r =>
    .ofNat (a * 4 + b / 16) :: .ofNat (b % 16 * 16 + c / 4) :: .ofNat (c % 4 * 64 + d) :: octets r
  | [a, b, c] => [.ofNat (a * 4 + b / 16), .ofNat (b % 16 * 16 + c / 4), .ofNat (c % 4 * 64)]
  | [a, b] => [.ofNat (a * 4 + b / 16), .ofNat (b % 16 * 16), 0]
  | [a] => [.ofNat (a * 4), 0, 0]
  | [] => []

/-- Reads a data line: its first character gives the number of octets, missing characters count as
zero, and what is left over may only be padding. -/
def dataLine? : List UInt8 → Option (List UInt8)
  | [] => none
  | n :: r => do
    let size := (n.toNat + 32) % 64
    let used := (8 * size + 5) / 6
    let values ← (r.take used).mapM value?
    if (r.drop used).all fun b => b == 0x20 || b == 0x60 then
      return (octets (values ++ List.replicate (used - values.length) 0)).take size
    else
      none

/-- A data line, cut to the length that its first character asks for if it is too long. -/
def cutLine (line : List UInt8) : List UInt8 :=
  match line with
  | [] => []
  | n :: _ => line.take (((n.toNat + 32) % 64 * 4 + 5) / 3)

/-- Reads the lines after the announcement; `done` holds the data read so far, last first. -/
def dataOnto (done : List (List UInt8)) : List (List UInt8) → Option (List (List UInt8))
  | [] => some done.reverse
  | line :: r =>
    if line.isEmpty then none
    else if ((line.dropWhile isBlank).reverse.dropWhile isBlank).reverse == [0x65, 0x6e, 0x64] then
      some done.reverse
    else
      match (dataLine? line).or (dataLine? (cutLine line)) with
      | some o => dataOnto (o :: done) r
      | none => none

/-- Reads the first announced data, if it is well-formed. -/
def decode? (s : List UInt8) : Option (List UInt8) :=
  match (lines s).dropWhile (!isBegin ·) with
  | [] => none
  | _ :: r => (dataOnto [] r).map List.flatten

end Uuencode

end Mailroom.Transfer
