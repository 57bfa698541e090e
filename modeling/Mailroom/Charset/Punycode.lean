import Mailroom.Charset.Utf8

/-!
# Punycode

ASCII characters stand before the last hyphen. The part after it tells the other characters in the
order of their code points: a number says how far to go on through the places of the text, and
through the code points, from one to the next. The base of the numbers changes with their size.
-/

namespace Mailroom.Charset.Punycode

/-- The digit below which a number ends at its place `j`. -/
def threshold (j bias : Nat) : Nat :=
  let n := 36 * (j + 1) - bias
  if n < 1 then 1 else if 26 < n then 26 else n

def biasFrom : Nat → Nat → Nat → Nat
  | 0, k, _ => k
  | fuel + 1, k, delta =>
    if 455 < delta then biasFrom fuel (k + 36) (delta / 35) else k + 36 * delta / (delta + 38)

/-- The bias after a number, given how many characters there are then. -/
def adapt (delta : Nat) (isFirst : Bool) (count : Nat) : Nat :=
  let scaled := if isFirst then delta / 700 else delta / 2
  let scaled := scaled + scaled / count
  biasFrom (scaled.log2 + 1) 0 scaled

/-- How many digits a number has from place `j` on. -/
def digits (bias : Nat) : Nat → Nat → Nat → Nat
  | 0, _, _ => 0
  | fuel + 1, j, q =>
    let t := threshold j bias
    if q < t then 1 else 1 + digits bias fuel (j + 1) ((q - t) / (36 - t))

/-- A letter of either case or a digit. -/
def digit? (b : UInt8) : Option Nat :=
  if 0x61 ≤ b && b ≤ 0x7a then some (b.toNat - 0x61)
  else if 0x41 ≤ b && b ≤ 0x5a then some (b.toNat - 0x41)
  else if 0x30 ≤ b && b ≤ 0x39 then some (b.toNat - 0x30 + 26)
  else none

/-- The number that octets begin with, and the rest. -/
def number? (bias : Nat) (j weight sum : Nat) : List UInt8 → Option (Nat × List UInt8)
  | [] => none
  | b :: r =>
    match digit? b with
    | none => none
    | some d =>
      let t := threshold j bias
      let sum := sum + d * weight
      if d < t then some (sum, r) else number? bias (j + 1) (weight * (36 - t)) sum r

/-- Inserts the characters that octets tell into a text, up to the first malformed number, and says
whether all of them could be read. A question mark stands for what is no code point. -/
def insertFrom : Nat → Bool → Nat → Nat → Nat → List Char → List UInt8 → List Char × Bool
  | 0, _, _, _, _, text, _ => (text, true)
  | _ + 1, _, _, _, _, text, [] => (text, true)
  | fuel + 1, isFirst, bias, point, place, text, b :: r =>
    match number? bias 0 1 0 (b :: r) with
    | none => (text, false)
    | some (delta, rest) =>
      let slots := text.length + 1
      let next := point + (place + delta) / slots
      let isPoint := decide (next ≤ 0x10ffff)
      let point := if isPoint then next else 0x3f
      let place := (place + delta) % slots
      let text := text.take place ++ charOf point :: text.drop place
      let (text, isWhole) :=
        insertFrom fuel false (adapt delta isFirst text.length) point (place + 1) text rest
      (text, isPoint && isWhole)

/-- The octets before the last hyphen, and those after it. -/
def parts (s : List UInt8) : List UInt8 × List UInt8 :=
  let rest := (s.reverse.takeWhile (· != 0x2d)).reverse
  (s.take (s.length - rest.length - 1), rest)

/-- The first octet of the second part that is not ASCII, and its place there. No octet of that part
can be replaced. -/
def stray? (s : List UInt8) : Option (UInt8 × Nat) :=
  (parts s).2.zipIdx.find? fun p => 0x80 ≤ p.1

/-- Reads octets without a stray one, and says whether all of them could be read. -/
def decode (s : List UInt8) : List Char × Bool :=
  let (basic, rest) := parts s
  let (text, isWhole) := insertFrom rest.length true 72 0x80 0 (basic.map ofAscii) rest
  (text, isWhole && basic.all (· < 0x80))

end Mailroom.Charset.Punycode
