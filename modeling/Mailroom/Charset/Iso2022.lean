import Mailroom.Charset.Chinese
import Mailroom.Charset.Japanese
import Mailroom.Charset.Korean

/-!
# ISO 2022

Text in octets of seven bits, in which escapes say what square the octets after them belong to. An
escape designates a set to one of three places: the octets stand for the set in the first place,
between two shifts for that in the second, and one character at a time for that in the third.
-/

namespace Mailroom.Charset.Iso2022

inductive Variant where
  | kr
  | jp
  | jp1
  | jp2
  | jp2004
  | jp3
  | jpExt
deriving DecidableEq, Repr

/-- What can be designated. -/
inductive Part where
  | ascii
  | roman
  | kana
  | jisX0208
  | jisX0212
  | firstPlane (isEarly : Bool)
  | secondPlane
  | ksX1001
  | gb2312
  | latin1
  | greek
deriving DecidableEq, Repr

namespace Part

/-- How many octets a character has. -/
def width : Part → Nat
  | ascii | roman | kana | latin1 | greek => 1
  | _ => 2

def inSquare (holds : Nat → List (Option Char)) (s : List UInt8) : List (Option Char) :=
  match s with
  | [a, b] => ((Table.squareIndex? a b).map holds).getD []
  | _ => []

/-- The characters of as many octets as the width says, if there are any. Two sets are there only
for single characters. -/
def characters (p : Part) (s : List UInt8) : List (Option Char) :=
  match p with
  | ascii => s.map fun b => some (ofAscii b)
  | roman => s.map fun b => some (Japanese.roman b)
  | kana => s.filterMap fun b => (Japanese.kana? (b ^^^ 0x80)).map some
  | jisX0208 => inSquare (Table.cell Japanese.jisX0208) s
  | jisX0212 => inSquare (Table.cell Japanese.jisX0212) s
  | firstPlane isEarly => inSquare (Japanese.firstPlane isEarly) s
  | secondPlane => inSquare (Japanese.secondPlane false) s
  | ksX1001 => inSquare (Table.cell Korean.ksX1001) s
  | gb2312 => inSquare (Table.cell Chinese.gb2312) s
  | latin1 | greek => []

end Part

namespace Variant

def hasShifts : Variant → Bool
  | kr => true
  | _ => false

def hasThirdPlace : Variant → Bool
  | jp2 => true
  | _ => false

/-- Whether an escape may say in front of another one which edition that means. -/
def hasEditions : Variant → Bool
  | kr => false
  | _ => true

/-- The set that an escape means by its last octet, given whether it is one of two octets. -/
def part? (v : Variant) (isDouble : Bool) (last : UInt8) : Option Part :=
  match v, isDouble, last with
  | _, false, 0x42 => some .ascii
  | kr, true, 0x43 => some .ksX1001
  | kr, _, _ => none
  | _, true, 0x42 => some .jisX0208
  | jp2004, true, 0x51 => some (.firstPlane false)
  | jp3, true, 0x4f => some (.firstPlane true)
  | jp2004, true, 0x50 | jp3, true, 0x50 => some .secondPlane
  | jp2004, _, _ | jp3, _, _ => none
  | _, true, 0x40 => some .jisX0208
  | _, false, 0x4a => some .roman
  | jp1, true, 0x44 | jp2, true, 0x44 | jpExt, true, 0x44 => some .jisX0212
  | jpExt, false, 0x49 => some .kana
  | jp2, true, 0x43 => some .ksX1001
  | jp2, true, 0x41 => some .gb2312
  | jp2, false, 0x41 => some .latin1
  | jp2, false, 0x46 => some .greek
  | _, _, _ => none

end Variant

/-- The sets in the three places, whether the text is between two shifts or in an escape of another
kind, and whether the set in the third place was called for although it cannot be there. -/
structure State where
  first : Part
  second : Part
  third : Part
  isShifted : Bool
  isThrough : Bool
  isBroken : Bool

def State.start : State :=
  ⟨.ascii, .ascii, .ascii, false, false, false⟩

/-- An octet that ends an escape. -/
def isEnd (b : UInt8) : Bool :=
  (0x41 ≤ b && b ≤ 0x5a) || b == 0x40

/-- The length of an escape from its octets after the first `skip` of those given, where `left` of
those given are looked at at most: 0 if none of these ends it. There is no length if the octets end
before. -/
def escapeLength? (v : Variant) : Nat → Nat → List UInt8 → Option Nat
  | skip, left, [] => if left ≤ skip then some 0 else none
  | _, 0, _ => some 0
  | skip + 1, left + 1, _ :: r => escapeLength? v skip left r
  | 0, left + 1, b :: r =>
    if isEnd b then some (16 - left)
    else
      let isEdition := v.hasEditions && b == 0x26 && r.head? == some 0x40
      escapeLength? v (if isEdition then 2 else 0) left r

/-- What an escape of some length designates, and to which place. -/
def designated? (v : Variant) (escape : List UInt8) : Option (Part × Nat) :=
  match escape with
  | [_, 0x24, c] => (v.part? true c).map (·, 0)
  | [_, 0x28, c] => (v.part? false c).map (·, 0)
  | [_, 0x29, c] => (v.part? false c).map (·, 1)
  | [_, 0x2e, c] => if v.hasThirdPlace then (v.part? false c).map (·, 2) else none
  | [_, 0x24, 0x28, c] => (v.part? true c).map (·, 0)
  | [_, 0x24, 0x29, c] => (v.part? true c).map (·, 1)
  | [_, _, _, 0x1b, 0x24, 0x42] =>
    if v.hasEditions then (v.part? true 0x42).map (·, 0) else none
  | _ => none

def State.designate (s : State) (p : Part) : Nat → State
  | 0 => { s with first := p }
  | 1 => { s with second := p }
  | _ => { s with third := p }

/-- The Greek set without three characters that it has got later. -/
def greek? (b : UInt8) : Option Char :=
  if b < 0x80 then some (ofAscii b)
  else if b == 0xa4 || b == 0xa5 || b == 0xaa then none
  else (String.join Table.iso88597).toList[b.toNat - 0x80]?.filter (· != replacement)

/-- One character of the set in the third place. -/
def third (s : State) (b : UInt8) : Step State :=
  let found? (c : Option Char) : Step State := (c.map (.char s 2)).getD (.malformed s 2)
  match s.third with
  | .latin1 => found? (if b < 0x80 then some (Char.ofNat (b.toNat + 0x80)) else none)
  | .greek => found? (greek? (b ^^^ 0x80))
  | .ascii => found? (if b < 0x80 then some (ofAscii b) else none)
  | _ => .silent { s with isBroken := true } 2

def next (v : Variant) (s : State) (b : UInt8) (r : List UInt8) : Step State :=
  if s.isBroken then
    .silent s r.length
  else if s.isThrough then
    .char { s with isThrough := !isEnd b } 0 (Char.ofNat b.toNat)
  else if b == 0x1b then
    match r with
    | [] => .malformed s 0
    | c :: t =>
      if c == 0x28 || c == 0x29 || c == 0x24 || c == 0x2e || c == 0x26 then
        match escapeLength? v 0 15 r with
        | none => .malformed s r.length
        | some 0 => .malformed s 0
        | some (n + 1) =>
          match designated? v ((b :: r).take (n + 1)) with
          | some (p, place) => .silent (s.designate p place) n
          | none => .malformed s n
      else if v.hasThirdPlace && c == 0x4e then
        match t with
        | [] => .malformed s r.length
        | d :: _ => third s d
      else
        .char { s with isThrough := true } 0 '\x1b'
  else if v.hasShifts && (b == 0x0e || b == 0x0f) then
    .silent { s with isShifted := b == 0x0e } 0
  else if b == 0x0a then
    .char { s with isShifted := false } 0 '\n'
  else if b < 0x20 then
    .char s 0 (ofAscii b)
  else if 0x80 ≤ b then
    .malformed s 0
  else
    let part := if s.isShifted then s.second else s.first
    if r.length + 1 < part.width then
      .malformed s r.length
    else
      let found := part.characters ((b :: r).take part.width)
      if found.isEmpty then .malformed s (part.width - 1)
      else ⟨found, part.width - 1, s⟩

/-- What octets are read as, unless the set in the third place cannot be there. -/
def decode? (v : Variant) (octets : List UInt8) : Option (List (Option Char)) :=
  let (chars, s) := read (next v) .start octets
  if s.isBroken then none else some chars

end Mailroom.Charset.Iso2022
