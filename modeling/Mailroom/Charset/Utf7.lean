import Mailroom.Charset.Reader

/-!
# UTF-7

Text in ASCII, with the units of UTF-16 in base64 between a plus sign and the first character that
is no base64 digit. A hyphen there only ends the base64 text, and directly after the plus sign it
stands for that sign.
-/

namespace Mailroom.Charset.Utf7

/-- The state within base64: the bits that make up no unit yet, their number, and a high surrogate
whose other half has yet to come. -/
structure Base where
  bits : Nat
  count : Nat
  high : Option Nat

def digit? (b : UInt8) : Option Nat :=
  if 0x41 ≤ b && b ≤ 0x5a then some (b.toNat - 0x41)
  else if 0x61 ≤ b && b ≤ 0x7a then some (b.toNat - 0x61 + 26)
  else if 0x30 ≤ b && b ≤ 0x39 then some (b.toNat - 0x30 + 52)
  else if b == 0x2b then some 62
  else if b == 0x2f then some 63
  else none

/-- Whether base64 may not end here: with a whole digit or a bit of one left over. -/
def Base.isLeftOver (s : Base) : Bool :=
  6 ≤ s.count || s.bits != 0

/-- The characters that a unit ends, and the high surrogate that it may be. -/
def unit (high : Option Nat) (n : Nat) : List (Option Char) × Option Nat :=
  let isHigh := 0xd800 ≤ n && n < 0xdc00
  match high with
  | none => if isHigh then ([], some n) else ([some (charOf n)], none)
  | some h =>
    if 0xdc00 ≤ n && n < 0xe000 then
      ([some (Char.ofNat (0x10000 + (h - 0xd800) * 0x400 + (n - 0xdc00)))], none)
    else if isHigh then ([some replacement], some n)
    else ([some replacement, some (charOf n)], none)

/-- A step within base64 or, without a state, outside of it. -/
def next (s : Option Base) (b : UInt8) (r : List UInt8) : Step (Option Base) :=
  match s with
  | some s =>
    match digit? b with
    | some d =>
      let bits := 64 * s.bits + d
      let count := s.count + 6
      if 16 ≤ count then
        let weight := Nat.pow 2 (count - 16)
        let (chars, high) := unit s.high (bits / weight)
        ⟨chars, 0, some ⟨bits % weight, count - 16, high⟩⟩
      else
        .silent (some ⟨bits, count, s.high⟩) 0
    | none =>
      if s.isLeftOver then
        .malformed none 0
      else
        let lone := if s.high.isSome && b < 0x80 && b != 0x2b then [some replacement] else []
        -- A character that ends base64 is read once more outside of it, where it may be malformed.
        let own := if b == 0x2d then [] else if b < 0x80 then [some (ofAscii b)] else [none]
        ⟨lone ++ own, 0, none⟩
  | none =>
    if b == 0x2b then
      match r with
      | c :: _ =>
        if c == 0x2d then .char none 1 '+'
        else if (digit? c).isNone then .malformed none 1
        else .silent (some ⟨0, 0, none⟩) 0
      | [] => .silent (some ⟨0, 0, none⟩) 0
    else if b < 0x80 then
      .char none 0 (ofAscii b)
    else
      .malformed none 0

def decode (octets : List UInt8) : List (Option Char) :=
  let (chars, s) := read next none octets
  if s.any fun s => s.high.isSome || s.isLeftOver then chars ++ [none] else chars

end Mailroom.Charset.Utf7
