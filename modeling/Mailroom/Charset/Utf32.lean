import Mailroom.Charset.Utf16

/-!
# UTF-32

Reading octets in units of four, with U+FFFD in place of units that are no characters and of what is
left at the end.
-/

namespace Mailroom.Charset.Utf32

def unit (o : Order) (a b c d : UInt8) : Nat :=
  match o with
  | .little => a.toNat + 0x100 * b.toNat + 0x10000 * c.toNat + 0x1000000 * d.toNat
  | .big => 0x1000000 * a.toNat + 0x10000 * b.toNat + 0x100 * c.toNat + d.toNat

/-- Reads octets; `done` holds the characters read so far, last first. -/
def decodeOnto (o : Order) (done : List Char) : List UInt8 → List Char
  | a :: b :: c :: d :: r => decodeOnto o (charOf (unit o a b c d) :: done) r
  | [] => done.reverse
  | _ => (replacement :: done).reverse

def decode (o : Order) (s : List UInt8) : List Char :=
  decodeOnto o [] s

/-- Reads octets that may begin with a mark of their order; without one they are little-endian. -/
def decodeMarked (s : List UInt8) : List Char :=
  match s with
  | 0xff :: 0xfe :: 0 :: 0 :: r => decode .little r
  | 0 :: 0 :: 0xfe :: 0xff :: r => decode .big r
  | _ => decode .little s

end Mailroom.Charset.Utf32
