import Mailroom.Charset.Utf8

/-!
# UTF-16

Reading octets in units of two, with U+FFFD in place of what is malformed.
-/

namespace Mailroom.Charset

/-- Which octet of a unit comes first. -/
inductive Order where
  | little
  | big
deriving DecidableEq, Repr

namespace Utf16

def unit (o : Order) (a b : UInt8) : Nat :=
  match o with
  | .little => a.toNat + 256 * b.toNat
  | .big => 256 * a.toNat + b.toNat

def isHigh (n : Nat) : Bool :=
  0xd800 ≤ n && n < 0xdc00

def isLow (n : Nat) : Bool :=
  0xdc00 ≤ n && n < 0xe000

/-- What the octets `a :: b :: r` begin with: a character, and how many octets of `r` belong to
it. A high surrogate that no whole unit follows takes the rest of the text with it. -/
def first (o : Order) (a b : UInt8) (r : List UInt8) : Char × Nat :=
  let n := unit o a b
  if isHigh n then
    match r with
    | c :: d :: _ =>
      let m := unit o c d
      if isLow m then (Char.ofNat (0x10000 + (n - 0xd800) * 0x400 + (m - 0xdc00)), 2)
      else (replacement, 0)
    | _ => (replacement, r.length)
  else
    (charOf n, 0)

/-- Reads octets after passing over the first `skip` of them; `done` holds the characters read so
far, last first. A lone octet at the end is replaced. -/
def decodeOnto (o : Order) (done : List Char) : Nat → List UInt8 → List Char
  | _, [] => done.reverse
  | skip + 1, _ :: r => decodeOnto o done skip r
  | 0, [_] => (replacement :: done).reverse
  | 0, a :: b :: r => decodeOnto o ((first o a b r).1 :: done) ((first o a b r).2 + 1) (b :: r)

def decode (o : Order) (s : List UInt8) : List Char :=
  decodeOnto o [] 0 s

/-- Reads octets that may begin with a mark of their order; without one they are little-endian. -/
def decodeMarked (s : List UInt8) : List Char :=
  match s with
  | 0xff :: 0xfe :: r => decode .little r
  | 0xfe :: 0xff :: r => decode .big r
  | _ => decode .little s

end Utf16

end Mailroom.Charset
