/-!
# UTF-8

Writing characters as octets, and reading octets back with U+FFFD in place of what is malformed:
one for each longest run of octets that could have begun a character.
-/

namespace Mailroom.Charset

def replacement : Char := '\ufffd'

/-- The character of a code point; what is none, a surrogate above all, is replaced. -/
def charOf (n : Nat) : Char :=
  if 0xd800 ≤ n && n < 0xe000 || 0x10ffff < n then replacement else Char.ofNat n

def ofAscii (b : UInt8) : Char :=
  if b < 0x80 then Char.ofNat b.toNat else replacement

namespace Utf8

def encodeChar (c : Char) : List UInt8 :=
  let n := c.toNat
  if n < 0x80 then
    [.ofNat n]
  else if n < 0x800 then
    [.ofNat (0xc0 + n / 0x40), .ofNat (0x80 + n % 0x40)]
  else if n < 0x10000 then
    [.ofNat (0xe0 + n / 0x1000), .ofNat (0x80 + n / 0x40 % 0x40), .ofNat (0x80 + n % 0x40)]
  else
    [.ofNat (0xf0 + n / 0x40000), .ofNat (0x80 + n / 0x1000 % 0x40),
      .ofNat (0x80 + n / 0x40 % 0x40), .ofNat (0x80 + n % 0x40)]

def encode (s : List Char) : List UInt8 :=
  s.flatMap encodeChar

def isTail (b : UInt8) : Bool :=
  0x80 ≤ b && b ≤ 0xbf

/-- Whether `b` can follow the first octet `a` of a character of three octets. -/
def isSecondOfThree (a b : UInt8) : Bool :=
  isTail b && (a != 0xe0 || 0xa0 ≤ b) && (a != 0xed || b ≤ 0x9f)

/-- Whether `b` can follow the first octet `a` of a character of four octets. -/
def isSecondOfFour (a b : UInt8) : Bool :=
  isTail b && (a != 0xf0 || 0x90 ≤ b) && (a != 0xf4 || b ≤ 0x8f)

/-- The lower six bits of an octet that continues a character. -/
def tailBits (b : UInt8) : Nat :=
  b.toNat - 0x80

/-- What the octets `a :: r` begin with: a character, and how many octets of `r` belong to it. -/
def first (a : UInt8) (r : List UInt8) : Char × Nat :=
  if a < 0x80 then
    (Char.ofNat a.toNat, 0)
  else if a < 0xc2 then
    (replacement, 0)
  else if a < 0xe0 then
    match r with
    | b :: _ =>
      if isTail b then (Char.ofNat ((a.toNat - 0xc0) * 0x40 + tailBits b), 1) else (replacement, 0)
    | [] => (replacement, 0)
  else if a < 0xf0 then
    match r with
    | b :: c :: _ =>
      if !isSecondOfThree a b then (replacement, 0)
      else if !isTail c then (replacement, 1)
      else (Char.ofNat ((a.toNat - 0xe0) * 0x1000 + tailBits b * 0x40 + tailBits c), 2)
    | [b] => if isSecondOfThree a b then (replacement, 1) else (replacement, 0)
    | [] => (replacement, 0)
  else if a < 0xf5 then
    match r with
    | b :: c :: d :: _ =>
      if !isSecondOfFour a b then (replacement, 0)
      else if !isTail c then (replacement, 1)
      else if !isTail d then (replacement, 2)
      else (Char.ofNat ((a.toNat - 0xf0) * 0x40000 + tailBits b * 0x1000 + tailBits c * 0x40 +
        tailBits d), 3)
    | [b, c] =>
      if !isSecondOfFour a b then (replacement, 0)
      else if !isTail c then (replacement, 1)
      else (replacement, 2)
    | [b] => if isSecondOfFour a b then (replacement, 1) else (replacement, 0)
    | [] => (replacement, 0)
  else
    (replacement, 0)

/-- Reads octets after passing over the first `skip` of them; `done` holds the characters read so
far, last first. -/
def decodeOnto (done : List Char) : Nat → List UInt8 → List Char
  | _, [] => done.reverse
  | skip + 1, _ :: r => decodeOnto done skip r
  | 0, a :: r => decodeOnto ((first a r).1 :: done) (first a r).2 r

def decode (s : List UInt8) : List Char :=
  decodeOnto [] 0 s

end Utf8

end Mailroom.Charset
