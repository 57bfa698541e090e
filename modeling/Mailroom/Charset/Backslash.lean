import Mailroom.Charset.Reader

/-!
# Backslashes

Two sets in which an octet stands for the character of its number and a backslash begins an escape.
The raw one knows only `\u` with four and `\U` with eight hexadecimal digits, the other one the
escapes of string literals. A character that is named in `\N` is not looked up but replaced.
-/

namespace Mailroom.Charset.Backslash

def hexDigit? (b : UInt8) : Option Nat :=
  if 0x30 ≤ b && b ≤ 0x39 then some (b.toNat - 0x30)
  else if 0x61 ≤ b && b ≤ 0x66 then some (b.toNat - 0x57)
  else if 0x41 ≤ b && b ≤ 0x46 then some (b.toNat - 0x37)
  else none

/-- The digits that octets begin with, `count` at most. -/
def hexDigits : Nat → List UInt8 → List Nat
  | 0, _ => []
  | _, [] => []
  | count + 1, b :: r =>
    match hexDigit? b with
    | some d => d :: hexDigits count r
    | none => []

def octalDigits : Nat → List UInt8 → List Nat
  | 0, _ => []
  | _, [] => []
  | count + 1, b :: r =>
    if 0x30 ≤ b && b ≤ 0x37 then (b.toNat - 0x30) :: octalDigits count r else []

def ofDigits (base : Nat) (ds : List Nat) : Nat :=
  ds.foldl (fun n d => base * n + d) 0

/-- An escape of `count` hexadecimal digits after the backslash and a letter. -/
def hexEscape (count : Nat) (r : List UInt8) : Step Unit :=
  let ds := hexDigits count r
  let n := ofDigits 16 ds
  if ds.length < count || 0x10ffff < n then .malformed () (ds.length + 1)
  else .char () (count + 1) (charOf n)

/-- A backslash that begins no escape stands for itself, as does the octet after it. -/
def bare (b : UInt8) : Step Unit :=
  ⟨[some '\\', some (Char.ofNat b.toNat)], 1, ()⟩

def nextRaw (b : UInt8) (r : List UInt8) : Step Unit :=
  match b, r with
  | 0x5c, c :: r =>
    if c == 0x75 then hexEscape 4 r
    else if c == 0x55 then hexEscape 8 r
    else bare c
  | _, _ => .char () 0 (Char.ofNat b.toNat)

/-- The escapes of a backslash and one octet. -/
def short? (b : UInt8) : Option Char :=
  if b == 0x5c || b == 0x27 || b == 0x22 then some (Char.ofNat b.toNat)
  else ([(0x61, 7), (0x62, 8), (0x66, 12), (0x6e, 10), (0x72, 13), (0x74, 9),
    (0x76, 11)].lookup b).map Char.ofNat

/-- How many octets of a name in braces belong to an escape after its backslash and letter. -/
def nameLength (r : List UInt8) : Nat :=
  match r with
  | 0x7b :: s =>
    let name := s.takeWhile (· != 0x7d)
    if name.length == s.length then r.length
    else if name.isEmpty then 1
    else name.length + 2
  | _ => 0

def next (b : UInt8) (r : List UInt8) : Step Unit :=
  match b, r with
  | 0x5c, [] => .malformed () 0
  | 0x5c, c :: r =>
    if c == 0x0a then .silent () 1
    else if c == 0x78 then hexEscape 2 r
    else if c == 0x75 then hexEscape 4 r
    else if c == 0x55 then hexEscape 8 r
    else if c == 0x4e then .malformed () (nameLength r + 1)
    else
      let ds := octalDigits 3 (c :: r)
      if ds.isEmpty then ((short? c).map (.char () 1)).getD (bare c)
      else .char () ds.length (Char.ofNat (ofDigits 8 ds))
  | _, _ => .char () 0 (Char.ofNat b.toNat)

def decode (octets : List UInt8) : List (Option Char) :=
  readPlain next octets

def decodeRaw (octets : List UInt8) : List (Option Char) :=
  readPlain nextRaw octets

end Mailroom.Charset.Backslash
