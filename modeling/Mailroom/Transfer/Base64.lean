/-!
# Base64

Writing octets with 64 characters, and two ways to read them: strictly, and passing over all
characters that do not belong to the alphabet.
-/

namespace Mailroom.Transfer.Base64

def digit (n : Nat) : Char :=
  if n < 26 then Char.ofNat (0x41 + n)
  else if n < 52 then Char.ofNat (0x61 + (n - 26))
  else if n < 62 then Char.ofNat (0x30 + (n - 52))
  else if n == 62 then '+'
  else '/'

def value? (b : UInt8) : Option Nat :=
  let n := b.toNat
  if 0x41 ≤ n && n ≤ 0x5a then some (n - 0x41)
  else if 0x61 ≤ n && n ≤ 0x7a then some (n - 0x61 + 26)
  else if 0x30 ≤ n && n ≤ 0x39 then some (n - 0x30 + 52)
  else if n == 0x2b then some 62
  else if n == 0x2f then some 63
  else none

def pad : UInt8 := 0x3d

/-- Writes octets; `done` holds the characters written so far, last first. -/
def encodeOnto (done : List Char) : List UInt8 → List Char
  | a :: b :: c :: r =>
    let n := a.toNat * 0x10000 + b.toNat * 0x100 + c.toNat
    encodeOnto (digit (n % 64) :: digit (n / 64 % 64) :: digit (n / 4096 % 64) ::
      digit (n / 262144) :: done) r
  | [a, b] =>
    let n := a.toNat * 0x10000 + b.toNat * 0x100
    ('=' :: digit (n / 64 % 64) :: digit (n / 4096 % 64) :: digit (n / 262144) :: done).reverse
  | [a] =>
    let n := a.toNat * 0x10000
    ('=' :: '=' :: digit (n / 4096 % 64) :: digit (n / 262144) :: done).reverse
  | [] => done.reverse

def encode (s : List UInt8) : String :=
  String.ofList (encodeOnto [] s)

/-- Where a reader stands: how many characters of a group of four were read, the bits of them not
yet written, the padding seen since, and whether any was seen at all. -/
structure Group where
  read : Nat
  bits : Nat
  pads : Nat
  padded : Bool
deriving DecidableEq, Repr

/-- The group after one more value, and the octet that it completes. -/
def Group.push (g : Group) (v : Nat) : Group × Option UInt8 :=
  match g.read with
  | 0 => (⟨1, v, 0, g.padded⟩, none)
  | 1 => (⟨2, v % 16, 0, g.padded⟩, some (.ofNat (g.bits * 4 + v / 16)))
  | 2 => (⟨3, v % 4, 0, g.padded⟩, some (.ofNat (g.bits * 16 + v / 4)))
  | _ => (⟨0, 0, 0, g.padded⟩, some (.ofNat (g.bits * 64 + v)))

/-- Reads octets; `done` holds what was read so far, last first. A full padding ends the text. A
strict reader refuses padding at a wrong place and all that is not of the alphabet. -/
def decodeOnto (strict : Bool) (done : List UInt8) (g : Group) : List UInt8 → Option (List UInt8)
  | [] => if g.read == 0 then some done.reverse else none
  | b :: r =>
    if b == pad then
      if strict && g.read == 0 then none
      else if 2 ≤ g.read && 4 ≤ g.read + g.pads + 1 then
        if strict && !r.isEmpty then none else some done.reverse
      else
        let pads := if 2 ≤ g.read then g.pads + 1 else g.pads
        decodeOnto strict done { g with pads, padded := true } r
    else
      match value? b with
      | none => if strict then none else decodeOnto strict done g r
      | some v =>
        if strict && g.padded then none
        else
          match g.push v with
          | (g, some o) => decodeOnto strict (o :: done) g r
          | (g, none) => decodeOnto strict done g r

def decodeStrict? (s : List UInt8) : Option (List UInt8) :=
  decodeOnto true [] ⟨0, 0, 0, false⟩ s

def decodeLenient? (s : List UInt8) : Option (List UInt8) :=
  decodeOnto false [] ⟨0, 0, 0, false⟩ s

def padded (s : List UInt8) : List UInt8 :=
  if s.length % 4 == 0 then s else s ++ List.replicate (4 - s.length % 4) pad

/-- Reads a body: strictly after padding it, else leniently as it is, else leniently with as much
padding as can be missing. A body that cannot be read at all stands for itself. -/
def decodeBody (s : List UInt8) : List UInt8 :=
  match decodeStrict? (padded s) with
  | some o => o
  | none =>
    match decodeLenient? s with
    | some o => o
    | none => (decodeLenient? (s ++ [pad, pad])).getD s

end Mailroom.Transfer.Base64
