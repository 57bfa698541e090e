/-!
# Quoted-printable

An octet is written as itself or as `=` and two hexadecimal digits; `=` at the end of a line joins
it to the next.
-/

namespace Mailroom.Transfer.QuotedPrintable

def hexValue? (b : UInt8) : Option Nat :=
  let n := b.toNat
  if 0x30 ≤ n && n ≤ 0x39 then some (n - 0x30)
  else if 0x61 ≤ n && n ≤ 0x66 then some (n - 0x57)
  else if 0x41 ≤ n && n ≤ 0x46 then some (n - 0x37)
  else none

def equals : UInt8 := 0x3d

/-- What is being read: plain octets, the octets after an `=`, the second digit after a first, or
a line break after `=` and a carriage return, which ends at a line feed. -/
inductive Mode where
  | plain
  | escape
  | digit (first : UInt8) (value : Nat)
  | lineBreak
deriving DecidableEq, Repr

/-- Reads octets; `done` holds what was read so far, last first. An `=` that begins no escape
stands for itself, doubled it stands for one, and at the end of the text it is dropped. -/
def decodeOnto (done : List UInt8) (m : Mode) : List UInt8 → List UInt8
  | [] =>
    match m with
    | .digit first _ => (first :: equals :: done).reverse
    | _ => done.reverse
  | b :: r =>
    match m with
    | .plain => if b == equals then decodeOnto done .escape r else decodeOnto (b :: done) .plain r
    | .escape =>
      if b == 0x0a then decodeOnto done .plain r
      else if b == 0x0d then decodeOnto done .lineBreak r
      else if b == equals then decodeOnto (equals :: done) .plain r
      else
        match hexValue? b with
        | some v => decodeOnto done (.digit b v) r
        | none => decodeOnto (b :: equals :: done) .plain r
    | .digit first v =>
      match hexValue? b with
      | some w => decodeOnto (.ofNat (v * 16 + w) :: done) .plain r
      | none =>
        if b == equals then decodeOnto (first :: equals :: done) .escape r
        else decodeOnto (b :: first :: equals :: done) .plain r
    | .lineBreak => if b == 0x0a then decodeOnto done .plain r else decodeOnto done .lineBreak r

def decode (s : List UInt8) : List UInt8 :=
  decodeOnto [] .plain s

end Mailroom.Transfer.QuotedPrintable
