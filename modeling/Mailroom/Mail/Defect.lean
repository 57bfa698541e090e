import Mailroom.Charset.Basic
import Mailroom.Error

/-!
# Defects

What makes a header field or a text unreadable: an encoded word, the parameters of a field, or a
character set that refuses octets. All else that is malformed in a message is read as something.
-/

namespace Mailroom.Mail

inductive Defect where
  /-- An encoded word whose base64 text cannot be decoded. -/
  | badEncodedWord
  /-- A number of a section with more digits than are ever read. -/
  | overlongNumber (digits : Nat)
  /-- A parameter with numbered sections and sections without a number; which kind comes first. -/
  | mixedSections (numberedFirst : Bool)
  /-- A character set whose name has a null character in it. -/
  | nullInName
  /-- Octets that the character set of a name refuses. -/
  | refused (name : List Char) (r : Charset.Refusal)
deriving DecidableEq, Repr

namespace Defect

/-- A refusal of a kind that a codec words without naming itself, as it is passed on. -/
def codecFailed (name : List Char) (kind detail : String) : String :=
  s!"decoding with '{String.ofList name}' codec failed ({kind}: {detail})"

def hexOctet (b : UInt8) : String :=
  String.ofList [Nat.digitChar (b.toNat / 16), Nat.digitChar (b.toNat % 16)]

def message : Defect → String
  | badEncodedWord => "Base64 decoding error"
  | overlongNumber digits =>
    "Exceeds the limit (4300 digits) for integer string conversion: value has " ++
      s!"{digits} digits; use sys.set_int_max_str_digits() to increase the limit"
  | mixedSections true => "'<' not supported between instances of 'NoneType' and 'int'"
  | mixedSections false => "'<' not supported between instances of 'int' and 'NoneType'"
  | nullInName => "embedded null character"
  | refused name .replacing => codecFailed name "UnicodeError" "Unsupported error handling replace"
  | refused name .undefined => codecFailed name "UnicodeError" "undefined encoding"
  | refused name .misplaced => codecFailed name "RuntimeError" "internal codec error"
  | refused _ (.octet b place) =>
    s!"'ascii' codec can't decode byte 0x{hexOctet b} in position {place}: " ++
      "ordinal not in range(128)"

/-- What escapes where a defect is not turned into a refusal. -/
def escape : Defect → Escape
  | badEncodedWord => .badEncodedWord
  | overlongNumber _ => .unreadableNumber
  | mixedSections _ => .unexpectedValue
  | nullInName => .clientValue nullInName.message
  | refused _ .replacing | refused _ .undefined => .unreadableText
  | refused _ (.octet ..) => .strayOctet
  | refused _ .misplaced => .misplacedSet

end Defect

/-- The character set of a name, if there is one. -/
def charsetNamed (name : List Char) : Except Defect (Option Charset) :=
  if name.contains '\x00' then .error .nullInName else .ok (Charset.ofName? name)

/-- A name that may be missing or empty, or else another one. -/
def nameOr (other : String) : Option (List Char) → List Char
  | some (c :: cs) => c :: cs
  | _ => other.toList

/-- Reads octets in the character set of a name, or as UTF-8 if there is none of that name. -/
def readNamed (name : List Char) (s : List UInt8) : Except Defect (List Char) := do
  let charset := (← charsetNamed name).getD .utf8
  (charset.decode s).mapError (Defect.refused name)

end Mailroom.Mail
