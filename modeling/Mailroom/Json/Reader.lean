import Mailroom.Json.Basic

/-!
# Reading JSON

A reader over characters. Nested values use up the fuel that `parse?` takes from the length of the
text, so it never runs out before the text does.
-/

namespace Mailroom.Json

def isBlankChar (c : Char) : Bool :=
  c == ' ' || c == '\n' || c == '\r' || c == '\t'

def skipBlanks (s : List Char) : List Char :=
  s.dropWhile isBlankChar

def hexValue? (c : Char) : Option Nat :=
  if c.isDigit then some (c.toNat - 0x30)
  else if 'a' ≤ c && c ≤ 'f' then some (c.toNat - 0x57)
  else if 'A' ≤ c && c ≤ 'F' then some (c.toNat - 0x37)
  else none

def unit? : List Char → Option (Nat × List Char)
  | a :: b :: c :: d :: r => do
    return (4096 * (← hexValue? a) + 256 * (← hexValue? b) + 16 * (← hexValue? c) +
      (← hexValue? d), r)
  | _ => none

/-- The rest of a quoted text after its opening quote; `done` holds what was read, last first.
Two units that form a pair make one character, a unit that has lost its partner becomes the
replacement character. -/
def quoted? : Nat → List Char → List Char → Option (String × List Char)
  | 0, _, _ => none
  | fuel + 1, done, s =>
    match s with
    | '"' :: r => some (String.ofList done.reverse, r)
    | '\\' :: 'u' :: r => do
      let (n, r) ← unit? r
      if 0xd800 ≤ n && n < 0xdc00 then
        match r with
        | '\\' :: 'u' :: r' =>
          match unit? r' with
          | some (m, r'') =>
            if 0xdc00 ≤ m && m < 0xe000 then
              quoted? fuel (Char.ofNat (0x10000 + (n - 0xd800) * 1024 + (m - 0xdc00)) :: done) r''
            else
              quoted? fuel ('\ufffd' :: done) r
          | none => none
        | _ => quoted? fuel ('\ufffd' :: done) r
      else if 0xdc00 ≤ n && n < 0xe000 then
        quoted? fuel ('\ufffd' :: done) r
      else
        quoted? fuel (Char.ofNat n :: done) r
    | '\\' :: c :: r =>
      match c with
      | 'n' => quoted? fuel ('\n' :: done) r
      | 'r' => quoted? fuel ('\r' :: done) r
      | 't' => quoted? fuel ('\t' :: done) r
      | 'b' => quoted? fuel (Char.ofNat 8 :: done) r
      | 'f' => quoted? fuel (Char.ofNat 12 :: done) r
      | '"' | '\\' | '/' => quoted? fuel (c :: done) r
      | _ => none
    | c :: r => quoted? fuel (c :: done) r
    | [] => none

def isNumberChar (c : Char) : Bool :=
  c.isDigit || c == '-' || c == '+' || c == '.' || c == 'e' || c == 'E'

/-- A number: whole if it has neither a fraction nor an exponent. -/
def number? (s : List Char) : Option (Json × List Char) :=
  let text := s.takeWhile isNumberChar
  let rest := s.dropWhile isNumberChar
  let (negative, digits) := match text with
    | '-' :: r => (true, r)
    | r => (false, r)
  if digits.isEmpty then
    none
  else if digits.all Char.isDigit then
    let n : Nat := digits.foldl (fun n c => 10 * n + (c.toNat - 0x30)) 0
    some (.integer (if negative then -(n : Int) else n), rest)
  else
    some (.decimal (String.ofList text), rest)

def literal? (word : List Char) (s : List Char) : Option (List Char) :=
  if word.isPrefixOf s then some (s.drop word.length) else none

mutual

def value? : Nat → List Char → Option (Json × List Char)
  | 0, _ => none
  | fuel + 1, s =>
    match skipBlanks s with
    | '"' :: r => do
      let (t, r) ← quoted? (r.length + 1) [] r
      return (.string t, r)
    | '[' :: r =>
      match skipBlanks r with
      | ']' :: r => some (.array [], r)
      | r => do
        let (items, r) ← items? fuel [] r
        return (.array items, r)
    | '\x7b' :: r =>
      match skipBlanks r with
      | '\x7d' :: r => some (.object [], r)
      | r => do
        let (fields, r) ← fields? fuel [] r
        return (.object fields, r)
    | 't' :: r => (literal? ['r', 'u', 'e'] r).map fun r => (.bool true, r)
    | 'f' :: r => (literal? ['a', 'l', 's', 'e'] r).map fun r => (.bool false, r)
    | 'n' :: r => (literal? ['u', 'l', 'l'] r).map fun r => (.null, r)
    | r => number? r

def items? : Nat → List Json → List Char → Option (List Json × List Char)
  | 0, _, _ => none
  | fuel + 1, done, s => do
    let (j, r) ← value? fuel s
    match skipBlanks r with
    | ',' :: r => items? fuel (j :: done) r
    | ']' :: r => some ((j :: done).reverse, r)
    | _ => none

def fields? :
    Nat → List (String × Json) → List Char → Option (List (String × Json) × List Char)
  | 0, _, _ => none
  | fuel + 1, done, s =>
    match skipBlanks s with
    | '"' :: r => do
      let (k, r) ← quoted? (r.length + 1) [] r
      match skipBlanks r with
      | ':' :: r => do
        let (j, r) ← value? fuel r
        match skipBlanks r with
        | ',' :: r => fields? fuel ((k, j) :: done) r
        | '\x7d' :: r => some (((k, j) :: done).reverse, r)
        | _ => none
      | _ => none
    | _ => none

end

/-- Reads a text that holds one JSON value and nothing else. -/
def parse? (text : String) : Option Json :=
  let s := text.toList
  match value? (s.length + 1) s with
  | some (j, r) => if (skipBlanks r).isEmpty then some j else none
  | none => none

end Mailroom.Json
