import Mailroom.Charset.Table
import Mailroom.Error
import Mailroom.Html.ReferenceTable
import Mailroom.Text.Digit
import Mailroom.Text.Fields

/-!
# Character references

References such as `&amp;`, `&#38;` and `&#x26;`, in text and inside attribute values. Text goes by
single references that the scanner has cut out; a value is expanded as a whole, and there a known
name may end without a semicolon and run into the letters after it.
-/

namespace Mailroom.Html.Reference

/-- Words in turns: a name and what it stands for. -/
def inPairs : List (List Char) → List (List Char × List Char)
  | name :: t :: r => (name, t) :: inPairs r
  | _ => []

def names : List (List Char × List Char) :=
  nameLines.flatMap fun line => inPairs (Text.fields ' ' line.toList)

/-- The names that are known without a semicolon too. -/
def bareNames : List (List Char) :=
  bareLines.flatMap fun line => Text.fields ' ' line.toList

def named? (name : List Char) : Option (List Char) :=
  (names.find? (·.1 == name)).map (·.2)

/-- The text of a name that is known without a semicolon. -/
def bareNamed? (name : List Char) : Option (List Char) :=
  if bareNames.contains name then named? name else none

def isHexDigit (c : Char) : Bool :=
  c.isDigit || ('a' ≤ c && c ≤ 'f') || ('A' ≤ c && c ≤ 'F')

def hexValue (c : Char) : Nat :=
  if c.isDigit then c.toNat - 0x30
  else if 'a' ≤ c then c.toNat - 0x57
  else c.toNat - 0x37

def ofHexDigits (ds : List Char) : Nat :=
  ds.foldl (fun n c => 16 * n + hexValue c) 0

/-- Reads decimal digits, of which there may not be too many. -/
def decimal (ds : List Char) : Except Escape Nat :=
  if Text.maxDigits < ds.length then
    .error .unreadableNumber
  else
    .ok (Text.ofDigits (ds.map fun c => c.toNat - 0x30))

def isSurrogate (n : Nat) : Bool :=
  0xd800 ≤ n && n ≤ 0xdfff

/-- The character with a number, U+FFFD if there is none. -/
def charOf (n : Nat) : Char :=
  if isSurrogate n || 0x10ffff < n then '\ufffd' else Char.ofNat n

/-- The character that windows-1252 has for an octet of its upper half, if it has one. -/
def windowsChar? (n : Nat) : Option Char :=
  if n < 0x80 then none
  else (String.join Charset.Table.cp1252).toList[n - 0x80]?.filter (· != '\ufffd')

/-- The character of a number in text. Numbers below 256 are octets of windows-1252. -/
def inText (n : Nat) : Char :=
  (windowsChar? n).getD (charOf n)

/-- Whether a number stands for no character in a value. -/
def isForbidden (n : Nat) : Bool :=
  (1 ≤ n && n ≤ 8) || n == 0xb || (0xe ≤ n && n ≤ 0x1f) || (0x7f ≤ n && n ≤ 0x9f) ||
    (0xfdd0 ≤ n && n ≤ 0xfdef) || 0xfffe ≤ n % 0x10000

def inValue (n : Nat) : List Char :=
  if n == 0 then ['\ufffd']
  else if 0x80 ≤ n && n ≤ 0x9f then [inText n]
  else if isSurrogate n || 0x10ffff < n then ['\ufffd']
  else if isForbidden n then []
  else [Char.ofNat n]

/-- Whether a character may stand in the name of a reference in a value. -/
def isNameChar (c : Char) : Bool :=
  !(c == '\t' || c == '\n' || c.toNat == 0xc || c == ' ' || c == '<' || c == '&' || c == '#' ||
    c == ';')

/-- The longest name known without a semicolon that `name` begins with, among its first `n`
characters and of at least two. -/
def bareStart? (name : List Char) : Nat → Option (List Char × Nat)
  | 0 => none
  | n + 1 =>
    if n == 0 then none
    else
      match bareNamed? (name.take (n + 1)) with
      | some t => some (t, n + 1)
      | none => bareStart? name n

/-- The text of a named reference in a value, given the name and whether a semicolon follows. -/
def namedInValue (name : List Char) (closed : Bool) : List Char :=
  let semicolon := if closed then [';'] else []
  match if closed then named? name else bareNamed? name with
  | some t => t
  | none =>
    match bareStart? name (if closed then name.length else name.length - 1) with
    | some (t, n) => t ++ name.drop n ++ semicolon
    | none => '&' :: name ++ semicolon

/-- Names of references in values are read up to this length. -/
def maxName : Nat := 32

/-- The reference after an ampersand in a value: its text and its length, the ampersand left
out. -/
def first? (s : List Char) : Except Escape (Option (List Char × Nat)) :=
  let closing (r : List Char) : Nat := if r.head? == some ';' then 1 else 0
  match s with
  | '#' :: x :: r =>
    if x == 'x' || x == 'X' then
      let ds := r.takeWhile isHexDigit
      if ds.isEmpty then .ok none
      else .ok (some (inValue (ofHexDigits ds), 2 + ds.length + closing (r.drop ds.length)))
    else
      let ds := (x :: r).takeWhile Char.isDigit
      if ds.isEmpty then .ok none
      else do
        let n ← decimal ds
        return some (inValue n, 1 + ds.length + closing ((x :: r).drop ds.length))
  | _ =>
    let name := (s.take maxName).takeWhile isNameChar
    if name.isEmpty then .ok none
    else
      let closed := (s.drop name.length).head? == some ';'
      .ok (some (namedInValue name closed, name.length + if closed then 1 else 0))

/-- Expands a value after passing over its first `skip` characters; `done` holds the text so far,
last character first. -/
def expandOnto (done : List Char) : Nat → List Char → Except Escape (List Char)
  | _, [] => .ok done.reverse
  | skip + 1, _ :: r => expandOnto done skip r
  | 0, c :: r =>
    if c == '&' then
      match first? r with
      | .ok (some (t, n)) => expandOnto (t.reverse ++ done) n r
      | .ok none => expandOnto (c :: done) 0 r
      | .error e => .error e
    else
      expandOnto (c :: done) 0 r

def expand (value : List Char) : Except Escape (List Char) :=
  expandOnto [] 0 value

end Mailroom.Html.Reference
