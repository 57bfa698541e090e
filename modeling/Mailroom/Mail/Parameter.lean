import Mailroom.Mail.EncodedWord
import Mailroom.Text.Case
import Mailroom.Text.Digit
import Mailroom.Text.Fields
import Mailroom.Text.Space

/-!
# Parameters of a field

Values such as `text/plain; charset=utf-8`: a main value and parameters between semicolons. A
parameter may be cut into numbered sections, and its octets may be percent-encoded under the name
of a character set.
-/

namespace Mailroom.Mail.Parameter

/-- A parameter's value: plain, or octets of a character set; both still in quotes. -/
inductive Value where
  | plain (text : List Char)
  | extended (charset language : Option (List Char)) (text : List Char)
deriving DecidableEq, Repr

/-- The pieces between semicolons that stand outside of quotes; `piece` holds the characters of the
piece begun, last first, `odd` tells whether a quote is open, `done` the finished pieces, last
first. A quote after a backslash does not count, and a semicolon at the beginning of a piece always
ends it. -/
def piecesOnto (done : List (List Char)) (piece : List Char) (odd : Bool) :
    List Char → List (List Char)
  | [] => (piece.reverse :: done).reverse
  | c :: r =>
    if c == ';' && !odd then piecesOnto (piece.reverse :: done) [] false r
    else if c == '"' && piece.head? != some '\\' then piecesOnto done (c :: piece) (!odd) r
    else piecesOnto done (c :: piece) odd r

def pieces (value : List Char) : List (List Char) :=
  piecesOnto [] [] false value

def strip (s : List Char) : List Char :=
  Text.trimBy Text.isSpace s

def ofPiece (piece : List Char) : List Char × List Char :=
  let name := strip (piece.takeWhile (· != '='))
  match piece.dropWhile (· != '=') with
  | [] => (name, [])
  | _ :: value => (strip (Text.lowerChars name), strip value)

/-- Replaces every pair of a backslash and a given character by that character. -/
def unescape (c : Char) : List Char → List Char
  | '\\' :: d :: r => if d == c then c :: unescape c r else '\\' :: unescape c (d :: r)
  | d :: r => d :: unescape c r
  | [] => []

def unquote (s : List Char) : List Char :=
  match s, s.getLast? with
  | '"' :: d :: r, some '"' => unescape '"' (unescape '\\' (d :: r).dropLast)
  | '<' :: d :: r, some '>' => (d :: r).dropLast
  | _, _ => s

/-- Writes a backslash in front of backslashes and quotes. -/
def quote (s : List Char) : List Char :=
  s.flatMap fun c => if c == '\\' || c == '"' then ['\\', c] else [c]

def inQuotes (s : List Char) : List Char :=
  '"' :: s ++ ['"']

/-- A section of a parameter: its number if it has one, its text, and whether it is encoded. -/
structure Section where
  number : Option Nat
  text : List Char
  isEncoded : Bool
deriving DecidableEq, Repr

def isWordChar (c : Char) : Bool :=
  c.toNat < 0x80 && (c.isAlphanum || c == '_')

/-- The parameter's own name and the digits of the number in a name such as `title*1*`. -/
def sectionName? (name : List Char) : Option (List Char × Option (List Char)) :=
  let own := name.takeWhile isWordChar
  match name.dropWhile isWordChar with
  | '*' :: r =>
    if own.isEmpty then none
    else if r.isEmpty then some (own, none)
    else
      let digits := r.takeWhile Char.isDigit
      let rest := r.dropWhile Char.isDigit
      if digits.isEmpty || !(rest == [] || rest == ['*']) then none
      else some (own, some digits)
  | _ => none

def sectionNumber (digits : List Char) : Except Defect Nat :=
  if Text.maxDigits < digits.length then .error (.overlongNumber digits.length)
  else .ok (Text.ofDigits (digits.map fun c => c.toNat - 0x30))

/-- Reads percent-encoded octets; each stands for the character of its number. -/
def percentDecode : List Char → List Char
  | '%' :: a :: b :: r =>
    match EncodedWord.hexValue? a, EncodedWord.hexValue? b with
    | some v, some w => Char.ofNat (16 * v + w) :: percentDecode r
    | _, _ => '%' :: percentDecode (a :: b :: r)
  | c :: r => c :: percentDecode r
  | [] => []

def Section.precedes (a b : Section) : Bool :=
  match a.number, b.number with
  | some m, some n =>
    m < n || (m == n && (a.text < b.text || (a.text == b.text && (!a.isEncoded || b.isEncoded))))
  | none, some _ => true
  | some _, none => false
  | none, none => a.text < b.text || (a.text == b.text && (!a.isEncoded || b.isEncoded))

/-- Joins the sections of a parameter in the order of their numbers. If one is encoded, the whole
begins with a character set and a language between apostrophes. -/
def joined (ss : List Section) : Value :=
  let sorted := ss.mergeSort Section.precedes
  let text := quote (sorted.flatMap fun s => if s.isEncoded then percentDecode s.text else s.text)
  if sorted.any (·.isEncoded) then
    match Text.fields '\'' text with
    | charset :: language :: t :: rest =>
      .extended (some charset) (some language) (inQuotes (Text.joined '\'' (t :: rest)))
    | _ => .extended none none (inQuotes text)
  else
    .plain (inQuotes text)

/-- Joins the sections of a parameter if all of them are numbered or none is. -/
def joinSections (ss : List Section) : Except Defect Value :=
  if ss.any (·.number.isSome) && ss.any (·.number.isNone) then
    .error (.mixedSections (ss.head?.any (·.number.isSome)))
  else
    .ok (joined ss)

def addSection (name : List Char) (s : Section) :
    List (List Char × List Section) → List (List Char × List Section)
  | [] => [(name, [s])]
  | (n, ss) :: r => if n == name then (n, ss ++ [s]) :: r else (n, ss) :: addSection name s r

def separate : List (List Char × List Char) →
    List (List Char × Value) × List (List Char × List Section) →
    Except Defect (List (List Char × Value) × List (List Char × List Section))
  | [], done => .ok done
  | (name, value) :: r, (plain, sections) =>
    match sectionName? name with
    | some (own, digits) => do
      let s := ⟨← digits.mapM sectionNumber, unquote value, name.getLast? == some '*'⟩
      separate r (plain, addSection own s sections)
    | none =>
      separate r (plain ++ [(name, .plain (inQuotes (quote (unquote value))))], sections)

/-- The main value, which is taken as a parameter too, the parameters, and after them those that
are cut into sections. -/
def parse (value : List Char) : Except Defect (List (List Char × Value)) :=
  match (pieces value).map fun p => ofPiece (strip p) with
  | [] => .ok []
  | (name, v) :: r => do
    let (plain, sections) ← separate r ([], [])
    return (name, .plain v) :: plain ++
      (← sections.mapM fun s => do return (s.1, ← joinSections s.2))

def Value.unquoted : Value → Value
  | .plain t => .plain (unquote t)
  | .extended cs l t => .extended cs l (unquote t)

def find? (value : List Char) (name : String) : Except Defect (Option Value) := do
  return ((← parse value).find? fun p => Text.lowerChars p.1 == name.toList).map (·.2.unquoted)

/-- The text of a parameter. Octets of an unknown character set are taken as they are. -/
def Value.collapse : Value → Except Defect (List Char)
  | .plain t => .ok (unquote t)
  | .extended charset _ t =>
    let name := charset.getD "us-ascii".toList
    match charsetNamed name with
    | .error d => .error d
    | .ok (some cs) => (cs.decode (EncodedWord.octets t)).mapError (.refused name)
    | .ok none => .ok (unquote t)

/-- The main value: what stands before the first semicolon, in lower case. -/
def mainValue (value : List Char) : List Char :=
  Text.lowerChars (strip (value.takeWhile (· != ';')))

end Mailroom.Mail.Parameter
