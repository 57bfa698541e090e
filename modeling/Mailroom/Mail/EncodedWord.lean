import Mailroom.Mail.Defect
import Mailroom.Text.Case
import Mailroom.Text.Space
import Mailroom.Transfer.Base64

/-!
# Encoded words

A header value may contain words of the form `=?charset?coding?text?=`. `decodeValue` joins the
folded lines of a value and replaces each such word by the text it stands for. As soon as a value
contains one, its plain text is read through octets as well.
-/

namespace Mailroom.Mail.EncodedWord

/-- How a word is written: with `=XX` escapes or in base64. -/
inductive Coding where
  | q
  | b
deriving DecidableEq, Repr

/-- A piece of a value: plain text or the inside of a word. -/
inductive Piece where
  | plain (text : List Char)
  | word (charset : List Char) (coding : Coding) (text : List Char)
deriving DecidableEq, Repr

/-- Replaces a line break and the blanks and tabs after it by one blank; `inFold` says that such
blanks are being passed over. -/
def unfoldFrom (inFold : Bool) : List Char → List Char
  | [] => []
  | '\r' :: '\n' :: r =>
    match r with
    | ' ' :: r' => ' ' :: unfoldFrom true r'
    | '\t' :: r' => ' ' :: unfoldFrom true r'
    | r' => '\r' :: '\n' :: unfoldFrom false r'
  | '\n' :: r =>
    match r with
    | ' ' :: r' => ' ' :: unfoldFrom true r'
    | '\t' :: r' => ' ' :: unfoldFrom true r'
    | r' => '\n' :: unfoldFrom false r'
  | c :: r =>
    if inFold && (c == ' ' || c == '\t') then unfoldFrom true r else c :: unfoldFrom false r

def unfoldLines (s : List Char) : List Char :=
  unfoldFrom false s

def coding? (c : Char) : Option Coding :=
  if c == 'q' || c == 'Q' then some .q
  else if c == 'b' || c == 'B' then some .b
  else none

/-- The text up to the first `?=`, if no line feed comes before it. -/
def textUntilEnd? : List Char → Option (List Char)
  | [] => none
  | c :: r =>
    if c == '?' && r.head? == some '=' then some []
    else if c == '\n' then none
    else (textUntilEnd? r).map (c :: ·)

def word? : List Char → Option (Piece × Nat)
  | '=' :: '?' :: r =>
    let charset := r.takeWhile (· != '?')
    match r.dropWhile (· != '?') with
    | '?' :: c :: '?' :: r => do
      let coding ← coding? c
      let text ← textUntilEnd? r
      return (.word charset coding text, charset.length + text.length + 7)
    | _ => none
  | _ => none

def hasWord : List Char → Bool
  | [] => false
  | c :: r => (word? (c :: r)).isSome || hasWord r

/-- A plain piece in front of others, unless it is empty; it is given last character first. -/
def withPlain (plain : List Char) (ps : List Piece) : List Piece :=
  if plain.isEmpty then ps else .plain plain.reverse :: ps

/-- The pieces of a line after passing over its first `skip` characters; `plain` holds the plain
text begun, last character first. -/
def piecesFrom (plain : List Char) : Nat → List Char → List Piece
  | _, [] => withPlain plain []
  | skip + 1, _ :: r => piecesFrom plain skip r
  | 0, c :: r =>
    match word? (c :: r) with
    | some (w, n) => withPlain plain (w :: piecesFrom [] (n - 1) r)
    | none => piecesFrom (c :: plain) 0 r

/-- The pieces of all lines; blanks at the beginning of a line are dropped. -/
def pieces (s : List Char) : List Piece :=
  (Text.lines s).flatMap fun line => piecesFrom [] 0 (line.dropWhile Text.isSpace)

namespace Piece

def isWord : Piece → Bool
  | word .. => true
  | plain _ => false

def text : Piece → List Char
  | word _ _ t => t
  | plain t => t

def isBlank (p : Piece) : Bool :=
  !p.text.isEmpty && p.text.all Text.isSpace

end Piece

/-- Drops the blank pieces between two words, given whether the piece before the list is one. -/
def dropGaps (afterWord : Bool) : List Piece → List Piece
  | [] => []
  | p :: r =>
    if afterWord && p.isBlank && (r.head?.any Piece.isWord) then dropGaps p.isWord r
    else p :: dropGaps p.isWord r

/-- Lower-case hexadecimal digits of a number. -/
def hex (width n : Nat) : List UInt8 :=
  (List.range width).map fun i =>
    let d := n / Nat.pow 16 (width - 1 - i) % 16
    .ofNat (if d < 10 then 0x30 + d else 0x57 + d)

/-- The octets that stand for a character: one up to U+00FF, else an escape `\uXXXX` or
`\UXXXXXXXX`. -/
def charOctets (c : Char) : List UInt8 :=
  if c.toNat < 0x100 then [.ofNat c.toNat]
  else if c.toNat < 0x10000 then 0x5c :: 0x75 :: hex 4 c.toNat
  else 0x5c :: 0x55 :: hex 8 c.toNat

def octets (s : List Char) : List UInt8 :=
  s.flatMap charOctets

def hexValue? (c : Char) : Option Nat :=
  if c.isDigit then some (c.toNat - 0x30)
  else if 'a' ≤ c && c ≤ 'f' then some (c.toNat - 0x57)
  else if 'A' ≤ c && c ≤ 'F' then some (c.toNat - 0x37)
  else none

/-- Reads `=XX` escapes and underscores for blanks. -/
def decodeQ : List Char → List Char
  | [] => []
  | '=' :: a :: b :: r =>
    match hexValue? a, hexValue? b with
    | some v, some w => Char.ofNat (16 * v + w) :: decodeQ r
    | _, _ => '=' :: decodeQ (a :: b :: r)
  | c :: r => (if c == '_' then ' ' else c) :: decodeQ r

/-- The octets of a piece and the character set it names. -/
def Piece.read : Piece → Except Defect (List UInt8 × Option (List Char))
  | plain t => .ok (octets t, none)
  | word cs .q t => .ok (octets (decodeQ t), some (Text.lowerChars cs))
  | word cs .b t =>
    match Transfer.Base64.decodeLenient? (octets t ++
        List.replicate ((4 - t.length % 4) % 4) Transfer.Base64.pad) with
    | some o => .ok (o, some (Text.lowerChars cs))
    | none => .error .badEncodedWord

/-- Joins neighbours of one character set: plain text with a blank between, words directly. -/
def merge : List (List UInt8 × Option (List Char)) → List (List UInt8 × Option (List Char))
  | [] => []
  | (o, cs) :: r =>
    match merge r with
    | [] => [(o, cs)]
    | (o', cs') :: r' =>
      if cs == cs' then
        (if cs.isNone then o ++ 0x20 :: o' else o ++ o', cs) :: r'
      else
        (o, cs) :: (o', cs') :: r'

/-- Reads octets in the named character set; none and an empty name mean UTF-8. -/
def readOctets (o : List UInt8) (charset : Option (List Char)) : Except Defect (List Char) :=
  match charset with
  | some (c :: cs) => readNamed (c :: cs) o
  | _ => .ok (Charset.Utf8.decode o)

def decodeChars (value : List Char) : Except Defect (List Char) :=
  let value := unfoldLines value
  if hasWord value then do
    let runs ← (dropGaps false (pieces value)).mapM Piece.read
    return (← (merge runs).mapM fun r => readOctets r.1 r.2).flatten
  else
    .ok value

def decodeValue (value : String) : Except Escape String :=
  ((decodeChars value.toList).map String.ofList).mapError Defect.escape

end Mailroom.Mail.EncodedWord
