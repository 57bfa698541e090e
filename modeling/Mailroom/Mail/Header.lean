import Mailroom.Mail.EncodedWord
import Mailroom.Mail.Source
import Mailroom.Text.Fields

/-!
# Header fields

Reading the header of a message, and looking fields up in it. What a line that cannot belong to a
header begins is the body.
-/

namespace Mailroom.Mail

/-- A field as it stands in the source: without the line end at its end, but folded as it was. -/
structure Field where
  name : String
  octets : List UInt8
deriving DecidableEq, Repr

namespace Field

/-- The value with U+FFFD for each octet that is not ASCII. -/
def value (f : Field) : List Char :=
  asciiText f.octets

def decoded (f : Field) : Except Defect (String × String) := do
  return (f.name, String.ofList (← EncodedWord.decodeChars f.value))

end Field

def isFoldBlank (b : UInt8) : Bool :=
  b == 0x20 || b == 0x09

/-- The octets of `From ` at the beginning of the line that mailboxes put in front of a message. -/
def envelopeMark : List UInt8 :=
  [0x46, 0x72, 0x6f, 0x6d, 0x20]

def isEnvelope (line : Line) : Bool :=
  envelopeMark.isPrefixOf line

def isNameOctet (b : UInt8) : Bool :=
  0x21 ≤ b && b ≤ 0x7e && b != 0x3a

/-- Whether a line can belong to a header: it begins with a name and a colon or a blank, or it is
an envelope line. -/
def isHeaderLine (line : Line) : Bool :=
  isEnvelope line || line.head?.any isFoldBlank || (line.dropWhile isNameOctet).head? == some 0x3a

def trimLineEnds (s : List UInt8) : List UInt8 :=
  (s.reverse.dropWhile isLineEnd).reverse

/-- The field that a line and the continuation lines after it make up. -/
def fieldOf (line : Line) (continuation : List Line) : Field where
  name := String.ofList (asciiText (line.takeWhile isNameOctet))
  octets := trimLineEnds <|
    ((line.dropWhile isNameOctet).drop 1).dropWhile isFoldBlank ++ continuation.flatten

/-- A field begun, in front of others: its line and its continuation lines, last first. -/
def closeField (begun : Option (Line × List Line)) (fs : List Field) : List Field :=
  match begun with
  | none => fs
  | some (line, rest) => fieldOf line rest.reverse :: fs

/-- Reads fields from header lines; `first` tells whether no line was read before. Envelope lines
and lines without a name are passed over with their continuation lines, but an envelope line at the
end, unless it is also the first, is given back. -/
def fieldsOnto (done : List Field) (begun : Option (Line × List Line)) (first : Bool) :
    List Line → List Field × Option Line
  | [] => ((closeField begun done).reverse, none)
  | line :: r =>
    if line.head?.any isFoldBlank then
      match begun with
      | none => fieldsOnto done none false r
      | some (start, rest) => fieldsOnto done (some (start, line :: rest)) false r
    else if isEnvelope line then
      if r.isEmpty && !first then ((closeField begun done).reverse, some line)
      else fieldsOnto (closeField begun done) none false r
    else if line.head? == some 0x3a then
      fieldsOnto (closeField begun done) none false r
    else
      fieldsOnto (closeField begun done) (some (line, [])) false r

/-- The header that lines begin with and the lines of the body. The blank line between them is
dropped. `stops` tells where the lines of the message end. -/
def readHeader (stops : Line → Bool) (ls : List Line) : List Field × List Line :=
  let belongs (line : Line) : Bool := !stops line && isHeaderLine line
  let (fields, back) := fieldsOnto [] none true (ls.takeWhile belongs)
  let rest := match ls.dropWhile belongs with
    | line :: r => if !stops line && isBlankLine line then r else line :: r
    | [] => []
  (fields, back.toList ++ rest)

/-- Whether two names are the same but for case. -/
def sameName (a b : String) : Bool :=
  Text.lower a == Text.lower b

def field? (fields : List Field) (name : String) : Option Field :=
  fields.find? fun f => sameName f.name name

def pairs (fields : List Field) : Except Defect (List (String × String)) :=
  fields.mapM Field.decoded

def valueOf (pairs : List (String × String)) (name : String) : Option String :=
  (pairs.find? fun p => sameName p.1 name).map (·.2)

def curatedNames : List String :=
  ["date", "from", "to", "cc", "subject", "message-id"]

def curated (pairs : List (String × String)) : List (String × String) :=
  pairs.filter fun p => curatedNames.contains (Text.lower p.1)

def headerOf (source : List UInt8) : Except Error (List (String × String)) :=
  (pairs (readHeader (fun _ => false) (lines source)).1).mapError fun d =>
    .unreadableHeaders d.message

end Mailroom.Mail
