import Mailroom.Error
import Mailroom.Mail.Header

/-!
# Folding fields

Writing a header field in lines of limited length. A line that has become too long is cut, if it
can be, after a semicolon, else after a comma, else before a blank or a tab; cuts come only where
blanks or tabs stand. Line ends of the value are kept. A value with octets that are not ASCII is
written as it is.
-/

namespace Mailroom.Mail.Folding

/-- A word with the blanks and tabs before it. -/
structure Word where
  gap : List Char
  text : List Char
deriving DecidableEq, Repr

def Word.chars (w : Word) : List Char :=
  w.gap ++ w.text

def isGapChar (c : Char) : Bool :=
  c == ' ' || c == '\t'

/-- What is being written: the finished lines, last first, the words of the current line, last
first, and the columns taken by the field's name if this is its line. -/
structure State where
  done : List (List Char)
  words : List Word
  nameColumns : Nat
deriving DecidableEq, Repr

namespace State

def lineChars (words : List Word) : List Char :=
  words.reverse.flatMap Word.chars

def width (s : State) : Nat :=
  s.words.foldl (fun n w => n + w.gap.length + w.text.length) s.nameColumns

/-- Ends the current line. One of blanks only is added to the line before. -/
def closeLine (s : State) : State :=
  let chars := lineChars s.words
  if s.nameColumns == 0 && chars.isEmpty then
    ⟨s.done, [], 0⟩
  else if s.nameColumns == 0 && chars.all Text.isSpace then
    match s.done with
    | line :: r => ⟨(line ++ chars) :: r, [], 0⟩
    | [] => ⟨[chars], [], 0⟩
  else
    ⟨chars :: s.done, [], 0⟩

/-- Ends the current line without a single blank at its end. -/
def endLine (s : State) : State :=
  match s.words with
  | ⟨[' '], []⟩ :: r => closeLine { s with words := r }
  | _ => s.closeLine

/-- The characters after which lines are cut, in order of preference. -/
def cutChars : List Char :=
  [';', ',', ' ', '\t']

/-- Where to cut before the words `words`, last first, which are all of the current line: the words
after the last place that a character allows, last first, and those before it. -/
def cutAt? (c : Char) (after : List Word) : List Word → Option (List Word × List Word)
  | w :: v :: r =>
    if (isGapChar c && w.gap.head? == some c) || v.text.getLast? == some c then
      some ((w :: after).reverse, v :: r)
    else
      cutAt? c (w :: after) (v :: r)
  | _ => none

/-- Adds a word, and cuts the line if it is too long and can be cut. A name is left on a line of
its own rather than on one with a word that is too long. -/
def add (limit : Nat) (w : Word) (s : State) : State :=
  let t := { s with words := w :: s.words }
  if t.width ≤ limit then
    t
  else
    match cutChars.findSome? fun c => cutAt? c [] t.words with
    | some (rest, line) => ⟨lineChars line :: s.done, rest, 0⟩
    | none =>
      if 0 < s.nameColumns then
        { s.endLine with words := [⟨if w.gap.isEmpty then [' '] else w.gap, w.text⟩] }
      else
        t

end State

/-- The words of a line, of which the first may have no gap; `gap` and `text` hold the word begun,
last character first. -/
def wordsOnto (done : List Word) (gap text : List Char) : List Char → List Word
  | [] =>
    (if gap.isEmpty && text.isEmpty then done else ⟨gap.reverse, text.reverse⟩ :: done).reverse
  | c :: r =>
    if isGapChar c then
      if text.isEmpty then wordsOnto done (c :: gap) [] r
      else wordsOnto (⟨gap.reverse, text.reverse⟩ :: done) [c] [] r
    else
      wordsOnto done gap (c :: text) r

def addLine (limit : Nat) (line : List Char) (s : State) : State :=
  (wordsOnto [] [] [] line).foldl (fun s w => s.add limit w) s

/-- Whether a line break is followed by what reads as a field of its own. -/
def embedsField : List Char → Bool
  | [] => false
  | c :: r =>
    (c == '\n' &&
      (let name := r.takeWhile fun d => !isGapChar d
       name.drop 1 |>.contains ':')) || embedsField r

/-- The lines of an ASCII value after a name of a length. -/
def fold (limit nameLength : Nat) (value : List Char) : List Char :=
  let start : State := ⟨[], [], nameLength + 2⟩
  let final := match Text.lines value with
    | [] => start
    | [line] => addLine limit line start
    | line :: rest =>
      (rest.foldl (fun s l => addLine limit l s.endLine) (addLine limit line start)).endLine
  Text.joined '\n' final.closeLine.done.reverse

end Folding

/-- A field as it is written in lines of at most `limit` columns. -/
def Field.write (limit : Nat) (f : Field) : Except Escape (List UInt8) := do
  let start := Charset.Utf8.encode f.name.toList ++ [0x3a, 0x20]
  if f.octets.all (· < 0x80) then
    let folded := Folding.fold limit f.name.length f.value
    if Folding.embedsField folded then
      throw .embeddedField
    return start ++ Charset.Utf8.encode folded ++ [0x0a]
  else
    return start ++ f.octets ++ [0x0a]

end Mailroom.Mail
