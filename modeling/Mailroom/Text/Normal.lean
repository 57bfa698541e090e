import Mailroom.Text.Fields
import Mailroom.Text.NormalTable

/-!
# Normal form of texts

The form NFKC of a text. All characters are taken apart, marks are put in the order of their
classes, and then characters are put together again where there is one for both. The syllables of
Hangul follow from their numbers.
-/

namespace Mailroom.Text

/-- The words of a line of a table, with blanks for the sign of a blank. -/
def tableWords (line : String) : List (List Char) :=
  (fields ' ' line.toList).map fun word => word.map fun c => if c == '␠' then ' ' else c

def decompositions : List (Nat × List (List Char)) :=
  decompositionRows.map fun row => (row.1, tableWords row.2)

/-- The letters of the syllable of Hangul that has a number. -/
def syllableLetters (i : Nat) : List Char :=
  [Char.ofNat (0x1100 + i / 588), Char.ofNat (0x1161 + i % 588 / 28)] ++
    if i % 28 == 0 then [] else [Char.ofNat (0x11a7 + i % 28)]

def takenApart (c : Char) : List Char :=
  let n := c.toNat
  if 0xac00 ≤ n && n ≤ 0xd7a3 then
    syllableLetters (n - 0xac00)
  else
    (decompositions.findSome? fun row => if row.1 ≤ n then row.2[n - row.1]? else none).getD [c]

/-- The class of a mark, zero for a character that is none. -/
def markClass (c : Char) : Nat :=
  ((classRuns.find? fun r => r.1 ≤ c.toNat && c.toNat ≤ r.2.1).map (·.2.2)).getD 0

/-- Puts a character behind others, of which the last comes first. A mark goes before the marks of
higher classes at their end. -/
def insertMark (c : Char) : List Char → List Char
  | [] => [c]
  | d :: r =>
    if markClass c != 0 && markClass c < markClass d then d :: insertMark c r else c :: d :: r

def withOrderedMarks (s : List Char) : List Char :=
  (s.foldl (fun done c => insertMark c done) []).reverse

def pairs : List (Char × Char × Char) :=
  pairLines.flatMap fun line => (tableWords line).filterMap fun word =>
    match word with
    | [a, b, c] => some (a, b, c)
    | _ => none

/-- The character that two are put together into. -/
def pair? (a b : Char) : Option Char :=
  let m := a.toNat
  let n := b.toNat
  if 0x1100 ≤ m && m ≤ 0x1112 && 0x1161 ≤ n && n ≤ 0x1175 then
    some (Char.ofNat (0xac00 + 588 * (m - 0x1100) + 28 * (n - 0x1161)))
  else if 0xac00 ≤ m && m ≤ 0xd7a3 && (m - 0xac00) % 28 == 0 && 0x11a7 < n && n < 0x11c3 then
    some (Char.ofNat (m + (n - 0x11a7)))
  else
    (pairs.find? fun p => p.1 == a && p.2.1 == b).map (·.2.2)

/-- Puts characters together. The last one that is no mark is `base`, and `marks` are those behind
it that it was not put together with, the last of them first; `done` is what stands before it, also
from its end. A mark is out of reach behind one of its own class. -/
def composeOnto (done : List Char) (base : Char) (marks : List Char) : List Char → List Char
  | [] => (marks ++ base :: done).reverse
  | c :: r =>
    match if marks.all fun m => markClass m < markClass c then pair? base c else none with
    | some d => composeOnto done d marks r
    | none =>
      if markClass c == 0 then composeOnto (marks ++ base :: done) c [] r
      else composeOnto done base (c :: marks) r

def composed : List Char → List Char
  | [] => []
  | c :: r => composeOnto [] c [] r

def normalForm (s : List Char) : List Char :=
  composed (withOrderedMarks (s.flatMap takenApart))

end Mailroom.Text
