/-!
# Blank characters and lines

Which characters count as blank, and trimming by them. Core's `Char.isWhitespace` knows only part
of ASCII; `isSpace_of_isWhitespace` says that nothing of it is lost here. A line of text ends at any
of the line and paragraph separators that Unicode knows, a carriage return and a line feed together
counting as one.
-/

namespace Mailroom.Text

/-- The characters that Unicode calls white space or that separate lines, fields and records. -/
def isSpace (c : Char) : Bool :=
  let n := c.toNat
  (0x9 ≤ n && n ≤ 0xd) || (0x1c ≤ n && n ≤ 0x20) || n == 0x85 || n == 0xa0 || n == 0x1680 ||
    (0x2000 ≤ n && n ≤ 0x200a) || n == 0x2028 || n == 0x2029 || n == 0x202f || n == 0x205f ||
    n == 0x3000

theorem isSpace_of_isWhitespace {c : Char} (h : c.isWhitespace = true) : isSpace c = true := by
  simp only [Char.isWhitespace, Bool.or_eq_true, decide_eq_true_eq] at h
  rcases h with ((rfl | rfl) | rfl) | rfl <;> decide

def trimBy (p : Char → Bool) (s : List Char) : List Char :=
  ((s.dropWhile p).reverse.dropWhile p).reverse

def trimEndBy (p : Char → Bool) (s : List Char) : List Char :=
  (s.reverse.dropWhile p).reverse

def strip (s : String) : String :=
  String.ofList (trimBy isSpace s.toList)

def isBlank (s : String) : Bool :=
  s.toList.all isSpace

def isControl (c : Char) : Bool :=
  c.toNat < 0x20 || c.toNat == 0x7f

def isAscii (s : String) : Bool :=
  s.toList.all fun c => c.toNat < 0x80

def isLineEnd (c : Char) : Bool :=
  let n := c.toNat
  (0xa ≤ n && n ≤ 0xd) || (0x1c ≤ n && n ≤ 0x1e) || n == 0x85 || n == 0x2028 || n == 0x2029

/-- The lines of `s` without their ends; `line` holds the characters of the line begun, last first,
`done` the finished lines, last first. -/
def linesOnto (done : List (List Char)) (line : List Char) : List Char → List (List Char)
  | [] => (if line.isEmpty then done else line.reverse :: done).reverse
  | c :: r =>
    if c == '\r' && r.head? == some '\n' then linesOnto done line r
    else if isLineEnd c then linesOnto (line.reverse :: done) [] r
    else linesOnto done (c :: line) r

def lines (s : List Char) : List (List Char) :=
  linesOnto [] [] s

end Mailroom.Text
