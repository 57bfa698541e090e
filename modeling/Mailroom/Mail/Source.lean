/-!
# Lines of a message's source

A message's source is cut into lines that keep their ends: a line feed, a carriage return, or both
in this order.
-/

namespace Mailroom.Mail

abbrev Line := List UInt8

def isLineEnd (b : UInt8) : Bool :=
  b == 0x0a || b == 0x0d

/-- The lines of a source; `line` holds the octets of the line begun, last first, `done` the
finished lines, last first. -/
def linesOnto (done : List Line) (line : Line) : List UInt8 → List Line
  | [] => (if line.isEmpty then done else line.reverse :: done).reverse
  | b :: r =>
    if b == 0x0a || (b == 0x0d && r.head? != some 0x0a) then
      linesOnto ((b :: line).reverse :: done) [] r
    else
      linesOnto done (b :: line) r

def lines (s : List UInt8) : List Line :=
  linesOnto [] [] s

def dropLineEnd (s : List UInt8) : List UInt8 :=
  match s.reverse with
  | 0x0a :: 0x0d :: r => r.reverse
  | 0x0a :: r => r.reverse
  | 0x0d :: r => r.reverse
  | _ => s

def withLineFeeds (s : List UInt8) : List UInt8 :=
  (lines s).flatMap fun line =>
    if line.getLast?.any isLineEnd then dropLineEnd line ++ [0x0a] else line

def isBlankLine (line : Line) : Bool :=
  line.head?.any isLineEnd

/-- The characters of octets, of which only those of ASCII are known. -/
def asciiText (s : List UInt8) : List Char :=
  s.map fun b => if b < 0x80 then Char.ofNat b.toNat else '\ufffd'

end Mailroom.Mail
