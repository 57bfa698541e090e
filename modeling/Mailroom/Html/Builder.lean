import Mailroom.Html.Node
import Mailroom.Html.Scanner

/-!
# Building the tree

Turns tokens into a tree with a stack of open elements, the innermost first. An end tag closes all
elements down to the nearest one of its name, and does nothing if none is open. Blanks between tags
are reduced to one.
-/

namespace Mailroom.Html

/-- An open element with its children so far, last first. -/
structure Frame where
  name : String
  attributes : List (String × String)
  children : List Node

/-- The tree under construction: the open elements, the nodes outside of them, last first, the
pieces of text not yet placed, last first, and the void elements that were closed at once and whose
end tags are still to be passed over. -/
structure Builder where
  frames : List Frame
  roots : List Node
  pending : List (List Char)
  closed : List String

namespace Builder

def empty : Builder :=
  ⟨[], [], [], []⟩

def place (n : Node) (b : Builder) : Builder :=
  match b.frames with
  | [] => { b with roots := n :: b.roots }
  | f :: fs => { b with frames := { f with children := n :: f.children } :: fs }

def pop (b : Builder) : Builder :=
  match b.frames with
  | [] => b
  | f :: fs => place (.element f.name f.attributes f.children.reverse) { b with frames := fs }

def popMany : Nat → Builder → Builder
  | 0, b => b
  | n + 1, b => popMany n b.pop

/-- Closes the nearest open element of a name and all inside it. -/
def popTo (name : String) (b : Builder) : Builder :=
  match b.frames.findIdx? (·.name == name) with
  | none => b
  | some n => popMany (n + 1) b

def isReducible (c : Char) : Bool :=
  c == ' ' || c == '\n' || c == '\t' || c.toNat == 0xc || c == '\r'

/-- Blanks reduced to a line break if there is one, else to a blank; other text unchanged. -/
def reduced (s : List Char) : List Char :=
  if s.all isReducible then (if s.contains '\n' then ['\n'] else [' ']) else s

def keepsBlanks (b : Builder) : Bool :=
  b.frames.any fun f => f.name == "pre" || f.name == "textarea"

def data (s : List Char) (b : Builder) : String :=
  String.ofList (if b.keepsBlanks then s else reduced s)

def flush (b : Builder) : Builder :=
  if b.pending.isEmpty then b
  else place (.text (b.data b.pending.reverse.flatten)) { b with pending := [] }

def stop (name : String) (b : Builder) : Builder :=
  if b.closed.contains name then
    { b with closed := b.closed.erase name }
  else
    popTo name b.flush

/-- Of several attributes with one name the last counts. -/
def distinct : List (String × String) → List (String × String)
  | [] => []
  | a :: r => if r.any (·.1 == a.1) then distinct r else a :: distinct r

def add (b : Builder) : Token → Builder
  | .text s => { b with pending := s :: b.pending }
  | .start name attributes selfClosing =>
    let b := b.flush
    let b := { b with frames := ⟨name, distinct attributes, []⟩ :: b.frames }
    if selfClosing then b.pop
    else if isVoid name then { b.pop with closed := name :: b.closed }
    else b
  | .stop name => stop name b
  | .comment s => place (.comment (b.flush.data s)) b.flush
  | .instruction s => place (.verbatim .instruction (b.flush.data s)) b.flush
  | .doctype s => place (.verbatim .doctype (b.flush.data (s.drop 8))) b.flush
  | .marked s =>
    if (s.take 6).map Char.toUpper == "CDATA[".toList then
      place (.verbatim .cdata (b.flush.data (s.drop 6))) b.flush
    else
      place (.verbatim .declaration (b.flush.data s)) b.flush

def nodes (b : Builder) : List Node :=
  (popMany b.frames.length b.flush).roots.reverse

end Builder

def parse (s : String) : Except Escape (List Node) := do
  return ((← Scanner.tokens s.toList).foldl Builder.add Builder.empty).nodes

end Mailroom.Html
