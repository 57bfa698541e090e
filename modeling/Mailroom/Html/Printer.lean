import Mailroom.Html.Builder
import Mailroom.Html.Sanitize

/-!
# Writing markup

Writes a tree as markup, with attributes in the order of their names, and cleans a whole document.
-/

namespace Mailroom.Html

def escapeChar (c : Char) : List Char :=
  if c == '&' then "&amp;".toList
  else if c == '<' then "&lt;".toList
  else if c == '>' then "&gt;".toList
  else [c]

def escape (s : String) : String :=
  String.ofList (s.toList.flatMap escapeChar)

/-- A value in quotes, in single ones if it contains double ones only. -/
def quoteValue (value : String) : String :=
  if !value.contains '"' then
    "\"" ++ value ++ "\""
  else if !value.contains '\'' then
    "'" ++ value ++ "'"
  else
    "\"" ++ String.ofList (value.toList.flatMap fun c =>
      if c == '"' then "&quot;".toList else [c]) ++ "\""

def writeAttributes (as : List (String × String)) : String :=
  String.join ((as.mergeSort fun a b => a.1 ≤ b.1).map fun a =>
    " " ++ a.1 ++ "=" ++ quoteValue (escape a.2))

def writeVerbatim (kind : Verbatim) (s : String) : String :=
  match kind with
  | .cdata => "<![CDATA[" ++ s ++ "]]>"
  | .instruction => "<?" ++ s ++ ">"
  | .declaration => "<?" ++ s ++ "?>"
  | .doctype => "<!DOCTYPE " ++ s ++ ">\n"

mutual

/-- Writes a node after the pieces written so far, which are given last first. -/
def Node.writeOnto (done : List String) : Node → List String
  | .text s => escape s :: done
  | .comment s => ("<!--" ++ s ++ "-->") :: done
  | .verbatim kind s => writeVerbatim kind s :: done
  | .element name as children =>
    if isVoid name && children.isEmpty then
      ("<" ++ name ++ writeAttributes as ++ "/>") :: done
    else
      ("</" ++ name ++ ">") ::
        writeAllOnto (("<" ++ name ++ writeAttributes as ++ ">") :: done) children

def writeAllOnto (done : List String) : List Node → List String
  | [] => done
  | n :: ns => writeAllOnto (n.writeOnto done) ns

end

def write (ns : List Node) : String :=
  String.join (writeAllOnto [] ns).reverse

def sanitize (html : String) : Except Escape String :=
  (parse html).map fun ns => write (sanitizeAll ns)

end Mailroom.Html
