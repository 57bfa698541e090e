/-!
# Document trees

Nodes of an HTML document. All character data but plain text is written out as it stands.
-/

namespace Mailroom.Html

inductive Verbatim where
  | cdata
  | instruction
  | declaration
  | doctype
deriving DecidableEq, Repr

/-- A node. An element's attributes have distinct names. -/
inductive Node where
  | text (s : String)
  | comment (s : String)
  | verbatim (kind : Verbatim) (s : String)
  | element (name : String) (attributes : List (String × String)) (children : List Node)
deriving Repr

/-- The elements that are written without an end tag when they are empty. -/
def voidElements : List String :=
  ["area", "base", "br", "col", "embed", "hr", "img", "input", "keygen", "link", "menuitem",
    "meta", "param", "source", "track", "wbr", "basefont", "bgsound", "command", "frame", "image",
    "isindex", "nextid", "spacer"]

def isVoid (name : String) : Bool :=
  voidElements.contains name

end Mailroom.Html
