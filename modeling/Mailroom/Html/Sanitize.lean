import Mailroom.Html.Node
import Mailroom.Text.Case
import Mailroom.Text.Fields
import Mailroom.Text.Space

/-!
# Harmless trees

Reduces a tree to elements and attributes that can do no harm. Comments go, some elements go with
all they contain, and every other element that is not allowed is replaced by its children.
-/

namespace Mailroom.Html

/-- The elements that go with all they contain. -/
def droppedElements : List String :=
  ["script", "style", "iframe", "frame", "frameset", "object", "embed", "applet", "form", "input",
    "button", "select", "textarea", "link", "meta", "base", "noscript", "svg", "math", "template"]

def allowedElements : List String :=
  ["a", "abbr", "b", "blockquote", "br", "caption", "code", "div", "em", "font", "h1", "h2", "h3",
    "h4", "h5", "h6", "hr", "i", "img", "li", "ol", "p", "pre", "s", "small", "span", "strong",
    "sub", "sup", "table", "tbody", "td", "tfoot", "th", "thead", "tr", "u", "ul"]

def allowedAttributes : List String :=
  ["href", "src", "alt", "title", "width", "height", "colspan", "rowspan", "align", "valign", "dir",
    "lang"]

def urlAttributes : List String :=
  ["href", "src"]

/-- The beginnings of addresses that name a harmless scheme. -/
def safeSchemes : List String :=
  ["http:", "https:", "mailto:", "cid:"]

/-- An address in lower case, without the characters that are passed over in a scheme. -/
def compactUrl (url : String) : List Char :=
  Text.lowerChars (url.toList.filter fun c => !Text.isSpace c && 0x20 ≤ c.toNat)

/-- Whether an address names no scheme or a harmless one. -/
def isSafeUrl (url : String) : Bool :=
  let compact := compactUrl url
  !(compact.takeWhile (· != '/')).contains ':' ||
    safeSchemes.any fun scheme => Text.startsWith scheme.toList compact

def keepsAttribute (a : String × String) : Bool :=
  let name := Text.lower a.1
  allowedAttributes.contains name && (!urlAttributes.contains name || isSafeUrl a.2)

mutual

def Node.sanitize : Node → List Node
  | .text s => [.text s]
  | .comment _ => []
  | .verbatim kind s => [.verbatim kind s]
  | .element name attributes children =>
    if droppedElements.contains name then
      []
    else if allowedElements.contains name then
      [.element name (attributes.filter keepsAttribute) (sanitizeAll children)]
    else
      sanitizeAll children

def sanitizeAll : List Node → List Node
  | [] => []
  | n :: ns => n.sanitize ++ sanitizeAll ns

end

end Mailroom.Html
