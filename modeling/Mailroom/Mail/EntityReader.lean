import Mailroom.Mail.Entity

/-!
# Reading entities

Reads a message with its parts from the lines of its source. Reading stops, at every depth, before
a line that ends one of the entities around: a boundary line of a multipart, or the blank line
after a block of a delivery report. All malformed input is read as something, but for a multipart
whose content type has unreadable parameters.
-/

namespace Mailroom.Mail

/-- What ends an entity from outside. -/
inductive Stop where
  | boundary (b : List Char)
  | blankLine
deriving DecidableEq, Repr

/-- Drops a text from the beginning of a line. Only ASCII characters match. -/
def afterText? : List Char → Line → Option Line
  | [], line => some line
  | c :: cs, b :: line => if c.toNat < 0x80 && c.toNat == b.toNat then afterText? cs line else none
  | _ :: _, [] => none

/-- Whether nothing but blanks and one line end are left of a line. -/
def isSpent (line : Line) : Bool :=
  (dropLineEnd (line.dropWhile isFoldBlank)).isEmpty

inductive Delimiter where
  | opens
  | closes
deriving DecidableEq, Repr

/-- Reads a boundary line: two hyphens, the boundary, two more hyphens after the last part. -/
def delimiter? (boundary : List Char) (line : Line) : Option Delimiter :=
  match afterText? ('-' :: '-' :: boundary) line with
  | none => none
  | some rest =>
    match rest with
    | 0x2d :: 0x2d :: r => if isSpent r then some .closes else none
    | _ => if isSpent rest then some .opens else none

def isStopped (stops : List Stop) (line : Line) : Bool :=
  stops.any fun
    | .boundary b => (delimiter? b line).isSome
    | .blankLine => isBlankLine line

mutual

/-- Drops the line end before a boundary line, which belongs to the boundary: from the text after
the parts of a multipart, from the last entity inside of another container, or from a text. -/
def Entity.trimmed : Entity → Entity
  | .leaf h text => if h.isMultipart then .leaf h text else .leaf h (dropLineEnd text)
  | .container h before after parts =>
    if h.isMultipart then
      let rest := match after with
        | none => none
        | some [] => none
        | some s => some (dropLineEnd s)
      .container h before rest parts
    else
      .container h before after (trimmedLast parts)

def trimmedLast : List Entity → List Entity
  | [] => []
  | [e] => [e.trimmed]
  | e :: es => e :: trimmedLast es

end

mutual

def readEntity : Nat → List Stop → List Char → List Line → Except Defect (Entity × List Line)
  | 0, _, t, ls => .ok (.leaf ⟨[], t⟩ [], ls)
  | fuel + 1, stops, t, ls =>
    let running (line : Line) : Bool := !isStopped stops line
    let (fields, ls) := readHeader (isStopped stops) ls
    let head : Head := ⟨fields, t⟩
    let text : Entity × List Line :=
      (.leaf head (ls.takeWhile running).flatten, ls.dropWhile running)
    if head.contentType == "message/delivery-status".toList then do
      let (blocks, rest) ← readBlocks fuel stops ls
      return (.container head none none blocks, rest)
    else if head.mainType == "message".toList then do
      let (e, rest) ← readEntity fuel stops Head.plainType ls
      return (.container head none none [e], rest)
    else if head.isMultipart then
      match head.boundary? with
      | .error d => .error d
      | .ok none => .ok text
      | .ok (some b) =>
        let opening (line : Line) : Bool := running line && (delimiter? b line).isNone
        let before := (ls.takeWhile opening).flatten
        match ls.dropWhile opening with
        | [] => .ok (.leaf head before, [])
        | line :: r =>
          if isStopped stops line then .ok (.leaf head before, line :: r)
          else if delimiter? b line == some .closes then
            .ok (.leaf head before, r.dropWhile running)
          else do
            let inner := if head.contentType == "multipart/digest".toList then
                "message/rfc822".toList
              else
                Head.plainType
            let (parts, after, rest) ← readParts fuel stops inner b (line :: r)
            let before := if before.isEmpty then none else some (dropLineEnd before)
            return (.container head before after parts, rest)
    else
      .ok text

/-- Reads the parts of a multipart from its first boundary line on: the parts, the text after them
if there is a closing line, and the lines after the multipart. Boundary lines that follow each
other count as one. -/
def readParts : Nat → List Stop → List Char → List Char → List Line →
    Except Defect (List Entity × Option (List UInt8) × List Line)
  | 0, _, _, _, ls => .ok ([], none, ls)
  | fuel + 1, stops, t, b, ls => do
    let running (line : Line) : Bool := !isStopped stops line
    let ls := ls.dropWhile fun line => running line && (delimiter? b line).isSome
    let (e, ls) ← readEntity fuel (.boundary b :: stops) t ls
    let e := e.trimmed
    match ls with
    | [] => return ([e], none, [])
    | line :: r =>
      if isStopped stops line then
        return ([e], none, line :: r)
      else if delimiter? b line == some .closes then
        return ([e], some (r.takeWhile running).flatten, r.dropWhile running)
      else
        let (es, after, rest) ← readParts fuel stops t b (line :: r)
        return (e :: es, after, rest)

/-- Reads the blocks of a delivery report, which blank lines separate. -/
def readBlocks : Nat → List Stop → List Line → Except Defect (List Entity × List Line)
  | 0, _, ls => .ok ([], ls)
  | fuel + 1, stops, ls => do
    let (e, ls) ← readEntity fuel (.blankLine :: stops) Head.plainType ls
    let ls := match ls with
      | line :: r => if isStopped stops line then line :: r else r
      | [] => []
    match ls with
    | [] => return ([e], [])
    | line :: r =>
      if isStopped stops line then
        return ([e], line :: r)
      else
        let (es, rest) ← readBlocks fuel stops (line :: r)
        return (e :: es, rest)

end

/-- The message of a source. An entity inside of another costs at least a header line or a boundary
line, but for the message that an entry of a digest is by default. -/
def Entity.read (source : List UInt8) : Except Defect Entity :=
  let ls := lines source
  (readEntity (3 * ls.length + 3) [] Head.plainType ls).map Prod.fst

end Mailroom.Mail
