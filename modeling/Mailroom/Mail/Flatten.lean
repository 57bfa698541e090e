import Mailroom.Mail.Entity
import Mailroom.Mail.Folding

/-!
# Writing entities

Writes an entity as source again, with line feeds as line ends and fields folded anew. This need
not be the source it was read from.
-/

namespace Mailroom.Mail

def columns : Nat := 78

/-- A number of columns that no field reaches: the parts of signed messages are not folded. -/
def unlimited : Nat := 1000000

/-- What separates parts that are given without a boundary: only its length of 36 characters
matters. -/
def madeBoundary : List Char :=
  List.replicate 36 '='

namespace Parameter

/-- A parameter as it is written, without a value if it is empty. -/
def write (p : List Char × Value) : List Char :=
  match p.2 with
  | .plain [] => p.1
  | .plain v => p.1 ++ '=' :: v
  | .extended cs l v =>
    let quoted (t : Option (List Char)) : List Char :=
      match t with
      | some t => '\'' :: t ++ ['\'']
      | none => "None".toList
    p.1 ++ "=(".toList ++ quoted cs ++ ", ".toList ++ quoted l ++ ", ".toList ++ quoted (some v) ++
      [')']

def withBoundary (value boundary : List Char) : Except Defect (List Char) := do
  let isBoundary (p : List Char × Value) : Bool := Text.lowerChars p.1 == "boundary".toList
  let ps := (← parse value).map fun p =>
    if isBoundary p then ("boundary".toList, Value.plain (inQuotes boundary)) else p
  return "; ".toList.intercalate (ps.map write)

end Parameter

namespace Head

def withBoundary (h : Head) (boundary : List Char) : Except Defect Head :=
  match h.value? "content-type" with
  | none => .ok h
  | some v => do
    let octets := Charset.Utf8.encode (← Parameter.withBoundary v boundary)
    let changed (f : Field) : Field :=
      if sameName f.name "content-type" then { f with octets } else f
    return { h with fields := h.fields.map changed }

def write (h : Head) (limit : Nat) : Except Escape (List UInt8) := do
  return (← h.fields.mapM (Field.write limit)).flatten ++ [0x0a]

/-- A name with underscores for hyphens. -/
def underscored (name : List Char) : List Char :=
  name.map fun c => if c == '-' then '_' else c

/-- Whether the subtype is a given one, where hyphens and underscores are the same. -/
def hasSubType (h : Head) (name : String) : Bool :=
  underscored h.subType == name.toList

/-- Whether an entity is written in the way of a name: the two parts of its type spell it, or the
first part alone. -/
def isWrittenAs (h : Head) (name : String) : Bool :=
  underscored (h.mainType ++ '_' :: h.subType) == name.toList ||
    underscored h.mainType == name.toList

/-- The text of a multipart without parts. It is written through its characters if it is not ASCII,
and these have to be ASCII then. -/
def writeText (h : Head) (text : List UInt8) : Except Escape (List UInt8) := do
  if text.all (· < 0x80) then
    return text
  let name ← match ← (h.parameter? "content-type" "charset").mapError Defect.escape with
    | none => .ok "ascii".toList
    | some (.plain t) => .ok t
    | some (.extended ..) => .error .unexpectedValue
  let charset := ((← (charsetNamed name).mapError Defect.escape).getD .ascii)
  let cs ← (charset.decode text).mapError fun r => (Defect.refused name r).escape
  if cs.all fun c => c.toNat < 0x80 then
    return Charset.Utf8.encode cs
  else
    throw .unwritableText

end Head

def joinParts (boundary : List UInt8) (before after : Option (List UInt8))
    (parts : List (List UInt8)) : List UInt8 :=
  let line := 0x2d :: 0x2d :: boundary
  (match before with
    | some s => withLineFeeds s ++ [0x0a]
    | none => []) ++
  line ++ [0x0a] ++ (0x0a :: line ++ [0x0a]).intercalate parts ++
  0x0a :: line ++ [0x2d, 0x2d, 0x0a] ++ (after.map withLineFeeds).getD []

def withoutLineFeed (s : List UInt8) : List UInt8 :=
  match s.reverse with
  | 0x0a :: r => r.reverse
  | _ => s

mutual

/-- The source of an entity, its header in lines of at most `limit` columns. -/
def Entity.write (limit : Nat) : Entity → Except Escape (List UInt8)
  | .leaf h text => do
    let body ←
      if h.isWrittenAs "message_delivery_status" then
        (if text.isEmpty then .ok [] else .error .unexpectedValue)
      else if h.isMultipart || h.isWrittenAs "multipart_signed" then
        h.writeText text
      else
        .ok (withLineFeeds text)
    return (← h.write limit) ++ body
  | .container h before after parts => do
    if h.isMultipart then
      let inner := if h.hasSubType "signed" then unlimited else limit
      let texts ← writeAll inner parts
      match ← h.boundary?.mapError Defect.escape with
      | some (c :: b) =>
        let start ← h.write limit
        return start ++ joinParts (Charset.Utf8.encode (c :: b)) before after texts
      | _ =>
        let start ← (← (h.withBoundary madeBoundary).mapError Defect.escape).write limit
        return start ++ joinParts (Charset.Utf8.encode madeBoundary) before after texts
    else
      let texts ← writeAll limit parts
      let start ← h.write limit
      if h.hasSubType "delivery_status" then
        return start ++ [0x0a].intercalate (texts.map withoutLineFeed)
      else
        return start ++ texts.flatten

def writeAll (limit : Nat) : List Entity → Except Escape (List (List UInt8))
  | [] => .ok []
  | e :: es => do
    let s ← e.write limit
    return s :: (← writeAll limit es)

end

end Mailroom.Mail
