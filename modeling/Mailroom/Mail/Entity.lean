import Mailroom.Mail.Header
import Mailroom.Mail.Parameter

/-!
# Entities

A message or a part of one: a header and either a text or further entities.
-/

namespace Mailroom.Mail

/-- A header together with the type that an entity has if the header names none. -/
structure Head where
  fields : List Field
  defaultType : List Char
deriving DecidableEq, Repr

/-- An entity. The text between the header and the first of the inner entities, and the text after
the last one, are there only if the source has them. -/
inductive Entity where
  | leaf (head : Head) (text : List UInt8)
  | container (head : Head) (before after : Option (List UInt8)) (parts : List Entity)
deriving Repr

namespace Head

def value? (h : Head) (name : String) : Option (List Char) :=
  (field? h.fields name).map Field.value

def plainType : List Char :=
  "text/plain".toList

/-- The content type in lower case; one that is malformed counts as plain text. -/
def contentType (h : Head) : List Char :=
  match h.value? "content-type" with
  | none => h.defaultType
  | some v =>
    let t := Parameter.mainValue v
    if t.count '/' == 1 then t else plainType

def mainType (h : Head) : List Char :=
  h.contentType.takeWhile (· != '/')

def subType (h : Head) : List Char :=
  (h.contentType.dropWhile (· != '/')).drop 1

def isMultipart (h : Head) : Bool :=
  h.mainType == "multipart".toList

def parameter? (h : Head) (field name : String) : Except Defect (Option Parameter.Value) :=
  match h.value? field with
  | none => .ok none
  | some v => Parameter.find? v name

def boundary? (h : Head) : Except Defect (Option (List Char)) := do
  match ← h.parameter? "content-type" "boundary" with
  | none => return none
  | some v => return some (Text.trimEndBy Text.isSpace (← v.collapse))

/-- The parameter that names the file that an entity holds. -/
def fileParameter? (h : Head) : Except Defect (Option Parameter.Value) := do
  match ← h.parameter? "content-disposition" "filename" with
  | none => h.parameter? "content-type" "name"
  | some v => return some v

/-- The name of the file that an entity holds, its encoded words still in place. -/
def fileName? (h : Head) : Except Defect (Option (List Char)) := do
  match ← h.fileParameter? with
  | none => return none
  | some v => return some (Text.trimBy Text.isSpace (← v.collapse))

/-- Whether the header says that an entity is an attachment. -/
def isDisposedAsAttachment (h : Head) : Bool :=
  (h.value? "content-disposition").any fun v => Parameter.mainValue v == "attachment".toList

/-- The name of the character set that the octets of an encoded parameter spell, or the text of the
parameter if they spell none. -/
def spelled (charset : Option (List Char)) (text : List Char) : Except Defect (List Char) :=
  let name := nameOr "us-ascii" charset
  match charsetNamed name with
  | .error d => .error d
  | .ok none => .ok text
  | .ok (some cs) =>
    match cs.decodeStrict? (EncodedWord.octets text) with
    | .error r => .error (.refused name r)
    | .ok t => .ok (t.getD text)

/-- The name of the character set of a text; a name that is not ASCII is none. -/
def charset? (h : Head) : Except Defect (Option (List Char)) := do
  match ← h.parameter? "content-type" "charset" with
  | none => return none
  | some v =>
    let name ← match v with
      | .plain t => .ok t
      | .extended cs _ t => spelled cs t
    return if name.all fun c => c.toNat < 0x80 then some (Text.lowerChars name) else none

/-- The transfer coding in lower case, empty if none is named. -/
def transferCoding (h : Head) : List Char :=
  ((h.value? "content-transfer-encoding").map Text.lowerChars).getD []

end Head

namespace Entity

def head : Entity → Head
  | leaf h _ => h
  | container h _ _ _ => h

end Entity

end Mailroom.Mail
