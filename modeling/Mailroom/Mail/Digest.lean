import Mailroom.Html.Printer
import Mailroom.Mail.Body
import Mailroom.Mail.EntityReader
import Mailroom.Mail.Flatten

/-!
# What a reader gets to see of a message

The fields that everybody wants, the first text and the first markup that are not attached, and
the attachments. Entities are numbered by their path: the message is `1`, its parts are `1.1`,
`1.2` and so on.
-/

namespace Mailroom.Mail

structure Attachment where
  fileName : Option String
  contentType : String
  size : Nat
  partId : String
  text : Option String
deriving DecidableEq, Repr

structure Digest where
  headers : List (String × String)
  bodyText : Option String
  bodyHtml : Option String
  attachments : List Attachment
deriving DecidableEq, Repr

/-- The text of each page of a PDF document, if the document can be read; a page has none if it
holds no text. -/
abbrev PdfReader := List UInt8 → Option (List (Option String))

structure DigestOptions where
  bodyMaxChars : Int
  includeHtml : Bool
  extractText : Bool
  attachmentMaxChars : Int
  pdf : PdfReader

def maxPdfSize : Nat := 5000000

/-- The text of a document: its pages that hold more than blanks, with blank lines between. -/
def pdfText (pdf : PdfReader) (source : List UInt8) : Option String :=
  match pdf source with
  | none => none
  | some pages =>
    let texts := (pages.map fun p => Text.strip (p.getD "")).filter (!·.isEmpty)
    if texts.isEmpty then none else some ("\n\n".intercalate texts)

namespace Entity

/-- The octets that an attached entity holds: those of its text, or the source of the entities in
it. -/
def octets : Entity → Except Escape (List UInt8)
  | .leaf h text => .ok (h.decodeTransfer text)
  | .container _ _ _ parts => (writeAll columns parts).map List.flatten

def fileName (e : Entity) : Except Defect (Option String) := do
  match ← e.head.fileName? with
  | none => return none
  | some name => return some (String.ofList (← EncodedWord.decodeChars name))

def chars : Entity → Except Defect (List Char)
  | .leaf h text => h.decodeText text
  | .container .. => .ok []

def attachment (o : DigestOptions) (path : String) (e : Entity) (name : Option String) :
    Except Escape Attachment := do
  let source ← e.octets
  let type := String.ofList e.head.contentType
  let text := if o.extractText && type == "application/pdf" && source.length ≤ maxPdfSize then
      (pdfText o.pdf source).map fun t => Text.truncate t o.attachmentMaxChars
    else
      none
  return ⟨name, type, source.length, path, text⟩

def collectLeaf (o : DigestOptions) (path : String) (d : Digest) (e : Entity) :
    Except Escape Digest := do
  let name ← e.fileName.mapError Defect.escape
  if e.head.isDisposedAsAttachment || name.isSome then
    return { d with attachments := d.attachments ++ [← e.attachment o path name] }
  else if e.head.contentType == Head.plainType && d.bodyText.isNone then
    return { d with bodyText := some (String.ofList (← e.chars.mapError Defect.escape)) }
  else if e.head.contentType == "text/html".toList && d.bodyHtml.isNone then
    let markup := String.ofList (← e.chars.mapError Defect.escape)
    return { d with bodyHtml := some (← Html.sanitize markup) }
  else
    return d

end Entity

mutual

/-- Adds an entity to a digest, a multipart by its parts. -/
def Entity.collect (o : DigestOptions) (path : String) (d : Digest) :
    Entity → Except Escape Digest
  | .leaf h text => Entity.collectLeaf o path d (.leaf h text)
  | .container h before after parts =>
    if h.isMultipart then
      collectAll o path 1 d parts
    else
      Entity.collectLeaf o path d (.container h before after parts)

/-- Adds parts to a digest, counted from `index`. -/
def collectAll (o : DigestOptions) (path : String) (index : Nat) (d : Digest) :
    List Entity → Except Escape Digest
  | [] => .ok d
  | e :: es => do
    collectAll o path (index + 1) (← e.collect o s!"{path}.{index}" d) es

end

namespace Digest

def cut (o : DigestOptions) (d : Digest) : Digest :=
  { d with
    bodyText := d.bodyText.map fun t => Text.truncate t o.bodyMaxChars
    bodyHtml := if o.includeHtml then d.bodyHtml.map fun t => Text.truncate t o.bodyMaxChars
      else none }

/-- The message of a source with its header. -/
def readWithHeaders (source : List UInt8) : Except Defect (Entity × List (String × String)) := do
  let e ← Entity.read source
  return (e, ← pairs e.head.fields)

def read (o : DigestOptions) (source : List UInt8) : Except Failure Digest := do
  let (e, headers) ← (readWithHeaders source).mapError fun d =>
    .refused (.unreadableMessage d.message)
  let d ← (e.collect o "1" ⟨headers, none, none, []⟩).mapError .escaped
  return d.cut o

def date (d : Digest) : Option String := valueOf d.headers "date"

def sender (d : Digest) : Option String := valueOf d.headers "from"

def recipient (d : Digest) : Option String := valueOf d.headers "to"

def copied (d : Digest) : Option String := valueOf d.headers "cc"

def subject (d : Digest) : Option String := valueOf d.headers "subject"

end Digest

end Mailroom.Mail
