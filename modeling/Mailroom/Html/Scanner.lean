import Mailroom.Html.Reference
import Mailroom.Text.Case
import Mailroom.Text.Space

/-!
# Scanning markup

Cuts a document into tokens, the pieces of its markup. The document is scanned twice: a first pass
stops before a construct that more input could complete, and the last pass takes what is left as it
is. A pass also stops after certain malformed references, so a second one in the rest leaves
everything after it as text.
-/

namespace Mailroom.Html

inductive Token where
  | text (s : List Char)
  | start (name : String) (attributes : List (String × String)) (selfClosing : Bool)
  | stop (name : String)
  | comment (s : List Char)
  | instruction (s : List Char)
  | doctype (s : List Char)
  /-- A marked section `<![name …]>`, from its name on. -/
  | marked (s : List Char)
deriving DecidableEq, Repr

namespace Scanner

def isLetter (c : Char) : Bool :=
  ('a' ≤ c && c ≤ 'z') || ('A' ≤ c && c ≤ 'Z')

/-- The rest after blanks and slashes, without a slash that stands before `>`. -/
def afterGap : List Char → List Char
  | [] => []
  | c :: r => if Text.isSpace c || (c == '/' && r.head? != some '>') then afterGap r else c :: r

def isQuote (c : Char) : Bool :=
  c == '"' || c == '\''

/-- Whether a character may stand in the name of a tag after its first letter. -/
def isTagNameChar (c : Char) : Bool :=
  !(c == '\t' || c == '\n' || c == '\r' || c.toNat == 0xc || c == ' ' || c == '/' || c == '>' ||
    c.toNat == 0)

/-- Whether a character may stand in the name of an attribute. -/
def isAttributeChar (c : Char) : Bool :=
  !(Text.isSpace c || c == '/' || c == '=' || c == '>')

/-- The part of a text before the first `c`, and the part after it. -/
def cutAt? (c : Char) (s : List Char) : Option (List Char × List Char) :=
  match s.dropWhile (· != c) with
  | [] => none
  | _ :: r => some (s.takeWhile (· != c), r)

/-- The value that may follow an attribute's name, as it is written without its quotes. A quote
that is not closed begins no value. -/
def value? (s : List Char) : Option (List Char × List Char) :=
  let signs := s.dropWhile Text.isSpace
  if signs.head? == some '=' then
    let gap := signs.dropWhile (· == '=')
    let bare (t : List Char) :=
      (t.takeWhile fun c => c != '>' && !Text.isSpace c,
        t.dropWhile fun c => c != '>' && !Text.isSpace c)
    match gap.dropWhile Text.isSpace with
    | [] => some ([], [])
    | q :: r =>
      if !isQuote q then
        some (bare (q :: r))
      else
        match cutAt? q r with
        | some found => some found
        | none =>
          if gap.head?.any Text.isSpace then some ([], ' ' :: q :: r)
          else if (signs.takeWhile (· == '=')).length == 1 then none
          else some (bare ('=' :: q :: r))
  else
    none

def mayPrecedeName (c : Char) : Bool :=
  isQuote c || Text.isSpace c || c == '/'

/-- Reads attributes as far as there are any, `before` being the character in front of `s`. The
values stand as they are written. -/
def attributesOnto (done : List (List Char × List Char)) :
    Nat → Char → List Char → List (List Char × List Char) × List Char
  | 0, _, s => (done.reverse, s)
  | fuel + 1, before, s =>
    match s with
    | [] => (done.reverse, s)
    | c :: r =>
      if mayPrecedeName before && (c == '=' || isAttributeChar c) then
        let name := c :: r.takeWhile isAttributeChar
        let rest := r.dropWhile isAttributeChar
        match value? rest with
        | none =>
          let last := if rest.head?.any mayPrecedeName then ' ' else name.getLastD c
          attributesOnto ((name, []) :: done) fuel last (afterGap rest)
        | some (v, rest) => attributesOnto ((name, v) :: done) fuel ' ' (afterGap rest)
      else
        (done.reverse, s)

def lowerName (name : List Char) : String :=
  String.ofList (Text.lowerChars name)

/-- The attributes by lower-case names and with their references replaced. -/
def finished (attributes : List (List Char × List Char)) :
    Except Escape (List (String × String)) :=
  attributes.mapM fun (name, v) => do
    return (lowerName name, String.ofList (← Reference.expand v))

inductive Found where
  | token (t : Token) (rest : List Char)
  | nothing (rest : List Char)
  | incomplete
deriving DecidableEq, Repr

/-- Reads a start tag after its `<`, which a letter follows. -/
def startTag (fuel : Nat) (s : List Char) : Except Escape Found :=
  let name := s.takeWhile isTagNameChar
  let afterName := s.dropWhile isTagNameChar
  let body := afterGap afterName
  let before := match afterName with
    | c :: _ => if mayPrecedeName c then ' ' else name.getLastD ' '
    | [] => ' '
  let (attributes, rest) := attributesOnto [] fuel before body
  match rest with
  | [] => .ok .incomplete
  | '>' :: r => do
    return .token (.start (lowerName name) (← finished attributes) false) r
  | '/' :: '>' :: r => do
    return .token (.start (lowerName name) (← finished attributes) true) r
  | c :: _ =>
    if c == '=' || c == '/' || isLetter c then
      .ok .incomplete
    else do
      discard <| finished attributes
      return .token (.text ('<' :: s.take (s.length - rest.length))) rest

def isEndNameChar (c : Char) : Bool :=
  c.toNat < 0x80 && (c.isAlphanum || c == '-' || c == '.' || c == ':' || c == '_')

def endTag (s : List Char) : Found :=
  match cutAt? '>' s with
  | none => .incomplete
  | some (inside, rest) =>
    let t := s.dropWhile Text.isSpace
    let plain := t.takeWhile isEndNameChar
    let closing := (t.dropWhile isEndNameChar).dropWhile Text.isSpace
    if t.head?.any isLetter && closing.head? == some '>' then
      .token (.stop (lowerName plain)) rest
    else if s.head?.any isLetter then
      .token (.stop (lowerName (s.takeWhile isTagNameChar))) rest
    else if inside.isEmpty then
      .nothing rest
    else
      .token (.comment inside) rest

/-- Cuts a text at the first place where `close?` recognises the end of what stands before; `done`
holds the characters passed, last first. -/
def cutOnto? (close? : List Char → Option (List Char)) (done : List Char) :
    List Char → Option (List Char × List Char)
  | [] => none
  | c :: r =>
    match close? (c :: r) with
    | some rest => some (done.reverse, rest)
    | none => cutOnto? close? (c :: done) r

def closing? (s : List Char) : Option (List Char) :=
  match s.dropWhile Text.isSpace with
  | '>' :: r => some r
  | _ => none

def commentEnd? : List Char → Option (List Char)
  | '-' :: '-' :: r => closing? r
  | _ => none

def conditionEnd? : List Char → Option (List Char)
  | ']' :: r => closing? r
  | _ => none

def sectionEnd? : List Char → Option (List Char)
  | ']' :: r => conditionEnd? (r.dropWhile Text.isSpace)
  | _ => none

def markedSection (s : List Char) : Except Escape Found :=
  let isNameChar (c : Char) : Bool :=
    c.toNat < 0x80 && (c.isAlphanum || c == '-' || c == '_' || c == '.')
  match s with
  | [] => .ok .incomplete
  | c :: r =>
    if !isLetter c then
      .error .rejectedMarkup
    else if ((r.dropWhile isNameChar).dropWhile Text.isSpace).isEmpty then
      .ok .incomplete
    else
      let name := lowerName (c :: r.takeWhile isNameChar)
      let cut (found : Option (List Char × List Char)) : Found :=
        match found with
        | some (inside, rest) => .token (.marked inside) rest
        | none => .incomplete
      if ["temp", "cdata", "ignore", "include", "rcdata"].contains name then
        .ok (cut (cutOnto? sectionEnd? [] s))
      else if ["if", "else", "endif"].contains name then
        .ok (cut (cutOnto? conditionEnd? [] s))
      else
        .error .rejectedMarkup

def declaration (s : List Char) : Except Escape Found :=
  let upTo (token : List Char → Token) : Found :=
    match cutAt? '>' s with
    | some (inside, rest) => .token (token inside) rest
    | none => .incomplete
  match s with
  | '-' :: '-' :: r =>
    match cutOnto? commentEnd? [] r with
    | some (inside, rest) => .ok (.token (.comment inside) rest)
    | none => .ok .incomplete
  | '[' :: r => markedSection r
  | _ =>
    if (s.take 7).map Char.toLower == "doctype".toList then .ok (upTo .doctype)
    else .ok (upTo .comment)

def tag (fuel : Nat) (s : List Char) : Except Escape Found :=
  match s with
  | [] => .ok .incomplete
  | '/' :: r => .ok (endTag r)
  | '!' :: r => declaration r
  | '?' :: r =>
    match cutAt? '>' r with
    | some (inside, rest) => .ok (.token (.instruction inside) rest)
    | none => .ok .incomplete
  | c :: r => if isLetter c then startTag fuel (c :: r) else .ok (.token (.text ['<']) (c :: r))

/-- An incomplete tag taken as text: up to the next `>` with it, else up to the next `<`, else its
first character alone. -/
def brokenTag (s : List Char) : List Char × List Char :=
  match cutAt? '>' s with
  | some (inside, rest) => ('<' :: inside ++ ['>'], rest)
  | none => if s.contains '<' then ('<' :: s.takeWhile (· != '<'), s.dropWhile (· != '<'))
    else (['<'], s)

def afterSemicolon : List Char → List Char
  | ';' :: r => r
  | r => r

/-- The numeric reference after `&#`: its character and the rest. A character that is no
hexadecimal digit has to follow. -/
def numericReference? (s : List Char) : Except Escape (Option (Char × List Char)) :=
  let follows (r : List Char) : Bool := r.head?.any (!Reference.isHexDigit ·)
  match s with
  | [] => .ok none
  | x :: r =>
    if x == 'x' || x == 'X' then
      let ds := r.takeWhile Reference.isHexDigit
      let rest := r.dropWhile Reference.isHexDigit
      if ds.isEmpty || !follows rest then .ok none
      else .ok (some (Reference.inText (Reference.ofHexDigits ds), afterSemicolon rest))
    else
      let ds := s.takeWhile Char.isDigit
      let rest := s.dropWhile Char.isDigit
      if ds.isEmpty || !follows rest then .ok none
      else do
        let n ← Reference.decimal ds
        return some (Reference.inText n, afterSemicolon rest)

def isEntityChar (c : Char) : Bool :=
  c.toNat < 0x80 && (c.isAlphanum || c == '-' || c == '.')

/-- The named reference after `&`: its text and the rest. A character that is no letter or digit
has to follow; at the end of the text a hyphen or point of the name itself serves as one. -/
def namedReference? (s : List Char) : Option (List Char × List Char) :=
  let run := s.takeWhile isEntityChar
  let text (name : List Char) : List Char :=
    (Reference.named? name).getD ('&' :: name)
  if !s.head?.any isLetter then
    none
  else
    match s.dropWhile isEntityChar with
    | c :: r => some (text run, afterSemicolon (c :: r))
    | [] =>
      let tail := run.reverse.takeWhile fun c => c != '-' && c != '.'
      match run.reverse.dropWhile fun c => c != '-' && c != '.' with
      | [] => none
      | c :: name => some (text name.reverse, c :: tail.reverse)

/-- Where a pass stopped: the tokens so far, last first, the element whose raw text it is in, and
the rest. -/
structure Stopped where
  done : List Token
  rawElement : Option String
  rest : List Char
deriving DecidableEq, Repr

def rawEnd? (name : List Char) : List Char → Option (List Char)
  | '<' :: '/' :: r =>
    let t := r.dropWhile Text.isSpace
    if (t.take name.length).map Char.toLower == name then closing? (t.drop name.length) else none
  | _ => none

def rawElementOf : Token → Option String
  | .start name _ false => if name == "script" || name == "style" then some name else none
  | _ => none

def withText (s : List Char) (ts : List Token) : List Token :=
  if s.isEmpty then ts else .text s :: ts

/-- One pass over a text. No step takes less than one character, so the length of the text plus
one is fuel enough. -/
def pass (final : Bool) (done : List Token) :
    Nat → Option String → List Char → Except Escape Stopped
  | 0, raw, s => .ok ⟨done, raw, s⟩
  | fuel + 1, some name, s =>
    match cutOnto? (rawEnd? name.toList) [] s with
    | some (inside, rest) => pass final (.stop name :: withText inside done) fuel none rest
    | none => .ok ⟨done, some name, s⟩
  | fuel + 1, none, s =>
    let isPlain (c : Char) : Bool := c != '&' && c != '<'
    let plain := s.takeWhile isPlain
    let done := withText plain done
    match s.dropWhile isPlain with
    | [] => .ok ⟨done, none, []⟩
    | '<' :: r =>
      match tag fuel r with
      | .error e => .error e
      | .ok (.token t rest) => pass final (t :: done) fuel (rawElementOf t) rest
      | .ok (.nothing rest) => pass final done fuel none rest
      | .ok .incomplete =>
        if final && !r.isEmpty then
          pass final (.text (brokenTag r).1 :: done) fuel none (brokenTag r).2
        else
          .ok ⟨done, none, '<' :: r⟩
    | a :: '#' :: r =>
      match numericReference? r with
      | .error e => .error e
      | .ok (some (c, rest)) => pass final (.text [c] :: done) fuel none rest
      | .ok none =>
        if r.contains ';' then .ok ⟨.text ['&', '#'] :: done, none, r⟩
        else .ok ⟨done, none, a :: '#' :: r⟩
    | a :: r =>
      match namedReference? r with
      | some (t, rest) => pass final (.text t :: done) fuel none rest
      | none =>
        match r with
        | [] => .ok ⟨done, none, [a]⟩
        | [c] =>
          if isLetter c then .ok ⟨done, none, if final then [c] else [a, c]⟩
          else pass final (.text ['&'] :: done) fuel none [c]
        | c :: r =>
          if isLetter c then .ok ⟨done, none, a :: c :: r⟩
          else pass final (.text ['&'] :: done) fuel none (c :: r)

/-- The tokens of a document. What is left after the last pass is text, unless it stands in raw
text that is never closed. -/
def tokens (s : List Char) : Except Escape (List Token) := do
  let first ← pass false [] (s.length + 1) none s
  let last ← pass true first.done (first.rest.length + 1) first.rawElement first.rest
  if last.rawElement.isNone && !last.rest.isEmpty then
    return (.text last.rest :: last.done).reverse
  else
    return last.done.reverse

end Scanner

end Mailroom.Html
