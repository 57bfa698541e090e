import Mailroom.Error
import Mailroom.Search.Request
import Mailroom.Tool.Catalogue

/-!
# Arguments of a call

Checking arguments against a tool's schema, and reading a command from arguments that passed. A
null value counts as an absent one.
-/

namespace Mailroom

abbrev Arguments := List (String × Json)

namespace Arguments

def present (as : Arguments) : Arguments :=
  as.filter fun a => !a.2.isNull

/-- Whether a value is of a kind; numbers with a fraction are no integers. -/
def isOfKind (kind : ArgumentKind) (j : Json) : Bool :=
  match kind, j with
  | .string, .string _ => true
  | .integer, .integer _ => true
  | .boolean, .bool _ => true
  | .strings, .array _ => true
  | _, _ => false

/-- Whether a value is no list with other items than strings. -/
def itemsAreStrings : Json → Bool
  | .array items => items.all (·.string?.isSome)
  | _ => true

/-- Refuses a value of another kind than the tool declares. -/
def checkValue (t : Tool) (a : String × Json) : Except Error Unit :=
  match t.parameter? a.1 with
  | none => .ok ()
  | some p =>
    if !isOfKind p.kind a.2 then .error (.argumentType a.1 p.kind.name)
    else if !itemsAreStrings a.2 then .error (.argumentItems a.1)
    else .ok ()

def has (as : Arguments) (name : String) : Bool :=
  as.any (·.1 == name)

/-- The arguments that a tool is run with: those not null. The first of these faults is refused:
an unknown tool, unknown arguments, missing ones, a value of a wrong kind. -/
def check (tool : String) (as : Arguments) : Except Error Arguments :=
  match Tool.ofName? tool with
  | none => .error (.unknownTool tool)
  | some t => do
    let as := as.present
    let unknown := (as.map (·.1)).filter fun name => (t.parameter? name).isNone
    if !unknown.isEmpty then
      throw (.unknownArguments (unknown.mergeSort fun a b => a ≤ b))
    let missing := t.required.filter fun name => !as.has name
    if !missing.isEmpty then
      throw (.missingArguments missing)
    as.forM (checkValue t)
    return as

def value? (as : Arguments) (name : String) : Option Json :=
  Json.field? (.object as) name

def string? (as : Arguments) (name : String) : Option String :=
  (as.value? name).bind Json.string?

def bool? (as : Arguments) (name : String) : Option Bool :=
  (as.value? name).bind Json.bool?

def int? (as : Arguments) (name : String) : Option Int :=
  (as.value? name).bind Json.int?

def strings? (as : Arguments) (name : String) : Option (List String) :=
  ((as.value? name).bind Json.array?).map fun items => items.filterMap Json.string?

def accountId (as : Arguments) : String :=
  (as.string? "account_id").getD "default"

def searchRequest (as : Arguments) : Search.Request where
  mailbox := (as.string? "mailbox").getD ""
  accountId := as.accountId
  cursor := as.string? "cursor"
  query := as.string? "query"
  sender := as.string? "from"
  recipient := as.string? "to"
  subject := as.string? "subject"
  unreadOnly := as.bool? "unread_only"
  lastDays := as.int? "last_days"
  startDate := as.string? "start_date"
  endDate := as.string? "end_date"
  limit := (as.int? "limit").getD Search.defaultLimit
  includeSnippet := (as.bool? "include_snippet").getD false
  snippetMaxChars := as.int? "snippet_max_chars"

end Arguments

end Mailroom
