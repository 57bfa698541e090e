import Mailroom.Check
import Mailroom.Search.Criteria

/-!
# Search requests

What a caller may ask of a search, the rules that make a request sensible, and the criteria that a
sensible request stands for.
-/

namespace Mailroom.Search

structure Request where
  mailbox : String
  accountId : String
  cursor : Option String
  query : Option String
  sender : Option String
  recipient : Option String
  subject : Option String
  unreadOnly : Option Bool
  lastDays : Option Int
  startDate : Option String
  endDate : Option String
  limit : Int
  includeSnippet : Bool
  snippetMaxChars : Option Int
deriving DecidableEq, Repr

def maxLimit : Int := 50

def defaultLimit : Int := 10

def defaultSnippetMaxChars : Int := 200

namespace Request

def hasFilters (r : Request) : Bool :=
  r.query.isSome || r.sender.isSome || r.recipient.isSome || r.subject.isSome ||
    r.unreadOnly.isSome || r.lastDays.isSome || r.startDate.isSome || r.endDate.isSome

def whenGiven {α β : Type} (v : Option α) (check : α → Except Error β) :
    Except Error (Option β) :=
  match v with
  | none => .ok none
  | some a => (check a).map some

def validate (r : Request) : Except Error Unit := do
  Check.accountId r.accountId
  Check.mailbox r.mailbox
  Check.range r.limit 1 maxLimit "limit"
  discard <| whenGiven r.lastDays (Check.range · 1 365 "last_days")
  discard <| whenGiven r.snippetMaxChars (Check.range · 50 500 "snippet_max_chars")
  if r.snippetMaxChars.isSome && !r.includeSnippet then
    throw .snippetLengthAlone
  [r.query, r.sender, r.recipient, r.subject].forM fun v =>
    discard <| whenGiven v (Check.searchText · "search text")
  if r.cursor.isSome && r.hasFilters then
    throw .cursorWithFilters
  if r.lastDays.isSome && (r.startDate.isSome || r.endDate.isSome) then
    throw .daysWithDates
  let start ← whenGiven r.startDate (Check.date · "start_date")
  let stop ← whenGiven r.endDate (Check.date · "end_date")
  match start, stop with
  | some a, some b => if b.before a then throw .datesReversed
  | _, _ => pure ()

/-- A date some days away, which may lie outside the calendar. -/
def shifted (d : Date) (days : Int) : Except Failure Date :=
  match d.addDays? days with
  | some d => .ok d
  | none => .error (.escaped .dateOutOfRange)

def dateOf (s field : String) : Except Failure Date :=
  (Check.date s field).mapError .refused

/-- The keys of a request, given today's date. An end date is inclusive, so the search ends before
the day after it. -/
def keys (r : Request) (today : Date) : Except Failure (List Key) := do
  let since ← match r.lastDays with
    | none => pure none
    | some n => (shifted today (-n)).map some
  let start ← match r.startDate with
    | none => pure none
    | some s => (dateOf s "start_date").map some
  let stop ← match r.endDate with
    | none => pure none
    | some s => (dateOf s "end_date").bind fun d => (shifted d 1).map some
  let ks := (r.query.map Key.text).toList ++ (r.sender.map Key.sender).toList ++
    (r.recipient.map Key.recipient).toList ++ (r.subject.map Key.subject).toList ++
    (if r.unreadOnly = some true then [Key.unseen] else []) ++
    (since.map Key.since).toList ++ (start.map Key.since).toList ++
    (stop.map Key.before).toList
  return if ks.isEmpty then [Key.all] else ks

def criteria (r : Request) (today : Date) : Except Failure (List Atom) :=
  (r.keys today).map atoms

end Request

end Mailroom.Search
