import Mailroom.Answer.Basic
import Mailroom.Task.Service

/-!
# Searching

A search gives its messages page by page. The first page takes a snapshot of the messages found;
a cursor stands for the rest of it. One message of which nothing can be told does not spoil a page.
-/

namespace Mailroom

open Imap

def maxMatches : Nat := 20000

/-- The messages found by a search and how far they have been paged, with the cursor that holds
them, if one does. -/
structure Snapshot where
  uids : List Int
  offset : Int
  includeSnippet : Bool
  snippetMaxChars : Int
  cursor : Option String
deriving DecidableEq, Repr

/-- A place in a list of some length; a negative one is counted from the end. -/
def place (length : Nat) (i : Int) : Nat :=
  if i < 0 then (length + i).toNat else i.toNat

def slice {α : Type} (xs : List α) (start stop : Int) : List α :=
  (xs.take (place xs.length stop)).drop (place xs.length start)

namespace Task

variable {σ α : Type}

/-- Uses the cursor store at the present time. -/
def cursors (f : Instant → Cursor.Store → α × Cursor.Store) : Task σ α := do
  let w ← get
  let (a, store) := f (Instant.ofMillis w.clock) w.cursors
  set { w with cursors := store }
  return a

end Task

namespace Service

variable {σ : Type}

def cursorPolicy (v : Service σ) : Cursor.Policy :=
  ⟨v.settings.cursorCapacity, Instant.after v.settings.cursorTtl⟩

/-- The answer of a search that got no messages. -/
def failedSearch (r : Search.Request) (stage : String) (e : Error) : Task σ Answer.Page := do
  let issues := [Issue.ofError stage e none none]
  Task.logIssues Tool.searchMessages .failed r.accountId (some r.mailbox) issues
  return ⟨.failed, issues, .verify r.accountId, r.accountId, r.mailbox, 0, 0, [], none⟩

/-- The snapshot under a cursor, which has to be of the same account and mailbox. If the mailbox's
UIDVALIDITY changed since, the cursor is given up. -/
def resume (r : Search.Request) (epoch : Int) (token : String) : Task σ Snapshot := do
  match ← Task.cursors fun now store => store.get now token with
  | none => Task.refuse .unknownCursor
  | some e =>
    if e.accountId ≠ r.accountId ∨ e.mailbox ≠ r.mailbox then
      Task.refuse .foreignCursor
    else if e.uidvalidity ≠ epoch then
      Task.cursors fun now store => ((), store.delete now token)
      Task.refuse .snapshotEpoch
    else
      return ⟨e.uids, e.offset, e.includeSnippet, e.snippetMaxChars, some token⟩

def start (v : Service σ) (session : Session) (r : Search.Request) : Task σ Snapshot := do
  let criteria ← Task.ofExcept (r.criteria v.today.date)
  let uids ← session.search v.peer criteria
  if maxMatches < uids.length then
    Task.refuse (.tooManyMatches uids.length maxMatches)
  else
    return ⟨uids, 0, r.includeSnippet,
      r.snippetMaxChars.getD Search.defaultSnippetMaxChars, none⟩

/-- The snapshot that a request is about, or the answer that there is none. -/
def snapshot (v : Service σ) (session : Session) (r : Search.Request) (epoch : Int) :
    Task σ (Except Answer.Page Snapshot) := do
  match r.cursor with
  | some token => return .ok (← resume r epoch token)
  | none =>
    match ← Task.attempt (v.start session r) with
    | .ok s => return .ok s
    | .error e =>
      if e.code = .invalidInput ∨ e.code = .conflict then
        Task.refuse e
      else
        return .error (← failedSearch r "uid_search" e)

def headerPairs (header : Value) : Except Error (List (String × String)) :=
  match header.octets? with
  | some octets => Mail.headerOf octets
  | none => .error (.unreadableHeaders "the header does not consist of octets")

/-- What is told of a message with some header and flags. -/
def row (r : Search.Request) (epoch : Int) (s : Snapshot) (uid : Int)
    (headers : List (String × String)) (flags : List String) : MessageRow :=
  let subject := Mail.valueOf headers "subject"
  { id := ⟨r.accountId, r.mailbox, epoch, uid⟩
    date := Mail.valueOf headers "date"
    sender := Mail.valueOf headers "from"
    subject := subject
    flags := flags
    snippet := if s.includeSnippet then subject.map fun t => Text.truncate t s.snippetMaxChars
      else none }

def fetchRow (v : Service σ) (session : Session) (r : Search.Request) (epoch : Int)
    (s : Snapshot) (uid : Int) : Task σ (Except Issue MessageRow) := do
  match ← Task.attempt (session.fetchHeader v.peer uid) with
  | .error e => return .error (Issue.ofError "fetch_headers_and_flags" e (some uid) none)
  | .ok (header, flags) =>
    match headerPairs header with
    | .error e => return .error (Issue.ofError "parse_header_bytes" e (some uid) none)
    | .ok headers => return .ok (row r epoch s uid headers flags)

/-- A page of a snapshot, each message with what can be told of it or why nothing can. -/
structure Sheet where
  epoch : Int
  snapshot : Snapshot
  rows : List (Except Issue MessageRow)

namespace Sheet

def messages (s : Sheet) : List MessageRow :=
  s.rows.filterMap Except.toOption

def issues (s : Sheet) : List Issue :=
  s.rows.filterMap fun
    | .ok _ => none
    | .error i => some i

def nextOffset (s : Sheet) : Int :=
  s.snapshot.offset + s.rows.length

end Sheet

/-- Looks at the page that a request is about, within a session. -/
def readSheet (v : Service σ) (session : Session) (r : Search.Request) :
    Task σ (Except Answer.Page Sheet) := do
  match ← Task.attempt (session.select v.peer r.mailbox true) with
  | .error e => return .error (← failedSearch r "select_mailbox_readonly" e)
  | .ok epoch =>
    match ← v.snapshot session r epoch with
    | .error page => return .error page
    | .ok s =>
      if (s.uids.length : Int) < s.offset then
        Task.refuse .cursorOutOfRange
      else
        let page := slice s.uids s.offset (s.offset + r.limit)
        return .ok ⟨epoch, s, ← page.mapM (v.fetchRow session r epoch s)⟩

/-- Moves the cursor behind a page, makes one for a first page, or gives it up after the last page.
Gives the cursor for the next page. -/
def advance (v : Service σ) (r : Search.Request) (s : Sheet) : Task σ (Option String) :=
  if s.snapshot.uids.length ≤ s.nextOffset then
    match s.snapshot.cursor with
    | some token => Task.cursors fun now store => (none, store.delete now token)
    | none => return none
  else
    match s.snapshot.cursor with
    | some token => Task.cursors fun now store =>
      (some token, store.advance v.cursorPolicy now token s.nextOffset)
    | none => Task.cursors fun now store =>
      let (token, store) := store.create v.cursorPolicy now {
        accountId := r.accountId
        mailbox := r.mailbox
        uidvalidity := s.epoch
        uids := s.snapshot.uids
        offset := s.nextOffset
        includeSnippet := s.snapshot.includeSnippet
        snippetMaxChars := s.snapshot.snippetMaxChars
        expiresAt := 0 }
      (some token, store)

def page (v : Service σ) (r : Search.Request) (s : Sheet) : Task σ Answer.Page := do
  let cursor ← v.advance r s
  let total := s.snapshot.uids.length
  let status := Status.of s.issues.isEmpty (!s.messages.isEmpty)
  Task.logIssues Tool.searchMessages status r.accountId (some r.mailbox) s.issues
  Task.log .info .search (s!"Search in {r.mailbox} returned {s.messages.length} of {total} " ++
    s!"(offset {s.snapshot.offset})")
  return ⟨status, s.issues,
    NextAction.afterSearch status r.accountId r.mailbox r.limit cursor
      (s.messages.map fun m => m.id.encode),
    r.accountId, r.mailbox, total, s.rows.length, s.messages, cursor⟩

def search (v : Service σ) (r : Search.Request) : Task σ Answer.Page := do
  Task.check r.validate
  let account ← v.account r.accountId
  match ← Task.attempt (v.connect account) with
  | .error e => failedSearch r "connect_authenticated" e
  | .ok session =>
    match ← session.within v.peer (v.readSheet session r) with
    | .error page => return page
    | .ok sheet => v.page r sheet

end Service

end Mailroom
