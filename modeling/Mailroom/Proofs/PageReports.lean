import Mailroom.Proofs.CursorBounds
import Mailroom.Proofs.CursorOrigins
import Mailroom.Proofs.LedgerTruth

/-!
# What a page reports

A search that has taken its snapshot gives a page, whatever becomes of its messages. Each message of
the page is told if its header was fetched and could be read, and is an issue if not; a fault that
breaks the conversation makes issues of all that come after it. The counts, the status and the
cursor agree with these two lists. Snippets are as the search asked that took the snapshot.
-/

namespace Mailroom

open Imap

section Fetching

/-- What a server tells of a message in reply to a fetch of its header. -/
structure Heading where
  headers : List (String × String)
  flags : List String

def Imap.Event.isFetch : Event → Bool
  | .called _ (.fetch ..) _ => true
  | _ => false

/-- The heading in the outcome of a fetch, if the message was found and its header can be read. -/
def headingIn (uid : Int) : Except Fault (List (Int × Items)) → Option Heading
  | .ok found => (Session.headOf uid found).bind fun x =>
    (Service.headerPairs x.1).toOption.map fun headers => ⟨headers, x.2⟩
  | .error _ => none

/-- What is found out about messages by fetching their headers, one after another. After a fault
that breaks the conversation no further call is made and nothing more is found out. -/
inductive Fetches (k : ClientId) : List (Int × Option Heading) → List Event → Prop where
  | done : Fetches k [] []
  | next (uid : Int) (o : Except Fault (List (Int × Items)))
      {told : List (Int × Option Heading)} {es : List Event}
      (ho : ∀ f, o = .error f → f.kind ∉ FaultKind.breaking) (hrest : Fetches k told es) :
    Fetches k ((uid, headingIn uid o) :: told)
      (.called k (.fetch uid [.flags, .headerFields]) o :: es)
  | broken (uid : Int) (f : Fault) (uids : List Int) (hf : f.kind ∈ FaultKind.breaking) :
    Fetches k ((uid, none) :: uids.map fun uid => (uid, none))
      [.called k (.fetch uid [.flags, .headerFields]) (.error f)]

lemma Fetches.isFetch {k : ClientId} {told : List (Int × Option Heading)} {es : List Event}
    (h : Fetches k told es) : ∀ e ∈ es, e.isFetch := by
  induction h with
  | done => exact List.forall_mem_nil _
  | next uid o ho hrest ih => exact List.forall_mem_cons.2 ⟨rfl, ih⟩
  | broken uid f uids hf => exact List.forall_mem_singleton.2 rfl

end Fetching

section Rows

variable {σ : Type} {v : Service σ} {r : Search.Request} {s : Session} {epoch uid : Int}
variable {n : Snapshot} {w w' : World σ} {row : Except Issue MessageRow}

/-- The row of a message renders its heading, or is an issue that names the message. -/
inductive Renders (r : Search.Request) (epoch : Int) (n : Snapshot) :
    Int × Option Heading → Except Issue MessageRow → Prop where
  | message (uid : Int) (t : Heading) :
    Renders r epoch n (uid, some t) (.ok (Service.row r epoch n uid t.headers t.flags))
  | issue (uid : Int) {i : Issue} (hi : i.uid = some uid) : Renders r epoch n (uid, none) (.error i)

/-- The message of a session in use is asked for, and its row renders what is answered. -/
lemma fetchRow_renders (hw : s.client ∉ w.abandoned)
    (h : Task.runIn w (v.fetchRow s r epoch n uid) = (.ok row, w')) :
    ∃ o, Added [.called s.client (.fetch uid [.flags, .headerFields]) o] w w' ∧
      Renders r epoch n (uid, headingIn uid o) row ∧
      (s.client ∈ w'.abandoned ↔ ∃ f, o = .error f ∧ f.kind ∈ FaultKind.breaking) := by
  have hreads := Session.reads_fetchHeader (p := v.peer) (s := s) uid
  obtain ⟨x, w₁, hattempt, h⟩ := Task.runIn_bind_eq_ok.1 h
  have hrun := Task.runIn_attempt_eq_ok.1 hattempt
  have hworld := hreads.issues.called w hw
  have hresult := hreads.result w hw
  rw [hrun] at hworld hresult
  obtain rfl : w₁ = Session.issued v.peer s _ w := hworld
  have hgone := Session.mem_issued_abandoned (p := v.peer) (s := s) (w := w)
    (c := .fetch uid [.flags, .headerFields])
  rw [or_iff_right hw] at hgone
  cases x with
  | error e =>
    cases h
    refine ⟨_, Session.issued_trace, ?_, hgone⟩
    have hnone : headingIn uid (v.peer.answer s.client (.fetch uid [.flags, .headerFields])
        w.remote).outcome = none := by
      refine Option.eq_none_iff_forall_ne_some.2 fun t ht => ?_
      cases ho : (v.peer.answer s.client (.fetch uid [.flags, .headerFields]) w.remote).outcome with
      | error f =>
        rw [ho] at ht
        cases ht
      | ok found =>
        rw [ho] at ht
        obtain ⟨y, hy, -⟩ := Option.bind_eq_some_iff.1 ht
        cases (hresult y).2 ⟨found, ho, hy⟩
    rw [hnone]
    exact .issue uid rfl
  | ok y =>
    obtain ⟨found, hfound, hy⟩ := (hresult y).1 rfl
    obtain ⟨header, flags⟩ := y
    have hread : headingIn uid (v.peer.answer s.client (.fetch uid [.flags, .headerFields])
        w.remote).outcome = (Service.headerPairs header).toOption.map fun headers =>
          ⟨headers, flags⟩ := by
      rw [hfound, headingIn, hy]
      rfl
    dsimp only at h
    refine ⟨(v.peer.answer s.client (.fetch uid [.flags, .headerFields]) w.remote).outcome, ?_⟩
    rw [hread]
    split at h
    · next hheader =>
      cases h
      refine ⟨Session.issued_trace, ?_, hgone⟩
      rw [hheader]
      exact .issue uid rfl
    · next headers hheader =>
      cases h
      refine ⟨Session.issued_trace, ?_, hgone⟩
      rw [hheader]
      exact .message uid ⟨headers, flags⟩

/-- The message of a session that was given up is not asked for. -/
lemma fetchRow_skips (hw : s.client ∈ w.abandoned)
    (h : Task.runIn w (v.fetchRow s r epoch n uid) = (.ok row, w')) :
    w' = w ∧ Renders r epoch n (uid, none) row := by
  obtain ⟨e, hrefused, -⟩ :=
    (Session.reads_fetchHeader (p := v.peer) (s := s) uid).issues.refused w hw
  obtain ⟨x, w₁, hattempt, h⟩ := Task.runIn_bind_eq_ok.1 h
  have hrun := Task.runIn_attempt_eq_ok.1 hattempt
  rw [hrefused] at hrun
  obtain ⟨hx, rfl⟩ := Prod.mk.inj hrun
  cases x with
  | ok y => cases hx
  | error e' =>
    cases h
    exact ⟨rfl, .issue uid rfl⟩

lemma fetchRows_skip {uids : List Int} {rows : List (Except Issue MessageRow)}
    (hw : s.client ∈ w.abandoned)
    (h : Task.runIn w (uids.mapM (v.fetchRow s r epoch n)) = (.ok rows, w')) :
    w' = w ∧ List.Forall₂ (Renders r epoch n) (uids.map fun uid => (uid, none)) rows := by
  induction uids generalizing rows with
  | nil =>
    cases h
    exact ⟨rfl, .nil⟩
  | cons uid uids ih =>
    rw [List.mapM_cons] at h
    obtain ⟨row, w₁, hrow, h⟩ := Task.runIn_bind_eq_ok.1 h
    obtain ⟨rows', w₂, hrows, h⟩ := Task.runIn_bind_eq_ok.1 h
    cases h
    obtain ⟨rfl, hrenders⟩ := fetchRow_skips hw hrow
    obtain ⟨rfl, hrest⟩ := ih hrows
    exact ⟨rfl, .cons hrenders hrest⟩

/-- The messages of a page are asked for one after another until the conversation breaks. -/
lemma fetchRows_render {uids : List Int} {rows : List (Except Issue MessageRow)}
    (hw : s.client ∉ w.abandoned)
    (h : Task.runIn w (uids.mapM (v.fetchRow s r epoch n)) = (.ok rows, w')) :
    ∃ told es, told.map Prod.fst = uids ∧ Fetches s.client told es ∧ Added es w w' ∧
      List.Forall₂ (Renders r epoch n) told rows := by
  induction uids generalizing w rows with
  | nil =>
    cases h
    exact ⟨[], [], rfl, .done, .nil _, .nil⟩
  | cons uid uids ih =>
    rw [List.mapM_cons] at h
    obtain ⟨row, w₁, hrow, h⟩ := Task.runIn_bind_eq_ok.1 h
    obtain ⟨rows', w₂, hrows, h⟩ := Task.runIn_bind_eq_ok.1 h
    cases h
    obtain ⟨o, hadded, hrenders, hgone⟩ := fetchRow_renders hw hrow
    by_cases hw₁ : s.client ∈ w₁.abandoned
    · obtain ⟨f, rfl, hf⟩ := hgone.1 hw₁
      obtain ⟨rfl, hrest⟩ := fetchRows_skip hw₁ hrows
      refine ⟨_, _, ?_, .broken uid f uids hf, hadded, .cons hrenders hrest⟩
      simp [Function.comp_def]
    · obtain ⟨told, es, rfl, hfetches, hadded', hrest⟩ := ih hw₁ hrows
      refine ⟨_, _, rfl, .next uid o (fun f ho hf => hw₁ (hgone.2 ⟨f, ho, hf⟩)) hfetches,
        hadded.trans hadded', .cons hrenders hrest⟩

end Rows

section Snapshots

variable {σ : Type} {v : Service σ} {r : Search.Request} {s : Session} {epoch : Int}
variable {n : Snapshot} {w w₂ w₃ : World σ}

/-- To take a snapshot or to go on with one no header is fetched, and the session stays in use. -/
lemma snapshot_quiet (hw : s.client ∉ w.abandoned)
    (h : Task.runIn w (v.snapshot s r epoch) = (.ok (.ok n), w₃)) :
    s.client ∉ w₃.abandoned ∧ ∃ es, Added es w w₃ ∧ ∀ e ∈ es, e.isFetch = false := by
  cases hcursor : r.cursor with
  | some token =>
    obtain ⟨e, -, -, -, -, -, rfl⟩ := (snapshot_resumed_iff hcursor).1 h
    exact ⟨hw, [], .nil w, List.forall_mem_nil _⟩
  | none =>
    obtain ⟨criteria, uids, hsearch, -⟩ := runIn_start_eq_ok (start_of_snapshot hcursor h)
    obtain ⟨ts, w₁, hissue, hnumbers⟩ := Task.runIn_bind_eq_ok.1 hsearch
    obtain ⟨_, -, hreplied⟩ := (Session.reads_issue "UID SEARCH").replied hissue
    have hstill := (Task.Still.mapM Session.still_number ts).bind (fun uids =>
      Task.Still.pure (newestFirst uids)) w₁
    obtain rfl : w₃ = w₁ := (congrArg Prod.snd hnumbers).symm.trans hstill
    exact ⟨hreplied.inUse, _, hreplied.added, List.forall_mem_singleton.2 rfl⟩

/-- A request is without a cursor and starts a search itself, or it goes on with the search that
gave its cursor. -/
def Service.GoesOnWith (v : Service σ) (w : World σ) (os : List (Occurrence σ))
    (r q : Search.Request) : Prop :=
  r.cursor = none ∧ q = r ∨ ∃ token, r.cursor = some token ∧ v.Gave w os q token

lemma Service.GoesOnWith.unique {os : List (Occurrence σ)} {q q' : Search.Request}
    (h : v.GoesOnWith w os r q) (h' : v.GoesOnWith w os r q') : q' = q := by
  rcases h with ⟨hnone, rfl⟩ | ⟨token, hsome, hgave⟩
  · rcases h' with ⟨-, rfl⟩ | ⟨token', hsome', -⟩
    · rfl
    · cases hnone.symm.trans hsome'
  · rcases h' with ⟨hnone', -⟩ | ⟨token', hsome', hgave'⟩
    · cases hnone'.symm.trans hsome
    · cases hsome.symm.trans hsome'
      exact hgave'.unique hgave

/-- The snapshot of a request is with what the search asked that was called first, whoever goes on
with it. -/
lemma snapshot_serves {u : Service σ} {remote : σ} {clock : Nat} {os : List (Occurrence σ)}
    (hselects : v.Selects (u.after (.start remote clock) os) r s epoch w₂)
    (hsnapshot : Task.runIn w₂ (v.snapshot s r epoch) = (.ok (.ok n), w₃)) :
    ∃ q, u.GoesOnWith (.start remote clock) os r q ∧ n.Serves q := by
  cases hcursor : r.cursor with
  | none => exact ⟨r, .inl ⟨hcursor, rfl⟩, serves_of_snapshot hcursor hsnapshot⟩
  | some token =>
    obtain ⟨e, hget, -, -, -, rfl, -⟩ := (snapshot_resumed_iff hcursor).1 hsnapshot
    rw [hselects.resting.1, (after_kept u remote clock os).sound.get_eq_some] at hget
    obtain ⟨q, hgave, hserves⟩ := Service.entry_given u remote clock os hget.1
    exact ⟨q, .inr ⟨token, hcursor, hgave⟩, hserves.includeSnippet, hserves.snippetMaxChars⟩

/-- A call that selects its mailbox in a world within the bounds has a snapshot that fits. -/
lemma snapshot_fits (hw : InBounds v w) (hvalid : r.validate = .ok ())
    (hselects : v.Selects w r s epoch w₂)
    (hsnapshot : Task.runIn w₂ (v.snapshot s r epoch) = (.ok (.ok n), w₃)) :
    n.Fits w₃.cursors := by
  obtain ⟨a, w₁, -, hconnect, hselect⟩ := hselects
  have hw₁ := (triple_logged (Footprint.covers_connect (fun _ _ _ => trivial) _ a)).ok hw hconnect
  have hw₂ := (triple_logged (Footprint.covers_select trivial)).ok hw₁ hselect
  exact ((triple_snapshot hvalid epoch).ok hw₂ hsnapshot).2 n rfl

end Snapshots

section Sheets

variable {σ : Type} {v : Service σ} {r q : Search.Request} {epoch : Int} {n : Snapshot}
variable {told : List (Int × Option Heading)} {rows : List (Except Issue MessageRow)}
variable {b : Service.Sheet} {w : World σ}

/-- The messages of which the heading is known. -/
def readable (told : List (Int × Option Heading)) : List (Int × Heading) :=
  told.filterMap fun x => x.2.map fun t => (x.1, t)

/-- The messages of which nothing is known. -/
def unreadable (told : List (Int × Option Heading)) : List Int :=
  (told.filter (·.2.isNone)).map Prod.fst

/-- The snippet of a message with some subject, as a search asks for it. -/
def Search.Request.snippetOf (q : Search.Request) (subject : Option String) : Option String :=
  if q.includeSnippet then
    subject.map fun t =>
      String.ofList (t.toList.take (q.snippetMaxChars.getD Search.defaultSnippetMaxChars).toNat)
  else
    none

/-- A message of a page is told as its heading says it, with the snippet that a search asks for. -/
structure MessageRow.Quotes (r q : Search.Request) (epoch : Int) (x : Int × Heading)
    (m : MessageRow) : Prop where
  id : m.id = ⟨r.accountId, r.mailbox, epoch, x.1⟩
  date : m.date = Mail.valueOf x.2.headers "date"
  sender : m.sender = Mail.valueOf x.2.headers "from"
  subject : m.subject = Mail.valueOf x.2.headers "subject"
  flags : m.flags = x.2.flags
  snippet : m.snippet = q.snippetOf m.subject

lemma row_quotes (hserves : n.Serves q) (hn : 0 ≤ n.snippetMaxChars) (uid : Int) (t : Heading) :
    (Service.row r epoch n uid t.headers t.flags).Quotes r q epoch (uid, t) := by
  refine ⟨rfl, rfl, rfl, rfl, rfl, ?_⟩
  unfold Search.Request.snippetOf
  rw [← hserves.includeSnippet, ← hserves.snippetMaxChars]
  simp only [Service.row, Text.truncate_of_nonneg hn]

lemma messages_quote (hserves : n.Serves q) (hn : 0 ≤ n.snippetMaxChars)
    (h : List.Forall₂ (Renders r epoch n) told rows) :
    List.Forall₂ (MessageRow.Quotes r q epoch) (readable told)
      (Service.Sheet.messages ⟨epoch, n, rows⟩) := by
  induction h with
  | nil => exact .nil
  | cons hrenders _ ih =>
    cases hrenders with
    | message uid t => exact .cons (row_quotes hserves hn uid t) ih
    | issue uid hi => exact ih

lemma issues_name (h : List.Forall₂ (Renders r epoch n) told rows) :
    (Service.Sheet.issues ⟨epoch, n, rows⟩).map (·.uid) = (unreadable told).map some := by
  induction h with
  | nil => rfl
  | cons hrenders _ ih =>
    cases hrenders with
    | message uid t => exact ih
    | issue uid hi => exact congrArg₂ List.cons hi ih

/-- Each message is either told of or an issue. -/
lemma Service.Sheet.length_rows : b.rows.length = b.messages.length + b.issues.length := by
  unfold messages issues
  induction b.rows with
  | nil => rfl
  | cons row rows ih =>
    cases row with
    | ok m => exact (congrArg Nat.succ ih).trans (Nat.succ_add _ _).symm
    | error i => exact congrArg Nat.succ ih

/-- What a page tells of its sheet, all in all. -/
structure Sums (b : Service.Sheet) (page : Answer.Page) : Prop extends Shows b page where
  total : page.total = b.snapshot.uids.length
  status : page.status = Status.of b.issues.isEmpty (!b.messages.isEmpty)
  more : page.nextCursor ≠ none ↔ b.nextOffset < b.snapshot.uids.length

/-- To make a page of a sheet the server is not asked. -/
lemma runIn_page : ∃ page w', Task.runIn w (v.page r b) = (.ok page, w') ∧ Sums b page ∧
    w'.trace = w.trace := by
  unfold Service.page Service.advance
  by_cases hlast : b.snapshot.uids.length ≤ b.nextOffset
  · rw [if_pos hlast]
    have hmore : (none : Option String) ≠ none ↔ b.nextOffset < b.snapshot.uids.length := by
      simpa using hlast
    cases b.snapshot.cursor with
    | none => exact ⟨_, _, rfl, ⟨⟨rfl, rfl, rfl⟩, rfl, rfl, hmore⟩, rfl⟩
    | some token => exact ⟨_, _, rfl, ⟨⟨rfl, rfl, rfl⟩, rfl, rfl, hmore⟩, rfl⟩
  · rw [if_neg hlast]
    have hmore : ∀ token : String, some token ≠ none ↔ b.nextOffset < b.snapshot.uids.length := by
      simpa using hlast
    cases b.snapshot.cursor with
    | none => exact ⟨_, _, rfl, ⟨⟨rfl, rfl, rfl⟩, rfl, rfl, hmore _⟩, rfl⟩
    | some token => exact ⟨_, _, rfl, ⟨⟨rfl, rfl, rfl⟩, rfl, rfl, hmore _⟩, rfl⟩

variable {page : Answer.Page}

/-- What a page tells of the messages `told` of a snapshot that was taken for a search `q`. -/
structure Answer.Page.Reports (r q : Search.Request) (epoch : Int) (n : Snapshot)
    (told : List (Int × Option Heading)) (page : Answer.Page) : Prop where
  total : page.toJson.field? "total" = some (Json.nat n.uids.length)
  attempted : page.toJson.field? "attempted" = some (Json.nat told.length)
  length : (told.length : Int) = min r.limit (n.uids.length - n.offset)
  returned : page.toJson.field? "returned" = some (Json.nat page.messages.length)
  failed : page.toJson.field? "failed" = some (Json.nat page.issues.length)
  counts : page.messages.length + page.issues.length = told.length
  messages : List.Forall₂ (MessageRow.Quotes r q epoch) (readable told) page.messages
  issues : page.issues.map (·.uid) = (unreadable told).map some
  ok : page.status = .ok ↔ page.issues = []
  failure : page.status = .failed ↔ page.issues ≠ [] ∧ page.messages = []
  incomplete : page.status = .incomplete ↔ page.issues ≠ [] ∧ page.messages ≠ []
  hasMore : page.toJson.field? "has_more" =
    some (.bool (decide (n.offset + told.length < n.uids.length)))
  nextCursor : page.nextCursor ≠ none ↔ n.offset + told.length < n.uids.length

lemma Sums.reports {store : Cursor.Store} (h : Sums ⟨epoch, n, rows⟩ page)
    (hrenders : List.Forall₂ (Renders r epoch n) told rows) (hserves : n.Serves q)
    (hfits : n.Fits store) (hlimit : 0 ≤ r.limit)
    (htold : told.map Prod.fst = (n.uids.drop n.offset.toNat).take r.limit.toNat) :
    page.Reports r q epoch n told := by
  have hstart := hfits.start
  have hrange := hfits.range
  have hsnippet : 0 ≤ n.snippetMaxChars := Int.le_trans (by decide) hfits.snippet.1
  have hrows : rows.length = told.length := hrenders.length_eq.symm
  have hsum : rows.length = page.messages.length + page.issues.length := by
    rw [h.messages, h.issues]
    exact Service.Sheet.length_rows (b := ⟨epoch, n, rows⟩)
  have hattempted : page.attempted = told.length := h.attempted.trans hrows
  have hlength : told.length = min r.limit.toNat (n.uids.length - n.offset.toNat) := by
    have hcounted := congrArg List.length htold
    rwa [List.length_map, List.length_take, List.length_drop] at hcounted
  have hmore : page.nextCursor ≠ none ↔ n.offset + told.length < n.uids.length := by
    rw [← hrows]
    exact h.more
  have hstatus : page.status = Status.of page.issues.isEmpty (!page.messages.isEmpty) := by
    rw [h.status, h.issues, h.messages]
  constructor
  case total => exact congrArg (some ∘ Json.nat) h.total
  case attempted => exact congrArg (some ∘ Json.nat) hattempted
  case length => omega
  case returned => rfl
  case failed =>
    have hrest : page.attempted - page.messages.length = page.issues.length := by omega
    exact congrArg (some ∘ Json.nat) hrest
  case counts => omega
  case messages =>
    rw [h.messages]
    exact messages_quote hserves hsnippet hrenders
  case issues =>
    rw [h.issues]
    exact issues_name hrenders
  case ok => rw [hstatus, Status.of_eq_ok, List.isEmpty_iff]
  case failure => simp [hstatus, Status.of_eq_failed]
  case incomplete => simp [hstatus, Status.of_eq_incomplete]
  case hasMore =>
    have hsome : page.nextCursor.isSome = decide (n.offset + told.length < n.uids.length) := by
      rw [Bool.eq_iff_iff, Option.isSome_iff_ne_none, decide_eq_true_iff]
      exact hmore
    exact congrArg (some ∘ Json.bool) hsome
  case nextCursor => exact hmore

end Sheets

section Calls

variable {σ : Type} {v : Service σ} {r : Search.Request} {s : Session} {epoch : Int}
variable {n : Snapshot} {w w₂ w₃ w₄ w₅ : World σ} {rows : List (Except Issue MessageRow)}

lemma filter_isFetch {es : List Event} (h : ∀ e ∈ es, e.isFetch = false) :
    es.filter Event.isFetch = [] :=
  List.filter_eq_nil_iff.2 fun e he => Bool.not_eq_true _ ▸ h e he

lemma Imap.Framing.not_isFetch {k : ClientId} {es : List Event} (h : Framing k es) :
    ∀ e ∈ es, e.isFetch = false := by
  intro e he
  have hverb := (h e he).2
  cases e with
  | timeoutSet => rfl
  | called j c o => cases c <;> first | rfl | cases hverb

/-- In its visit a search fetches the headers of its page and no others. -/
lemma search_fetches (hselects : v.Selects w r s epoch w₂)
    (hsnapshot : Task.runIn w₂ (v.snapshot s r epoch) = (.ok (.ok n), w₃)) {uids : List Int}
    (hrows : Task.runIn w₃ (uids.mapM (v.fetchRow s r epoch n)) = (.ok rows, w₄))
    (hclose : Task.runIn w₄ (s.close v.peer) = (.ok (), w₅)) :
    ∃ told new, told.map Prod.fst = uids ∧ Added new w w₅ ∧
      Fetches w.clients told (new.filter Event.isFetch) ∧
      List.Forall₂ (Renders r epoch n) told rows := by
  obtain ⟨a, w₁, -, hconnect, hselect⟩ := hselects
  have hopened := connect_opened hconnect
  obtain ⟨is, -, hselected⟩ := (Session.reads_select r.mailbox true).replied hselect
  obtain ⟨hused, es₃, hadded₃, hes₃⟩ := snapshot_quiet hselected.inUse hsnapshot
  obtain ⟨told, es₄, htold, hfetches, hadded₄, hrenders⟩ := fetchRows_render hused hrows
  obtain ⟨es₅, hcloses⟩ := closes_close v.peer s w₄
  rw [hclose] at hcloses
  have hadded := hopened.added.trans <| hselected.added.trans <| hadded₃.trans <|
    hadded₄.trans hcloses.added
  refine ⟨told, _, htold, hadded, ?_, hrenders⟩
  have hselection : ¬ Event.isFetch (.called s.client (.select r.mailbox true) (.ok is)) := nofun
  have hgreeting := (framing_greeting v.settings a w.clients).not_isFetch
  rw [List.filter_append, filter_isFetch hgreeting, List.singleton_append,
    List.filter_cons_of_neg hselection, List.filter_append, filter_isFetch hes₃,
    List.filter_append, filter_isFetch hcloses.ending.framing.not_isFetch,
    List.filter_eq_self.2 hfetches.isFetch, ← hopened.client, List.append_nil]
  exact hfetches

end Calls

namespace Service

variable {σ : Type}

/-- A search call gets as far as its page: it is valid, connects, selects its mailbox with an epoch,
and takes a snapshot or goes on with one. -/
def ReachesPage (v : Service σ) (w : World σ) (r : Search.Request) (epoch : Int) (n : Snapshot) :
    Prop :=
  r.validate = .ok () ∧ ∃ s w₂ w₃, v.Selects w r s epoch w₂ ∧
    Task.runIn w₂ (v.snapshot s r epoch) = (.ok (.ok n), w₃)

/-- In every run a search call that gets as far as its page answers it, whatever becomes of the
page's messages: it tells in order what its fetches found out about each of them, counts them, and
says whether there are more. -/
theorem page_reported (v : Service σ) (hv : v.peer.Orderly) (remote : σ) (clock : Nat)
    (os : List (Occurrence σ)) (today : Moment) {r : Search.Request} {epoch : Int} {n : Snapshot}
    (hreaches : { v with today := today }.ReachesPage (v.after (.start remote clock) os) r epoch
      n) :
    let w := v.after (.start remote clock) os
    ∃ page w' new told q, Task.runIn w ({ v with today := today }.search r) = (.ok page, w') ∧
      Added new w w' ∧ told.map Prod.fst = (n.uids.drop n.offset.toNat).take r.limit.toNat ∧
      Fetches w.clients told (new.filter Event.isFetch) ∧
      (∀ q', v.GoesOnWith (.start remote clock) os r q' ↔ q' = q) ∧
      page.Reports r q epoch n told := by
  intro w
  obtain ⟨hvalid, s, w₂, w₃, hselects, hsnapshot⟩ := hreaches
  have hheld := after_inBounds v remote clock os
  have hfits := snapshot_fits (v := { v with today := today }) ⟨hheld.kept, hheld.bounded⟩ hvalid
    hselects hsnapshot
  have hlimit := (Search.Request.validate_eq_ok.1 hvalid).limit.1
  obtain ⟨q, hgoes, hserves⟩ := snapshot_serves hselects hsnapshot
  obtain ⟨rows, w₄, w₅, hrows, hclose, hrun⟩ :=
    (search_runs hvalid hselects hsnapshot hfits.range).resolve_left fun ⟨_, _, hunruly⟩ =>
      hunruly hv
  obtain ⟨told, new, htold, hadded, hfetches, hrenders⟩ :=
    search_fetches hselects hsnapshot hrows hclose
  obtain ⟨page, w', hpage, hsums, htrace⟩ :=
    runIn_page (v := { v with today := today }) (r := r) (b := ⟨epoch, n, rows⟩) (w := w₅)
  rw [← Int.toNat_of_nonneg hfits.start, slice_eq _ _ (by omega)] at htold
  have hsource : ∀ q', v.GoesOnWith (.start remote clock) os r q' ↔ q' = q :=
    fun q' => ⟨hgoes.unique, fun h => h ▸ hgoes⟩
  refine ⟨page, w', new, told, q, hrun.trans hpage, ?_, htold, hfetches, hsource,
    hsums.reports hrenders hserves hfits (by omega) htold⟩
  rw [Added, htrace]
  exact hadded

/-- The world in which the first page of the sample's inbox, of one message with its snippet, was
given, and in which the oldest message cannot be fetched before a deadline. -/
def halfRead : World Exchange :=
  let host := { Sample.host 0 with
    rules := [⟨.fetchHeader, some 1, none, ⟨.timeout, "timed out"⟩⟩] }
  calm.after (.start ⟨[("mail", host)], []⟩ 0) [.call Sample.noon "imap_search_messages"
    [("account_id", .string "a"), ("mailbox", .string "INBOX"), ("limit", .integer 1),
      ("include_snippet", .bool true)]]

/-- The second page tells the message that was fetched, with its snippet although the call that
goes on does not ask for it, and the other one is an issue. -/
theorem page_reported_of_timeout : ∃ page w' new told q,
    Task.runIn halfRead (calm.search ((Sample.search 2 none).resuming "cursor-1")) =
      (.ok page, w') ∧ Added new halfRead w' ∧ told.map Prod.fst = [2, 1] ∧
    page.messages.map (fun m => (m.id.uid, m.snippet)) = [(2, some "two")] ∧
    page.issues.map (·.uid) = [some 1] ∧ page.nextCursor = none ∧
    page.Reports ((Sample.search 2 none).resuming "cursor-1") q 7
      ⟨[3, 2, 1], 1, true, 200, some "cursor-1"⟩ told := by
  have heval : (Task.runIn halfRead (calm.connect Sample.account)).1.toOption = some ⟨1⟩ ∧
      (Task.runIn (Task.runIn halfRead (calm.connect Sample.account)).2
        (Session.select calm.peer ⟨1⟩ "INBOX" true)).1.toOption = some 7 ∧
      ((Task.runIn (Task.runIn (Task.runIn halfRead (calm.connect Sample.account)).2
        (Session.select calm.peer ⟨1⟩ "INBOX" true)).2 (calm.snapshot ⟨1⟩
          ((Sample.search 2 none).resuming "cursor-1") 7)).1.toOption.bind Except.toOption) =
        some ⟨[3, 2, 1], 1, true, 200, some "cursor-1"⟩ ∧
      (Task.runIn halfRead (calm.search
        ((Sample.search 2 none).resuming "cursor-1"))).1.toOption.map (fun page =>
          (page.messages.map (fun m => (m.id.uid, m.snippet)), page.issues.map (·.uid),
            page.nextCursor)) = some ([(2, some "two")], [some 1], none) := by
    unfold halfRead after
    simp only [List.foldl, undergo]
    unfold call answer run search readSheet snapshot start Session.search
    simp only [newestFirst_eq_insertionSort]
    decide +kernel
  obtain ⟨hconnect, hselect, hsnapshot, hpage⟩ := heval
  have hreaches : calm.ReachesPage halfRead ((Sample.search 2 none).resuming "cursor-1") 7
      ⟨[3, 2, 1], 1, true, 200, some "cursor-1"⟩ := by
    refine ⟨by decide +kernel, ⟨1⟩, _, _, selects_of_toOption (a := Sample.account)
      (by decide +kernel) hconnect hselect, Prod.ext ?_ rfl⟩
    obtain ⟨x, hx, hn⟩ := Option.bind_eq_some_iff.1 hsnapshot
    exact (eq_ok_of_toOption hx).trans (congrArg Except.ok (eq_ok_of_toOption hn))
  obtain ⟨page, w', new, told, q, hrun, hadded, htold, -, -, hreports⟩ :=
    page_reported calm (Peer.orderly_calmed _) _ 0 _ Sample.noon hreaches
  change Task.runIn halfRead (calm.search ((Sample.search 2 none).resuming "cursor-1")) = _ at hrun
  rw [hrun] at hpage
  obtain ⟨hmessages, hrest⟩ := Prod.mk.inj (Option.some.inj hpage)
  obtain ⟨hissues, hnext⟩ := Prod.mk.inj hrest
  exact ⟨page, w', new, told, q, hrun, hadded, htold, hmessages, hissues, hnext, hreports⟩

end Service

end Mailroom
