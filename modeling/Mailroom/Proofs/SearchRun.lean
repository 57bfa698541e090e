import Mathlib.Data.List.Sort
import Mailroom.Proofs.ClockRounding
import Mailroom.Proofs.CommandFootprint
import Mailroom.Proofs.CursorStore

/-!
# Search calls

What a search call comes to once it is connected, its mailbox selected and its snapshot taken: each
message of the page is attempted and gives one row, whether or not anything can be told of it, the
cursors rest meanwhile, and then the cursor is moved on.
-/

namespace Mailroom

open Imap

namespace Imap

def Call.isRoutine : Call → Bool
  | .fetch .. | .logout | .shutdown => true
  | _ => false

/-- A peer whose clients never refuse the values that they fetch or end a session with: these calls
succeed, or fail as servers and networks make them. -/
def Peer.Orderly {σ : Type} (p : Peer σ) : Prop :=
  ∀ k c x f, c.isRoutine → (p.answer k c x).outcome = .error f → f.kind ≠ .value

end Imap

/-- The message that a row of a page is about. -/
def attemptedUid : Except Issue MessageRow → Option Int
  | .ok m => some m.id.uid
  | .error i => i.uid

/-- The cursors are left as they were while the clock goes on. -/
def Resting {σ : Type} (store : Cursor.Store) (since : Instant) (w : World σ) : Prop :=
  w.cursors = store ∧ since ≤ Instant.ofMillis w.clock

def anyCall : Footprint := ⟨fun _ _ => True, fun _ => False⟩

section Rows

variable {σ α : Type} {v : Service σ} {p : Peer σ} {s : Session}

lemma resting_stable {store : Cursor.Store} {since : Instant} :
    anyCall.Stable p (Resting store since : World σ → Prop) where
  asked _ _ _ _ hw := ⟨hw.1, hw.2.trans (Instant.ofMillis_mono (Nat.le_add_right _ _))⟩
  timeoutSet _ _ _ hw := hw
  changed _ _ h _ := h.elim
  booked _ _ _ _ _ hw := hw

/-- The failures of a task that does not fail with an orderly peer. -/
def Unruly (p : Peer σ) : Failure → World σ → Prop :=
  fun _ _ => ¬ p.Orderly

/-- A task from which nothing escapes with an orderly peer. -/
def Contained (p : Peer σ) (t : Task σ α) : Prop :=
  Task.Triple (fun _ => True) t (fun _ _ => True) fun f _ => ∀ e, f = .escaped e → ¬ p.Orderly

protected lemma Contained.pure (x : α) : Contained p (pure x : Task σ α) :=
  Task.Triple.pure fun _ _ => trivial

protected lemma Contained.refuse (e : Error) : Contained p (Task.refuse e : Task σ α) :=
  Task.Triple.refuse fun _ _ _ h => by cases h

protected lemma Contained.bind {β : Type} {t : Task σ α} {f : α → Task σ β} (ht : Contained p t)
    (hf : ∀ x, Contained p (f x)) : Contained p (t >>= f) :=
  Task.Triple.bind ht hf

lemma Contained.attempt {t : Task σ α} (ht : Contained p t) :
    Task.Triple (fun _ => True) (Task.attempt t) (fun _ _ => True) (Unruly p) :=
  .attempt ht (fun _ _ _ => trivial) fun e _ h => h e rfl

lemma Contained.issue {verb : String} {c : Call} (hc : c.isRoutine) :
    Contained p (s.issue p verb c) := by
  intro w _
  rw [Session.runIn_issue]
  cases w.abandoned.contains s.client with
  | true => exact fun _ h => by cases h
  | false =>
    cases ho : (p.answer s.client c w.remote).outcome with
    | ok r => trivial
    | error f =>
      rintro e hescaped hp
      have hkind := hp _ c _ f hc ho
      unfold Fault.whileIssuing at hescaped
      split at hescaped
      · cases hescaped
      · split at hescaped <;> cases hescaped
      · contradiction
      all_goals cases hescaped

lemma Contained.fetchHeader {uid : Int} : Contained p (s.fetchHeader p uid) := by
  refine .bind (.bind (.issue rfl) fun found => ?_) fun is => ?_
  · split
    · exact .pure _
    · exact .refuse _
  · split
    · exact .pure _
    · exact .refuse _

lemma triple_fetchRow (r : Search.Request) (epoch : Int) (n : Snapshot) (uid : Int) :
    Task.Triple (fun _ => True) (v.fetchRow s r epoch n uid)
      (fun row _ => attemptedUid row = some uid) (Unruly v.peer) := by
  refine .bind (Contained.attempt .fetchHeader) fun x => ?_
  cases x with
  | error e => exact .pure fun _ _ => rfl
  | ok found =>
    dsimp only
    split
    · exact .pure fun _ _ => rfl
    · exact .pure fun _ _ => rfl

lemma triple_fetchRows (r : Search.Request) (epoch : Int) (n : Snapshot) (uids : List Int) :
    Task.Triple (fun _ => True) (uids.mapM (v.fetchRow s r epoch n))
      (fun rows _ => rows.map attemptedUid = uids.map some) (Unruly v.peer) := by
  induction uids with
  | nil => exact .pure fun _ _ => rfl
  | cons uid uids ih =>
    rw [List.mapM_cons]
    refine .bind (triple_fetchRow r epoch n uid) fun row w hrow => ?_
    refine Task.Triple.bind ih (fun rows => .pure fun _ hrows => ?_) w trivial
    rw [List.map_cons, List.map_cons, hrow, hrows]

lemma triple_ask_routine {k : ClientId} {c : Call} {E : Failure → World σ → Prop}
    (hc : c.isRoutine) : Task.Triple (fun _ => True) (Task.ask p k c)
      (fun o _ => ∀ f, o = .error f → p.Orderly → f.kind ≠ .value) E :=
  fun w _ f ho hp => hp k c w.remote f hc ho

lemma triple_shutdownQuietly {k : ClientId} :
    Task.Triple (fun _ => True) (shutdownQuietly p k) (fun _ _ => True) (Unruly p) := by
  refine .bind (triple_ask_routine rfl) fun o => ?_
  cases o with
  | ok _ => exact .pure fun _ _ => trivial
  | error f =>
    dsimp only
    split
    · next hkind => exact .escape fun _ h hp => h f rfl hp hkind
    · exact .modify fun _ _ => trivial

/-- Closing a session fails only with a peer that is not orderly. -/
lemma triple_close : Task.Triple (fun _ => True) (s.close p) (fun _ _ => True) (Unruly p) := by
  refine .bind (Q := fun _ _ => True) (fun _ _ => trivial) fun w => ?_
  split
  · exact .pure fun _ _ => trivial
  refine .bind (Q := fun _ _ => True) (.modify fun _ _ => trivial) fun _ => ?_
  refine .bind (Q := fun _ _ => True) (fun _ _ => trivial) fun gone => ?_
  cases gone with
  | true => exact triple_shutdownQuietly
  | false =>
    refine .bind (triple_ask_routine rfl) fun o => ?_
    cases o with
    | ok _ => exact .pure fun _ _ => trivial
    | error f =>
      dsimp only
      split
      · next hkind => exact .escape fun _ h hp => h f rfl hp hkind
      · exact .modify fun _ _ => trivial

end Rows

section Runs

variable {σ α : Type} {v : Service σ} {r : Search.Request} {s : Session} {epoch : Int}
variable {n : Snapshot} {w w₁ w₂ w₃ : World σ}

/-- A search call is connected and has its mailbox selected. -/
def Service.Selects (v : Service σ) (w : World σ) (r : Search.Request) (s : Session) (epoch : Int)
    (w' : World σ) : Prop :=
  ∃ a w₁, v.settings.account r.accountId = .ok a ∧
    Task.runIn w (v.connect a) = (.ok s, w₁) ∧
    Task.runIn w₁ (s.select v.peer r.mailbox true) = (.ok epoch, w')

lemma Resting.run {t : Task σ α} {store : Cursor.Store} {since : Instant} {x : Except Failure α}
    {w' : World σ} (hw : Resting store since w) (ht : anyCall.Covers v.peer t)
    (hr : Task.runIn w t = (x, w')) : Resting store since w' := by
  have hfinal := (ht _ resting_stable).final hw
  rwa [hr] at hfinal

lemma resting_refl (w : World σ) : Resting w.cursors (Instant.ofMillis w.clock) w :=
  ⟨rfl, le_rfl⟩

lemma Service.Selects.resting (h : v.Selects w r s epoch w₂) :
    Resting w.cursors (Instant.ofMillis w.clock) w₂ := by
  obtain ⟨a, w₁, -, hconnect, hselect⟩ := h
  exact ((resting_refl w).run (Footprint.covers_connect (fun _ _ _ => trivial) v.settings a)
    hconnect).run (Footprint.covers_select trivial) hselect

lemma runIn_within (w : World σ) (t : Task σ α) : Task.runIn w (s.within v.peer t) =
    match Task.runIn (Task.runIn w t).2 (s.close v.peer) with
    | (.ok _, w') => ((Task.runIn w t).1, w')
    | (.error f, w') => (.error f, w') := by
  unfold Session.within
  rw [Task.runIn_bind_ok (Task.runIn_observe w t), Task.runIn_bind]
  rcases Task.runIn (Task.runIn w t).2 (s.close v.peer) with ⟨f | _, w'⟩ <;> rfl

lemma runIn_readSheet {w₁ : World σ}
    (hselect : Task.runIn w₁ (s.select v.peer r.mailbox true) = (.ok epoch, w₂))
    (hsnapshot : Task.runIn w₂ (v.snapshot s r epoch) = (.ok (.ok n), w₃))
    (hrange : n.offset ≤ n.uids.length) :
    Task.runIn w₁ (v.readSheet s r) = Task.runIn w₃ (do
      let rows ← (slice n.uids n.offset (n.offset + r.limit)).mapM (v.fetchRow s r epoch n)
      return .ok ⟨epoch, n, rows⟩) := by
  unfold Service.readSheet
  rw [Task.runIn_attempt_bind_ok hselect, Task.runIn_bind_ok hsnapshot]
  dsimp only
  rw [if_neg (not_lt.2 hrange)]

/-- The steps of a call whose snapshot was taken: it attempts the messages of the page, closes the
session and makes the page. -/
lemma runIn_search (hvalid : r.validate = .ok ()) (hselects : v.Selects w r s epoch w₂)
    (hsnapshot : Task.runIn w₂ (v.snapshot s r epoch) = (.ok (.ok n), w₃))
    (hrange : n.offset ≤ n.uids.length) :
    Task.runIn w (v.search r) =
      match Task.runIn w₃ ((slice n.uids n.offset (n.offset + r.limit)).mapM
        (v.fetchRow s r epoch n)) with
      | (.ok rows, w₄) =>
        match Task.runIn w₄ (s.close v.peer) with
        | (.ok _, w₅) => Task.runIn w₅ (v.page r ⟨epoch, n, rows⟩)
        | (.error f, w₅) => (.error f, w₅)
      | (.error f, w₄) =>
        match Task.runIn w₄ (s.close v.peer) with
        | (.ok _, w₅) => (.error f, w₅)
        | (.error f', w₅) => (.error f', w₅) := by
  obtain ⟨a, w₁, ha, hconnect, hselect⟩ := hselects
  obtain ⟨f, hopen, hpage⟩ : ∃ f : Except Answer.Page Service.Sheet → Task σ Answer.Page,
      Task.runIn w (v.search r) = Task.runIn w₁ (s.within v.peer (v.readSheet s r) >>= f) ∧
      ∀ b, f (.ok b) = v.page r b := by
    unfold Service.search
    rw [Task.runIn_check_bind_ok hvalid, Task.runIn_account_bind_ok ha]
    exact ⟨_, Task.runIn_attempt_bind_ok hconnect _, fun _ => rfl⟩
  rw [hopen, Task.runIn_bind, runIn_within, runIn_readSheet hselect hsnapshot hrange,
    Task.runIn_bind]
  rcases Task.runIn w₃ ((slice n.uids n.offset (n.offset + r.limit)).mapM
    (v.fetchRow s r epoch n)) with ⟨f' | rows, w₄⟩
  · dsimp only
    rcases Task.runIn w₄ (s.close v.peer) with ⟨f'' | _, w₅⟩ <;> rfl
  · simp only [Task.runIn_pure]
    rcases Task.runIn w₄ (s.close v.peer) with ⟨f'' | _, w₅⟩
    · rfl
    · exact congrArg (Task.runIn w₅) (hpage _)

/-- A call whose snapshot was taken reads its rows, closes the session and makes the page. Neither
the rows nor closing the session raise anything unless the peer is unruly. -/
lemma search_runs (hvalid : r.validate = .ok ()) (hselects : v.Selects w r s epoch w₂)
    (hsnapshot : Task.runIn w₂ (v.snapshot s r epoch) = (.ok (.ok n), w₃))
    (hrange : n.offset ≤ n.uids.length) :
    (∃ f, (Task.runIn w (v.search r)).1 = .error f ∧ ¬ v.peer.Orderly) ∨
      ∃ rows w₄ w₅, Task.runIn w₃ ((slice n.uids n.offset (n.offset + r.limit)).mapM
          (v.fetchRow s r epoch n)) = (.ok rows, w₄) ∧
        Task.runIn w₄ (s.close v.peer) = (.ok (), w₅) ∧
        Task.runIn w (v.search r) = Task.runIn w₅ (v.page r ⟨epoch, n, rows⟩) := by
  rw [runIn_search hvalid hselects hsnapshot hrange]
  rcases hrows : Task.runIn w₃ ((slice n.uids n.offset (n.offset + r.limit)).mapM
    (v.fetchRow s r epoch n)) with ⟨f | rows, w₄⟩
  · have hunruly := (triple_fetchRows r epoch n _).error trivial hrows
    dsimp only
    rcases Task.runIn w₄ (s.close v.peer) with ⟨f' | _, w₅⟩
    · exact .inl ⟨f', rfl, hunruly⟩
    · exact .inl ⟨f, rfl, hunruly⟩
  · dsimp only
    rcases hclose : Task.runIn w₄ (s.close v.peer) with ⟨f | _, w₅⟩
    · exact .inl ⟨f, rfl, triple_close.error trivial hclose⟩
    · exact .inr ⟨rows, w₄, w₅, rfl, hclose, rfl⟩

/-- What a call comes to whose snapshot was taken: the messages of the page are attempted, and the
page is made in a world whose cursors are those of the snapshot's. -/
lemma search_of_snapshot (hvalid : r.validate = .ok ()) (hselects : v.Selects w r s epoch w₂)
    (hsnapshot : Task.runIn w₂ (v.snapshot s r epoch) = (.ok (.ok n), w₃))
    (hrange : n.offset ≤ n.uids.length) :
    (∃ f, (Task.runIn w (v.search r)).1 = .error f ∧ ¬ v.peer.Orderly) ∨
      ∃ rows w₄, rows.map attemptedUid =
          (slice n.uids n.offset (n.offset + r.limit)).map some ∧
        Resting w₃.cursors (Instant.ofMillis w₃.clock) w₄ ∧
        Task.runIn w (v.search r) = Task.runIn w₄ (v.page r ⟨epoch, n, rows⟩) := by
  refine (search_runs hvalid hselects hsnapshot hrange).imp_right ?_
  rintro ⟨rows, w₄, w₅, hrows, hclose, hrun⟩
  have hrest := (resting_refl w₃).run (v := v)
    (.mapM (Footprint.covers_fetchRow (fun _ => trivial) epoch n) _) hrows
  exact ⟨rows, w₅, (triple_fetchRows r epoch n _).ok trivial hrows,
    hrest.run (Footprint.covers_close fun _ _ => trivial) hclose, hrun⟩

/-- What looking up a cursor comes to. -/
lemma runIn_snapshot_resumed {token : String} (hcursor : r.cursor = some token) :
    Task.runIn w (v.snapshot s r epoch) =
      match w.cursors.get (Instant.ofMillis w.clock) token with
      | (none, store) => (.error (.refused .unknownCursor), { w with cursors := store })
      | (some e, store) =>
        if e.accountId ≠ r.accountId ∨ e.mailbox ≠ r.mailbox then
          (.error (.refused .foreignCursor), { w with cursors := store })
        else if e.uidvalidity ≠ epoch then
          (.error (.refused .snapshotEpoch),
            { w with cursors := store.delete (Instant.ofMillis w.clock) token })
        else
          (.ok (.ok ⟨e.uids, e.offset, e.includeSnippet, e.snippetMaxChars, some token⟩),
            { w with cursors := store }) := by
  have hlook : Task.runIn w (Task.cursors fun now store => store.get now token) =
      (.ok (w.cursors.get (Instant.ofMillis w.clock) token).1,
        { w with cursors := (w.cursors.get (Instant.ofMillis w.clock) token).2 }) := rfl
  unfold Service.snapshot Service.resume
  rw [hcursor]
  dsimp only
  rw [bind_assoc, Task.runIn_bind_ok hlook]
  rcases w.cursors.get (Instant.ofMillis w.clock) token with ⟨_ | e, store⟩
  · rfl
  · dsimp only
    split
    · rfl
    · split <;> rfl

/-- The snapshot of a cursor is that of the live entry under it, if this is of the same account,
mailbox and epoch. -/
lemma snapshot_resumed_iff {token : String} (hcursor : r.cursor = some token) :
    Task.runIn w (v.snapshot s r epoch) = (.ok (.ok n), w₃) ↔
      ∃ e, (w.cursors.get (Instant.ofMillis w.clock) token).1 = some e ∧
        e.accountId = r.accountId ∧ e.mailbox = r.mailbox ∧ e.uidvalidity = epoch ∧
        n = ⟨e.uids, e.offset, e.includeSnippet, e.snippetMaxChars, some token⟩ ∧
        w₃ = { w with cursors := w.cursors.purge (Instant.ofMillis w.clock) } := by
  have hstore : (w.cursors.get (Instant.ofMillis w.clock) token).2 =
      w.cursors.purge (Instant.ofMillis w.clock) := rfl
  rw [runIn_snapshot_resumed hcursor, ← hstore]
  rcases w.cursors.get (Instant.ofMillis w.clock) token with ⟨_ | e, store⟩
  · constructor
    · rintro ⟨⟩
    · rintro ⟨e, ⟨⟩, -⟩
  · dsimp only
    constructor
    · intro h
      split at h
      · cases h
      next hsame =>
        rw [not_or, not_not, not_not] at hsame
        split at h
        · cases h
        next hepoch =>
          cases h
          exact ⟨e, rfl, hsame.1, hsame.2, not_not.1 hepoch, rfl, rfl⟩
    · rintro ⟨_, ⟨⟩, haccount, hmailbox, rfl, rfl, rfl⟩
      rw [if_neg (by simp [haccount, hmailbox]), if_neg (by simp)]

/-- A snapshot that no cursor stands for is that of a search. -/
lemma start_of_snapshot (hcursor : r.cursor = none)
    (h : Task.runIn w (v.snapshot s r epoch) = (.ok (.ok n), w₃)) :
    Task.runIn w (v.start s r) = (.ok n, w₃) := by
  unfold Service.snapshot at h
  rw [hcursor] at h
  obtain ⟨x, w', hattempt, h⟩ := Task.runIn_bind_eq_ok.1 h
  cases x with
  | error e =>
    dsimp only at h
    split at h <;> cases h
  | ok n' =>
    cases h
    exact Task.runIn_attempt_eq_ok.1 hattempt

/-- A search keeps all that it found, from the start, with what was asked about snippets. -/
lemma runIn_start_eq_ok (h : Task.runIn w (v.start s r) = (.ok n, w₃)) :
    ∃ criteria uids, Task.runIn w (s.search v.peer criteria) = (.ok uids, w₃) ∧
      n = ⟨uids, 0, r.includeSnippet, r.snippetMaxChars.getD Search.defaultSnippetMaxChars,
        none⟩ := by
  obtain ⟨criteria, -, h⟩ := Task.runIn_ofExcept_bind_eq_ok.1 h
  obtain ⟨uids, w', hsearch, h⟩ := Task.runIn_bind_eq_ok.1 h
  split at h
  · cases h
  · cases h
    exact ⟨criteria, uids, hsearch, rfl⟩

lemma snapshot_started (hcursor : r.cursor = none)
    (h : Task.runIn w (v.snapshot s r epoch) = (.ok (.ok n), w₃)) :
    (n.cursor = none ∧ n.offset = 0) ∧ Resting w.cursors (Instant.ofMillis w.clock) w₃ := by
  have hstart := start_of_snapshot hcursor h
  exact ⟨(start_yields r).ok trivial hstart,
    (resting_refl w).run (Footprint.covers_start fun _ _ => trivial) hstart⟩

/-- What a page tells of its sheet. -/
structure Shows (b : Service.Sheet) (page : Answer.Page) : Prop where
  attempted : page.attempted = b.rows.length
  messages : page.messages = b.messages
  issues : page.issues = b.issues

variable {b : Service.Sheet}

/-- After the last page of a snapshot nothing is kept of it. -/
lemma runIn_page_last (hlast : b.snapshot.uids.length ≤ b.nextOffset) :
    ∃ page w', Task.runIn w (v.page r b) = (.ok page, w') ∧ Shows b page ∧
      page.nextCursor = none ∧ w'.clock = w.clock ∧
      w'.cursors = b.snapshot.cursor.elim w.cursors
        (w.cursors.delete (Instant.ofMillis w.clock)) := by
  unfold Service.page Service.advance
  rw [if_pos hlast]
  cases b.snapshot.cursor with
  | none => exact ⟨_, _, rfl, ⟨rfl, rfl, rfl⟩, rfl, rfl, rfl⟩
  | some token => exact ⟨_, _, rfl, ⟨rfl, rfl, rfl⟩, rfl, rfl, rfl⟩

/-- The cursor of a snapshot that goes on is moved on. -/
lemma runIn_page_resumed {token : String} (hmore : b.nextOffset < b.snapshot.uids.length)
    (hcursor : b.snapshot.cursor = some token) :
    ∃ page w', Task.runIn w (v.page r b) = (.ok page, w') ∧ Shows b page ∧
      page.nextCursor = some token ∧ w'.clock = w.clock ∧
      w'.cursors = w.cursors.advance v.cursorPolicy (Instant.ofMillis w.clock) token
        b.nextOffset := by
  unfold Service.page Service.advance
  rw [if_neg (not_le.2 hmore), hcursor]
  exact ⟨_, _, rfl, ⟨rfl, rfl, rfl⟩, rfl, rfl, rfl⟩

def entryFor (r : Search.Request) (b : Service.Sheet) : Cursor.Entry where
  accountId := r.accountId
  mailbox := r.mailbox
  uidvalidity := b.epoch
  uids := b.snapshot.uids
  offset := b.nextOffset
  includeSnippet := b.snapshot.includeSnippet
  snippetMaxChars := b.snapshot.snippetMaxChars
  expiresAt := 0

lemma runIn_page_started (hmore : b.nextOffset < b.snapshot.uids.length)
    (hcursor : b.snapshot.cursor = none) :
    ∃ page w', Task.runIn w (v.page r b) = (.ok page, w') ∧ Shows b page ∧
      w'.clock = w.clock ∧
      (page.nextCursor, w'.cursors) =
        ((w.cursors.create v.cursorPolicy (Instant.ofMillis w.clock) (entryFor r b)).map some id)
      := by
  unfold Service.page Service.advance
  rw [if_neg (not_le.2 hmore), hcursor]
  exact ⟨_, _, rfl, ⟨rfl, rfl, rfl⟩, rfl, rfl⟩

/-- An answer without a page: the search failed before it attempted a message. -/
def Answer.Page.Unpaged (page : Answer.Page) : Prop :=
  page.status = .failed ∧ page.attempted = 0 ∧ page.nextCursor = none

/-- A call of which no page came, but an error or an answer without one. -/
def Unpaged (x : Except Failure Answer.Page) : Prop :=
  ∀ page, x = .ok page → page.Unpaged

/-- No sheet was read. -/
def Unread (x : Except Failure (Except Answer.Page Service.Sheet)) : Prop :=
  ∀ y, x = .ok y → ∃ page, y = .error page ∧ page.Unpaged

lemma unpaged_error (f : Failure) : Unpaged (.error f) :=
  fun _ h => by cases h

lemma unread_error (f : Failure) : Unread (.error f) :=
  fun _ h => by cases h

lemma failedSearch_yields (stage : String) (e : Error) :
    Task.Yields (Service.failedSearch r stage e : Task σ Answer.Page) Answer.Page.Unpaged :=
  .bind fun _ => .pure ⟨rfl, rfl, rfl⟩

/-- Of what a snapshot answers that was not taken, all is true that is true of failed searches. -/
lemma snapshot_failed_yields {R : Answer.Page → Prop}
    (hfailed : ∀ stage e, Task.Yields (Service.failedSearch r stage e : Task σ Answer.Page) R)
    (epoch : Int) :
    Task.Yields (v.snapshot s r epoch) fun x => ∀ page, x = .error page → R page := by
  unfold Service.snapshot
  split
  · exact .bind fun _ => .pure fun page h => by cases h
  · refine .bind fun x => ?_
    cases x with
    | ok n => exact .pure fun page h => by cases h
    | error e =>
      dsimp only
      split
      · exact .refuse _
      · refine .bind_of (hfailed _ e) fun page hpage => .pure fun page' h => ?_
        cases h
        exact hpage

/-- A session looks at a snapshot's page, or at none. -/
lemma readSheet_cases {x : Except Failure (Except Answer.Page Service.Sheet)} {w' : World σ}
    (h : Task.runIn w (v.readSheet s r) = (x, w')) :
    (Unread x ∧ (∀ epoch w₂, Task.runIn w (s.select v.peer r.mailbox true) ≠ (.ok epoch, w₂)) ∧
      Resting w.cursors (Instant.ofMillis w.clock) w') ∨
    ∃ epoch w₂ y w₃, Task.runIn w (s.select v.peer r.mailbox true) = (.ok epoch, w₂) ∧
      Task.runIn w₂ (v.snapshot s r epoch) = (y, w₃) ∧
      Resting w₃.cursors (Instant.ofMillis w₃.clock) w' ∧
      (Unread x ∨ ∃ n rows, y = .ok (.ok n) ∧ n.offset ≤ n.uids.length ∧
        x = .ok (.ok ⟨epoch, n, rows⟩)) := by
  unfold Service.readSheet at h
  rw [Task.runIn_bind, Task.runIn_attempt] at h
  rcases hselect : Task.runIn w (s.select v.peer r.mailbox true) with ⟨(e | e) | epoch, w₂⟩
  all_goals
    have hrest := (resting_refl w).run (v := v) (Footprint.covers_select trivial) hselect
    rw [hselect] at h
    dsimp only at h
  · refine .inl ⟨fun y hy => ?_, nofun, hrest.run (v := v)
      (.bind (Footprint.covers_failedSearch _ e) fun _ => .pure _) h⟩
    subst hy
    obtain ⟨page, w₃, hfailed, h⟩ := Task.runIn_bind_eq_ok.1 h
    cases h
    exact ⟨page, rfl, (failedSearch_yields _ e).ok trivial hfailed⟩
  · cases h
    exact .inl ⟨unread_error _, nofun, hrest⟩
  · rw [Task.runIn_bind] at h
    rcases hsnapshot : Task.runIn w₂ (v.snapshot s r epoch) with ⟨f | page | n, w₃⟩
    all_goals
      rw [hsnapshot] at h
      dsimp only at h
      refine .inr ⟨epoch, w₂, _, w₃, rfl, hsnapshot, ?_⟩
    · cases h
      exact ⟨resting_refl _, .inl (unread_error _)⟩
    · cases h
      refine ⟨resting_refl _, .inl fun y hy => ?_⟩
      cases hy
      exact ⟨page, rfl,
        (snapshot_failed_yields failedSearch_yields epoch).ok trivial hsnapshot page rfl⟩
    · split at h
      · cases h
        exact ⟨resting_refl _, .inl (unread_error _)⟩
      · next hrange =>
        refine ⟨(resting_refl w₃).run (.bind (.mapM (Footprint.covers_fetchRow
          (fun _ => trivial) epoch n) _) fun _ => .pure _) h, ?_⟩
        rw [Task.runIn_bind] at h
        rcases hrows : Task.runIn w₃ ((slice n.uids n.offset (n.offset + r.limit)).mapM
          (v.fetchRow s r epoch n)) with ⟨f | rows, w₄⟩
        · rw [hrows] at h
          cases h
          exact .inl (unread_error _)
        · rw [hrows] at h
          cases h
          exact .inr ⟨n, rows, rfl, not_lt.1 hrange, rfl⟩

/-- How far a search came before it makes its page, with the sheet that it read, if it did. -/
inductive Service.Searched (v : Service σ) (w : World σ) (r : Search.Request) :
    Option Service.Sheet → World σ → Prop where
  | unselected {w' : World σ}
      (hunselected : r.validate = .ok () → ∀ s epoch w₂, ¬ v.Selects w r s epoch w₂)
      (hrest : Resting w.cursors (Instant.ofMillis w.clock) w') : Searched v w r none w'
  | selected {s : Session} {epoch : Int} {w₂ w₃ w' : World σ}
      {y : Except Failure (Except Answer.Page Snapshot)} {sheet : Option Service.Sheet}
      (hvalid : r.validate = .ok ()) (hselects : v.Selects w r s epoch w₂)
      (hsnapshot : Task.runIn w₂ (v.snapshot s r epoch) = (y, w₃))
      (hrest : Resting w₃.cursors (Instant.ofMillis w₃.clock) w')
      (hsheet : ∀ b, sheet = some b →
        ∃ n rows, y = .ok (.ok n) ∧ n.offset ≤ n.uids.length ∧ b = ⟨epoch, n, rows⟩) :
    Searched v w r sheet w'

lemma Service.Searched.run {t : Task σ α} {x : Except Failure α} {sheet : Option Service.Sheet}
    {w' w'' : World σ} (h : v.Searched w r sheet w') (ht : anyCall.Covers v.peer t)
    (hr : Task.runIn w' t = (x, w'')) : v.Searched w r sheet w'' := by
  cases h with
  | unselected hunselected hrest => exact .unselected hunselected (hrest.run ht hr)
  | selected hvalid hselects hsnapshot hrest hsheet =>
    exact .selected hvalid hselects hsnapshot (hrest.run ht hr) hsheet

/-- No sheet need be known of. -/
lemma Service.Searched.unread {sheet : Option Service.Sheet} {w' : World σ}
    (h : v.Searched w r sheet w') : v.Searched w r none w' := by
  cases h with
  | unselected hunselected hrest => exact .unselected hunselected hrest
  | selected hvalid hselects hsnapshot hrest hsheet =>
    exact .selected hvalid hselects hsnapshot hrest nofun

lemma searched_readSheet {a : Account} {x : Except Failure (Except Answer.Page Service.Sheet)}
    {w' : World σ} (hvalid : r.validate = .ok ()) (ha : v.settings.account r.accountId = .ok a)
    (hconnect : Task.runIn w (v.connect a) = (.ok s, w₁))
    (h : Task.runIn w₁ (v.readSheet s r) = (x, w')) :
    (Unread x ∧ v.Searched w r none w') ∨ ∃ b, x = .ok (.ok b) ∧ v.Searched w r (some b) w' := by
  rcases readSheet_cases h with
    ⟨hunread, hunselected, hrest⟩ | ⟨epoch, w₂, y, w₃, hselect, hsnapshot, hrest, hcases⟩
  · refine .inl ⟨hunread, .unselected (fun _ s' epoch w₂ hselects => ?_) ?_⟩
    · obtain ⟨a', w₁', ha', hconnect', hselect⟩ := hselects
      cases ha.symm.trans ha'
      cases hconnect.symm.trans hconnect'
      exact hunselected epoch w₂ hselect
    · obtain ⟨hcursors, hclock⟩ := (resting_refl w).run (v := v)
        (Footprint.covers_connect (fun _ _ _ => trivial) v.settings a) hconnect
      exact ⟨hrest.1.trans hcursors, hclock.trans hrest.2⟩
  · have hselects : v.Selects w r s epoch w₂ := ⟨a, w₁, ha, hconnect, hselect⟩
    rcases hcases with hunread | ⟨n, rows, hy, hrange, rfl⟩
    · exact .inl ⟨hunread, .selected hvalid hselects hsnapshot hrest nofun⟩
    · refine .inr ⟨_, rfl, .selected hvalid hselects hsnapshot hrest fun b hb => ?_⟩
      cases hb
      exact ⟨n, rows, hy, hrange, rfl⟩

lemma searched_within {a : Account} {x : Except Failure (Except Answer.Page Service.Sheet)}
    {w' : World σ} (hvalid : r.validate = .ok ()) (ha : v.settings.account r.accountId = .ok a)
    (hconnect : Task.runIn w (v.connect a) = (.ok s, w₁))
    (h : Task.runIn w₁ (s.within v.peer (v.readSheet s r)) = (x, w')) :
    (Unread x ∧ v.Searched w r none w') ∨ ∃ b, x = .ok (.ok b) ∧ v.Searched w r (some b) w' := by
  have hclosing : anyCall.Covers v.peer (s.close v.peer) :=
    Footprint.covers_close fun _ _ => trivial
  rw [runIn_within] at h
  rcases hsheet : Task.runIn w₁ (v.readSheet s r) with ⟨y, w₂⟩
  rw [hsheet] at h
  have hsearched := searched_readSheet hvalid ha hconnect hsheet
  rcases hclose : Task.runIn w₂ (s.close v.peer) with ⟨f | u, w₃⟩
  · rw [hclose] at h
    cases h
    obtain ⟨-, hnone⟩ | ⟨b, -, hsome⟩ := hsearched
    · exact .inl ⟨unread_error _, hnone.run hclosing hclose⟩
    · exact .inl ⟨unread_error _, hsome.unread.run hclosing hclose⟩
  · rw [hclose] at h
    cases h
    obtain ⟨hunread, hnone⟩ | ⟨b, hb, hsome⟩ := hsearched
    · exact .inl ⟨hunread, hnone.run hclosing hclose⟩
    · exact .inr ⟨b, hb, hsome.run hclosing hclose⟩

lemma not_selects {a : Account} {f : Failure} (ha : v.settings.account r.accountId = .ok a)
    (hconnect : Task.runIn w (v.connect a) = (.error f, w₁)) (s : Session) (epoch : Int)
    (w₂ : World σ) : ¬ v.Selects w r s epoch w₂ := by
  rintro ⟨a', w₁', ha', hconnect', -⟩
  cases ha.symm.trans ha'
  cases hconnect.symm.trans hconnect'

/-- A search that was not connected gives no page. -/
lemma searched_unconnected {a : Account} {x : Except Failure Answer.Page} {e : Error}
    {w' : World σ} (ha : v.settings.account r.accountId = .ok a)
    (hconnect : Task.runIn w (v.connect a) = (.error (.refused e), w₁))
    (h : Task.runIn w₁ (Service.failedSearch r "connect_authenticated" e) = (x, w')) :
    Unpaged x ∧ v.Searched w r none w' := by
  have hrest := (resting_refl w).run (v := v)
    (Footprint.covers_connect (fun _ _ _ => trivial) v.settings a) hconnect
  constructor
  · rintro page rfl
    exact (failedSearch_yields _ e).ok trivial h
  · exact .unselected (fun _ => not_selects ha hconnect)
      (hrest.run (v := v) (Footprint.covers_failedSearch _ e) h)

/-- A search call makes the page of a sheet, or gives none. -/
lemma search_cases {x : Except Failure Answer.Page} {w' : World σ}
    (h : Task.runIn w (v.search r) = (x, w')) :
    (Unpaged x ∧ v.Searched w r none w') ∨
      ∃ b w₄, v.Searched w r (some b) w₄ ∧ Task.runIn w₄ (v.page r b) = (x, w') := by
  unfold Service.search Service.account at h
  rw [Task.runIn_bind, Task.runIn_check] at h
  cases hvalid : r.validate with
  | error e =>
    rw [hvalid] at h
    cases h
    refine .inl ⟨unpaged_error _, .unselected (fun hok => ?_) (resting_refl w)⟩
    cases hvalid.symm.trans hok
  | ok u =>
    rw [hvalid] at h
    dsimp only [Except.mapError] at h
    rw [Task.runIn_bind, Task.runIn_check] at h
    cases ha : v.settings.account r.accountId with
    | error e =>
      rw [ha] at h
      cases h
      refine .inl ⟨unpaged_error _, .unselected (fun _ s epoch w₂ hselects => ?_) (resting_refl w)⟩
      obtain ⟨a, w₁, ha', -⟩ := hselects
      cases ha.symm.trans ha'
    | ok a =>
      rw [ha] at h
      dsimp only [Except.mapError] at h
      rw [Task.runIn_bind, Task.runIn_attempt] at h
      rcases hconnect : Task.runIn w (v.connect a) with ⟨(e | e) | s, w₁⟩
      all_goals
        rw [hconnect] at h
        dsimp only at h
      · exact .inl (searched_unconnected ha hconnect h)
      · cases h
        exact .inl ⟨unpaged_error _, .unselected (fun _ => not_selects ha hconnect)
          ((resting_refl w).run (v := v)
            (Footprint.covers_connect (fun _ _ _ => trivial) v.settings a) hconnect)⟩
      · rw [Task.runIn_bind] at h
        rcases hwithin : Task.runIn w₁ (s.within v.peer (v.readSheet s r)) with ⟨y, w₃⟩
        rw [hwithin] at h
        obtain ⟨hunread, hnone⟩ | ⟨b, rfl, hsome⟩ := searched_within hvalid ha hconnect hwithin
        · rcases y with f | y
          · cases h
            exact .inl ⟨unpaged_error f, hnone⟩
          · obtain ⟨page, rfl, hpage⟩ := hunread y rfl
            cases h
            refine .inl ⟨fun page' hx => ?_, hnone⟩
            cases hx
            exact hpage
        · exact .inr ⟨b, w₃, hsome, h⟩

/-- A page that is followed by another comes from a snapshot. -/
lemma snapshot_of_search {page : Answer.Page} {w' : World σ}
    (h : Task.runIn w (v.search r) = (.ok page, w')) (hnext : page.nextCursor ≠ none) :
    r.validate = .ok () ∧ ∃ s epoch w₂ n w₃, v.Selects w r s epoch w₂ ∧
      Task.runIn w₂ (v.snapshot s r epoch) = (.ok (.ok n), w₃) ∧ n.offset ≤ n.uids.length := by
  obtain ⟨hunpaged, -⟩ | ⟨b, w₄, hsearched, -⟩ := search_cases h
  · exact absurd (hunpaged page rfl).2.2 hnext
  · cases hsearched with
    | selected hvalid hselects hsnapshot hrest hsheet =>
      obtain ⟨n, rows, rfl, hrange, -⟩ := hsheet b rfl
      exact ⟨hvalid, _, _, _, n, _, hselects, hsnapshot, hrange⟩

end Runs

section Starting

variable {σ : Type} {v : Service σ} {r : Search.Request} {s : Session} {epoch : Int}
variable {w w' : World σ}

def newestFirst (uids : List Int) : List Int :=
  uids.mergeSort fun a b => b ≤ a

/-- Sorting by insertion gives the same and computes by structural recursion. -/
lemma newestFirst_eq_insertionSort (uids : List Int) :
    (uids.mergeSort fun a b => decide (b ≤ a)) = uids.insertionSort (fun a b => b ≤ a) :=
  List.mergeSort_eq_insertionSort _ _

lemma runIn_number_mapM {ts : List Token} {uids : List Int}
    (h : ts.mapM Token.toInt? = some uids) (w : World σ) :
    Task.runIn w (ts.mapM Session.number) = (.ok uids, w) := by
  induction ts generalizing uids with
  | nil =>
    obtain rfl : [] = uids := Option.some.inj h
    rfl
  | cons t ts ih =>
    simp only [List.mapM_cons, bind, Option.bind_eq_some_iff, pure, Option.some.injEq] at h
    obtain ⟨n, hn, ns, hns, rfl⟩ := h
    have hnumber : Task.runIn w (Session.number t) = (.ok n, w) := by
      unfold Session.number
      rw [hn]
      rfl
    rw [List.mapM_cons, Task.runIn_bind_ok hnumber, Task.runIn_bind_ok (ih hns)]
    rfl

lemma runIn_epoch_eq_ok {is : Items} (h : Task.runIn w (Session.epoch is) = (.ok epoch, w')) :
    w' = w := by
  unfold Session.epoch at h
  split at h
  · cases h
  · cases h
  · unfold Session.number at h
    split at h <;> cases h
    rfl
  · cases h

lemma Service.Selects.not_abandoned (h : v.Selects w r s epoch w') :
    w'.abandoned.contains s.client = false := by
  obtain ⟨a, w₁, -, -, hselect⟩ := h
  obtain ⟨x, w₂, hattempt, h⟩ := Task.runIn_bind_eq_ok.1 hselect
  have hissue := Task.runIn_attempt_eq_ok.1 hattempt
  cases x with
  | error e =>
    obtain ⟨gone, w₃, -, h⟩ := Task.runIn_bind_eq_ok.1 h
    split at h <;> cases h
  | ok is =>
    obtain rfl := runIn_epoch_eq_ok h
    rw [Session.runIn_issue] at hissue
    split at hissue
    · cases hissue
    · next hgone =>
      split at hissue
      · cases hissue
        exact eq_false_of_ne_true hgone
      · cases (Prod.mk.inj hissue).1

lemma snapshot_of_answer (hcursor : r.cursor = none) (hselects : v.Selects w' r s epoch w)
    {criteria : List Search.Atom} {ts : List Token} {uids : List Int}
    (hcriteria : r.criteria v.today.date = .ok criteria)
    (hanswer : (v.peer.answer s.client (.search criteria (Search.charset? criteria))
      w.remote).outcome = .ok ts)
    (huids : ts.mapM Token.toInt? = some uids) (hlength : uids.length ≤ maxMatches) :
    ∃ n w₃, Task.runIn w (v.snapshot s r epoch) = (.ok (.ok n), w₃) ∧
      n.uids = newestFirst uids := by
  let found := Task.asked v.peer s.client (.search criteria (Search.charset? criteria)) w
  have hissue : Task.runIn w (s.issue v.peer "UID SEARCH"
      (.search criteria (Search.charset? criteria))) = (.ok ts, found) := by
    rw [Session.runIn_issue, hselects.not_abandoned, hanswer]
    rfl
  have hsearch : Task.runIn w (s.search v.peer criteria) = (.ok (newestFirst uids), found) := by
    unfold Session.search
    rw [Task.runIn_bind_ok hissue, Task.runIn_bind_ok (runIn_number_mapM huids _)]
    rfl
  have hstart : ∃ n, Task.runIn w (v.start s r) = (.ok n, found) ∧ n.uids = newestFirst uids := by
    have hok : Task.runIn w (Task.ofExcept (r.criteria v.today.date)) = (.ok criteria, w) := by
      rw [Task.runIn_ofExcept, hcriteria]
    have hfew : ¬ maxMatches < (newestFirst uids).length := by
      rw [newestFirst, List.length_mergeSort]
      exact not_lt.2 hlength
    unfold Service.start
    rw [Task.runIn_bind_ok hok, Task.runIn_bind_ok hsearch, if_neg hfew]
    exact ⟨_, rfl, rfl⟩
  obtain ⟨n, hstart, hn⟩ := hstart
  refine ⟨n, found, ?_, hn⟩
  unfold Service.snapshot
  rw [hcursor]
  dsimp only
  have hattempt : Task.runIn w (Task.attempt (v.start s r)) = (.ok (.ok n), found) :=
    Task.runIn_attempt_eq_ok.2 hstart
  rw [Task.runIn_bind_ok hattempt]
  rfl

end Starting

end Mailroom
