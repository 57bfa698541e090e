import Mailroom.Proofs.CursorHistory
import Mailroom.Proofs.CursorLife
import Mailroom.Proofs.SearchRun

/-!
# What a search leaves of the cursors

A search that names a cursor gives a page only if a live entry of its account, mailbox and
UIDVALIDITY stands under it. However a search ends, the live entries under other tokens stay as they
are, unless a new one takes their room. If it gives no page its own entry stays too, but for one
reason: the mailbox has a new UIDVALIDITY.
-/

namespace Mailroom

open Imap

namespace Cursor.Store

variable {s s' s'' : Store} {p : Policy} {now now' : Instant} {token : String} {e : Entry}
variable {P P' : String → Prop}

/-- Two stores hold the same live entries under some tokens. -/
def AgreeOn (now : Instant) (P : String → Prop) (s s' : Store) : Prop :=
  ∀ token, P token → ∀ e, isLive now e → (s'.find? token = some e ↔ s.find? token = some e)

lemma AgreeOn.refl (now : Instant) (P : String → Prop) (s : Store) : s.AgreeOn now P s :=
  fun _ _ _ _ => Iff.rfl

lemma AgreeOn.trans (h : s.AgreeOn now P s') (h' : s'.AgreeOn now P s'') : s.AgreeOn now P s'' :=
  fun token ht e he => (h' token ht e he).trans (h token ht e he)

lemma AgreeOn.mono (h : s.AgreeOn now P s') (hP : ∀ token, P' token → P token) :
    s.AgreeOn now P' s' :=
  fun token ht => h token (hP token ht)

lemma isLive_of_le (h : now ≤ now') (he : isLive now' e) : isLive now e :=
  decide_eq_true (Int.lt_of_le_of_lt h (of_decide_eq_true he))

/-- What is live later is live now. -/
lemma AgreeOn.later (h : s.AgreeOn now P s') (hnow : now ≤ now') : s.AgreeOn now' P s' :=
  fun token ht e he => h token ht e (isLive_of_le hnow he)

lemma Sound.agreeOn_purge (h : s.Sound) (now : Instant) (P : String → Prop) :
    s.AgreeOn now P (s.purge now) :=
  fun _ _ _ he => h.find?_purge.trans (and_iff_left he)

lemma Sound.agreeOn_delete (h : s.Sound) (now : Instant) (token : String) :
    s.AgreeOn now (· ≠ token) (s.delete now token) :=
  fun _ ht _ he => h.find?_delete.trans ((and_iff_right ht).trans (and_iff_left he))

lemma Sound.agreeOn_advance (h : s.Sound) (p : Policy) (now : Instant) (token : String)
    (offset : Int) : s.AgreeOn now (· ≠ token) (s.advance p now token offset) := by
  intro token' ht e he
  rw [h.find?_advance]
  constructor
  · rintro ⟨e', hfind, -, rfl⟩
    rwa [if_neg ht]
  · exact fun hfind => ⟨e, hfind, he, (if_neg ht).symm⟩

/-- A new entry for which there is room leaves the others as they are. -/
lemma Sound.agreeOn_create (h : s.Sound) (hroom : (s.purge now).entries.length < p.capacity)
    (e : Entry) : s.AgreeOn now (· ≠ (s.create p now e).1) (s.create p now e).2 := by
  intro token ht e' he'
  constructor
  · exact fun hfind => (h.find?_create hfind).resolve_right fun hnew => ht hnew.1
  · intro hfind
    have hpushed := h.pushed p now e
    have hlength : ((s.pushed p now e).purge now).entries.length ≤ p.capacity := by
      refine (List.length_filter_le _ _).trans ?_
      rw [Store.pushed, List.length_append, List.length_singleton]
      exact hroom
    rw [(h.create p now e).find?_eq_some]
    exact hpushed.mem_evict hlength
      (hpushed.find?_eq_some.1 (h.find?_pushed.2 (.inl ⟨hfind, he'⟩))) he'

end Cursor.Store

section Searches

variable {σ : Type} {v : Service σ} {r : Search.Request} {w w' w₂ w₃ : World σ} {s : Session}
variable {epoch : Int} {token : String}

/-- A search is told a UIDVALIDITY while a live entry of its account and mailbox stands under a
token. -/
def Service.Meets (v : Service σ) (w : World σ) (r : Search.Request) (token : String)
    (e : Cursor.Entry) (epoch : Int) : Prop :=
  r.validate = .ok () ∧ ∃ s w₂, v.Selects w r s epoch w₂ ∧ w.cursors.find? token = some e ∧
    Cursor.Store.isLive (Instant.ofMillis w₂.clock) e ∧ e.accountId = r.accountId ∧
    e.mailbox = r.mailbox

/-- The entry under a search's cursor is of its account and mailbox, but of another UIDVALIDITY. -/
def Service.Drifts (v : Service σ) (w : World σ) (r : Search.Request) (token : String) : Prop :=
  ∃ e epoch, v.Meets w r token e epoch ∧ e.uidvalidity ≠ epoch

lemma Service.Selects.unique {s' : Session} {epoch' : Int} (h : v.Selects w r s epoch w₂)
    (h' : v.Selects w r s' epoch' w') : epoch = epoch' ∧ w₂ = w' := by
  obtain ⟨a, w₁, ha, hconnect, hselect⟩ := h
  obtain ⟨a', w₁', ha', hconnect', hselect'⟩ := h'
  cases ha.symm.trans ha'
  cases hconnect.symm.trans hconnect'
  cases hselect.symm.trans hselect'
  exact ⟨rfl, rfl⟩

/-- A cursor was looked up: its entry is of another epoch and is given up, or all is left. -/
lemma snapshot_resumed_cases {y : Except Failure (Except Answer.Page Snapshot)}
    (hcursor : r.cursor = some token) (h : Task.runIn w (v.snapshot s r epoch) = (y, w')) :
    (∃ e f, (w.cursors.get (Instant.ofMillis w.clock) token).1 = some e ∧
        e.accountId = r.accountId ∧ e.mailbox = r.mailbox ∧ e.uidvalidity ≠ epoch ∧
        y = .error f ∧ w' = { w with
          cursors := (w.cursors.purge (Instant.ofMillis w.clock)).delete
            (Instant.ofMillis w.clock) token }) ∨
      (∀ e, (w.cursors.get (Instant.ofMillis w.clock) token).1 = some e →
        e.accountId = r.accountId → e.mailbox = r.mailbox → e.uidvalidity = epoch) ∧
        w' = { w with cursors := w.cursors.purge (Instant.ofMillis w.clock) } := by
  have hstore : (w.cursors.get (Instant.ofMillis w.clock) token).2 =
      w.cursors.purge (Instant.ofMillis w.clock) := rfl
  rw [runIn_snapshot_resumed hcursor] at h
  rw [← hstore]
  rcases hget : w.cursors.get (Instant.ofMillis w.clock) token with ⟨_ | e, store⟩
  all_goals rw [hget] at h
  · cases h
    exact .inr ⟨nofun, rfl⟩
  · dsimp only at h ⊢
    by_cases hforeign : e.accountId ≠ r.accountId ∨ e.mailbox ≠ r.mailbox
    · rw [if_pos hforeign] at h
      cases h
      refine .inr ⟨?_, rfl⟩
      rintro _ ⟨⟩ haccount hmailbox
      exact (hforeign.elim (· haccount) (· hmailbox)).elim
    · rw [if_neg hforeign] at h
      rw [not_or, not_not, not_not] at hforeign
      by_cases hepoch : e.uidvalidity = epoch
      · rw [if_neg (not_not.2 hepoch)] at h
        cases h
        refine .inr ⟨?_, rfl⟩
        rintro _ ⟨⟩ - -
        exact hepoch
      · rw [if_pos hepoch] at h
        cases h
        exact .inl ⟨e, _, rfl, hforeign.1, hforeign.2, hepoch, rfl, rfl⟩

/-- What a search with a cursor has left when it was looked up, if it came that far. -/
lemma Service.Searched.resumed {sheet : Option Service.Sheet} (h : v.Searched w r sheet w')
    (hw : w.cursors.Sound) (hcursor : r.cursor = some token) :
    w'.cursors.Sound ∧
      w.cursors.AgreeOn (Instant.ofMillis w'.clock)
        (fun token' => ¬ (token' = token ∧ v.Drifts w r token)) w'.cursors ∧
      (v.Drifts w r token → sheet = none ∧ w'.cursors.find? token = none) ∧
      (sheet ≠ none → ∃ e, v.Meets w r token e e.uidvalidity) := by
  cases h with
  | unselected hunselected hrest =>
    rw [hrest.1]
    have hdrifts : ¬ v.Drifts w r token := by
      rintro ⟨e, epoch, ⟨hvalid, s, w₂, hselects, -⟩, -⟩
      exact hunselected hvalid s epoch w₂ hselects
    exact ⟨hw, .refl _ _ _, fun hdrift => absurd hdrift hdrifts, fun hnone => absurd rfl hnone⟩
  | @selected s epoch w₂ w₃ _ y _ hvalid hselects hsnapshot hrest hsheet =>
    obtain ⟨hcursors₂, -⟩ := hselects.resting
    obtain ⟨hcursors, hclock⟩ := hrest
    rw [hcursors]
    have hmeets : ∀ e, (w₂.cursors.get (Instant.ofMillis w₂.clock) token).1 = some e →
        e.accountId = r.accountId → e.mailbox = r.mailbox → v.Meets w r token e epoch := by
      intro e hget haccount hmailbox
      rw [hcursors₂, hw.get_eq_some] at hget
      exact ⟨hvalid, s, w₂, hselects, hget.1, hget.2, haccount, hmailbox⟩
    have hpurged := hw.agreeOn_purge (Instant.ofMillis w₂.clock)
    -- Either the entry is given up, or looking it up has dropped nothing but what came due.
    obtain ⟨e, f, hget, haccount, hmailbox, hepoch, hy, rfl⟩ | ⟨hsame, rfl⟩ :=
      snapshot_resumed_cases hcursor hsnapshot
    · rw [hcursors₂]
      have hdrifts : v.Drifts w r token := ⟨e, epoch, hmeets e hget haccount hmailbox, hepoch⟩
      have hdeleted := ((hpurged _).trans ((hw.purge _).agreeOn_delete _ token)).later hclock
      have hsheet : sheet = none := by
        refine Option.eq_none_iff_forall_ne_some.2 fun b hb => ?_
        obtain ⟨n, rows, hok, -⟩ := hsheet b hb
        cases hok.symm.trans hy
      refine ⟨(hw.purge _).delete _ _, hdeleted.mono fun token' ht heq => ht ⟨heq, hdrifts⟩,
        fun _ => ⟨hsheet, Cursor.Store.find?_delete_self _⟩, fun hsome => absurd hsheet hsome⟩
    · rw [hcursors₂]
      have hdrifts : ¬ v.Drifts w r token := by
        rintro ⟨e, epoch', ⟨-, s', w₂', hselects', hfind, hlive, haccount, hmailbox⟩, hepoch⟩
        obtain ⟨rfl, rfl⟩ := hselects.unique hselects'
        refine hepoch (hsame e ?_ haccount hmailbox)
        rw [hcursors₂, hw.get_eq_some]
        exact ⟨hfind, hlive⟩
      refine ⟨hw.purge _, (hpurged _).later hclock, fun hdrift => absurd hdrift hdrifts,
        fun hsome => ?_⟩
      obtain ⟨b, hb⟩ := Option.ne_none_iff_exists'.1 hsome
      obtain ⟨n, rows, rfl, -⟩ := hsheet b hb
      obtain ⟨e, hget, haccount, hmailbox, rfl, -⟩ := (snapshot_resumed_iff hcursor).1 hsnapshot
      exact ⟨e, hmeets e hget haccount hmailbox⟩

lemma Service.Searched.cursor_eq {b : Service.Sheet} (h : v.Searched w r (some b) w') :
    b.snapshot.cursor = r.cursor := by
  cases h with
  | @selected s epoch _ _ _ _ _ hvalid hselects hsnapshot hrest hsheet =>
    obtain ⟨n, rows, rfl, -, rfl⟩ := hsheet b rfl
    exact (snapshot_yields r epoch).ok trivial hsnapshot n rfl

/-- A search without a cursor has left the cursors as they were until it makes its page. -/
lemma Service.Searched.started {sheet : Option Service.Sheet} (h : v.Searched w r sheet w')
    (hcursor : r.cursor = none) : w'.cursors = w.cursors := by
  cases h with
  | unselected hunselected hrest => exact hrest.1
  | @selected s epoch _ _ _ _ _ hvalid hselects hsnapshot hrest hsheet =>
    have hcovers : anyCall.Covers v.peer (v.snapshot s r epoch) :=
      Footprint.covers_snapshot (fun _ _ => trivial) (fun _ h => by cases hcursor.symm.trans h)
        (fun _ h => by cases hcursor.symm.trans h) epoch
    exact hrest.1.trans (hselects.resting.run hcovers hsnapshot).1

end Searches

section Pages

variable {σ : Type} {v : Service σ} {r : Search.Request} {b : Service.Sheet} {w w' : World σ}
variable {x : Except Failure Answer.Page}

/-- The cursor that a call gives for the next page. -/
def Returns (x : Except Failure Answer.Page) (token : String) : Prop :=
  ∃ page, x = .ok page ∧ page.nextCursor = some token

lemma page_yields (r : Search.Request) (b : Service.Sheet) :
    Task.Yields (v.page r b) fun page => ¬ page.Unpaged := by
  refine .bind fun cursor => .bind fun _ => .bind fun _ => .pure ?_
  rintro ⟨hstatus, hrows, -⟩
  have hnil : b.rows = [] := List.length_eq_zero_iff.1 hrows
  simp [Service.Sheet.issues, hnil, Status.of] at hstatus

/-- Making a page touches the cursor of the page's snapshot, or makes one. -/
lemma page_cases (h : Task.runIn w (v.page r b) = (x, w')) :
    ¬ Unpaged x ∧ w'.clock = w.clock ∧
      (w'.cursors = b.snapshot.cursor.elim w.cursors
          (w.cursors.delete (Instant.ofMillis w.clock)) ∨
        (∃ token offset, b.snapshot.cursor = some token ∧
          w'.cursors = w.cursors.advance v.cursorPolicy (Instant.ofMillis w.clock) token offset) ∨
        ∃ token, b.snapshot.cursor = none ∧ Returns x token ∧
          w.cursors.create v.cursorPolicy (Instant.ofMillis w.clock) (entryFor r b) =
            (token, w'.cursors)) := by
  have hpaged : ∀ page, x = .ok page → ¬ Unpaged x := by
    rintro page rfl hx
    exact (page_yields r b).ok trivial h (hx page rfl)
  by_cases hlast : b.snapshot.uids.length ≤ b.nextOffset
  · obtain ⟨page, w₁, hrun, -, -, hclock, hstore⟩ :=
      runIn_page_last (v := v) (r := r) (w := w) hlast
    cases h.symm.trans hrun
    exact ⟨hpaged page rfl, hclock, .inl hstore⟩
  · cases hcursor : b.snapshot.cursor with
    | some token =>
      obtain ⟨page, w₁, hrun, -, -, hclock, hstore⟩ :=
        runIn_page_resumed (v := v) (r := r) (w := w) (not_le.1 hlast) hcursor
      cases h.symm.trans hrun
      exact ⟨hpaged page rfl, hclock, .inr (.inl ⟨token, _, rfl, hstore⟩)⟩
    | none =>
      obtain ⟨page, w₁, hrun, -, hclock, hstore⟩ :=
        runIn_page_started (v := v) (r := r) (w := w) (not_le.1 hlast) hcursor
      cases h.symm.trans hrun
      obtain ⟨hnext, hcreated⟩ := Prod.mk.inj hstore
      exact ⟨hpaged page rfl, hclock, .inr (.inr ⟨_, rfl, ⟨page, rfl, hnext⟩,
        Prod.ext rfl hcreated.symm⟩)⟩

end Pages

section Calls

variable {σ : Type} {v : Service σ} {r : Search.Request} {w w' : World σ}
variable {x : Except Failure Answer.Page}

/-- There is no room for the cursor that a call made beside the live ones. -/
def Service.Overflows (v : Service σ) (r : Search.Request) (w w' : World σ)
    (x : Except Failure Answer.Page) : Prop :=
  r.cursor = none ∧ (∃ token, Returns x token) ∧
    v.settings.cursorCapacity ≤ (w.cursors.purge (Instant.ofMillis w'.clock)).entries.length

/-- When a search gives a page, and how it leaves the cursors however it ends. -/
structure Service.Frames (v : Service σ) (r : Search.Request) (w w' : World σ)
    (x : Except Failure Answer.Page) : Prop where
  paged : ∀ token, r.cursor = some token → ¬ Unpaged x →
    ∃ e, v.Meets w r token e e.uidvalidity
  unpaged : ∀ token, r.cursor = some token → Unpaged x →
    w.cursors.AgreeOn (Instant.ofMillis w'.clock)
      (fun token' => ¬ (token' = token ∧ v.Drifts w r token)) w'.cursors
  drifted : ∀ token, r.cursor = some token → v.Drifts w r token →
    Unpaged x ∧ w'.cursors.find? token = none
  others : ¬ v.Overflows r w w' x →
    w.cursors.AgreeOn (Instant.ofMillis w'.clock)
      (fun token => r.cursor ≠ some token ∧ ¬ Returns x token) w'.cursors

/-- A search with a cursor touches no other one. -/
lemma frames_resumed {token : String} (hw : w.cursors.Sound) (hcursor : r.cursor = some token)
    (h : Task.runIn w (v.search r) = (x, w')) : v.Frames r w w' x := by
  obtain ⟨hunpaged, hnone⟩ | ⟨b, w₄, hsome, hpage⟩ := search_cases h
  · obtain ⟨-, hagrees, hdrifted, -⟩ := hnone.resumed hw hcursor
    constructor
    · exact fun _ _ hpaged => absurd hunpaged hpaged
    · rintro _ hcursor' -
      cases hcursor.symm.trans hcursor'
      exact hagrees
    · intro _ hcursor' hdrifts
      cases hcursor.symm.trans hcursor'
      exact ⟨hunpaged, (hdrifted hdrifts).2⟩
    · exact fun _ => hagrees.mono fun token' hothers heq => hothers.1 (heq.1 ▸ hcursor)
  · obtain ⟨hw₄, hagrees, hdrifted, hmeets⟩ := hsome.resumed hw hcursor
    have hb : b.snapshot.cursor = some token := hsome.cursor_eq.trans hcursor
    obtain ⟨hpaged, hclock, hstore⟩ := page_cases hpage
    constructor
    · rintro _ hcursor' -
      cases hcursor.symm.trans hcursor'
      exact hmeets nofun
    · exact fun _ _ hunpaged => absurd hunpaged hpaged
    · intro _ hcursor' hdrifts
      cases hcursor.symm.trans hcursor'
      cases (hdrifted hdrifts).1
    · intro _
      have hleft : w₄.cursors.AgreeOn (Instant.ofMillis w₄.clock) (· ≠ token) w'.cursors := by
        obtain hstore | ⟨token', offset, htoken', hstore⟩ | ⟨_, hnone, -⟩ := hstore
        · rw [hstore, hb]
          exact hw₄.agreeOn_delete _ token
        · cases hb.symm.trans htoken'
          rw [hstore]
          exact hw₄.agreeOn_advance _ _ token offset
        · cases hb.symm.trans hnone
      rw [hclock]
      refine (hagrees.mono fun token' hothers heq => ?_).trans
        (hleft.mono fun token' hothers heq => ?_)
      · exact hothers.1 (heq.1 ▸ hcursor)
      · exact hothers.1 (heq ▸ hcursor)

/-- A search without a cursor leaves all that there were, if there is room for its own. -/
lemma frames_started (hw : w.cursors.Sound) (hcursor : r.cursor = none)
    (h : Task.runIn w (v.search r) = (x, w')) : v.Frames r w w' x := by
  have hnamed : ∀ token, r.cursor ≠ some token := by simp [hcursor]
  refine ⟨fun t ht => absurd ht (hnamed t), fun t ht => absurd ht (hnamed t),
    fun t ht => absurd ht (hnamed t), fun hroom => ?_⟩
  obtain ⟨-, hnone⟩ | ⟨b, w₄, hsome, hpage⟩ := search_cases h
  · rw [hnone.started hcursor]
    exact .refl _ _ _
  · have hcursors := hsome.started hcursor
    have hb : b.snapshot.cursor = none := hsome.cursor_eq.trans hcursor
    obtain ⟨-, hclock, hstore | ⟨_, _, hsome, -⟩ | ⟨token, -, hreturns, hstore⟩⟩ :=
      page_cases hpage
    · rw [hstore, hb, Option.elim_none, hcursors]
      exact .refl _ _ _
    · cases hb.symm.trans hsome
    · -- Nothing is evicted, so that the only new entry is the one that is returned.
      have hcapacity : (w.cursors.purge (Instant.ofMillis w'.clock)).entries.length <
          v.cursorPolicy.capacity :=
        not_le.1 fun hle => hroom ⟨hcursor, ⟨token, hreturns⟩, hle⟩
      rw [hcursors, ← hclock] at hstore
      have hcreated := hw.agreeOn_create hcapacity (entryFor r b)
      rw [hstore] at hcreated
      exact hcreated.mono fun token' hothers heq => hothers.2 (heq ▸ hreturns)

end Calls

namespace Service

variable {σ : Type}

/-- In every run, whatever becomes of a search, the live entries of the cursor store are left as
they were but for its own one. -/
theorem search_frames_cursors (v : Service σ) (remote : σ) (clock : Nat)
    (os : List (Occurrence σ)) (r : Search.Request) {w w' : World σ}
    {x : Except Failure Answer.Page} (hw : w = v.after (.start remote clock) os)
    (h : Task.runIn w (v.search r) = (x, w')) : v.Frames r w w' x := by
  have hsound : w.cursors.Sound := (hw ▸ after_kept v remote clock os : Kept v.cursorPolicy w).sound
  cases hcursor : r.cursor with
  | some token => exact frames_resumed hsound hcursor h
  | none => exact frames_started hsound hcursor h

/-- Two first pages of the sample's inbox, whose UIDVALIDITY changes afterwards. -/
def renewed : World Exchange :=
  let firstPage : Occurrence Exchange := .call Sample.noon "imap_search_messages"
    [("account_id", .string "a"), ("mailbox", .string "INBOX"), ("limit", .integer 1)]
  let newEpoch : Host := { Sample.host 0 with
    mailboxes := [{ Sample.inbox with uidvalidity := some 8 }] }
  (Sample.service false).after (Sample.world 0) [firstPage, firstPage,
    .drift fun _ => ⟨[("mail", newEpoch)], []⟩]

/-- The first cursor is given up when it is used, and the second one stays. -/
theorem search_frames_cursors_of_newEpoch : ∃ x w',
    Task.runIn renewed ((Sample.service false).search (Sample.search 1 (some "cursor-1"))) =
      (x, w') ∧
    renewed.cursors.find? "cursor-1" ≠ none ∧ w'.cursors.find? "cursor-1" = none ∧
    w'.cursors.find? "cursor-2" ≠ none ∧
    w'.cursors.find? "cursor-2" = renewed.cursors.find? "cursor-2" ∧
    (Sample.service false).Frames (Sample.search 1 (some "cursor-1")) renewed w' x := by
  have hcursors : renewed.cursors.find? "cursor-1" ≠ none ∧
      (Task.runIn renewed ((Sample.service false).search
        (Sample.search 1 (some "cursor-1")))).2.cursors.find? "cursor-1" = none ∧
      (Task.runIn renewed ((Sample.service false).search
        (Sample.search 1 (some "cursor-1")))).2.cursors.find? "cursor-2" ≠ none ∧
      (Task.runIn renewed ((Sample.service false).search
        (Sample.search 1 (some "cursor-1")))).2.cursors.find? "cursor-2" =
        renewed.cursors.find? "cursor-2" := by
    unfold renewed after
    simp only [List.foldl, undergo]
    unfold call answer run search readSheet snapshot start Session.search
    simp only [newestFirst_eq_insertionSort]
    decide +kernel
  obtain ⟨hheld, hgone, hkept, hsame⟩ := hcursors
  rcases hrun : Task.runIn renewed ((Sample.service false).search
    (Sample.search 1 (some "cursor-1"))) with ⟨x, w'⟩
  rw [hrun] at hgone hkept hsame
  exact ⟨x, w', rfl, hheld, hgone, hkept, hsame,
    search_frames_cursors (Sample.service false) _ _ _ _ rfl hrun⟩

end Service

end Mailroom
