import Mailroom.Proofs.CursorUse
import Mailroom.Proofs.Paging

/-!
# The bounds of cursors

Every entry that a serving program holds is what a search with valid arguments left behind: a part
of its messages is paged and a part is not, the messages are sorted and not too many, and account,
mailbox and length of snippets pass their checks. So no cursor is ever found to be out of range.
-/

namespace Mailroom

open Imap

namespace Task

variable {σ α β : Type}

/-- A task that does not fail in one way. -/
def Avoids (f : Failure) (t : Task σ α) : Prop :=
  Triple (fun _ => True) t (fun _ _ => True) fun f' _ => f' ≠ f

namespace Avoids

variable {f : Failure} {e : Error} {t : Task σ α}

protected lemma pure (a : α) : Avoids f (pure a : Task σ α) := Triple.pure fun _ _ => trivial

protected lemma throw {f' : Failure} (h : f' ≠ f) : Avoids f (throw f' : Task σ α) :=
  Triple.throw fun _ _ => h

protected lemma refuse {e' : Error} (h : e' ≠ e) :
    Avoids (.refused e) (Task.refuse e' : Task σ α) :=
  .throw fun h' => h (Failure.refused.inj h')

protected lemma escape (e' : Escape) : Avoids (.refused e) (Task.escape e' : Task σ α) :=
  .throw nofun

protected lemma ofExcept {r : Except Failure α} (h : r ≠ .error f) :
    Avoids f (Task.ofExcept r : Task σ α) :=
  Triple.ofExcept (fun _ _ _ _ => trivial) fun _ hr _ _ hf => h (hf ▸ hr)

protected lemma check {r : Except Error α} (h : r ≠ .error e) :
    Avoids (.refused e) (Task.check r : Task σ α) :=
  Triple.check (fun _ _ _ _ => trivial) fun _ hr _ _ he => h (Failure.refused.inj he ▸ hr)

protected lemma bind {g : α → Task σ β} (ht : Avoids f t) (hg : ∀ a, Avoids f (g a)) :
    Avoids f (t >>= g) :=
  Triple.bind ht hg

/-- No refusal leaves an attempt. -/
protected lemma attempt (t : Task σ α) : Avoids (.refused e) (Task.attempt t) :=
  Triple.attempt .top (fun _ _ _ => trivial) fun _ _ _ => nofun

protected lemma modify (g : World σ → World σ) : Avoids f (modify g : Task σ Unit) :=
  Triple.modify fun _ _ => trivial

protected lemma mapM {g : β → Task σ α} (hg : ∀ x, Avoids f (g x)) (xs : List β) :
    Avoids f (xs.mapM g) := by
  induction xs with
  | nil => exact .pure []
  | cons x xs ih =>
    rw [List.mapM_cons]
    exact (hg x).bind fun _ => ih.bind fun _ => .pure _

end Avoids

end Task

/-- What is said of a cursor that points behind its messages. -/
abbrev outOfRange : Failure := .refused .cursorOutOfRange

section Checks

variable {α β : Type}

namespace Check

lemma range_ne (n low high : Int) (field : String) :
    range n low high field ≠ .error .cursorOutOfRange := by
  unfold range
  split <;> exact nofun

lemma text_ne (s : String) (low high : Int) (field : String) :
    text s low high field ≠ .error .cursorOutOfRange := by
  unfold text
  split
  · exact nofun
  · split <;> exact nofun

lemma accountId_ne (s : String) : accountId s ≠ .error .cursorOutOfRange := by
  unfold accountId
  split <;> exact nofun

lemma date_ne (s field : String) : date s field ≠ .error .cursorOutOfRange := by
  unfold date
  split <;> exact nofun

end Check

namespace Search.Request

lemma whenGiven_ne {v : Option α} {check : α → Except Error β}
    (h : ∀ a, check a ≠ .error .cursorOutOfRange) :
    whenGiven v check ≠ .error .cursorOutOfRange := by
  cases v with
  | none => exact nofun
  | some a => exact map_ne_error (h a)

lemma validate_ne (r : Search.Request) : r.validate ≠ .error .cursorOutOfRange := by
  have hdays : ∀ n, Check.range n 1 365 "last_days" ≠ .error .cursorOutOfRange :=
    fun n => Check.range_ne _ _ _ _
  have htext : ∀ vs : List (Option String), (vs.forM fun v =>
      discard (whenGiven v (Check.searchText · "search text"))) ≠ .error .cursorOutOfRange := by
    intro vs
    induction vs with
    | nil => exact nofun
    | cons v vs ih =>
      exact bind_ne_error (map_ne_error (whenGiven_ne fun _ => Check.text_ne _ _ _ _)) fun _ _ => ih
  unfold validate
  dsimp only
  refine bind_ne_error (Check.accountId_ne _) fun _ _ => bind_ne_error (Check.text_ne _ _ _ _) ?_
  refine fun _ _ => bind_ne_error (Check.range_ne _ _ _ _) fun _ _ => ?_
  refine bind_ne_error (map_ne_error (whenGiven_ne hdays)) fun _ _ => ?_
  refine bind_ne_error (map_ne_error (whenGiven_ne fun _ => Check.range_ne _ _ _ _)) fun _ _ => ?_
  split
  · exact refused_ne nofun
  refine bind_ne_error (htext _) fun _ _ => ?_
  split
  · exact refused_ne nofun
  split
  · exact refused_ne nofun
  refine bind_ne_error (whenGiven_ne fun _ => Check.date_ne _ _) fun _ _ => ?_
  refine bind_ne_error (whenGiven_ne fun _ => Check.date_ne _ _) fun _ _ => ?_
  split
  · split <;> exact nofun
  · exact nofun

end Search.Request

end Checks

section Sessions

variable {σ : Type} {v : Service σ} {p : Peer σ} {s : Session}

/-- The server's refusals and failures are told by two codes. -/
lemma avoids_issue {e : Error} (he : e.code ≠ .timeout ∧ e.code ≠ .internal) (verb : String)
    (c : Call) : Task.Avoids (.refused e) (s.issue p verb c) := by
  refine .of_cases (fun _ _ _ _ _ => trivial) fun w f w' _ hr hf => ?_
  rw [Session.runIn_issue] at hr
  split at hr
  · cases hf.symm.trans (Except.error.inj (Prod.mk.inj hr).1).symm
    exact he.2 rfl
  · split at hr
    · cases (Prod.mk.inj hr).1
    · have hissue := (Except.error.inj (Prod.mk.inj hr).1).trans hf
      unfold Fault.whileIssuing at hissue
      split at hissue
      · cases hissue
        exact he.1 rfl
      · split at hissue
        · cases hissue
          exact he.1 rfl
        · cases hissue
          exact he.2 rfl
      all_goals
        cases hissue
        try exact he.2 rfl

lemma avoids_search {e : Error} (he : e.code ≠ .timeout ∧ e.code ≠ .internal)
    (criteria : List Search.Atom) : Task.Avoids (.refused e) (s.search p criteria) := by
  have hnumber : ∀ t, Task.Avoids (.refused e) (Session.number t : Task σ Int) := by
    intro t
    unfold Session.number
    split
    · exact .pure _
    · exact .escape _
  exact .bind (avoids_issue he _ _) fun ts => .bind (.mapM hnumber ts) fun _ => .pure _

lemma avoids_start {e : Error} (he : e.code ≠ .timeout ∧ e.code ≠ .internal)
    {r : Search.Request} (hvalid : r.validate = .ok ())
    (hmany : ∀ n, maxMatches < n → e ≠ .tooManyMatches n maxMatches) :
    Task.Avoids (.refused e) (v.start s r) := by
  have hcriteria : r.criteria v.today.date ≠ .error (.refused e) :=
    (Search.Request.validate_eq_ok.1 hvalid).criteria_ne _ nofun
  refine .bind (.ofExcept hcriteria) fun criteria => ?_
  refine .bind (avoids_search he criteria) fun uids => ?_
  split
  · next hn => exact .refuse (hmany _ hn).symm
  · exact .pure _

lemma avoids_ending {e : Error} (k : ClientId) (c : Call) (f : Except Fault c.Reply → Task σ Unit)
    (hok : ∀ r, f (.ok r) = pure ())
    (herror : ∀ x, ∃ m, f (.error x) = if x.kind = .value then Task.escape (.clientValue x.message)
      else Task.log .debug .imap m) :
    Task.Avoids (.refused e) (Task.ask p k c >>= f) := by
  refine Task.Avoids.bind (fun _ _ => trivial) fun o => ?_
  cases o with
  | ok r =>
    rw [hok]
    exact .pure _
  | error x =>
    obtain ⟨m, hm⟩ := herror x
    rw [hm]
    split
    · exact .escape _
    · exact .modify _

/-- What closing a session fails with is no refusal. -/
lemma avoids_close {e : Error} : Task.Avoids (.refused e) (s.close p) := by
  refine .bind (fun _ _ => trivial) fun w => ?_
  split
  · exact .pure _
  refine .bind (.modify _) fun _ => .bind (fun _ _ => trivial) fun gone => ?_
  cases gone with
  | true => exact avoids_ending _ .shutdown _ (fun _ => rfl) fun _ => ⟨_, rfl⟩
  | false => exact avoids_ending _ .logout _ (fun _ => rfl) fun _ => ⟨_, rfl⟩

end Sessions

/-- What a search leaves under a cursor. -/
structure Cursor.Entry.Bounded (st : Settings) (e : Cursor.Entry) : Prop where
  begun : 1 ≤ e.offset
  unfinished : e.offset < e.uids.length
  length : e.uids.length ≤ 20000
  sorted : e.uids.Pairwise (· ≥ ·)
  mailbox : Check.mailbox e.mailbox = .ok ()
  accountId : Check.accountId e.accountId = .ok ()
  configured : ∃ a, st.account e.accountId = .ok a
  snippet : 50 ≤ e.snippetMaxChars ∧ e.snippetMaxChars ≤ 500

/-- A snapshot of which a page can be made, and which is that of the entry under its cursor. -/
structure Snapshot.Fits (n : Snapshot) (store : Cursor.Store) : Prop where
  length : n.uids.length ≤ 20000
  sorted : n.uids.Pairwise (· ≥ ·)
  start : 0 ≤ n.offset
  range : n.offset ≤ n.uids.length
  snippet : 50 ≤ n.snippetMaxChars ∧ n.snippetMaxChars ≤ 500
  held : ∀ token e, n.cursor = some token → store.find? token = some e → e.uids = n.uids

section Searching

variable {σ α : Type} {v : Service σ} {s : Session} {r : Search.Request} {w : World σ}

structure InBounds (v : Service σ) (w : World σ) : Prop where
  kept : Kept v.cursorPolicy w
  bounded : ∀ x ∈ w.cursors.entries, x.2.Bounded v.settings

/-- How a task may fail that finds no cursor out of range. -/
def Fails (v : Service σ) (f : Failure) (w : World σ) : Prop :=
  InBounds v w ∧ f ≠ outOfRange

lemma InBounds.changed (hw : InBounds v w) {f : Instant → Cursor.Store → Cursor.Store}
    (hf : SearchChange v.cursorPolicy r f)
    (hb : ∀ x ∈ (f (Instant.ofMillis w.clock) w.cursors).entries, x.2.Bounded v.settings) :
    InBounds v { w with cursors := f (Instant.ofMillis w.clock) w.cursors } :=
  ⟨kept_stable.changed w f ⟨r, hf⟩ hw.kept, hb⟩

/-- What does not use the cursors keeps all that is known of them. -/
lemma held_stable (G : Cursor.Store → Prop) :
    anyCall.Stable v.peer fun w => InBounds v w ∧ G w.cursors where
  asked w k c _ hw := ⟨⟨kept_stable.asked w k c trivial hw.1.kept, hw.1.bounded⟩, hw.2⟩
  timeoutSet w k n hw := ⟨⟨kept_stable.timeoutSet w k n hw.1.kept, hw.1.bounded⟩, hw.2⟩
  changed _ _ h _ := h.elim
  booked w _ _ _ _ hw := ⟨⟨kept_stable.booked w _ _ _ _ hw.1.kept, hw.1.bounded⟩, hw.2⟩

lemma triple_quiet {t : Task σ α} (ht : anyCall.Covers v.peer t) (ha : Task.Avoids outOfRange t)
    (G : Cursor.Store → Prop) :
    Task.Triple (fun w => InBounds v w ∧ G w.cursors) t (fun _ w => InBounds v w ∧ G w.cursors)
      (Fails v) :=
  ((ht _ (held_stable G)).and ha).imp (fun _ hw => ⟨hw, trivial⟩) (fun _ _ h => h.1)
    fun _ _ h => ⟨h.1.1, h.2⟩

lemma triple_resume (epoch : Int) (token : String) (hcursor : r.cursor = some token) :
    Task.Triple (InBounds v) (Service.resume r epoch token : Task σ Snapshot)
      (fun n w => InBounds v w ∧ n.Fits w.cursors) (Fails v) := by
  refine .bind (Q := fun found w => InBounds v w ∧ w.cursors.find? token = found) ?_ fun found => ?_
  · intro w hw
    exact ⟨hw.changed (.lookUp token hcursor) fun x hx =>
      hw.bounded x (Cursor.Store.mem_purge.1 hx).1, rfl⟩
  cases found with
  | none => exact .refuse fun w hw => ⟨hw.1, nofun⟩
  | some e =>
    dsimp only
    split
    · exact .refuse fun w hw => ⟨hw.1, nofun⟩
    split
    · refine .bind (Q := fun _ => InBounds v) (fun w hw => ?_) fun _ =>
        .refuse fun w hw => ⟨hw, nofun⟩
      exact hw.1.changed (.giveUp token hcursor) fun x hx =>
        hw.1.bounded x (Cursor.Store.mem_purge.1 (List.mem_of_mem_filter hx)).1
    · refine .pure fun w hw => ⟨hw.1, ?_⟩
      have he : e.Bounded v.settings :=
        hw.1.bounded _ (hw.1.kept.sound.find?_eq_some.1 hw.2)
      refine ⟨he.length, he.sorted, Int.le_of_lt he.begun, Int.le_of_lt he.unfinished, he.snippet,
        ?_⟩
      rintro _ e' ⟨⟩ he'
      rw [Option.some.inj (he'.symm.trans hw.2)]

lemma search_sorted (criteria : List Search.Atom) :
    Task.Yields (s.search v.peer criteria) fun uids => uids.Pairwise (· ≥ ·) := by
  refine .bind fun ts => .bind fun uids => .pure ?_
  have hsorted : (newestFirst uids).Pairwise fun a b => decide (b ≤ a) :=
    List.pairwise_mergeSort
      (fun a b c hab hbc => by simp only [decide_eq_true_eq] at *; omega)
      (fun a b => by simp only [Bool.or_eq_true, decide_eq_true_eq]; omega) uids
  exact hsorted.imp of_decide_eq_true

lemma start_fits (hvalid : r.validate = .ok ()) :
    Task.Yields (v.start s r) fun n => ∀ store, n.Fits store := by
  refine .bind fun criteria => .bind_of (search_sorted criteria) fun uids huids => ?_
  split
  · exact .refuse _
  · next hfew =>
    refine .pure fun store => ⟨not_lt.1 hfew, huids, le_rfl, Int.natCast_nonneg _, ?_, nofun⟩
    cases hn : r.snippetMaxChars with
    | none => exact ⟨(by decide : 50 ≤ Search.defaultSnippetMaxChars),
        (by decide : Search.defaultSnippetMaxChars ≤ 500)⟩
    | some n => exact (Search.Request.validate_eq_ok.1 hvalid).snippet n (Option.mem_toList.2 hn)

lemma triple_start (hvalid : r.validate = .ok ()) :
    Task.Triple (InBounds v) (Task.attempt (v.start s r)) (fun x w => InBounds v w ∧
      (∀ n, x = .ok n → n.Fits w.cursors) ∧ x ≠ .error .cursorOutOfRange) (Fails v) := by
  have hquiet := triple_quiet (v := v) (Footprint.covers_start (s := s) (r := r)
    fun _ _ => trivial) (avoids_start (by decide) hvalid nofun) fun _ => True
  have hstart : Task.Triple (InBounds v) (v.start s r) (fun n w => InBounds v w ∧ n.Fits w.cursors)
      (Fails v) :=
    (hquiet.and (start_fits hvalid)).imp (fun _ hw => ⟨⟨hw, trivial⟩, trivial⟩)
      (fun n w h => ⟨h.1.1, h.2 w.cursors⟩) fun _ _ h => h.1
  refine .attempt (hstart.imp (fun _ hw => hw) (fun n w h => ⟨h.1, ?_, nofun⟩) fun _ _ h => h)
    (fun e w h => ⟨h.1, nofun, fun he => h.2 (congrArg _ (Except.error.inj he))⟩) fun _ _ h => h
  rintro _ ⟨⟩
  exact h.2

/-- The snapshot of a page fits, whether it is taken or resumed. -/
lemma triple_snapshot (hvalid : r.validate = .ok ()) (epoch : Int) :
    Task.Triple (InBounds v) (v.snapshot s r epoch)
      (fun x w => InBounds v w ∧ ∀ n, x = .ok n → n.Fits w.cursors) (Fails v) := by
  unfold Service.snapshot
  split
  · next token hcursor =>
    refine .bind (triple_resume epoch token hcursor) fun n => .pure fun w hw => ⟨hw.1, ?_⟩
    rintro _ ⟨⟩
    exact hw.2
  · refine .bind (triple_start hvalid) fun x => ?_
    cases x with
    | ok n => exact .pure fun w hw => ⟨hw.1, fun n' h => hw.2.1 n' (congrArg _ (Except.ok.inj h))⟩
    | error e =>
      dsimp only
      split
      · exact .refuse fun w hw => ⟨hw.1, fun he => hw.2.2 (congrArg _ (Failure.refused.inj he))⟩
      · refine (Task.Triple.bind (triple_quiet (Footprint.covers_failedSearch _ _)
          (.bind (.modify _) fun _ => .pure _) fun _ => True) fun page => ?_).before
          fun w hw => ⟨hw.1, trivial⟩
        exact .pure fun w hw => ⟨hw.1, nofun⟩

/-- A page of a snapshot that fits, with a row for each message that it attempts. -/
structure Service.Sheet.Fits (r : Search.Request) (b : Service.Sheet) (store : Cursor.Store) :
    Prop where
  snapshot : b.snapshot.Fits store
  rows : b.rows.length = min r.limit.toNat (b.snapshot.uids.length - b.snapshot.offset.toNat)

lemma length_slice {uids : List Int} {offset limit : Int} (ho : 0 ≤ offset) (hl : 0 ≤ limit) :
    (slice uids offset (offset + limit)).length =
      min limit.toNat (uids.length - offset.toNat) := by
  obtain ⟨k, rfl⟩ := Int.eq_ofNat_of_zero_le ho
  rw [slice_eq uids k hl, List.length_take, List.length_drop]
  rfl

lemma avoids_fetchRow (epoch : Int) (n : Snapshot) (uid : Int) :
    Task.Avoids outOfRange (v.fetchRow s r epoch n uid) := by
  refine .bind (.attempt _) fun x => ?_
  cases x with
  | error e => exact .pure _
  | ok found =>
    dsimp only
    split
    · exact .pure _
    · exact .pure _

lemma triple_rows (hvalid : r.validate = .ok ()) (epoch : Int) (n : Snapshot) :
    Task.Triple (fun w => InBounds v w ∧ n.Fits w.cursors)
      ((slice n.uids n.offset (n.offset + r.limit)).mapM (v.fetchRow s r epoch n))
      (fun rows w => InBounds v w ∧ (⟨epoch, n, rows⟩ : Service.Sheet).Fits r w.cursors)
      (Fails v) := by
  have hquiet := triple_quiet (v := v) (.mapM (Footprint.covers_fetchRow (s := s) (r := r)
    (fun _ => trivial) epoch n) (slice n.uids n.offset (n.offset + r.limit)))
    (.mapM (avoids_fetchRow epoch n) _) n.Fits
  have hlimit := (Search.Request.validate_eq_ok.1 hvalid).limit.1
  refine (hquiet.and (triple_fetchRows r epoch n _)).imp (fun _ hw => ⟨hw, trivial⟩)
    (fun rows w h => ⟨h.1.1, h.1.2, ?_⟩) fun _ _ h => h.1
  have hlength := congrArg List.length h.2
  rwa [List.length_map, List.length_map, length_slice h.1.2.start (by omega)] at hlength

lemma triple_readSheet (hvalid : r.validate = .ok ()) :
    Task.Triple (InBounds v) (v.readSheet s r)
      (fun x w => InBounds v w ∧ ∀ b, x = .ok b → b.Fits r w.cursors) (Fails v) := by
  have hfailed : ∀ e, Task.Triple (fun w => InBounds v w ∧ True)
      (Service.failedSearch r "select_mailbox_readonly" e : Task σ Answer.Page)
      (fun _ w => InBounds v w ∧ True) (Fails v) := fun e =>
    triple_quiet (Footprint.covers_failedSearch _ _) (.bind (.modify _) fun _ => .pure _)
      fun _ => True
  refine (Task.Triple.bind (triple_quiet (.attempt (Footprint.covers_select trivial)) (.attempt _)
    fun _ => True) fun x => ?_).before fun w hw => ⟨hw, trivial⟩
  cases x with
  | error e => exact .bind (hfailed e) fun page => .pure fun w hw => ⟨hw.1, nofun⟩
  | ok epoch =>
    refine .bind ((triple_snapshot hvalid epoch).before fun w hw => hw.1) fun x => ?_
    cases x with
    | error page => exact .pure fun w hw => ⟨hw.1, nofun⟩
    | ok n =>
      dsimp only
      split
      · next hout =>
        exact .refuse fun w hw => absurd (hw.2 n rfl).range (not_le.2 hout)
      · exact .bind ((triple_rows hvalid epoch n).before fun w hw => ⟨hw.1, hw.2 n rfl⟩)
          fun rows => .pure fun w hw => ⟨hw.1, fun b hb => Except.ok.inj hb ▸ hw.2⟩

/-- A page that is not the last one is not empty, for a request has a positive limit. -/
lemma Service.Sheet.Fits.begun {b : Service.Sheet} {store : Cursor.Store} (h : b.Fits r store)
    (hvalid : r.validate = .ok ()) (hmore : b.nextOffset < b.snapshot.uids.length) :
    1 ≤ b.nextOffset := by
  have hlimit := (Search.Request.validate_eq_ok.1 hvalid).limit.1
  have hrows := h.rows
  have hstart := h.snapshot.start
  unfold Service.Sheet.nextOffset at hmore ⊢
  omega

lemma InBounds.advanced {b : Service.Sheet} (hw : InBounds v w) (hb : b.Fits r w.cursors)
    (hvalid : r.validate = .ok ()) (hmore : b.nextOffset < b.snapshot.uids.length) {token : String}
    (hcursor : b.snapshot.cursor = some token) :
    InBounds v { w with
      cursors := w.cursors.advance v.cursorPolicy (Instant.ofMillis w.clock) token
        b.nextOffset } := by
  refine hw.changed (.moveOn (r := r.resuming token) token rfl _) fun x hx => ?_
  obtain ⟨y, hy, rfl⟩ := List.mem_map.1 hx
  have hy := (Cursor.Store.mem_purge.1 hy).1
  have hbounded := hw.bounded y hy
  split
  · next htoken =>
    have huids := hb.snapshot.held token y.2 hcursor
      (hw.kept.sound.find?_eq_some.2 (beq_iff_eq.1 htoken ▸ hy))
    exact { hbounded with
      begun := hb.begun hvalid hmore
      unfinished := by rw [huids]; exact hmore }
  · exact hbounded

lemma InBounds.created {b : Service.Sheet} (hw : InBounds v w) (hb : b.Fits r w.cursors)
    (hvalid : r.validate = .ok ()) (hmore : b.nextOffset < b.snapshot.uids.length)
    (haccount : ∃ a, v.settings.account r.accountId = .ok a) :
    InBounds v { w with
      cursors := (w.cursors.create v.cursorPolicy (Instant.ofMillis w.clock)
        (entryFor r b)).2 } := by
  have hrequest := Search.Request.validate_eq_ok.1 hvalid
  refine hw.changed (.create (r := r) (entryFor r b)) fun x hx => ?_
  rcases List.mem_append.1 (List.mem_of_mem_filter hx) with hx | hx
  · exact hw.bounded x (Cursor.Store.mem_purge.1 hx).1
  · rw [List.mem_singleton.1 hx]
    exact ⟨hb.begun hvalid hmore, hmore, hb.snapshot.length, hb.snapshot.sorted, hrequest.mailbox,
      hrequest.accountId, haccount, hb.snapshot.snippet⟩

/-- The cursor of a page that fits is given up, moved on or created within the bounds. -/
lemma triple_advance (hvalid : r.validate = .ok ())
    (haccount : ∃ a, v.settings.account r.accountId = .ok a) (b : Service.Sheet) :
    Task.Triple (fun w => InBounds v w ∧ b.Fits r w.cursors) (v.advance r b)
      (fun _ => InBounds v) (Fails v) := by
  unfold Service.advance
  split
  · split
    · next token _ =>
      exact fun w hw => hw.1.changed (.giveUp (r := r.resuming token) token rfl) fun x hx =>
        hw.1.bounded x (Cursor.Store.mem_purge.1 (List.mem_of_mem_filter hx)).1
    · exact .pure fun w hw => hw.1
  · next hmore =>
    split
    · next token hcursor =>
      exact fun w hw => hw.1.advanced hw.2 hvalid (not_le.1 hmore) hcursor
    · exact fun w hw => hw.1.created hw.2 hvalid (not_le.1 hmore) haccount

lemma triple_page (hvalid : r.validate = .ok ())
    (haccount : ∃ a, v.settings.account r.accountId = .ok a) (b : Service.Sheet) :
    Task.Triple (fun w => InBounds v w ∧ b.Fits r w.cursors) (v.page r b) (fun _ => InBounds v)
      (Fails v) := by
  have hlogged : ∀ {w : World σ} logs, InBounds v w → InBounds v { w with logs := logs } :=
    fun _ hw => ⟨kept_stable.booked _ _ _ _ _ hw.kept, hw.bounded⟩
  exact .bind (triple_advance hvalid haccount b) fun _ =>
    .bind (.modify fun w hw => hlogged _ hw) fun _ =>
    .bind (.modify fun w hw => hlogged _ hw) fun _ => .pure fun w hw => hw

/-- Closing a session changes nothing in what its block found out about the cursors. -/
lemma triple_within_quiet {t : Task σ α} {Q : α → Cursor.Store → Prop}
    (ht : Task.Triple (InBounds v) t (fun a w => InBounds v w ∧ Q a w.cursors) (Fails v)) :
    Task.Triple (InBounds v) (s.within v.peer t) (fun a w => InBounds v w ∧ Q a w.cursors)
      (Fails v) := by
  let R : Except Failure α → Cursor.Store → Prop := fun r store =>
    (∀ a, r = .ok a → Q a store) ∧ r ≠ .error outOfRange
  refine .bind (.observe (R := fun r w => InBounds v w ∧ R r w.cursors)
    (ht.imp (fun _ hw => hw) (fun a w h => ⟨h.1, ?_, nofun⟩)
      fun f w h => ⟨h.1, nofun, fun hf => h.2 (Except.error.inj hf)⟩)) fun r => ?_
  · rintro _ ⟨⟩
    exact h.2
  · refine .bind (triple_quiet (Footprint.covers_close fun _ _ => trivial) avoids_close (R r))
      fun _ => .ofExcept (fun a ha w hw => ⟨hw.1, hw.2.1 a ha⟩) fun f hf w hw => ⟨hw.1, ?_⟩
    rintro rfl
    exact hw.2.2 hf

/-- A search keeps the bounds of all cursors, and finds none out of range. -/
lemma triple_search (r : Search.Request) :
    Task.Triple (InBounds v) (v.search r) (fun _ => InBounds v) (Fails v) := by
  refine .bind (Q := fun _ w => InBounds v w ∧ r.validate = .ok ()) ?_ fun _ => ?_
  · exact .check (fun u h w hw => ⟨hw, h⟩) fun e he w hw =>
      ⟨hw, fun h => r.validate_ne (Failure.refused.inj h ▸ he)⟩
  refine .bind (Q := fun a w => InBounds v w ∧ r.validate = .ok () ∧
    v.settings.account r.accountId = .ok a) ?_ fun account => ?_
  · refine .check (fun a ha w hw => ⟨hw.1, hw.2, ha⟩) fun e he w hw => ⟨hw.1, ?_⟩
    unfold Settings.account at he
    split at he
    · cases he
    · cases he
      exact nofun
  intro w ⟨hw, hvalid, ha⟩
  refine Task.Triple.bind (triple_quiet (.attempt (Footprint.covers_connect
    (fun _ _ _ => trivial) _ _)) (.attempt _) fun _ => True) (fun x => ?_) w ⟨hw, trivial⟩
  cases x with
  | error e =>
    exact (triple_quiet (Footprint.covers_failedSearch _ _) (.bind (.modify _) fun _ => .pure _)
      fun _ => True).imp (fun _ hw => hw) (fun _ _ hw => hw.1) fun _ _ hw => hw
  | ok s =>
    refine .bind ((triple_within_quiet (Q := fun x store => ∀ b, x = .ok b → b.Fits r store)
      (triple_readSheet hvalid)).before fun w hw => hw.1) fun x => ?_
    cases x with
    | error page => exact .pure fun w hw => hw.1
    | ok b => exact (triple_page hvalid ⟨account, ha⟩ b).before fun w hw => ⟨hw.1, hw.2 b rfl⟩

lemma triple_logged {t : Task σ α} (ht : anyCall.Covers v.peer t) :
    Task.Triple (InBounds v) t (fun _ => InBounds v) fun _ => InBounds v :=
  (ht _ (held_stable fun _ => True)).imp (fun _ hw => ⟨hw, trivial⟩) (fun _ _ h => h.1)
    fun _ _ h => h.1

lemma triple_run (c : Command) :
    Task.Triple (InBounds v) (v.run c) (fun _ => InBounds v) fun _ => InBounds v := by
  by_cases hc : ∃ r, c = .search r
  · obtain ⟨r, rfl⟩ := hc
    refine .bind (triple_logged (.log _ _ _)) fun _ => .bind ?_ fun _ => .pure fun _ hw => hw
    exact (triple_search r).imp (fun _ hw => hw) (fun _ _ hw => hw) fun _ _ hw => hw.1
  · exact triple_logged ((Footprint.covers_run v c).mono (fun _ _ _ => trivial)
      fun f ⟨r, hr, _⟩ => hc ⟨r, hr⟩)

/-- No tool call leaves a cursor out of bounds. -/
lemma triple_call (tool : String) (args : Arguments) :
    Task.Triple (InBounds v) (v.call tool args) (fun _ => InBounds v) fun _ => InBounds v := by
  have hanswer : Task.Triple (InBounds v) (v.answer tool args) (fun _ => InBounds v)
      fun _ => InBounds v :=
    .bind (triple_logged (.check _)) triple_run
  refine .bind (triple_logged .now) fun _ =>
    .bind (.attempt (R := fun _ => InBounds v) hanswer (fun _ _ hw => hw) fun _ _ hw => hw)
      fun x => ?_
  cases x with
  | ok a => exact .bind (triple_logged .now) fun _ => .pure fun _ hw => hw
  | error e => exact .bind (triple_logged (.log _ _ _)) fun _ => .pure fun _ hw => hw

lemma undergo_inBounds (o : Occurrence σ) (hw : InBounds v w) : InBounds v (v.undergo w o) := by
  cases o with
  | wait n => exact ⟨undergo_kept (.wait n) hw.kept, hw.bounded⟩
  | drift f => exact ⟨undergo_kept (.drift f) hw.kept, hw.bounded⟩
  | call today tool args =>
    have hcall := (triple_call (v := { v with today := today }) tool args).final
      ⟨hw.kept, hw.bounded⟩
    exact ⟨hcall.kept, hcall.bounded⟩

end Searching

namespace Service

variable {σ : Type}

lemma after_inBounds (v : Service σ) (remote : σ) (clock : Nat) (os : List (Occurrence σ)) :
    InBounds v (v.after (.start remote clock) os) :=
  after_keeps (fun o _ _ hw => undergo_inBounds o hw)
    ⟨⟨Cursor.Store.sound_empty, List.forall_mem_nil _⟩, List.forall_mem_nil _⟩

/-- In every world that is reached, each entry stands for a search that is begun and not finished,
with at most 20000 messages, the newest first, and with what passes the checks of requests; and no
search finds a cursor out of range. -/
theorem cursors_bounded (v : Service σ) (remote : σ) (clock : Nat) (os : List (Occurrence σ)) :
    let w := v.after (.start remote clock) os
    (∀ x ∈ w.cursors.entries, x.2.Bounded v.settings ∧
      x.2.expiresAt ≤ Instant.after v.settings.cursorTtl (Instant.ofMillis w.clock)) ∧
    ∀ today r, (Task.runIn w ({ v with today := today }.search r)).1 ≠
      .error (.refused .cursorOutOfRange) := by
  have hheld := after_inBounds v remote clock os
  refine ⟨fun x hx => ⟨hheld.bounded x hx, hheld.kept.due x hx⟩, fun today r h => ?_⟩
  have hsearch := triple_search (v := { v with today := today }) r
  exact (hsearch.error ⟨hheld.kept, hheld.bounded⟩ (Prod.ext h rfl)).2 rfl

/-- The entry that the first page of the sample's inbox leaves. -/
theorem cursors_bounded_of_firstPage :
    ∃ e, ("cursor-1", e) ∈ slowFirstPage.cursors.entries ∧
      e.Bounded (Sample.service false).settings := by
  have hentry : slowFirstPage.cursors.entries.map Prod.fst = ["cursor-1"] := by
    unfold slowFirstPage after
    simp only [List.foldl, undergo]
    unfold call answer run search readSheet snapshot start Session.search
    simp only [newestFirst_eq_insertionSort]
    decide +kernel
  obtain ⟨x, hx, htoken⟩ := List.mem_map.1 (hentry ▸ List.mem_singleton_self "cursor-1")
  refine ⟨x.2, htoken ▸ hx, ?_⟩
  rw [slowFirstPage, Sample.world] at hx
  exact ((cursors_bounded (Sample.service false) _ 0 _).1 x hx).1

end Service

end Mailroom
