import Mathlib.Data.List.Induction
import Mailroom.Proofs.Overlap
import Mailroom.Proofs.Paging

/-!
# Steps of overlapping searches

What one beat can do to the calls and to the cursors, told once: entries are lost, a call enters,
goes on, or leaves. What every step keeps holds after every run.
-/

namespace Mailroom

open Imap

section Steps

variable {σ : Type} {v : Service σ} {x : Scene σ} {w w' : World σ} {c : Visit}

def dropping : Footprint :=
  ⟨fun _ _ => True, fun f => ∀ now store, Cursor.Store.Drops store (f now store)⟩

lemma dropping_stable {p : Peer σ} (store : Cursor.Store) :
    dropping.Stable p fun w : World σ => store.Drops w.cursors where
  asked _ _ _ _ hw := hw
  timeoutSet _ _ _ hw := hw
  changed _ _ hf hw := hw.trans (hf _ _)
  booked _ _ _ _ _ hw := hw

/-- What a call finds when it takes its snapshot: the entry under its cursor, or what it searched
for. -/
structure Opens (w : World σ) (c : Visit) : Prop where
  reading : c.progress = .reading
  fresh : c.sheet.rows = []
  limit : 1 ≤ c.request.limit
  range : c.sheet.snapshot.offset ≤ c.sheet.snapshot.uids.length
  resumed : ∀ token, c.sheet.snapshot.cursor = some token → ∃ e,
    (w.cursors.get (Instant.ofMillis w.clock) token).1 = some e ∧
      e.uids = c.sheet.snapshot.uids ∧ e.offset = c.sheet.snapshot.offset
  started : c.sheet.snapshot.cursor = none → c.sheet.snapshot.offset = 0

/-- What one beat can do to the calls and the cursors. -/
inductive Step (p : Cursor.Policy) (x x' : Scene σ) : Prop where
  | drop (hvisits : x'.visits = x.visits) (hstore : x.world.cursors.Drops x'.world.cursors)
  | enter (c : Visit) (hc : Opens x.world c) (hvisits : x'.visits = x.visits ++ [c])
    (hstore : x.world.cursors.Drops x'.world.cursors)
  | attempt (before : List Visit) (c : Visit) (after : List Visit) (uid : Int)
    (row : Except Issue MessageRow) (hreading : c.progress = .reading) (huid : c.next? = some uid)
    (hrow : attemptedUid row = some uid) (hvisits : x.visits = before ++ c :: after)
    (hvisits' : x'.visits = before ++ c.attempted row :: after)
    (hstore : x'.world.cursors = x.world.cursors)
  | fail (before : List Visit) (c : Visit) (after : List Visit) (hreading : c.progress = .reading)
    (hvisits : x.visits = before ++ c :: after)
    (hvisits' : x'.visits = before ++ c.ended .failed :: after)
    (hstore : x'.world.cursors = x.world.cursors)
  | last (before : List Visit) (c : Visit) (after : List Visit) (hreading : c.progress = .reading)
    (hdone : c.next? = none) (hlast : c.sheet.snapshot.uids.length ≤ c.sheet.nextOffset)
    (hvisits : x.visits = before ++ c :: after)
    (hvisits' : x'.visits = before ++ c.ended (.left none) :: after)
    (hstore : x'.world.cursors = c.sheet.snapshot.cursor.elim x.world.cursors
      (x.world.cursors.delete (Instant.ofMillis x.world.clock)))
  | moveOn (before : List Visit) (c : Visit) (after : List Visit) (token : String)
    (hreading : c.progress = .reading) (hdone : c.next? = none)
    (hmore : c.sheet.nextOffset < c.sheet.snapshot.uids.length)
    (hcursor : c.sheet.snapshot.cursor = some token) (hvisits : x.visits = before ++ c :: after)
    (hvisits' : x'.visits = before ++ c.ended (.left (some token)) :: after)
    (hstore : x'.world.cursors = x.world.cursors.advance p (Instant.ofMillis x.world.clock) token
      c.sheet.nextOffset)
  | create (before : List Visit) (c : Visit) (after : List Visit) (hreading : c.progress = .reading)
    (hdone : c.next? = none) (hmore : c.sheet.nextOffset < c.sheet.snapshot.uids.length)
    (hcursor : c.sheet.snapshot.cursor = none) (hvisits : x.visits = before ++ c :: after)
    (hvisits' : x'.visits = before ++ c.ended (.left (some (x.world.cursors.create p
      (Instant.ofMillis x.world.clock) (entryFor c.request c.sheet)).1)) :: after)
    (hstore : x'.world.cursors = (x.world.cursors.create p (Instant.ofMillis x.world.clock)
      (entryFor c.request c.sheet)).2)

lemma snapshot_drops {s : Session} {r : Search.Request} {epoch : Int}
    {y : Except Failure (Except Answer.Page Snapshot)}
    (h : Task.runIn w (v.snapshot s r epoch) = (y, w')) : w.cursors.Drops w'.cursors := by
  have hcovers : dropping.Covers v.peer (v.snapshot s r epoch) :=
    Footprint.covers_snapshot (fun _ _ => trivial) (fun _ _ _ _ => Cursor.Store.drops_get _ _ _)
      (fun _ _ _ _ => Cursor.Store.drops_delete _ _ _) epoch
  have hfinal := (hcovers _ (dropping_stable w.cursors)).final (Cursor.Store.Drops.refl w.cursors)
  rwa [h] at hfinal

lemma opens_of_snapshot {s : Session} {r : Search.Request} {epoch : Int} {n : Snapshot}
    (hvalid : r.validate = .ok ())
    (h : Task.runIn w (v.snapshot s r epoch) = (.ok (.ok n), w'))
    (hrange : n.offset ≤ n.uids.length) : Opens w ⟨s, r, ⟨epoch, n, []⟩, .reading⟩ := by
  have hlimit := (Search.Request.validate_eq_ok.1 hvalid).limit.1
  have hcursor : n.cursor = r.cursor := (snapshot_yields r epoch).ok trivial h n rfl
  refine ⟨rfl, rfl, hlimit, hrange, fun token htoken => ?_, fun hnone => ?_⟩
  · obtain ⟨e, hget, -, -, -, rfl, -⟩ := (snapshot_resumed_iff (hcursor.symm.trans htoken)).1 h
    exact ⟨e, hget, rfl, rfl⟩
  · exact (snapshot_started (hcursor.symm.trans hnone) h).1.2

lemma step_enter (p : Cursor.Policy) {s : Session} {r : Search.Request} {epoch : Int} :
    Step p x (x.receive (v.enter x.world s r epoch)) := by
  unfold Service.enter
  cases hvalid : r.validate with
  | error _ => exact .drop (List.append_nil _) (.refl _)
  | ok _ =>
    dsimp only
    rcases h : Task.runIn x.world (v.snapshot s r epoch) with ⟨f | page | n, w'⟩
    · exact .drop (List.append_nil _) (snapshot_drops h)
    · exact .drop (List.append_nil _) (snapshot_drops h)
    · dsimp only
      split
      · exact .drop (List.append_nil _) (snapshot_drops h)
      · next hrange =>
        exact .enter _ (opens_of_snapshot hvalid h (not_lt.1 hrange)) rfl (snapshot_drops h)

/-- A turn is a step if it is one for a call that is there. -/
lemma step_turn {p : Cursor.Policy} {i : Nat} {f : World σ → Visit → Visit × World σ}
    (h : ∀ before c after, x.visits = before ++ c :: after → f x.world c = (c, x.world) ∨
      Step p x ⟨(f x.world c).2, before ++ (f x.world c).1 :: after⟩) : Step p x (x.turn i f) := by
  unfold Scene.turn
  cases hi : x.visits[i]? with
  | none => exact .drop rfl (.refl _)
  | some c =>
    obtain ⟨hlt, rfl⟩ := List.getElem?_eq_some_iff.1 hi
    have hsplit : x.visits = x.visits.take i ++ x.visits[i] :: x.visits.drop (i + 1) := by
      rw [← List.drop_eq_getElem_cons hlt, List.take_append_drop]
    dsimp only
    rw [List.set_eq_take_append_cons_drop, if_pos hlt]
    rcases h _ _ _ hsplit with hsame | hstep
    · rw [hsame]
      exact .drop hsplit.symm (.refl _)
    · exact hstep

lemma step_attempt {p : Cursor.Policy} {i : Nat} : Step p x (x.turn i v.attemptNext) := by
  refine step_turn fun before c after hvisits => ?_
  unfold Service.attemptNext
  split
  · next uid hreading huid =>
    right
    have hcovers : anyCall.Covers v.peer
        (v.fetchRow c.session c.request c.sheet.epoch c.sheet.snapshot uid) :=
      Footprint.covers_fetchRow (fun _ => trivial) _ _ _
    rcases hrun : Task.runIn x.world
      (v.fetchRow c.session c.request c.sheet.epoch c.sheet.snapshot uid) with ⟨f | row, w'⟩
    · exact .fail before c after hreading hvisits rfl ((resting_refl x.world).run hcovers hrun).1
    · exact .attempt before c after uid row hreading huid
        ((triple_fetchRow _ _ _ uid).ok trivial hrun) hvisits rfl
        ((resting_refl x.world).run hcovers hrun).1
  · exact .inl rfl

lemma step_leave {i : Nat} : Step v.cursorPolicy x (x.turn i v.leave) := by
  refine step_turn fun before c after hvisits => ?_
  unfold Service.leave
  split
  · next hreading hdone =>
    right
    by_cases hlast : c.sheet.snapshot.uids.length ≤ c.sheet.nextOffset
    · unfold Service.advance
      rw [if_pos hlast]
      cases hcursor : c.sheet.snapshot.cursor with
      | none => exact .last before c after hreading hdone hlast hvisits rfl (by rw [hcursor]; rfl)
      | some token =>
        exact .last before c after hreading hdone hlast hvisits rfl (by rw [hcursor]; rfl)
    · unfold Service.advance
      rw [if_neg hlast]
      cases hcursor : c.sheet.snapshot.cursor with
      | none => exact .create before c after hreading hdone (not_le.1 hlast) hcursor hvisits rfl rfl
      | some token =>
        exact .moveOn before c after token hreading hdone (not_le.1 hlast) hcursor hvisits rfl rfl
  · exact .inl rfl

/-- Every beat is a step. -/
lemma step_beat (v : Service σ) (x : Scene σ) (b : Beat σ) :
    Step v.cursorPolicy x (v.beat x b) := by
  cases b with
  | elsewhere f => exact .drop rfl (.refl _)
  | lookUp token => exact .drop rfl (Cursor.Store.drops_get _ _ token)
  | giveUp token => exact .drop rfl (Cursor.Store.drops_delete _ _ _)
  | enter today s r epoch => exact step_enter (v := { v with today := today }) _
  | attempt i => exact step_attempt
  | leave i => exact step_leave

end Steps

namespace Visit

variable {c c' : Visit} {token : String} {k j : Nat} {uid : Int} {row : Except Issue MessageRow}

/-- A call looks at messages of its snapshot, has attempted some of them in their order, and leaves
without a cursor only at the end of the list. -/
structure Proper (c : Visit) : Prop where
  limit : 1 ≤ c.request.limit
  offset : 0 ≤ c.sheet.snapshot.offset
  range : c.sheet.snapshot.offset ≤ c.sheet.snapshot.uids.length
  started : c.sheet.snapshot.cursor = none → c.sheet.snapshot.offset = 0
  rows : c.sheet.rows.map attemptedUid = (c.page.take c.sheet.rows.length).map some
  last : c.progress = .left none → c.sheet.snapshot.uids.length ≤ c.sheet.nextOffset

/-- The ways in which a call goes on. -/
inductive Goes (c : Visit) : Visit → Prop where
  | attempt (uid : Int) (row : Except Issue MessageRow) (hreading : c.progress = .reading)
    (huid : c.next? = some uid) (hrow : attemptedUid row = some uid) : Goes c (c.attempted row)
  | fail (hreading : c.progress = .reading) : Goes c (c.ended .failed)
  | leave (next : Option String) (hreading : c.progress = .reading) (hdone : c.next? = none)
    (hlast : next = none → c.sheet.snapshot.uids.length ≤ c.sheet.nextOffset) :
    Goes c (c.ended (.left next))

lemma not_hasLeft_of_reading (h : c.progress = .reading) : ¬ c.HasLeft := by
  rintro ⟨next, hleft⟩
  rw [h] at hleft
  cases hleft

lemma on_of_reading (h : c.progress = .reading) :
    c.On token ↔ c.sheet.snapshot.cursor = some token := by
  unfold On
  rw [h]
  simp

@[simp] lemma on_failed :
    (c.ended .failed).On token ↔ c.sheet.snapshot.cursor = some token := by
  simp [On, ended]

@[simp] lemma on_left {next : Option String} : (c.ended (.left next)).On token ↔
    c.sheet.snapshot.cursor = some token ∨ next = some token := by
  simp [On, ended]

lemma Goes.reading (h : Goes c c') : c.progress = .reading := by
  cases h <;> assumption

lemma Goes.snapshot_eq (h : Goes c c') : c'.sheet.snapshot = c.sheet.snapshot := by
  cases h <;> rfl

lemma Goes.on (h : Goes c c') (hon : c.On token) : c'.On token := by
  rw [on_of_reading h.reading] at hon
  exact .inl (h.snapshot_eq ▸ hon)

lemma Goes.attempts (h : Goes c c') (hk : c.Attempts k uid) : c'.Attempts k uid := by
  obtain ⟨j, row, hrow, hplace, huid⟩ := hk
  cases h with
  | attempt _ row' =>
    exact ⟨j, row, (List.getElem?_append_left (List.getElem?_eq_some_iff.1 hrow).1).trans hrow,
      hplace, huid⟩
  | fail | leave => exact ⟨j, row, hrow, hplace, huid⟩

lemma Goes.proper (h : Goes c c') (hc : c.Proper) : c'.Proper := by
  cases h with
  | attempt uid row hreading huid hrow =>
    refine ⟨hc.limit, hc.offset, hc.range, hc.started, ?_, fun hleft => ?_⟩
    · have hpage : (c.attempted row).page = c.page := rfl
      have hrows : (c.attempted row).sheet.rows = c.sheet.rows ++ [row] := rfl
      rw [hpage, hrows, List.map_append, hc.rows, List.length_append, List.length_singleton,
        List.take_add_one, List.map_append, ← next?, huid, List.map_singleton, hrow]
      rfl
    · exact absurd ⟨_, hleft⟩ (not_hasLeft_of_reading hreading)
  | fail hreading =>
    exact ⟨hc.limit, hc.offset, hc.range, hc.started, hc.rows, fun hleft => by cases hleft⟩
  | leave next hreading hdone hlast =>
    refine ⟨hc.limit, hc.offset, hc.range, hc.started, hc.rows, fun hleft => hlast ?_⟩
    exact Progress.left.inj hleft

lemma Proper.uid_of_row (hc : c.Proper) (hrow : c.sheet.rows[j]? = some row) :
    ∃ uid, c.page[j]? = some uid ∧ attemptedUid row = some uid := by
  have hj := (List.getElem?_eq_some_iff.1 hrow).1
  have hmap := congrArg (·[j]?) hc.rows
  simp only [List.getElem?_map, hrow, Option.map_some, List.getElem?_take_of_lt hj] at hmap
  obtain ⟨uid, huid, hsome⟩ := Option.map_eq_some_iff.1 hmap.symm
  exact ⟨uid, huid, hsome.symm⟩

lemma Proper.page_getElem? (hc : c.Proper) (hpage : c.page[j]? = some uid) {offset : Nat}
    (ho : c.sheet.snapshot.offset = offset) : c.sheet.snapshot.uids[offset + j]? = some uid := by
  have hlimit := hc.limit
  rw [page, ho, slice_eq _ _ (by omega), List.getElem?_take] at hpage
  split at hpage
  · rwa [List.getElem?_drop] at hpage
  · cases hpage

/-- A call attempted every message between its offset and the next one. -/
lemma Proper.attempts (hc : c.Proper) (hk : c.sheet.snapshot.offset ≤ k)
    (hk' : k < c.sheet.nextOffset) (huid : c.sheet.snapshot.uids[k]? = some uid) :
    c.Attempts k uid := by
  obtain ⟨offset, ho⟩ := Int.eq_ofNat_of_zero_le hc.offset
  rw [Service.Sheet.nextOffset] at hk'
  obtain ⟨j, rfl⟩ : ∃ j, k = offset + j := ⟨k - offset, by omega⟩
  have hj : j < c.sheet.rows.length := by omega
  obtain ⟨uid', hpage, hrow⟩ := hc.uid_of_row (List.getElem?_eq_getElem hj)
  have hsame := (hc.page_getElem? hpage ho).symm.trans huid
  rw [Option.some.injEq] at hsame
  exact ⟨j, _, List.getElem?_eq_getElem hj, by omega, hsame ▸ hrow⟩

lemma Attempts.range (h : c.Attempts k uid) :
    c.sheet.snapshot.offset ≤ k ∧ k < c.sheet.nextOffset := by
  obtain ⟨j, row, hrow, hplace, -⟩ := h
  have hj := (List.getElem?_eq_some_iff.1 hrow).1
  rw [Service.Sheet.nextOffset]
  omega

end Visit

section Regularity

variable {σ : Type} {v : Service σ} {p : Cursor.Policy} {x x' : Scene σ} {token : String}
variable {e' : Cursor.Entry}

/-- Cursors and calls in order: tokens were issued, and places lie in their snapshots. -/
structure Regular (x : Scene σ) : Prop where
  sound : x.world.cursors.Sound
  offset : ∀ token e, x.world.cursors.find? token = some e → 0 ≤ e.offset
  proper : ∀ c ∈ x.visits, c.Proper
  issued : ∀ c ∈ x.visits, ∀ token, c.On token → x.world.cursors.Issued token

lemma Step.visits (h : Step p x x') : x'.visits = x.visits ∨
    (∃ c, Opens x.world c ∧ x'.visits = x.visits ++ [c]) ∨
    ∃ before c c' after, x.visits = before ++ c :: after ∧ x'.visits = before ++ c' :: after ∧
      c.Goes c' := by
  cases h with
  | drop hvisits => exact .inl hvisits
  | enter c hc hvisits => exact .inr (.inl ⟨c, hc, hvisits⟩)
  | attempt before c after uid row hreading huid hrow hvisits hvisits' =>
    exact .inr (.inr ⟨_, _, _, _, hvisits, hvisits', .attempt uid row hreading huid hrow⟩)
  | fail before c after hreading hvisits hvisits' =>
    exact .inr (.inr ⟨_, _, _, _, hvisits, hvisits', .fail hreading⟩)
  | last before c after hreading hdone hlast hvisits hvisits' =>
    exact .inr (.inr ⟨_, _, _, _, hvisits, hvisits', .leave _ hreading hdone fun _ => hlast⟩)
  | moveOn before c after token hreading hdone hmore hcursor hvisits hvisits' =>
    exact .inr (.inr ⟨_, _, _, _, hvisits, hvisits', .leave _ hreading hdone (by rintro ⟨⟩)⟩)
  | create before c after hreading hdone hmore hcursor hvisits hvisits' =>
    exact .inr (.inr ⟨_, _, _, _, hvisits, hvisits', .leave _ hreading hdone (by rintro ⟨⟩)⟩)

/-- A call was there before, goes on from one that was, or takes its snapshot. -/
lemma Step.mem_visits (h : Step p x x') {c' : Visit} (hc' : c' ∈ x'.visits) :
    c' ∈ x.visits ∨ (∃ c ∈ x.visits, c.Goes c') ∨ Opens x.world c' := by
  rcases h.visits with hsame | ⟨c, hc, hvisits⟩ | ⟨before, c, d, after, hvisits, hvisits', hgoes⟩
  · exact .inl (hsame ▸ hc')
  · rw [hvisits, List.mem_append, List.mem_singleton] at hc'
    rcases hc' with hc' | rfl
    · exact .inl hc'
    · exact .inr (.inr hc)
  · rw [hvisits', List.mem_append, List.mem_cons] at hc'
    rw [hvisits]
    rcases hc' with hc' | rfl | hc'
    · exact .inl (List.mem_append_left _ hc')
    · exact .inr (.inl ⟨c, List.mem_append_right _ List.mem_cons_self, hgoes⟩)
    · exact .inl (List.mem_append_right _ (List.mem_cons_of_mem _ hc'))

lemma Step.sound (h : Step p x x') (hs : x.world.cursors.Sound) : x'.world.cursors.Sound := by
  cases h with
  | drop _ hstore => exact hstore.sound hs
  | enter _ _ _ hstore => exact hstore.sound hs
  | attempt _ _ _ _ _ _ _ _ _ _ hstore => exact hstore ▸ hs
  | fail _ _ _ _ _ _ hstore => exact hstore ▸ hs
  | last _ c _ _ _ _ _ _ hstore =>
    rw [hstore]
    cases c.sheet.snapshot.cursor with
    | none => exact hs
    | some token => exact hs.delete _ token
  | moveOn _ _ _ token _ _ _ _ _ _ hstore =>
    rw [hstore]
    exact hs.advance p _ token _
  | create _ _ _ _ _ _ _ _ _ hstore =>
    rw [hstore]
    exact hs.create p _ _

lemma Step.issued (h : Step p x x') (ht : x.world.cursors.Issued token) :
    x'.world.cursors.Issued token := by
  obtain ⟨k, hk, rfl⟩ := ht
  refine ⟨k, hk.trans ?_, rfl⟩
  cases h with
  | drop _ hstore => exact hstore.created.ge
  | enter _ _ _ hstore => exact hstore.created.ge
  | attempt _ _ _ _ _ _ _ _ _ _ hstore => rw [hstore]
  | fail _ _ _ _ _ _ hstore => rw [hstore]
  | last _ c _ _ _ _ _ _ hstore =>
    rw [hstore]
    cases c.sheet.snapshot.cursor <;> exact le_rfl
  | moveOn _ _ _ _ _ _ _ _ _ _ hstore =>
    rw [hstore]
    exact le_rfl
  | create _ _ _ _ _ _ _ _ _ hstore =>
    rw [hstore]
    exact Nat.le_succ _

/-- Where an entry comes from that is held after a beat. -/
inductive Held (x x' : Scene σ) (token : String) (e' : Cursor.Entry) : Prop where
  | kept (hfind : x.world.cursors.find? token = some e')
  | moved (before : List Visit) (c : Visit) (after : List Visit) (e : Cursor.Entry)
    (hreading : c.progress = .reading) (hdone : c.next? = none)
    (hcursor : c.sheet.snapshot.cursor = some token) (hvisits : x.visits = before ++ c :: after)
    (hvisits' : x'.visits = before ++ c.ended (.left (some token)) :: after)
    (hfind : x.world.cursors.find? token = some e) (huids : e'.uids = e.uids)
    (hoffset : e'.offset = c.sheet.nextOffset)
  | made (before : List Visit) (c : Visit) (after : List Visit)
    (hreading : c.progress = .reading) (hdone : c.next? = none)
    (hcursor : c.sheet.snapshot.cursor = none) (hvisits : x.visits = before ++ c :: after)
    (hvisits' : x'.visits = before ++ c.ended (.left (some token)) :: after)
    (hnew : ¬ x.world.cursors.Issued token) (huids : e'.uids = c.sheet.snapshot.uids)
    (hoffset : e'.offset = c.sheet.nextOffset)

lemma Step.held (h : Step p x x') (hs : x.world.cursors.Sound)
    (hfind : x'.world.cursors.find? token = some e') : Held x x' token e' := by
  cases h with
  | drop _ hstore => exact .kept (hstore.only hs _ _ hfind)
  | enter _ _ _ hstore => exact .kept (hstore.only hs _ _ hfind)
  | attempt _ _ _ _ _ _ _ _ _ _ hstore => exact .kept (hstore ▸ hfind)
  | fail _ _ _ _ _ _ hstore => exact .kept (hstore ▸ hfind)
  | last _ c _ _ _ _ _ _ hstore =>
    rw [hstore] at hfind
    cases hcursor : c.sheet.snapshot.cursor with
    | none =>
      rw [hcursor] at hfind
      exact .kept hfind
    | some token' =>
      rw [hcursor] at hfind
      exact .kept (hs.find?_of_delete hfind)
  | moveOn before c after token' hreading hdone hmore hcursor hvisits hvisits' hstore =>
    rw [hstore] at hfind
    obtain ⟨e, he, -, rfl⟩ := hs.find?_advance.1 hfind
    by_cases htoken : token = token'
    · obtain rfl := htoken
      rw [if_pos rfl]
      exact .moved before c after e hreading hdone hcursor hvisits hvisits' he rfl rfl
    · rw [if_neg htoken]
      exact .kept he
  | create before c after hreading hdone hmore hcursor hvisits hvisits' hstore =>
    rw [hstore] at hfind
    rcases hs.find?_create hfind with hold | ⟨rfl, rfl⟩
    · exact .kept hold
    · exact .made before c after hreading hdone hcursor hvisits hvisits'
        (Cursor.Store.not_issued_create _ _ _ _) rfl rfl

lemma Opens.held {w : World σ} {c : Visit} (hc : Opens w c) (hs : w.cursors.Sound)
    (hcursor : c.sheet.snapshot.cursor = some token) :
    ∃ e, w.cursors.find? token = some e ∧ e.uids = c.sheet.snapshot.uids ∧
      e.offset = c.sheet.snapshot.offset := by
  obtain ⟨e, hget, he⟩ := hc.resumed token hcursor
  exact ⟨e, (hs.get_eq_some.1 hget).1, he⟩

lemma Regular.proper_of_opens (hx : Regular x) {c : Visit} (hc : Opens x.world c) : c.Proper where
  limit := hc.limit
  offset := by
    cases hcursor : c.sheet.snapshot.cursor with
    | none => rw [hc.started hcursor]
    | some token =>
      obtain ⟨e, hfind, -, he⟩ := hc.held hx.sound hcursor
      exact he ▸ hx.offset token e hfind
  range := hc.range
  started := hc.started
  rows := by rw [hc.fresh]; rfl
  last hleft := absurd ⟨_, hleft⟩ (Visit.not_hasLeft_of_reading hc.reading)

lemma Visit.Proper.nextOffset_nonneg {c : Visit} (hc : c.Proper) : 0 ≤ c.sheet.nextOffset :=
  Int.add_nonneg hc.offset (Int.natCast_nonneg _)

/-- A token of a call was given to it, or is issued when the call leaves. -/
lemma Step.issued_on (h : Step p x x') (hx : Regular x) {c' : Visit} (hc' : c' ∈ x'.visits)
    (hon : c'.On token) : x'.world.cursors.Issued token := by
  have hold : ∀ c ∈ x.visits, c.On token → x'.world.cursors.Issued token :=
    fun c hc hon => h.issued (hx.issued c hc token hon)
  have hgoes : ∀ before c d after, x.visits = before ++ c :: after →
      x'.visits = before ++ d :: after → (d.On token → c.On token ∨
        x'.world.cursors.Issued token) → x'.world.cursors.Issued token := by
    intro before c d after hvisits hvisits' hd
    rw [hvisits'] at hc'
    rw [hvisits] at hold
    rcases List.mem_append.1 hc' with hmem | hmem
    · exact hold c' (List.mem_append_left _ hmem) hon
    rcases List.mem_cons.1 hmem with rfl | hmem
    · exact (hd hon).elim (hold c (List.mem_append_right _ List.mem_cons_self)) id
    · exact hold c' (List.mem_append_right _ (List.mem_cons_of_mem _ hmem)) hon
  cases h with
  | drop hvisits => exact hold c' (hvisits ▸ hc') hon
  | enter c hc hvisits hstore =>
    rw [hvisits, List.mem_append, List.mem_singleton] at hc'
    rcases hc' with hc' | rfl
    · exact hold c' hc' hon
    · obtain ⟨e, hfind, -⟩ := hc.held hx.sound ((Visit.on_of_reading hc.reading).1 hon)
      obtain ⟨k, hk, rfl⟩ := hx.sound.issued _ (hx.sound.find?_eq_some.1 hfind)
      exact ⟨k, hk.trans hstore.created.ge, rfl⟩
  | attempt before c after uid row hreading huid hrow hvisits hvisits' =>
    exact hgoes _ _ _ _ hvisits hvisits' .inl
  | fail before c after hreading hvisits hvisits' =>
    exact hgoes _ _ _ _ hvisits hvisits' fun hon => .inl (.inl (Visit.on_failed.1 hon))
  | last before c after hreading hdone hlast hvisits hvisits' =>
    refine hgoes _ _ _ _ hvisits hvisits' fun hon => .inl (.inl ?_)
    simpa using hon
  | moveOn before c after token' hreading hdone hmore hcursor hvisits hvisits' =>
    refine hgoes _ _ _ _ hvisits hvisits' fun hon => .inl (.inl ?_)
    simpa [hcursor] using hon
  | create before c after hreading hdone hmore hcursor hvisits hvisits' hstore =>
    refine hgoes _ _ _ _ hvisits hvisits' fun hon => .inr ?_
    obtain rfl : _ = token := by simpa [hcursor] using hon
    rw [hstore]
    exact Cursor.Store.issued_create _ _ _ _

/-- A beat leaves things in order. -/
lemma Step.regular (h : Step p x x') (hx : Regular x) : Regular x' where
  sound := h.sound hx.sound
  offset token e' hfind := by
    cases h.held hx.sound hfind with
    | kept hfind => exact hx.offset token e' hfind
    | moved _ c _ _ _ _ _ hvisits _ _ _ hoffset | made _ c _ _ _ _ hvisits _ _ _ hoffset =>
      rw [hoffset]
      exact (hx.proper c (by simp [hvisits])).nextOffset_nonneg
  proper c' hc' := by
    rcases h.mem_visits hc' with hc' | ⟨c, hc, hgoes⟩ | hc'
    · exact hx.proper c' hc'
    · exact hgoes.proper (hx.proper c hc)
    · exact hx.proper_of_opens hc'
  issued c' hc' token hon := h.issued_on hx hc' hon

lemma regular_opening (remote : σ) (clock : Nat) : Regular (.opening remote clock : Scene σ) where
  sound := Cursor.Store.sound_empty
  offset _ _ hfind := by cases hfind
  proper _ hc := by cases hc
  issued _ hc := by cases hc

lemma regular_overlap (v : Service σ) (remote : σ) (clock : Nat) (bs : List (Beat σ)) :
    Regular (v.overlap (.opening remote clock) bs) := by
  induction bs using List.reverseRecOn with
  | nil => exact regular_opening remote clock
  | append_singleton bs b ih =>
    rw [Service.overlap_append]
    exact (step_beat v _ b).regular ih

/-- What every step keeps, given that things are in order, holds after every run. -/
lemma overlap_keeps {I : Scene σ → Prop} (remote : σ) (clock : Nat)
    (hstart : I (.opening remote clock))
    (h : ∀ x x', Step v.cursorPolicy x x' → Regular x → I x → I x') (bs : List (Beat σ)) :
    I (v.overlap (.opening remote clock) bs) := by
  induction bs using List.reverseRecOn with
  | nil => exact hstart
  | append_singleton bs b ih =>
    rw [Service.overlap_append]
    exact h _ _ (step_beat v _ b) (regular_overlap v remote clock bs) ih

end Regularity

end Mailroom
