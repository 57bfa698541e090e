import Mailroom.Proofs.OverlapStep

/-!
# Overlapping searches skip nothing

A call moves its cursor to where its own page ends, whatever other calls did meanwhile. The place
that is kept may thus go back, but never past a message that no call attempted: when a call took its
snapshot every message before its place had been attempted, and it attempted its page itself.
-/

namespace Mailroom

open Imap

variable {σ : Type} {v : Service σ} {p : Cursor.Policy} {x x' : Scene σ} {token : String}

namespace Scene

/-- Some call on a cursor attempted the message at a place of its list. -/
def Tried (x : Scene σ) (token : String) (k : Nat) (uid : Int) : Prop :=
  ∃ c ∈ x.visits, c.On token ∧ c.Attempts k uid

/-- The messages of a list before some place were attempted by calls on a cursor. -/
def TriedBelow (x : Scene σ) (token : String) (uids : List Int) (offset : Int) : Prop :=
  ∀ (k : Nat) uid, k < offset → uids[k]? = some uid → x.Tried token k uid

end Scene

lemma Step.tried (h : Step p x x') {k : Nat} {uid : Int} (ht : x.Tried token k uid) :
    x'.Tried token k uid := by
  obtain ⟨c, hc, hon, hk⟩ := ht
  rcases h.visits with hsame | ⟨d, -, hvisits⟩ | ⟨before, d, d', after, hvisits, hvisits', hgoes⟩
  · exact ⟨c, hsame ▸ hc, hon, hk⟩
  · exact ⟨c, hvisits ▸ List.mem_append_left _ hc, hon, hk⟩
  · rw [hvisits] at hc
    unfold Scene.Tried
    rw [hvisits']
    rcases List.mem_append.1 hc with hmem | hmem
    · exact ⟨c, List.mem_append_left _ hmem, hon, hk⟩
    rcases List.mem_cons.1 hmem with rfl | hmem
    · exact ⟨d', List.mem_append_right _ List.mem_cons_self, hgoes.on hon, hgoes.attempts hk⟩
    · exact ⟨c, List.mem_append_right _ (List.mem_cons_of_mem _ hmem), hon, hk⟩

lemma Step.triedBelow (h : Step p x x') {uids : List Int} {offset : Int}
    (ht : x.TriedBelow token uids offset) : x'.TriedBelow token uids offset :=
  fun k uid hk huid => h.tried (ht k uid hk huid)

/-- A call on a cursor has attempted its page, and others the messages before it. -/
lemma triedBelow_nextOffset {c : Visit} (hc : c ∈ x.visits) (hproper : c.Proper)
    (hon : c.On token)
    (hbelow : x.TriedBelow token c.sheet.snapshot.uids c.sheet.snapshot.offset) :
    x.TriedBelow token c.sheet.snapshot.uids c.sheet.nextOffset := by
  intro k uid hk huid
  rcases lt_or_ge (k : Int) c.sheet.snapshot.offset with hlt | hge
  · exact hbelow k uid hlt huid
  · exact ⟨c, hc, hon, hproper.attempts hge hk huid⟩

/-- Before the place that is kept under a cursor, and before the page of each call that was given
it, every message was attempted; and all of these are about one list. -/
structure Covered (x : Scene σ) : Prop where
  held : ∀ token e, x.world.cursors.find? token = some e → x.TriedBelow token e.uids e.offset
  resumed : ∀ c ∈ x.visits, ∀ token, c.sheet.snapshot.cursor = some token →
    x.TriedBelow token c.sheet.snapshot.uids c.sheet.snapshot.offset
  same : ∀ c ∈ x.visits, ∀ token e, c.sheet.snapshot.cursor = some token →
    x.world.cursors.find? token = some e → e.uids = c.sheet.snapshot.uids

/-- A call that was given a cursor, before a beat or by it, is about the list that was held. -/
lemma Step.given (h : Step p x x') (hr : Regular x) (hx : Covered x) {c' : Visit}
    (hc' : c' ∈ x'.visits) (hcursor : c'.sheet.snapshot.cursor = some token) :
    x.world.cursors.Issued token ∧
      (∀ e, x.world.cursors.find? token = some e → e.uids = c'.sheet.snapshot.uids) ∧
      x.TriedBelow token c'.sheet.snapshot.uids c'.sheet.snapshot.offset := by
  have hold : ∀ c ∈ x.visits, c.sheet.snapshot.cursor = some token →
      x.world.cursors.Issued token ∧
      (∀ e, x.world.cursors.find? token = some e → e.uids = c.sheet.snapshot.uids) ∧
      x.TriedBelow token c.sheet.snapshot.uids c.sheet.snapshot.offset :=
    fun c hc hcursor => ⟨hr.issued c hc token (.inl hcursor),
      fun e => hx.same c hc token e hcursor, hx.resumed c hc token hcursor⟩
  rcases h.mem_visits hc' with hc' | ⟨c, hc, hgoes⟩ | hopens
  · exact hold c' hc' hcursor
  · rw [hgoes.snapshot_eq] at hcursor ⊢
    exact hold c hc hcursor
  · obtain ⟨e, hfind, huids, hoffset⟩ := hopens.held hr.sound hcursor
    rw [← huids, ← hoffset]
    refine ⟨hr.sound.issued _ (hr.sound.find?_eq_some.1 hfind), fun e' he' => ?_,
      hx.held token e hfind⟩
    rw [Option.some.inj (he'.symm.trans hfind)]

lemma Step.covered (h : Step p x x') (hr : Regular x) (hx : Covered x) : Covered x' where
  held token e' hfind := by
    cases h.held hr.sound hfind with
    | kept hfind => exact h.triedBelow (hx.held token e' hfind)
    | moved before c after e hreading hdone hcursor hvisits hvisits' hfind huids hoffset =>
      have hc : c ∈ x.visits := by simp [hvisits]
      have hc' : c.ended (.left (some token)) ∈ x'.visits := by simp [hvisits']
      rw [huids, hoffset, hx.same c hc token e hcursor hfind]
      exact triedBelow_nextOffset (c := c.ended (.left (some token))) hc'
        ((h.regular hr).proper _ hc') (by simp) (h.triedBelow (hx.resumed c hc token hcursor))
    | made before c after hreading hdone hcursor hvisits hvisits' hnew huids hoffset =>
      have hc : c ∈ x.visits := by simp [hvisits]
      have hc' : c.ended (.left (some token)) ∈ x'.visits := by simp [hvisits']
      have hstart := (hr.proper c hc).started hcursor
      rw [huids, hoffset]
      refine triedBelow_nextOffset (c := c.ended (.left (some token))) hc'
        ((h.regular hr).proper _ hc') (by simp) fun k uid hk _ => ?_
      have hk : (k : Int) < c.sheet.snapshot.offset := hk
      omega
  resumed c' hc' token hcursor := h.triedBelow (h.given hr hx hc' hcursor).2.2
  same c' hc' token e' hcursor hfind := by
    obtain ⟨hissued, hsame, -⟩ := h.given hr hx hc' hcursor
    cases h.held hr.sound hfind with
    | kept hfind => exact hsame e' hfind
    | moved _ _ _ e _ _ _ _ _ hfind huids => rw [huids, hsame e hfind]
    | made _ _ _ _ _ _ _ _ hnew => exact absurd hissued hnew

lemma covered_opening (remote : σ) (clock : Nat) : Covered (.opening remote clock : Scene σ) where
  held _ _ hfind := by cases hfind
  resumed _ hc := by cases hc
  same _ hc := by cases hc

/-- Overlapping searches skip no message. Whenever a place is kept under a cursor, each message of
its list before that place was attempted by a call on the cursor; and once a call gave the cursor up
at the end of the list, each message of the list was. -/
theorem Service.overlap_skips_nothing (v : Service σ) (remote : σ) (clock : Nat)
    (bs : List (Beat σ)) {x : Scene σ} (hx : x = v.overlap (.opening remote clock) bs)
    (token : String) :
    (∀ e, x.world.cursors.find? token = some e → x.TriedBelow token e.uids e.offset) ∧
      ∀ c ∈ x.visits, c.sheet.snapshot.cursor = some token → c.progress = .left none →
        ∀ (k : Nat) uid, c.sheet.snapshot.uids[k]? = some uid → x.Tried token k uid := by
  have hregular := regular_overlap v remote clock bs
  have hcovered : Covered (v.overlap (.opening remote clock) bs) :=
    overlap_keeps remote clock (covered_opening remote clock)
      (fun _ _ hstep hr hx => hstep.covered hr hx) bs
  rw [← hx] at hregular hcovered
  refine ⟨fun e hfind => hcovered.held token e hfind, fun c hc hcursor hleft k uid huid => ?_⟩
  have hproper := hregular.proper c hc
  refine triedBelow_nextOffset hc hproper (.inl hcursor) (hcovered.resumed c hc token hcursor) k
    uid ?_ huid
  exact lt_of_lt_of_le (Int.ofNat_lt.2 (List.getElem?_eq_some_iff.1 huid).1) (hproper.last hleft)

/-- Under the cursor of two calls that overlap the place goes back to the third message, of which no
call knows yet; the two before it were attempted. A call with the rest gives the cursor up. -/
theorem Service.overlap_skips_nothing_of_overlapping :
    (∃ e, ((Sample.service false).overlap Sample.longScene
        Sample.overlapping).world.cursors.find? "cursor-1" = some e ∧ e.offset = 2 ∧
      ((Sample.service false).overlap Sample.longScene Sample.overlapping).TriedBelow "cursor-1"
        e.uids 2) ∧
    ∃ c ∈ ((Sample.service false).overlap Sample.longScene
        (Sample.overlapping ++ Sample.ending)).visits,
      c.sheet.snapshot.cursor = some "cursor-1" ∧ c.progress = .left none ∧
      ∀ (k : Nat) uid, c.sheet.snapshot.uids[k]? = some uid →
        ((Sample.service false).overlap Sample.longScene
          (Sample.overlapping ++ Sample.ending)).Tried "cursor-1" k uid := by
  obtain ⟨-, hoverlapping, -, hending⟩ := Sample.summaries
  obtain ⟨e, hfind, hoffset⟩ := Option.map_eq_some_iff.1 (congrArg Prod.snd hoverlapping)
  obtain ⟨c, hc, hsummary⟩ := List.mem_map.1 hending
  obtain ⟨hcursor, -, -, hleft⟩ : c.sheet.snapshot.cursor = some "cursor-1" ∧
      c.sheet.snapshot.offset = 2 ∧ c.sheet.rows.length = 2 ∧ c.progress = .left none := by
    simpa using hsummary
  have hbelow := (overlap_skips_nothing (Sample.service false) _ _ Sample.overlapping rfl
    "cursor-1").1 e hfind
  rw [hoffset] at hbelow
  exact ⟨⟨e, hfind, hoffset, hbelow⟩, c, hc, hcursor, hleft,
    (overlap_skips_nothing (Sample.service false) _ _ (Sample.overlapping ++ Sample.ending) rfl
      "cursor-1").2 c hc hcursor hleft⟩

end Mailroom
