import Mailroom.Proofs.OverlapStep
import Mailroom.Proofs.PageReports

/-!
# What an attempt is

To attempt a message is to ask the server for its header, unless the session was given up before.
Every row of a page comes of one such attempt and tells what the server answered: in a call of a
chain, and in every run of calls that overlap.
-/

namespace Mailroom

open Imap

variable {σ : Type} {v : Service σ}

/-- The row of a message comes of a step of a session: of the answer to a fetch of its header, or of
no call if the session was given up before. -/
def ComesOf (s : Session) (r : Search.Request) (epoch : Int) (n : Snapshot) (uid : Int)
    (row : Except Issue MessageRow) (w w' : World σ) : Prop :=
  (s.client ∈ w.abandoned ∧ w' = w ∧ Renders r epoch n (uid, none) row) ∨
    ∃ o, Added [.called s.client (.fetch uid [.flags, .headerFields]) o] w w' ∧
      Renders r epoch n (uid, headingIn uid o) row

lemma fetchRow_comesOf {s : Session} {r : Search.Request} {epoch uid : Int} {n : Snapshot}
    {row : Except Issue MessageRow} {w w' : World σ}
    (h : Task.runIn w (v.fetchRow s r epoch n uid) = (.ok row, w')) :
    ComesOf s r epoch n uid row w w' := by
  by_cases hw : s.client ∈ w.abandoned
  · obtain ⟨hsame, hrenders⟩ := fetchRow_skips hw h
    exact .inl ⟨hw, hsame, hrenders⟩
  · obtain ⟨o, hadded, hrenders, -⟩ := fetchRow_renders hw h
    exact .inr ⟨o, hadded, hrenders⟩

/-- A call of a chain that gets as far as its page attempts the messages that it asks for. -/
theorem Turn.attempts_fetched (hv : v.peer.Orderly) {today : Moment} {w : World σ}
    {q : Search.Request} {epoch : Int} {n : Snapshot}
    (hreaches : { v with today := today }.ReachesPage w q epoch n)
    (hrange : n.offset ≤ n.uids.length) :
    ∃ told new, told.map Prod.fst = slice n.uids n.offset (n.offset + q.limit) ∧
      (v.turn today w q).Attempts (told.map Prod.fst) ∧
      Added new (v.turn today w q).start (v.turn today w q).finish ∧
      Fetches w.clients told (new.filter Event.isFetch) := by
  obtain ⟨hvalid, s, w₂, w₃, hselects, hsnapshot⟩ := hreaches
  obtain ⟨rows, w₄, w₅, hrows, hclose, hrun⟩ :=
    (search_runs hvalid hselects hsnapshot hrange).resolve_left fun ⟨_, _, hunruly⟩ => hunruly hv
  obtain ⟨told, new, htold, hadded, hfetches, -⟩ :=
    search_fetches hselects hsnapshot hrows hclose
  have hattempted := (triple_fetchRows q epoch n _).ok trivial hrows
  obtain ⟨page, w', hpage, hsums, htrace⟩ :=
    runIn_page (v := { v with today := today }) (r := q) (b := ⟨epoch, n, rows⟩) (w := w₅)
  rw [turn_eq (hrun.trans hpage)]
  refine ⟨told, new, htold, ⟨page, _, rfl, hsums.toShows, ?_⟩, ?_, hfetches⟩
  · rw [htold]
    exact hattempted
  · rw [Added, htrace]
    exact hadded

section Overlapping

variable {x : Scene σ} {i j : Nat} {c c' : Visit} {row : Except Issue MessageRow}

/-- One call at two moments. -/
structure SameCall (c c' : Visit) : Prop where
  session : c.session = c'.session
  request : c.request = c'.request
  epoch : c.sheet.epoch = c'.sheet.epoch
  snapshot : c.sheet.snapshot = c'.sheet.snapshot

/-- A row of the call at some place is there already, or it comes of an attempt in this beat. -/
inductive HasRow (v : Service σ) (x : Scene σ) (b : Beat σ) (i j : Nat) (c' : Visit)
    (row : Except Issue MessageRow) : Prop where
  | before (c : Visit) (hc : x.visits[i]? = some c) (hsame : SameCall c c')
    (hrow : c.sheet.rows[j]? = some row)
  | now (uid : Int) (hb : b = .attempt i) (huid : attemptedUid row = some uid)
    (h : ComesOf c'.session c'.request c'.sheet.epoch c'.sheet.snapshot uid row x.world
      (v.beat x b).world)

lemma rows_enter {s : Session} {r : Search.Request} {epoch : Int}
    (h : c ∈ (v.enter x.world s r epoch).1) : c.sheet.rows = [] := by
  unfold Service.enter at h
  split at h
  · cases h
  · split at h
    · dsimp only at h
      split at h
      · cases h
      · cases h
        rfl
    · cases h

lemma attemptNext_cases (v : Service σ) (w : World σ) (c : Visit) :
    (v.attemptNext w c).1.sheet.rows = c.sheet.rows ∧ SameCall c (v.attemptNext w c).1 ∨
      ∃ uid row w', Task.runIn w (v.fetchRow c.session c.request c.sheet.epoch c.sheet.snapshot
          uid) = (.ok row, w') ∧ v.attemptNext w c = (c.attempted row, w') := by
  unfold Service.attemptNext
  split
  · next uid _ _ =>
    rcases hrun : Task.runIn w (v.fetchRow c.session c.request c.sheet.epoch c.sheet.snapshot
      uid) with ⟨f | row, w'⟩
    · exact .inl ⟨rfl, rfl, rfl, rfl, rfl⟩
    · exact .inr ⟨uid, row, w', hrun, rfl⟩
  · exact .inl ⟨rfl, rfl, rfl, rfl, rfl⟩

/-- What a step of a call does to its rows, and to the world. -/
lemma hasRow_turn {b : Beat σ} {k : Nat} {f : World σ → Visit → Visit × World σ}
    (hb : v.beat x b = x.turn k f)
    (h : ∀ c, (f x.world c).1.sheet.rows[j]? = some row →
      (SameCall c (f x.world c).1 ∧ c.sheet.rows[j]? = some row) ∨
        b = .attempt k ∧ ∃ uid, attemptedUid row = some uid ∧
          ComesOf c.session c.request c.sheet.epoch c.sheet.snapshot uid row x.world
            (f x.world c).2 ∧ SameCall c (f x.world c).1)
    (hc' : (v.beat x b).visits[i]? = some c') (hrow : c'.sheet.rows[j]? = some row) :
    HasRow v x b i j c' row := by
  rw [hb, Scene.turn] at hc'
  cases hk : x.visits[k]? with
  | none =>
    rw [hk] at hc'
    exact .before c' hc' ⟨rfl, rfl, rfl, rfl⟩ hrow
  | some c =>
    rw [hk] at hc'
    dsimp only at hc'
    by_cases hi : k = i
    · subst hi
      rw [List.getElem?_set_self (List.getElem?_eq_some_iff.1 hk).1, Option.some.injEq] at hc'
      subst hc'
      obtain ⟨hsame, hold⟩ | ⟨rfl, uid, huid, hcomes, hsame⟩ := h c hrow
      · exact .before c hk hsame hold
      · refine .now uid rfl huid ?_
        rw [← hsame.session, ← hsame.request, ← hsame.epoch, ← hsame.snapshot, hb, Scene.turn, hk]
        exact hcomes
    · rw [List.getElem?_set_ne hi] at hc'
      exact .before c' hc' ⟨rfl, rfl, rfl, rfl⟩ hrow

lemma hasRow_beat (b : Beat σ) (hc' : (v.beat x b).visits[i]? = some c')
    (hrow : c'.sheet.rows[j]? = some row) : HasRow v x b i j c' row := by
  cases b with
  | elsewhere f => exact .before c' hc' ⟨rfl, rfl, rfl, rfl⟩ hrow
  | lookUp token => exact .before c' hc' ⟨rfl, rfl, rfl, rfl⟩ hrow
  | giveUp token => exact .before c' hc' ⟨rfl, rfl, rfl, rfl⟩ hrow
  | enter today s r epoch =>
    by_cases hi : i < x.visits.length
    · exact .before c' ((List.getElem?_append_left hi).symm.trans hc') ⟨rfl, rfl, rfl, rfl⟩ hrow
    · have hnew := (List.getElem?_append_right (not_lt.1 hi)).symm.trans hc'
      have hrows := rows_enter (v := { v with today := today })
        (Option.mem_toList.1 (List.mem_of_getElem? hnew))
      rw [hrows] at hrow
      cases hrow
  | attempt k =>
    refine hasRow_turn rfl (fun c h => ?_) hc' hrow
    obtain ⟨hrows, hsame⟩ | ⟨uid, row', w', hrun, hnext⟩ := attemptNext_cases v x.world c
    · exact .inl ⟨hsame, hrows ▸ h⟩
    rw [hnext] at h ⊢
    have hrows : (c.attempted row').sheet.rows = c.sheet.rows ++ [row'] := rfl
    dsimp only at h
    rw [hrows] at h
    by_cases hj : j < c.sheet.rows.length
    · rw [List.getElem?_append_left hj] at h
      exact .inl ⟨⟨rfl, rfl, rfl, rfl⟩, h⟩
    · rw [List.getElem?_append_right (not_lt.1 hj)] at h
      obtain rfl : row' = row := List.mem_singleton.1 (List.mem_of_getElem? h) |>.symm
      exact .inr ⟨rfl, uid, (triple_fetchRow _ _ _ uid).ok trivial hrun, fetchRow_comesOf hrun,
        rfl, rfl, rfl, rfl⟩
  | leave k =>
    refine hasRow_turn rfl (fun c h => .inl ?_) hc' hrow
    unfold Service.leave at h ⊢
    split at h
    · split at h
      · exact ⟨⟨rfl, rfl, rfl, rfl⟩, h⟩
      · exact ⟨⟨rfl, rfl, rfl, rfl⟩, h⟩
    · exact ⟨⟨rfl, rfl, rfl, rfl⟩, h⟩

/-- In every run of calls that overlap each row of a call comes of one of its attempts. -/
theorem Service.overlap_rows (v : Service σ) (remote : σ) (clock : Nat) (bs : List (Beat σ))
    (hc : (v.overlap (.opening remote clock) bs).visits[i]? = some c)
    (hrow : c.sheet.rows[j]? = some row) :
    ∃ before after uid, bs = before ++ .attempt i :: after ∧ attemptedUid row = some uid ∧
      ComesOf c.session c.request c.sheet.epoch c.sheet.snapshot uid row
        (v.overlap (.opening remote clock) before).world
        (v.overlap (.opening remote clock) (before ++ [.attempt i])).world := by
  induction bs using List.reverseRecOn generalizing c with
  | nil => cases hc
  | append_singleton bs b ih =>
    rw [overlap_append] at hc
    cases hasRow_beat b hc hrow with
    | before c' hc' hsame hrow' =>
      obtain ⟨before, after, uid, rfl, huid, hcomes⟩ := ih hc' hrow'
      rw [hsame.session, hsame.request, hsame.epoch, hsame.snapshot] at hcomes
      exact ⟨before, after ++ [b], uid, by simp, huid, hcomes⟩
    | now uid hb huid hcomes =>
      subst hb
      rw [← overlap_append] at hcomes
      exact ⟨bs, [], uid, rfl, huid, hcomes⟩

/-- A message that a call attempted was asked for, unless the session of the call was given up. -/
theorem Visit.Attempts.asked {remote : σ} {clock : Nat} {bs : List (Beat σ)} {k : Nat} {uid : Int}
    (h : c.Attempts k uid) (hc : (v.overlap (.opening remote clock) bs).visits[i]? = some c) :
    ∃ before after, bs = before ++ .attempt i :: after ∧
      (c.session.client ∈ (v.overlap (.opening remote clock) before).world.abandoned ∨
        ∃ o, Added [.called c.session.client (.fetch uid [.flags, .headerFields]) o]
          (v.overlap (.opening remote clock) before).world
          (v.overlap (.opening remote clock) (before ++ [.attempt i])).world) := by
  obtain ⟨j, row, hrow, -, huid⟩ := h
  obtain ⟨before, after, uid', hsplit, huid', hcomes⟩ := v.overlap_rows remote clock bs hc hrow
  obtain rfl : uid' = uid := Option.some.inj (huid'.symm.trans huid)
  refine ⟨before, after, hsplit, ?_⟩
  obtain ⟨hgone, -, -⟩ | ⟨o, hadded, -⟩ := hcomes
  · exact .inl hgone
  · exact .inr ⟨o, hadded⟩

end Overlapping

end Mailroom
