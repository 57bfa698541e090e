import Mailroom.Proofs.SessionLife
import Mailroom.Task.Changing

/-!
# Gated steps

A change is made in steps, each a call of one session that is made only if the one before ended
normally. `Gated` tells the events that such a plan of calls can leave, and `Conducts` the tasks
that follow a plan.
-/

namespace Mailroom

open Imap

/-- The events of calls on a client, each made because the one before ended normally. They stop at
the first failure, or when no call is left. -/
inductive Gated (k : ClientId) : List Call → List Event → Prop where
  | done : Gated k [] []
  | failed (c : Call) (rest : List Call) (f : Fault) : Gated k (c :: rest) [.called k c (.error f)]
  | next (c : Call) (r : c.Reply) {rest : List Call} {es : List Event} (h : Gated k rest es) :
    Gated k (c :: rest) (.called k c (.ok r) :: es)

namespace Gated

variable {k : ClientId} {c : Call} {cs : List Call} {es before after : List Event} {e : Event}

/-- Each event is that of a call of the plan, and all calls before it were made and ended
normally. -/
lemma split (h : Gated k cs es) (hes : es = before ++ e :: after) :
    ∃ first c rest o, cs = first ++ c :: rest ∧ e = .called k c o ∧
      List.Forall₂ (fun c e => ∃ r, e = .called k c (.ok r)) first before := by
  induction h generalizing before with
  | done => exact absurd hes.symm (by simp)
  | failed c rest f =>
    cases before with
    | nil =>
      obtain ⟨rfl, -⟩ := List.cons.inj hes
      exact ⟨[], c, rest, _, rfl, rfl, .nil⟩
    | cons e' before => exact absurd (List.cons.inj hes).2.symm (by simp)
  | next c r h ih =>
    cases before with
    | nil =>
      obtain ⟨rfl, -⟩ := List.cons.inj hes
      exact ⟨[], c, _, _, rfl, rfl, .nil⟩
    | cons e' before =>
      obtain ⟨rfl, hrest⟩ := List.cons.inj hes
      obtain ⟨first, c', rest, o, rfl, he, hfirst⟩ := ih hrest
      exact ⟨c :: first, c', rest, o, rfl, he, .cons ⟨r, rfl⟩ hfirst⟩

lemma of_mem (h : Gated k cs es) (he : e ∈ es) : ∃ c ∈ cs, ∃ o, e = .called k c o := by
  obtain ⟨before, after, hes⟩ := List.append_of_mem he
  obtain ⟨first, c, rest, o, rfl, rfl, -⟩ := h.split hes
  exact ⟨c, List.mem_append_right _ List.mem_cons_self, o, rfl⟩

lemma singleton (h : Gated k [c] es) : ∃ o, es = [.called k c o] := by
  cases h with
  | failed c rest f => exact ⟨_, rfl⟩
  | next c r h =>
    cases h
    exact ⟨_, rfl⟩

end Gated

namespace Task

variable {σ α : Type} {p : Peer σ} {s : Session} {w : World σ} {c : Call}

/-- What a step of a change comes to on a session that is in use. -/
lemma runIn_step (hw : s.client ∉ w.abandoned) (stage verb : String) (uid : Option Int)
    (l : Ledger) (g : c.Reply → α) :
    runIn w (step stage uid l (s.issue p verb c >>= fun r => pure (g r))) =
      (match (p.answer s.client c w.remote).outcome with
        | .ok r => .ok (some (g r), l.record stage uid (.ok (g r)))
        | .error f =>
          match f.whileIssuing verb with
          | .refused e => .ok (none, l.record stage uid (.error e : Except Error α))
          | .escaped e => .error (.escaped e),
        s.issued p c w) := by
  have hworld := (Session.issues_issue (p := p) (s := s) (c := c) verb).called w hw
  rw [Session.runIn_issue, if_neg (mt List.contains_iff_mem.1 hw)] at hworld
  unfold step
  rw [runIn_bind, runIn_attempt, runIn_bind, Session.runIn_issue,
    if_neg (mt List.contains_iff_mem.1 hw)]
  cases ho : (p.answer s.client c w.remote).outcome with
  | ok r =>
    rw [ho] at hworld
    rw [← hworld]
    rfl
  | error f =>
    rw [ho] at hworld
    dsimp only at hworld ⊢
    rw [hworld]
    cases f.whileIssuing verb <;> rfl

/-- A session that was not given up is still in use after a call that ended normally. -/
lemma not_mem_issued_abandoned {r : c.Reply} (hw : s.client ∉ w.abandoned)
    (ho : (p.answer s.client c w.remote).outcome = .ok r) :
    s.client ∉ (s.issued p c w).abandoned := by
  rw [Session.mem_issued_abandoned, ho]
  rintro (h | ⟨f, hf, -⟩)
  · exact hw h
  · cases hf

/-- A task whose events on a session that is in use are as they should be, however it ends. -/
def Leaves (s : Session) (G : List Event → Prop) (t : Task σ α) : Prop :=
  ∀ w, s.client ∉ w.abandoned → ∃ es, (runIn w t).2.trace = w.trace ++ es ∧ G es

namespace Leaves

variable {β : Type} {G : List Event → Prop} {t : Task σ α}

lemma of_still (ht : Still t) (hG : G []) : Leaves s G t := by
  intro w _
  exact ⟨[], by rw [ht w, List.append_nil], hG⟩

lemma bind_still {f : α → Task σ β} (ht : Leaves s G t) (hf : ∀ a, Still (f a)) :
    Leaves s G (t >>= f) := by
  intro w hw
  obtain ⟨es, hes, hG⟩ := ht w hw
  refine ⟨es, ?_, hG⟩
  rw [runIn_bind]
  rcases hr : runIn w t with ⟨e | a, w'⟩
  · rwa [hr] at hes
  · rw [hr] at hes
    dsimp only
    rwa [hf a w']

/-- A step leaves its call, and the rest only runs if the call ended normally. -/
lemma reading {stage verb : String} {uid : Option Int} {l : Ledger} (g : c.Reply → α)
    {f : Option α × Ledger → Task σ β} (hfailed : ∀ fault, G [.called s.client c (.error fault)])
    (hnone : ∀ l, Still (f (none, l)))
    (hsome : ∀ r l, Leaves s (fun es => G (.called s.client c (.ok r) :: es)) (f (some (g r), l))) :
    Leaves s G (Task.step stage uid l (s.issue p verb c >>= fun r => pure (g r)) >>= f) := by
  intro w hw
  have htrace : (s.issued p c w).trace =
      w.trace ++ [.called s.client c (p.answer s.client c w.remote).outcome] :=
    Session.issued_trace
  rw [runIn_bind, runIn_step hw]
  cases ho : (p.answer s.client c w.remote).outcome with
  | ok r =>
    obtain ⟨es, hes, hG⟩ := hsome r (l.record stage uid (.ok (g r))) _
      (not_mem_issued_abandoned hw ho)
    refine ⟨.called s.client c (.ok r) :: es, ?_, hG⟩
    dsimp only
    rw [hes, htrace, ho, List.append_assoc, List.singleton_append]
  | error fault =>
    refine ⟨[.called s.client c (.error fault)], ?_, hfailed fault⟩
    dsimp only
    cases fault.whileIssuing verb with
    | refused e =>
      dsimp only
      rw [hnone, htrace, ho]
    | escaped e =>
      dsimp only
      rw [htrace, ho]

lemma step {stage verb : String} {uid : Option Int} {l : Ledger}
    {f : Option c.Reply × Ledger → Task σ β}
    (hfailed : ∀ fault, G [.called s.client c (.error fault)]) (hnone : ∀ l, Still (f (none, l)))
    (hsome : ∀ r l, Leaves s (fun es => G (.called s.client c (.ok r) :: es)) (f (some r, l))) :
    Leaves s G (Task.step stage uid l (s.issue p verb c) >>= f) := by
  have hreading : Leaves s G (Task.step stage uid l (s.issue p verb c >>= fun r => pure (id r)) >>=
    f) := reading id hfailed hnone hsome
  have hissue : (s.issue p verb c >>= fun r => pure (id r)) = s.issue p verb c := bind_pure _
  rwa [hissue] at hreading

end Leaves

/-- A task that follows a plan of calls on a session that is in use. -/
def Conducts (s : Session) (cs : List Call) (t : Task σ α) : Prop :=
  Leaves s (Gated s.client cs) t

namespace Conducts

variable {t : Task σ α} {cs : List Call}

protected lemma done (ht : Still t) : Conducts s [] t := .of_still ht .done

protected lemma step {stage verb : String} {uid : Option Int} {l : Ledger}
    {f : Option c.Reply × Ledger → Task σ α} (hnone : ∀ l, Still (f (none, l)))
    (hsome : ∀ r l, Conducts s cs (f (some r, l))) :
    Conducts s (c :: cs) (Task.step stage uid l (s.issue p verb c) >>= f) := by
  refine Leaves.step (.failed c cs) hnone fun r l w hw => ?_
  obtain ⟨es, hes, hgated⟩ := hsome r l w hw
  exact ⟨es, hes, .next c r hgated⟩

end Conducts

end Task

end Mailroom
