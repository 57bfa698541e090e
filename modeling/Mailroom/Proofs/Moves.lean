import Mailroom.Proofs.GatedSteps
import Mailroom.Proofs.TraceGrowth

/-!
# Moves

A move connects, asks for the server's capabilities and then either moves the message by one call,
or copies it, marks it as deleted and expunges it, each call only if the one before ended normally.
So a message that is taken away was copied before, whatever fails, and no move loses it.
-/

namespace Mailroom

open Imap

namespace Imap

/-- A query of the capabilities or a change: what a move is made of. -/
def Event.isMoveStep : Event → Bool
  | .called _ .capabilities _ => true
  | e => e.changesMail

def stepsOf (es : List Event) : List Event :=
  es.filter Event.isMoveStep

/-- A call that can take messages away. -/
def Event.removes : Event → Bool
  | .called _ (.move ..) _ | .called _ (.expunge _) _ => true
  | _ => false

variable {σ : Type}

namespace Peer

/-- The state that an event leaves. -/
def after (p : Peer σ) (x : σ) : Event → σ
  | .called k c _ => (p.answer k c x).next
  | .timeoutSet k n => p.setTimeout k n x

/-- What the other side goes through: each event with the states before and after it. -/
def passage (p : Peer σ) (x : σ) : List Event → List (σ × Event × σ)
  | [] => []
  | e :: es => (x, e, p.after x e) :: p.passage (p.after x e) es

lemma passage_append (p : Peer σ) (x : σ) (es es' : List Event) :
    p.passage x (es ++ es') = p.passage x es ++ p.passage (es.foldl p.after x) es' := by
  induction es generalizing x with
  | nil => rfl
  | cons e es ih => rw [List.cons_append, passage, ih, List.foldl_cons, passage, List.cons_append]

end Peer

/-- What a server does to a message and to its copies in another mailbox. A copying that ended
normally left one there. Messages are taken away only by moves and by expunging: by a move of this
message only if it is in the other mailbox then, and by expunging it none of the copies. -/
structure Conserves (uid : Int) (mailbox : String) (stored copied : σ → Prop)
    (s : σ × Event × σ) : Prop where
  kept : s.2.1.removes = false → (stored s.1 → stored s.2.2) ∧ (copied s.1 → copied s.2.2)
  copy : ∀ k, s.2.1 = .called k (.copy uid mailbox) (.ok ()) → stored s.1 → copied s.2.2
  move : ∀ k o, s.2.1 = .called k (.move uid mailbox) o →
    stored s.1 → stored s.2.2 ∨ copied s.2.2
  expunge : ∀ k o, s.2.1 = .called k (.expunge uid) o → copied s.1 → copied s.2.2

/-- An event that keeps a message and its copies, and leaves a copy if it has to. -/
lemma Conserves.of_kept {uid : Int} {mailbox : String} {stored copied : σ → Prop}
    {s : σ × Event × σ} (hstored : stored s.1 → stored s.2.2) (hcopied : copied s.1 → copied s.2.2)
    (hcopy : ∀ k, s.2.1 = .called k (.copy uid mailbox) (.ok ()) → copied s.2.2) :
    Conserves uid mailbox stored copied s where
  kept _ := ⟨hstored, hcopied⟩
  copy k hk _ := hcopy k hk
  move _ _ _ hx := .inl (hstored hx)
  expunge _ _ _ := hcopied

end Imap

/-- The calls by which a message is moved. -/
def MoveStrategy.calls (uid : Int) (mailbox : String) : MoveStrategy → List Call
  | native => [.move uid mailbox]
  | copyDeleteExpunge => [.copy uid mailbox, .addFlags uid [deletedFlag], .expunge uid]

/-- The steps that a client takes in a move, however far it gets: the query of the capabilities, and
the calls of the strategy that these allow. -/
inductive MoveSteps (k : ClientId) (uid : Int) (mailbox : String) : List Event → Prop where
  | none : MoveSteps k uid mailbox []
  | untold (f : Fault) : MoveSteps k uid mailbox [.called k .capabilities (.error f)]
  | told (ts : List Token) {es : List Event}
    (h : Gated k ((MoveStrategy.select (ts.map fun t => Text.upper t.toText)).calls uid mailbox)
      es) : MoveSteps k uid mailbox (.called k .capabilities (.ok ts) :: es)

/-- The trace of a move that gives an answer, and the client it uses. If there are no steps, there
was nothing but an attempt to connect that failed. -/
inductive Moved (st : Settings) (a : Account) (k : ClientId) (uid : Int) (mailbox : String)
    (new : List Event) : Prop where
  | unconnected (h : Missed st a k new)
  | untold (f : Fault) (hsteps : stepsOf new = [.called k .capabilities (.error f)])
  | native (ts : List Token) (o : Except Fault Unit)
    (hts : "MOVE" ∈ ts.map fun t => Text.upper t.toText)
    (hsteps : stepsOf new =
      [.called k .capabilities (.ok ts), .called k (.move uid mailbox) o])
  | stepwise (ts : List Token) (es : List Event)
    (hts : "MOVE" ∉ ts.map fun t => Text.upper t.toText)
    (hsteps : stepsOf new = .called k .capabilities (.ok ts) :: es)
    (hes : Gated k [.copy uid mailbox, .addFlags uid [deletedFlag], .expunge uid] es)

section Steps

variable {k : ClientId} {uid : Int} {mailbox : String} {es es' new before after : List Event}
variable {e : Event}

lemma stepsOf_append : stepsOf (es ++ es') = stepsOf es ++ stepsOf es' := List.filter_append ..

lemma stepsOf_concat (he : e.isMoveStep = false) : stepsOf (es ++ [e]) = stepsOf es := by
  rw [stepsOf_append, show stepsOf [e] = [] by simp [stepsOf, he], List.append_nil]

lemma Event.isMoveStep_of_removes (h : e.removes) : e.isMoveStep := by
  cases e with
  | timeoutSet k n => cases h
  | called k c o => cases c <;> first | rfl | cases h

lemma removes_eq_false (h : ∀ e ∈ stepsOf es, e.removes = false) : ∀ e ∈ es, e.removes = false := by
  intro e he
  cases hr : e.removes with
  | false => rfl
  | true =>
    have hstep : e ∈ stepsOf es := List.mem_filter.2 ⟨he, Event.isMoveStep_of_removes hr⟩
    exact hr.symm.trans (h e hstep)

lemma not_removes (h : ∀ e ∈ es, ¬ e.isMoveStep) : ∀ e ∈ es, e.removes = false :=
  fun e he => Bool.eq_false_iff.2 fun hr => h e he (Event.isMoveStep_of_removes hr)

/-- All that a plan of changes leaves are steps of the move. -/
lemma stepsOf_gated {cs : List Call} (h : Gated k cs es) (hcs : ∀ c ∈ cs, c.changesMail) :
    stepsOf es = es := by
  refine List.filter_eq_self.2 fun e he => ?_
  obtain ⟨c, hc, o, rfl⟩ := h.of_mem he
  have hchange := hcs c hc
  cases c <;> first | exact hchange | rfl

lemma MoveStrategy.changesMail_calls (strategy : MoveStrategy) :
    ∀ c ∈ strategy.calls uid mailbox, c.changesMail := by
  cases strategy <;> simp [MoveStrategy.calls, Call.changesMail]

lemma MoveSteps.stepsOf_eq (h : MoveSteps k uid mailbox es) : stepsOf es = es := by
  cases h with
  | none => rfl
  | untold f => rfl
  | told ts h =>
    rw [stepsOf, List.filter_cons_of_pos rfl]
    exact congrArg _ (stepsOf_gated h (MoveStrategy.changesMail_calls _))

/-- The message is expunged only after it was copied and marked as deleted, on the same client. -/
lemma MoveSteps.expunge {j : ClientId} (h : MoveSteps j uid mailbox (stepsOf new)) {u : Int}
    {o : Except Fault Unit} (hnew : new = before ++ .called k (.expunge u) o :: after) :
    .called k (.copy u mailbox) (.ok ()) ∈ before ∧
      .called k (.addFlags u [deletedFlag]) (.ok ()) ∈ before := by
  have hsub : ∀ e, e ∈ stepsOf before → e ∈ before := fun e he => (List.mem_filter.1 he).1
  have hsteps : stepsOf new = stepsOf before ++ .called k (.expunge u) o :: stepsOf after := by
    rw [hnew, stepsOf_append]
    rfl
  generalize stepsOf new = steps at h hsteps
  generalize stepsOf before = first at hsub hsteps
  cases first with
  | nil => cases h <;> cases hsteps
  | cons e first =>
    cases h with
    | none => cases hsteps
    | untold f => simp at hsteps
    | told ts h =>
      obtain ⟨rfl, hes⟩ := List.cons.inj hsteps
      obtain ⟨done, c, rest, o', hplan, he, hdone⟩ := h.split hes
      cases he
      generalize MoveStrategy.select (ts.map fun t => Text.upper t.toText) = strategy at hplan
      cases strategy with
      | native => rcases done with _ | ⟨c, done⟩ <;> simp [MoveStrategy.calls] at hplan
      | copyDeleteExpunge =>
        rcases done with _ | ⟨c, _ | ⟨c', _ | ⟨c'', done⟩⟩⟩
        · simp [MoveStrategy.calls] at hplan
        · simp [MoveStrategy.calls] at hplan
        · simp only [MoveStrategy.calls, List.cons_append, List.nil_append, List.cons.injEq,
            Call.expunge.injEq] at hplan
          obtain ⟨rfl, rfl, rfl, -⟩ := hplan
          obtain _ | ⟨⟨_, rfl⟩, _ | ⟨⟨_, rfl⟩, -⟩⟩ := hdone
          exact ⟨hsub _ (by simp), hsub _ (by simp)⟩
        · simp [MoveStrategy.calls] at hplan

end Steps

section Conserving

variable {σ : Type} {p : Peer σ} {uid : Int} {mailbox : String} {stored copied : σ → Prop} {x : σ}
variable {es es' : List Event} {e : Event}

/-- All that the other side goes through conserves the message. -/
def Conserving (p : Peer σ) (uid : Int) (mailbox : String) (stored copied : σ → Prop) (x : σ)
    (es : List Event) : Prop :=
  ∀ s ∈ p.passage x es, Conserves uid mailbox stored copied s

lemma conserving_append : Conserving p uid mailbox stored copied x (es ++ es') ↔
    Conserving p uid mailbox stored copied x es ∧
      Conserving p uid mailbox stored copied (es.foldl p.after x) es' := by
  rw [Conserving, Peer.passage_append]
  exact List.forall_mem_append

lemma conserving_cons : Conserving p uid mailbox stored copied x (e :: es) ↔
    Conserves uid mailbox stored copied (x, e, p.after x e) ∧
      Conserving p uid mailbox stored copied (p.after x e) es :=
  List.forall_mem_cons

namespace Conserving

/-- Without moves and expunging everything stays. -/
lemma stays (h : Conserving p uid mailbox stored copied x es)
    (hes : ∀ e ∈ es, e.removes = false) :
    (stored x → stored (es.foldl p.after x)) ∧ (copied x → copied (es.foldl p.after x)) := by
  induction es generalizing x with
  | nil => exact ⟨id, id⟩
  | cons e es ih =>
    obtain ⟨hfirst, hrest⟩ := conserving_cons.1 h
    obtain ⟨he, hes⟩ := List.forall_mem_cons.1 hes
    obtain ⟨hstored, hcopied⟩ := hfirst.kept he
    obtain ⟨hstored', hcopied'⟩ := ih hrest hes
    exact ⟨fun hx => hstored' (hstored hx), fun hx => hcopied' (hcopied hx)⟩

/-- A copy stays when the message is expunged. -/
lemma copy_stays (h : Conserving p uid mailbox stored copied x es)
    (hes : ∀ e ∈ es, e.removes → ∃ k o, e = .called k (.expunge uid) o) (hx : copied x) :
    copied (es.foldl p.after x) := by
  induction es generalizing x with
  | nil => exact hx
  | cons e es ih =>
    obtain ⟨hfirst, hrest⟩ := conserving_cons.1 h
    obtain ⟨he, hes⟩ := List.forall_mem_cons.1 hes
    refine ih hrest hes ?_
    cases hr : e.removes with
    | false => exact (hfirst.kept hr).2 hx
    | true =>
      obtain ⟨k, o, rfl⟩ := he hr
      exact hfirst.expunge k o rfl hx

/-- What a plan of a move leaves takes the message away only when it is in the other mailbox. -/
lemma gated {k : ClientId} {strategy : MoveStrategy}
    (h : Conserving p uid mailbox stored copied x es)
    (hes : Gated k (strategy.calls uid mailbox) (stepsOf es)) (hx : stored x) :
    stored (es.foldl p.after x) ∨ copied (es.foldl p.after x) := by
  cases strategy with
  | native =>
    obtain ⟨o, ho⟩ := hes.singleton
    obtain ⟨before, after, rfl, hbefore, -, hafter⟩ := List.filter_eq_cons_iff.1 ho
    obtain ⟨hfirst, hrest⟩ := conserving_append.1 h
    obtain ⟨hmove, hlast⟩ := conserving_cons.1 hrest
    have hquiet := hlast.stays (removes_eq_false fun e he => by
      rw [stepsOf, hafter] at he
      cases he)
    rw [List.foldl_append, List.foldl_cons]
    exact (hmove.move k o rfl ((hfirst.stays (not_removes hbefore)).1 hx)).imp hquiet.1 hquiet.2
  | copyDeleteExpunge =>
    generalize hsteps : stepsOf es = steps at hes
    cases hes with
    | failed c rest f =>
      refine .inl ((h.stays (removes_eq_false fun e he => ?_)).1 hx)
      rw [hsteps, List.mem_singleton] at he
      subst he
      rfl
    | next c r hgated =>
      obtain ⟨before, after, rfl, hbefore, -, hafter⟩ := List.filter_eq_cons_iff.1 hsteps
      obtain ⟨hfirst, hrest⟩ := conserving_append.1 h
      obtain ⟨hcopy, hlast⟩ := conserving_cons.1 hrest
      have hcopied := hcopy.copy k rfl ((hfirst.stays (not_removes hbefore)).1 hx)
      rw [List.foldl_append, List.foldl_cons]
      refine .inr (hlast.copy_stays (fun e he hr => ?_) hcopied)
      have hstep : e ∈ stepsOf after :=
        List.mem_filter.2 ⟨he, Event.isMoveStep_of_removes hr⟩
      rw [stepsOf, hafter] at hstep
      obtain ⟨c', hc', o, rfl⟩ := hgated.of_mem hstep
      simp only [List.mem_cons, List.not_mem_nil, or_false] at hc'
      rcases hc' with rfl | rfl
      · cases hr
      · exact ⟨k, o, rfl⟩

/-- However far a move gets, the message is in one of the mailboxes. -/
lemma moveSteps {k : ClientId} (h : Conserving p uid mailbox stored copied x es)
    (hes : MoveSteps k uid mailbox (stepsOf es)) (hx : stored x) :
    stored (es.foldl p.after x) ∨ copied (es.foldl p.after x) := by
  generalize hsteps : stepsOf es = steps at hes
  cases hes with
  | none =>
    refine .inl ((h.stays (removes_eq_false fun e he => ?_)).1 hx)
    rw [hsteps] at he
    cases he
  | untold f =>
    refine .inl ((h.stays (removes_eq_false fun e he => ?_)).1 hx)
    rw [hsteps, List.mem_singleton] at he
    subst he
    rfl
  | told ts hgated =>
    obtain ⟨before, after, rfl, hbefore, -, hafter⟩ := List.filter_eq_cons_iff.1 hsteps
    obtain ⟨hfirst, hrest⟩ := conserving_append.1 h
    obtain ⟨htold, hlast⟩ := conserving_cons.1 hrest
    rw [List.foldl_append, List.foldl_cons]
    exact hlast.gated (by rwa [stepsOf, hafter])
      ((htold.kept rfl).1 ((hfirst.stays (not_removes hbefore)).1 hx))

end Conserving

end Conserving

lemma moved_of_moveSteps {st : Settings} {a : Account} {k : ClientId} {uid : Int} {mailbox : String}
    {new : List Event} (h : MoveSteps k uid mailbox (stepsOf new))
    (hnone : stepsOf new = [] → Missed st a k new) : Moved st a k uid mailbox new := by
  generalize hsteps : stepsOf new = steps at h hnone
  cases h with
  | none => exact .unconnected (hnone rfl)
  | untold f => exact .untold f hsteps
  | told ts hes =>
    rw [MoveStrategy.select] at hes
    by_cases hts : "MOVE" ∈ ts.map fun t => Text.upper t.toText
    · rw [if_pos (List.contains_iff_mem.2 hts)] at hes
      obtain ⟨o, rfl⟩ := hes.singleton
      exact .native ts o hts hsteps
    · rw [if_neg (mt List.contains_iff_mem.1 hts)] at hes
      exact .stepwise ts _ hts hsteps hes

section Tasks

open Footprint

variable {σ : Type} {p : Peer σ} {v : Service σ} {s : Session} {past new : List Event} {e : Event}

/-- The other side is where the events of a task lead. -/
lemma Footprint.Covers.remote {α : Type} {F : Footprint} {t : Task σ α} (ht : F.Covers p t)
    (w : World σ) : ∃ new, (Task.runIn w t).2.trace = w.trace ++ new ∧
      (Task.runIn w t).2.remote = new.foldl p.after w.remote := by
  let I : World σ → Prop := fun w' =>
    ∃ new, w'.trace = w.trace ++ new ∧ w'.remote = new.foldl p.after w.remote
  have hnext : ∀ (w' w'' : World σ) (e : Event), w''.trace = w'.trace ++ [e] →
      w''.remote = p.after w'.remote e → I w' → I w'' := by
    rintro w' w'' e htrace hremote ⟨new, hnew, hw'⟩
    refine ⟨new ++ [e], by rw [htrace, hnew, List.append_assoc], ?_⟩
    rw [hremote, hw', List.foldl_append]
    rfl
  have hstable : F.Stable p I :=
    { asked := fun w' k c _ => hnext w' _ (.called k c _) rfl rfl
      timeoutSet := fun w' k n => hnext w' _ (.timeoutSet k n) rfl rfl
      changed := fun _ _ _ h => h
      booked := fun _ _ _ _ _ h => h }
  exact (ht I hstable).final ⟨[], by simp, rfl⟩

/-- The footprint of all but the steps of moves. -/
def offMoves : Footprint :=
  ⟨fun k c => ∀ o, (Event.called k c o).isMoveStep = false, fun _ => False⟩

lemma stable_steps {G : List Event → Prop} :
    offMoves.Stable p (Since past fun new => G (stepsOf new) : World σ → Prop) :=
  stable_since (fun _ _ _ o hc h => by rwa [stepsOf_concat (hc o)])
    fun _ _ _ h => by rwa [stepsOf_concat rfl]

lemma isMoveStep_of_isFrame {k : ClientId} {c : Call} (hc : c.isFrame)
    (o : Except Fault c.Reply) : (Event.called k c o).isMoveStep = false := by
  cases c <;> first | rfl | cases hc

lemma frameStable_steps {G : List Event → Prop} : FrameStable fun new => G (stepsOf new) where
  call _ _ _ o hc h := by rwa [stepsOf_concat (isMoveStep_of_isFrame hc o)]
  time _ _ _ h := by rwa [stepsOf_concat rfl]

lemma stepsOf_framing {k : ClientId} {es : List Event} (h : Framing k es) : stepsOf es = [] := by
  refine List.filter_eq_nil_iff.2 fun e he => ?_
  have hverb := (h e he).2
  cases e with
  | timeoutSet k n => exact Bool.false_ne_true
  | called k c o =>
    have hframe : (!c.isFrame) = false := hverb
    rw [isMoveStep_of_isFrame (by simpa using hframe)]
    exact Bool.false_ne_true

/-- Connecting takes no step of a move, and if it fails there is nothing else. -/
lemma triple_connect_steps (st : Settings) (a : Account) (w : World σ) :
    Task.Triple (· = w) (connect p st a)
      (fun s w' => s.client = w.clients ∧ Since w.trace (fun new => stepsOf new = []) w')
      fun _ => Since w.trace (Missed st a w.clients) := by
  refine .of_cases ?_ ?_
  · rintro _ s w' rfl hrun
    have hopens := connect_opened hrun
    exact ⟨hopens.client, _, hopens.added, stepsOf_framing (framing_greeting st a _)⟩
  · rintro _ f w' rfl hrun
    obtain ⟨es, hmisses⟩ := connect_misses hrun
    exact ⟨es, hmisses.added, hmisses.missed⟩

lemma usable_after_issue {P : World σ → Prop} {verb : String} {c : Call} :
    Task.Triple P (s.issue p verb c) (fun _ w => s.client ∉ w.abandoned) fun _ _ => True := by
  intro w _
  rw [Session.runIn_issue]
  by_cases hw : s.client ∈ w.abandoned
  · rw [if_pos (List.contains_iff_mem.2 hw)]
    trivial
  · rw [if_neg (mt List.contains_iff_mem.1 hw)]
    cases (p.answer s.client c w.remote).outcome with
    | ok r => exact hw
    | error f => trivial

/-- A session whose selection ended normally is in use. -/
lemma usable_after_ensureEpoch {P : World σ → Prop} {id : MessageId} {readOnly : Bool} :
    Task.Triple P (v.ensureEpoch s id readOnly) (fun _ w => s.client ∉ w.abandoned)
      fun _ _ => True := by
  let Q : Except Error Items → World σ → Prop
    | .ok _, w => s.client ∉ w.abandoned
    | .error _, _ => True
  have hselect : Task.Triple P (s.select v.peer id.mailbox readOnly)
      (fun _ w => s.client ∉ w.abandoned) fun _ _ => True := by
    refine .bind (Q := Q) (.attempt usable_after_issue (fun _ _ _ => trivial)
      fun _ _ _ => trivial) fun r => ?_
    cases r with
    | ok items => exact triple_epoch.imp (fun _ h => h) (fun _ _ h => h.1) fun _ _ _ => trivial
    | error e =>
      refine .bind (Q := fun _ _ => True) (fun _ _ => trivial) fun gone => ?_
      split
      · exact .refuse fun _ _ => trivial
      · exact .refuse fun _ _ => trivial
  refine .bind hselect fun epoch => ?_
  split
  · exact .refuse fun _ _ => trivial
  · exact .pure fun _ h => h

/-- Marking as deleted and expunging follow their plan. -/
lemma conducts_removeSteps (uid : Int) (l : Ledger) :
    Task.Conducts s [.addFlags uid [deletedFlag], .expunge uid] (v.removeSteps s uid l) :=
  .step (fun _ => .pure _) fun _ _ =>
    .step (fun _ => .pure _) fun _ _ => .done (.pure _)

lemma conducts_moveBy (strategy : MoveStrategy) (uid : Int) (mailbox : String) (l : Ledger) :
    Task.Conducts s (strategy.calls uid mailbox) (v.moveBy strategy s uid mailbox l) := by
  cases strategy with
  | native => exact .step (fun _ => .pure _) fun _ _ => .done (.pure _)
  | copyDeleteExpunge => exact .step (fun _ => .pure _) fun _ l => conducts_removeSteps uid l

/-- After the selection a move asks for the capabilities and makes the calls that they allow. -/
lemma moveWithin_leaves (id : MessageId) (mailbox : String) (l : Ledger) :
    ∃ rest, v.moveWithin s id mailbox l = (do v.ensureEpoch s id false; rest) ∧
      Task.Leaves s (fun es => MoveSteps s.client id.uid mailbox es ∧ es ≠ []) rest := by
  let upper : List Token → List String := fun ts => ts.map fun t => Text.upper t.toText
  have hcapabilities : s.capabilities v.peer =
      s.issue v.peer "CAPABILITY" .capabilities >>= fun ts => pure (upper ts) := rfl
  refine ⟨_, rfl, ?_⟩
  rw [hcapabilities]
  refine Task.Leaves.reading (c := .capabilities) upper (fun f => ?_) (fun _ => .pure _)
    fun ts l => .bind_still (fun w hw => ?_) fun _ => .pure _
  · exact ⟨.untold f, List.cons_ne_nil _ _⟩
  · obtain ⟨es, hes, hgated⟩ :=
      conducts_moveBy (MoveStrategy.select (upper ts)) id.uid mailbox l w hw
    exact ⟨es, hes, .told ts hgated, List.cons_ne_nil _ _⟩

lemma triple_moveWithin (id : MessageId) (mailbox : String) (l : Ledger) :
    Task.Triple (Since past fun new => stepsOf new = []) (v.moveWithin s id mailbox l)
      (fun _ => Since past fun new =>
        MoveSteps s.client id.uid mailbox (stepsOf new) ∧ stepsOf new ≠ [])
      (fun _ => Since past fun new => MoveSteps s.client id.uid mailbox (stepsOf new)) := by
  obtain ⟨rest, hmove, hrest⟩ := moveWithin_leaves (v := v) (s := s) id mailbox l
  have hquiet : offMoves.Covers v.peer (v.ensureEpoch s id false) :=
    covers_ensureEpoch fun _ => rfl
  have hstays : Task.Triple (Since past fun new => stepsOf new = []) (v.ensureEpoch s id false)
      (fun _ => Since past fun new => stepsOf new = [])
      (fun _ => Since past fun new => stepsOf new = []) := hquiet _ (stable_steps (G := (· = [])))
  have hused : Task.Triple (fun _ => True) (v.ensureEpoch s id false)
      (fun _ w => s.client ∉ w.abandoned) fun _ _ => True := usable_after_ensureEpoch
  have hfinal : ∀ w : World σ, Since past (fun new => stepsOf new = []) w →
      s.client ∉ w.abandoned →
      Since past (fun new => MoveSteps s.client id.uid mailbox (stepsOf new) ∧ stepsOf new ≠ [])
        (Task.runIn w rest).2 := by
    rintro w ⟨new, hw, hnew⟩ hused
    obtain ⟨es, hes, hsteps, hne⟩ := hrest w hused
    refine ⟨new ++ es, by rw [hes, hw, List.append_assoc], ?_⟩
    dsimp only
    rw [stepsOf_append, hnew, hsteps.stepsOf_eq]
    exact ⟨hsteps, hne⟩
  rw [hmove]
  refine .bind ((hstays.and hused).imp (fun w hw => ⟨hw, trivial⟩) (fun _ _ h => h)
    fun _ w h => ?_) fun _ => .of_cases (fun w _ w' hw hr => ?_) fun w _ w' hw hr => ?_
  · refine h.1.imp fun new hnew => ?_
    rw [hnew]
    exact .none
  · simpa only [hr] using hfinal w hw.1 hw.2
  · have hw' := hfinal w hw.1 hw.2
    rw [hr] at hw'
    exact hw'.imp fun _ h => h.1

end Tasks

section Commands

open Footprint

variable {σ : Type} {v : Service σ} {id : MessageId}

lemma triple_moveSteps (a : Account) (mailbox : String) (w : World σ) :
    Task.Triple (· = w) (v.moveSteps a id mailbox)
      (fun _ => Since w.trace fun new => MoveSteps w.clients id.uid mailbox (stepsOf new) ∧
        (stepsOf new = [] → Missed v.settings a w.clients new))
      (fun _ => Since w.trace fun new => MoveSteps w.clients id.uid mailbox (stepsOf new)) := by
  have hnone : ∀ {new}, Missed v.settings a w.clients new →
      MoveSteps w.clients id.uid mailbox (stepsOf new) := by
    intro new h
    rw [stepsOf_framing h.framing]
    exact .none
  let Q : Except Error Session → World σ → Prop
    | .ok s, w' => s.client = w.clients ∧ Since w.trace (fun new => stepsOf new = []) w'
    | .error _, w' => Since w.trace (Missed v.settings a w.clients) w'
  unfold Service.moveSteps Task.step
  rw [bind_assoc]
  refine .bind (Q := Q) (.attempt (triple_connect_steps v.settings a w) (fun _ _ h => h)
    fun _ _ h => h.imp fun _ => hnone) fun r => ?_
  cases r with
  | error e => exact fun w' hw => Since.imp hw fun new h => ⟨hnone h, fun _ => h⟩
  | ok s =>
    have hmove : ∀ l, Task.Triple (Since w.trace fun new => stepsOf new = [])
        (s.within v.peer (v.moveWithin s id mailbox l))
        (fun _ => Since w.trace fun new =>
          MoveSteps s.client id.uid mailbox (stepsOf new) ∧ stepsOf new ≠ [])
        (fun _ => Since w.trace fun new => MoveSteps s.client id.uid mailbox (stepsOf new)) :=
      fun l => triple_within (triple_moveWithin id mailbox l)
        (frameStable_steps (G := fun es => MoveSteps s.client id.uid mailbox es ∧ es ≠ [])).stable
        (frameStable_steps (G := MoveSteps s.client id.uid mailbox)).stable
        fun w h => h.imp fun _ h => h.1
    rintro w' ⟨hclient, hw⟩
    rw [hclient] at hmove
    refine (hmove _).imp (fun _ h => h) (fun _ w h => ?_) (fun _ _ h => h) w' hw
    exact h.imp fun new h => ⟨h.1, fun hnil => absurd hnil h.2⟩

/-- The steps of a move by a message id, or none. -/
def Moving (k : ClientId) (accountId messageId mailbox : String) (new : List Event) : Prop :=
  stepsOf new = [] ∨ ∃ id, MessageId.parseFor accountId messageId = .ok id ∧
    MoveSteps k id.uid mailbox (stepsOf new)

lemma triple_moveMessage (accountId messageId mailbox : String) (w : World σ) :
    Task.Triple (· = w) (v.moveMessage accountId messageId mailbox)
      (fun _ => Since w.trace fun new => ∃ id a, MessageId.parseFor accountId messageId = .ok id ∧
        v.settings.account accountId = .ok a ∧ MoveSteps w.clients id.uid mailbox (stepsOf new) ∧
        (stepsOf new = [] → Missed v.settings a w.clients new))
      (fun _ => Since w.trace (Moving w.clients accountId messageId mailbox)) := by
  have hrefused : ∀ w', w' = w →
      Since w.trace (Moving w.clients accountId messageId mailbox) w' := by
    rintro w' rfl
    exact ⟨[], (List.append_nil _).symm, .inl rfl⟩
  refine .check_bind (fun _ _ => ?_) fun _ _ => hrefused
  refine .ofExcept_bind (fun id hid => ?_) fun _ _ => hrefused
  refine .check_bind (fun _ _ => ?_) fun _ _ => hrefused
  refine .check_bind (fun a ha => ?_) fun _ _ => hrefused
  refine .bind ((triple_moveSteps a mailbox w).imp (fun _ h => h) (fun _ _ h => ?_)
    fun _ _ h => ?_) fun _ _ h => h
  · exact h.imp fun _ h => ⟨id, a, hid, ha, h⟩
  · exact h.imp fun _ h => .inr ⟨id, hid, h⟩

end Commands

namespace Service

variable {σ : Type}

/-- A move that gives an answer changed nothing if connecting or the query of the capabilities
failed, and else made the one call or went through the calls one by one, all on the client that it
constructed. However it ends, it expunges the message only after it copied it and marked it as
deleted on the same client, and the message is in one of the mailboxes at the end, if all that the
other side went through conserves it. -/
theorem move_keeps_message (v : Service σ) (w : World σ) (accountId messageId mailbox : String) :
    ∃ new, (Task.runIn w (v.moveMessage accountId messageId mailbox)).2.trace = w.trace ++ new ∧
      (∀ answer, (Task.runIn w (v.moveMessage accountId messageId mailbox)).1 = .ok answer →
        ∃ id a, MessageId.parseFor accountId messageId = .ok id ∧
          v.settings.account accountId = .ok a ∧
          Moved v.settings a w.clients id.uid mailbox new) ∧
      (∀ before k uid o after, new = before ++ .called k (.expunge uid) o :: after →
        .called k (.copy uid mailbox) (.ok ()) ∈ before ∧
          .called k (.addFlags uid [deletedFlag]) (.ok ()) ∈ before) ∧
      ∀ id, MessageId.parseFor accountId messageId = .ok id → ∀ stored copied : σ → Prop,
        Conserving v.peer id.uid mailbox stored copied w.remote new → stored w.remote →
        stored (Task.runIn w (v.moveMessage accountId messageId mailbox)).2.remote ∨
          copied (Task.runIn w (v.moveMessage accountId messageId mailbox)).2.remote := by
  have hrun := triple_moveMessage (v := v) accountId messageId mailbox w
  have hall : (⟨fun _ _ => True, fun _ => False⟩ : Footprint).Covers v.peer
      (v.moveMessage accountId messageId mailbox) :=
    Footprint.covers_moveMessage (fun _ _ _ => trivial) (fun _ _ => trivial)
      (fun _ _ _ _ _ _ => trivial) (fun _ => trivial) _ _ _
  obtain ⟨new, htrace, hremote⟩ := hall.remote w
  have hnew : Moving w.clients accountId messageId mailbox new ∧
      (∀ answer, (Task.runIn w (v.moveMessage accountId messageId mailbox)).1 = .ok answer →
        ∃ id a, MessageId.parseFor accountId messageId = .ok id ∧
          v.settings.account accountId = .ok a ∧
          Moved v.settings a w.clients id.uid mailbox new) := by
    have hsame : ∀ new', w.trace ++ new = w.trace ++ new' → new' = new :=
      fun new' h => (List.append_cancel_left h).symm
    rcases hr : Task.runIn w (v.moveMessage accountId messageId mailbox) with ⟨f | answer, w'⟩
    · rw [hr] at htrace
      obtain ⟨new', hw', hmoving⟩ := hrun.error rfl hr
      obtain rfl := hsame new' (htrace.symm.trans hw')
      exact ⟨hmoving, fun _ h => by cases h⟩
    · rw [hr] at htrace
      obtain ⟨new', hw', id, a, hid, ha, hsteps, hnone⟩ := hrun.ok rfl hr
      obtain rfl := hsame new' (htrace.symm.trans hw')
      exact ⟨.inr ⟨id, hid, hsteps⟩, fun _ _ => ⟨id, a, hid, ha, moved_of_moveSteps hsteps hnone⟩⟩
  obtain ⟨hmoving, hanswer⟩ := hnew
  have hsteps : ∃ uid, MoveSteps w.clients uid mailbox (stepsOf new) := by
    obtain hnil | ⟨id, -, h⟩ := hmoving
    · exact ⟨0, by rw [hnil]; exact .none⟩
    · exact ⟨id.uid, h⟩
  refine ⟨new, htrace, hanswer, fun before k uid o after hsplit => ?_,
    fun id hid stored copied hconserving hstored => ?_⟩
  · obtain ⟨uid', h⟩ := hsteps
    exact h.expunge hsplit
  · rw [hremote]
    refine hconserving.moveSteps (k := w.clients) ?_ hstored
    obtain hnil | ⟨id', hid', h⟩ := hmoving
    · rw [hnil]
      exact .none
    · rw [hid] at hid'
      cases hid'
      exact h

end Service

/-! ## A move that breaks off

The host of the sample with a second mailbox, and with a connection that is lost when a message is
to be expunged. -/

namespace Sample

def archive : StoredMailbox :=
  { inbox with name := "Archive", uidvalidity := some 9, messages := [], nextUid := 1 }

def lossyHost : Host :=
  ⟨["UIDPLUS"], [inbox, archive], [⟨.expunge, none, none, ⟨.abort, "connection lost"⟩⟩], []⟩

def lossyWorld : World Exchange :=
  .start ⟨[("mail", lossyHost)], []⟩ 0

/-- A mailbox of the host holds a message with the source of the sample's second. -/
def Holds (mailbox : String) (x : Exchange) : Prop :=
  ∃ b ∈ (x.host? "mail").bind (·.mailbox? mailbox),
    ∃ m ∈ b.messages, m.source = ascii "Subject: two\n\n"

instance (mailbox : String) : DecidablePred (Holds mailbox) :=
  fun x => inferInstanceAs (Decidable (∃ b ∈ (x.host? "mail").bind (·.mailbox? mailbox), _))

def brokenMove : Except Failure Answer.Move × World Exchange :=
  Task.runIn lossyWorld ((service true).moveMessage "a" "imap:a:INBOX:7:2" "Archive")

lemma brokenMove_trace : brokenMove.2.trace =
    [.called 0 (.connect "mail" 993 1000 1000) (.ok ()),
      .called 0 (.login "user" "secret") (.ok ()),
      .timeoutSet 0 1000,
      .called 0 (.select "INBOX" false)
        (.ok [(.octets (ascii "UIDVALIDITY"), .single (.number 7))]),
      .called 0 .capabilities (.ok [.octets (ascii "UIDPLUS")]),
      .called 0 (.copy 2 "Archive") (.ok ()),
      .called 0 (.addFlags 2 [deletedFlag]) (.ok ()),
      .called 0 (.expunge 2) (.error ⟨.abort, "connection lost"⟩),
      .called 0 .shutdown (.ok ())] := rfl

lemma brokenMove_conserving : Conserving Exchange.peer 2 "Archive" (Holds "INBOX")
    (Holds "Archive") lossyWorld.remote brokenMove.2.trace := by
  rw [brokenMove_trace]
  simp only [Conserving, Peer.passage, List.forall_mem_cons]
  refine ⟨?_, ?_, ?_, ?_, ?_, ?_, ?_, ?_, ?_, fun _ h => absurd h List.not_mem_nil⟩
  -- The expunging that fails keeps the message, so each event keeps it; only one is a copying.
  all_goals
    refine .of_kept (by decide +kernel) (by decide +kernel) fun k hk => ?_
    first | decide +kernel | cases hk

end Sample

namespace Service

theorem move_keeps_message_of_brokenMove :
    MessageId.parseFor "a" "imap:a:INBOX:7:2" = .ok ⟨"a", "INBOX", 7, 2⟩ ∧
      (∃ answer, Sample.brokenMove.1 = .ok answer) ∧
      Sample.Holds "INBOX" Sample.lossyWorld.remote ∧
      Conserving Exchange.peer 2 "Archive" (Sample.Holds "INBOX") (Sample.Holds "Archive")
        Sample.lossyWorld.remote Sample.brokenMove.2.trace ∧
      Moved (Sample.service true).settings Sample.account 0 2 "Archive" Sample.brokenMove.2.trace ∧
      (Sample.Holds "INBOX" Sample.brokenMove.2.remote ∨
        Sample.Holds "Archive" Sample.brokenMove.2.remote) := by
  have hid : MessageId.parseFor "a" "imap:a:INBOX:7:2" = .ok ⟨"a", "INBOX", 7, 2⟩ := rfl
  have hstored : Sample.Holds "INBOX" Sample.lossyWorld.remote := by decide +kernel
  obtain ⟨answer, hanswer⟩ : ∃ answer, Sample.brokenMove.1 = .ok answer := ⟨_, rfl⟩
  obtain ⟨new, hnew, hmoved, -, hkeeps⟩ :=
    move_keeps_message (Sample.service true) Sample.lossyWorld "a" "imap:a:INBOX:7:2" "Archive"
  obtain rfl : Sample.brokenMove.2.trace = new := hnew
  obtain ⟨id, a, hid', ha, hway⟩ := hmoved answer hanswer
  rw [hid] at hid'
  cases hid'
  cases ha
  exact ⟨hid, ⟨answer, hanswer⟩, hstored, Sample.brokenMove_conserving, hway,
    hkeeps _ hid _ _ Sample.brokenMove_conserving hstored⟩

end Service

end Mailroom
