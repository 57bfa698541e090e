import Mailroom.Proofs.Moves

/-!
# The ledger of a change tells the truth

A copy, a move and a deletion each follow a plan of steps: they connect, perhaps more than once, and
make one call after another. What a step did can be read off the events that it added to the trace,
and so can how far a plan was carried out. The ledger of the answer tells just that.
-/

namespace Mailroom

open Imap

namespace Imap

/-- Whether an event is part of a step of a plan. Selecting a mailbox, setting a deadline and ending
a session are not. -/
def Event.isWork : Event → Bool
  | .called _ (.select ..) _ | .timeoutSet .. => false
  | e => !e.isEnding

def workOf (es : List Event) : List Event :=
  es.filter Event.isWork

lemma workOf_append (es es' : List Event) : workOf (es ++ es') = workOf es ++ workOf es' :=
  List.filter_append ..

lemma workOf_singleton {e : Event} (h : e.isWork) : workOf [e] = [e] :=
  List.filter_eq_self.2 (List.forall_mem_singleton.2 h)

lemma Event.isWork_of_isEnding {e : Event} (h : e.isEnding) : e.isWork = false := by
  cases e with
  | timeoutSet k n => rfl
  | called k c o => cases c <;> first | rfl | cases h

lemma Ending.workOf_eq {k : ClientId} {es : List Event} (h : Ending k es) : workOf es = [] :=
  List.filter_eq_nil_iff.2 fun e he => by simp [Event.isWork_of_isEnding (h e he).2]

end Imap

namespace Plan

/-- What is done in a step. To learn a strategy is to be told the capabilities that lead to it. -/
inductive Deed where
  | connect (a : Account)
  | learn (strategy : MoveStrategy)
  | fetchSource (uid : Int)
  | change (c : Call)

/-- A step as a ledger names it, the client that it uses, and what it does. -/
structure Step where
  client : ClientId
  stage : String
  uid : Option Int
  deed : Deed

namespace Step

/-- The events of a step that ended normally. -/
def Succeeds (s : Step) (es : List Event) : Prop :=
  match s.deed with
  | .connect a => ∃ t t', es = [.called s.client (.connect a.host a.port t t') (.ok ()),
      .called s.client (.login a.user a.password) (.ok ())]
  | .learn strategy => ∃ ts, es = [.called s.client .capabilities (.ok ts)] ∧
      MoveStrategy.select (ts.map fun t => Text.upper t.toText) = strategy
  | .fetchSource uid => ∃ found body, es = [.called s.client (.fetch uid [.source]) (.ok found)] ∧
      Session.bodyOf uid found = some body
  | .change c => ∃ r, es = [.called s.client c (.ok r)]

/-- The events of a step that failed. To connect fails before anything is called only for an account
that is barred. -/
def Fails (s : Step) (es : List Event) : Prop :=
  match s.deed with
  | .connect a => es = [] ∧ a.Barred ∨ ∃ t t' f,
      es = [.called s.client (.connect a.host a.port t t') (.error f)] ∨
      es = [.called s.client (.connect a.host a.port t t') (.ok ()),
        .called s.client (.login a.user a.password) (.error f)]
  | .learn _ => ∃ f, es = [.called s.client .capabilities (.error f)]
  | .fetchSource uid => ∃ o, es = [.called s.client (.fetch uid [.source]) o] ∧
      ∀ found, o = .ok found → Session.bodyOf uid found = none
  | .change c => ∃ f, es = [.called s.client c (.error f)]

lemma Succeeds.not_fails {s : Step} {es es' : List Event} (h : s.Succeeds es) :
    ¬ s.Fails (es ++ es') := by
  obtain ⟨k, stage, uid, deed⟩ := s
  intro hfails
  cases deed with
  | connect a =>
    obtain ⟨t, t', rfl⟩ := h
    rcases hfails with ⟨hnil, -⟩ | ⟨u, u', f, h | h⟩
    · cases hnil
    · cases h
    · cases h
  | learn strategy =>
    obtain ⟨ts, rfl, -⟩ := h
    obtain ⟨f, h⟩ := hfails
    cases h
  | fetchSource uid =>
    obtain ⟨found, body, rfl, hbody⟩ := h
    obtain ⟨o, h, hnone⟩ := hfails
    cases h
    rw [hnone found rfl] at hbody
    cases hbody
  | change c =>
    obtain ⟨r, rfl⟩ := h
    obtain ⟨f, h⟩ := hfails
    cases h

end Step

end Plan

abbrev Plan := List Plan.Step

/-- The events of a plan that is carried out step by step, as far as that goes: how many steps
succeeded, and which one then failed. -/
inductive CarriedOut : Plan → List Event → Nat → Option Plan.Step → Prop where
  | done : CarriedOut [] [] 0 none
  | failed (s : Plan.Step) (rest : Plan) {es : List Event} (h : s.Fails es) :
    CarriedOut (s :: rest) es 0 (some s)
  | next (s : Plan.Step) {rest : Plan} {es es' : List Event} {n : Nat} {failed : Option Plan.Step}
      (h : s.Succeeds es) (hrest : CarriedOut rest es' n failed) :
    CarriedOut (s :: rest) (es ++ es') (n + 1) failed

namespace CarriedOut

variable {plan : Plan} {es : List Event} {n : Nat} {failed : Option Plan.Step}

/-- The step that failed is the one after those that succeeded. -/
lemma getElem? (h : CarriedOut plan es n failed) : plan[n]? = failed := by
  induction h with
  | done => rfl
  | failed s rest h => rfl
  | next s h hrest ih => exact ih

lemma le_length (h : CarriedOut plan es n failed) : n ≤ plan.length := by
  induction h with
  | done => exact Nat.le_refl _
  | failed s rest h => exact Nat.zero_le _
  | next s h hrest ih => exact Nat.succ_le_succ ih

lemma eq_none_iff (h : CarriedOut plan es n failed) : failed = none ↔ n = plan.length := by
  rw [← h.getElem?, List.getElem?_eq_none_iff]
  have hle := h.le_length
  omega

/-- None succeeded if the first failed. -/
lemma eq_zero_iff {s : Plan.Step} {rest : Plan} (h : CarriedOut (s :: rest) es n failed) :
    n = 0 ↔ s.Fails es := by
  cases h with
  | failed _ _ hfails => exact iff_of_true rfl hfails
  | next _ hsucceeds hrest => exact iff_of_false (Nat.succ_ne_zero _) hsucceeds.not_fails

end CarriedOut

/-- A ledger into which some steps were entered that succeeded, and perhaps one that failed. -/
def Ledger.booked (l : Ledger) (n : Nat) (failed : Option (Plan.Step × Error)) : Ledger where
  messageId := l.messageId
  attempted := l.attempted + n + failed.toList.length
  succeeded := l.succeeded + n
  issues := l.issues ++ failed.toList.map fun (s, e) =>
    Issue.ofError s.stage e s.uid (some l.messageId)

/-- A ledger that tells the truth about a plan for a message, of which some steps succeeded and one
may have failed. -/
structure Ledger.Truthful (l : Ledger) (id : MessageId) (plan : Plan) (es : List Event) (n : Nat)
    (failed : Option Plan.Step) : Prop where
  succeeded : l.succeeded = n
  attempted : l.attempted = l.succeeded + l.issues.length
  issues : List.Forall₂ (fun (s : Plan.Step) (i : Issue) =>
    i.stage = s.stage ∧ i.uid = s.uid ∧ i.messageId = some id.encode) failed.toList l.issues
  ok : l.status = .ok ↔ n = plan.length
  failed : l.status = .failed ↔ ∃ s ∈ plan.head?, s.Fails es
  incomplete : l.status = .incomplete ↔ 0 < n ∧ n < plan.length

section Statuses

variable {noIssues hasData : Bool}

lemma Status.of_eq_ok : Status.of noIssues hasData = .ok ↔ noIssues := by
  cases noIssues <;> cases hasData <;> decide

lemma Status.of_eq_failed :
    Status.of noIssues hasData = .failed ↔ noIssues = false ∧ hasData = false := by
  cases noIssues <;> cases hasData <;> decide

lemma Status.of_eq_incomplete :
    Status.of noIssues hasData = .incomplete ↔ noIssues = false ∧ hasData := by
  cases noIssues <;> cases hasData <;> decide

end Statuses

section Booking

variable {l : Ledger} {n : Nat} {failed : Option (Plan.Step × Error)} {s : Plan.Step} {rest : Plan}
variable {es : List Event} {id : MessageId}

lemma Ledger.booked_nothing (l : Ledger) : l.booked 0 none = l := by
  simp [Ledger.booked]

lemma Ledger.booked_success {α : Type} (l : Ledger) (s : Plan.Step) (a : α) :
    (l.record s.stage s.uid (.ok a)).booked n failed = l.booked (n + 1) failed := by
  simp only [Ledger.booked, Ledger.record, Ledger.mk.injEq, true_and, and_true]
  omega

/-- What is entered of a plan that was carried out is the truth. -/
lemma CarriedOut.truthful (h : CarriedOut (s :: rest) es n (failed.map Prod.fst)) :
    ((Ledger.start id.encode).booked n failed).Truthful id (s :: rest) es n
      (failed.map Prod.fst) := by
  have hall : failed = none ↔ n = (s :: rest).length := by
    rw [← h.eq_none_iff, Option.map_eq_none_iff]
  have hle := h.le_length
  have hfirst := h.eq_zero_iff
  have hlength : (s :: rest).length ≠ 0 := by simp
  have hstatus : ((Ledger.start id.encode).booked n failed).status =
      Status.of failed.isNone (0 < n) := by
    cases failed <;> simp [Ledger.status, Ledger.booked, Ledger.start]
  constructor
  case succeeded => simp [Ledger.booked, Ledger.start]
  case attempted => simp [Ledger.booked, Ledger.start]
  case issues =>
    cases failed with
    | none => exact .nil
    | some f => exact .cons ⟨rfl, rfl, rfl⟩ .nil
  case ok => rw [hstatus, Status.of_eq_ok, Option.isNone_iff_eq_none, hall]
  case failed =>
    rw [hstatus, Status.of_eq_failed, ← Bool.not_eq_true, Option.isNone_iff_eq_none, hall]
    simp only [List.head?_cons, Option.mem_some_iff, exists_eq_left', ← hfirst,
      decide_eq_false_iff_not]
    omega
  case incomplete =>
    rw [hstatus, Status.of_eq_incomplete, ← Bool.not_eq_true, Option.isNone_iff_eq_none, hall,
      decide_eq_true_eq]
    omega

end Booking

/-! ## Plans in runs -/

section Runs

variable {σ α β : Type} {p : Peer σ} {s : Session} {c : Call} {w w₁ w' : World σ}
variable {l l' : Ledger} {x : Plan.Step} {rest plan : Plan} {es : List Event}

/-- A plan was carried out between two worlds, as far as it got, and entered into a ledger. -/
def Conducted (plan : Plan) (l : Ledger) (w : World σ) (l' : Ledger) (w' : World σ) : Prop :=
  ∃ new n failed, Added new w w' ∧ CarriedOut plan (workOf new) n (failed.map Prod.fst) ∧
    l' = l.booked n failed

namespace Conducted

lemma done (l : Ledger) (w : World σ) : Conducted [] l w l w :=
  ⟨[], 0, none, .nil w, .done, l.booked_nothing.symm⟩

lemma failed (e : Error) (h : x.Fails (workOf es)) (hadded : Added es w w') :
    Conducted (x :: rest) l w (l.booked 0 (some (x, e))) w' :=
  ⟨es, 0, some (x, e), hadded, .failed x rest h, rfl⟩

lemma next {a : α} (h : x.Succeeds (workOf es)) (hadded : Added es w w₁)
    (hrest : Conducted rest (l.record x.stage x.uid (.ok a)) w₁ l' w') :
    Conducted (x :: rest) l w l' w' := by
  obtain ⟨new, n, failed, hnew, hcarried, rfl⟩ := hrest
  refine ⟨es ++ new, n + 1, failed, hadded.trans hnew, ?_, l.booked_success x a⟩
  rw [workOf_append]
  exact .next x h hcarried

/-- What is no part of a step may come before a plan and after it. -/
lemma before (hes : workOf es = []) (hadded : Added es w w₁) (h : Conducted plan l w₁ l' w') :
    Conducted plan l w l' w' := by
  obtain ⟨new, n, failed, hnew, hcarried, rfl⟩ := h
  refine ⟨es ++ new, n, failed, hadded.trans hnew, ?_, rfl⟩
  rwa [workOf_append, hes, List.nil_append]

lemma after (h : Conducted plan l w l' w₁) (hadded : Added es w₁ w') (hes : workOf es = []) :
    Conducted plan l w l' w' := by
  obtain ⟨new, n, failed, hnew, hcarried, rfl⟩ := h
  refine ⟨new ++ es, n, failed, hnew.trans hadded, ?_, rfl⟩
  rwa [workOf_append, hes, List.append_nil]

end Conducted

/-- A task that carries out a plan whenever it gives a result, if the session is in use. -/
def Follows (s : Session) (plan : Plan) (l : Ledger) (ledger : α → Ledger) (t : Task σ α) :
    Prop :=
  ∀ w a w', s.client ∉ w.abandoned → Task.runIn w t = (.ok a, w') →
    Conducted plan l w (ledger a) w'

namespace Follows

lemma pure {ledger : α → Ledger} {a : α} (ha : ledger a = l) :
    Follows s [] l ledger (pure a : Task σ α) := by
  rintro w _ _ - ⟨⟩
  rw [ha]
  exact .done l w

/-- A step that makes a call, and the rest of the plan if the call ended normally. -/
lemma change {verb stage : String} {uid : Option Int} {ledger : β → Ledger}
    {f : Option c.Reply × Ledger → Task σ β} (hc : ∀ o, (Event.called s.client c o).isWork)
    (hnone : ∀ l, ∃ b, f (none, l) = Pure.pure b ∧ ledger b = l)
    (hsome : ∀ r l, Follows s rest l ledger (f (some r, l))) :
    Follows s (⟨s.client, stage, uid, .change c⟩ :: rest) l ledger
      (Task.step stage uid l (s.issue p verb c) >>= f) := by
  intro w b w' hw hrun
  have hread := Session.reads_issue (p := p) (s := s) (c := c) verb
  obtain ⟨y, w₁, hstep, hafter⟩ := Task.runIn_bind_eq_ok.1 hrun
  obtain ⟨r, hok, rfl⟩ | ⟨e, herror, rfl⟩ := Task.runIn_step_eq_ok.1 hstep
  · obtain ⟨r', hr, hreplied⟩ := hread.replied hok
    cases hr
    have hrest := hsome r _ w₁ b w' hreplied.inUse hafter
    apply Conducted.next (x := ⟨s.client, stage, uid, .change c⟩) _ hreplied.added hrest
    rw [workOf_singleton (hc _)]
    exact ⟨r, rfl⟩
  · obtain ⟨o, hunread⟩ := hread.unread hw herror
    obtain ⟨b', hb, hledger⟩ := hnone (l.record stage uid (.error e : Except Error c.Reply))
    rw [hb] at hafter
    cases hafter
    rw [hledger]
    apply Conducted.failed (x := ⟨s.client, stage, uid, .change c⟩) e _ hunread.added
    rw [workOf_singleton (hc o)]
    cases o with
    | ok r => cases hunread.unread r rfl
    | error f => exact ⟨f, rfl⟩

lemma last_change {verb stage : String} {uid : Option Int}
    (hc : ∀ o, (Event.called s.client c o).isWork) :
    Follows s [⟨s.client, stage, uid, .change c⟩] l id
      (Task.step stage uid l (s.issue p verb c) >>= fun y => Pure.pure y.2) :=
  change hc (fun l => ⟨l, rfl, rfl⟩) fun _ _ => .pure rfl

end Follows

end Runs

/-- The steps of a removal. -/
def removalSteps (k : ClientId) (uid : Int) : Plan :=
  [⟨k, "uid_store_deleted", some uid, .change (.addFlags uid [deletedFlag])⟩,
    ⟨k, "uid_expunge", some uid, .change (.expunge uid)⟩]

/-- The steps of a move that are taken once the strategy is known. -/
def MoveStrategy.steps (k : ClientId) (uid : Int) (mailbox : String) : MoveStrategy → Plan
  | native => [⟨k, "uid_move", some uid, .change (.move uid mailbox)⟩]
  | copyDeleteExpunge =>
    ⟨k, "uid_copy", some uid, .change (.copy uid mailbox)⟩ :: removalSteps k uid

section Changing

variable {σ : Type} {v : Service σ} {s : Session}

lemma follows_removeSteps (uid : Int) (l : Ledger) :
    Follows s (removalSteps s.client uid) l id (v.removeSteps s uid l) := by
  apply Follows.change (fun _ => rfl)
  · exact fun l => ⟨l, rfl, rfl⟩
  · exact fun _ l => Follows.last_change fun _ => rfl

lemma follows_moveBy (strategy : MoveStrategy) (uid : Int) (mailbox : String) (l : Ledger) :
    Follows s (strategy.steps s.client uid mailbox) l id
      (v.moveBy strategy s uid mailbox l) := by
  cases strategy with
  | native => exact Follows.last_change fun _ => rfl
  | copyDeleteExpunge =>
    apply Follows.change (fun _ => rfl)
    · exact fun l => ⟨l, rfl, rfl⟩
    · exact fun _ l => follows_removeSteps uid l

end Changing

section Sessions

variable {σ α β : Type} {v : Service σ} {s : Session} {a : Account} {id : MessageId}
variable {l l' : Ledger} {w w' : World σ} {mailbox stage : String} {plan : Plan}

lemma Imap.Missed.fails {st : Settings} {k : ClientId} {es : List Event} (h : Missed st a k es) :
    (⟨k, stage, none, .connect a⟩ : Plan.Step).Fails (workOf es) := by
  cases h with
  | uncalled hbarred => exact .inl ⟨rfl, hbarred⟩
  | unreached f => exact .inr ⟨_, _, f, .inl rfl⟩
  | rejected f hrest =>
    refine .inr ⟨st.connectTimeout, st.greetingTimeout, f, .inr ?_⟩
    have hwork := hrest.workOf_eq
    unfold workOf at hwork ⊢
    rw [List.filter_cons_of_pos rfl, List.filter_cons_of_pos rfl, hwork]

/-- To connect is the first step of a plan, whose other steps are taken if it succeeds. They may
depend on what is found out in the session, as `rest` has it. -/
lemma conducted_connect {ι : Type} {i : ι} {rest : ι → Plan} {g : β → Ledger}
    {f : Option Session × Ledger → Task σ β} {b : β}
    (hrun : Task.runIn w (Task.step stage none l (v.connect a) >>= f) = (.ok b, w'))
    (hnone : ∀ l, ∃ b, f (none, l) = pure b ∧ g b = l)
    (hsome : ∀ s l w₁, Opened v.settings a w s w₁ → Task.runIn w₁ (f (some s, l)) = (.ok b, w') →
      ∃ i, Conducted (rest i) l w₁ (g b) w') :
    ∃ i, Conducted (⟨w.clients, stage, none, .connect a⟩ :: rest i) l w (g b) w' := by
  obtain ⟨y, w₁, hstep, hafter⟩ := Task.runIn_bind_eq_ok.1 hrun
  obtain ⟨s, hok, rfl⟩ | ⟨e, herror, rfl⟩ := Task.runIn_step_eq_ok.1 hstep
  · have hopens := connect_opened hok
    obtain ⟨i, hconducted⟩ := hsome s _ w₁ hopens hafter
    refine ⟨i, ?_⟩
    apply Conducted.next (x := ⟨w.clients, stage, none, .connect a⟩) _ hopens.added hconducted
    exact ⟨_, _, rfl⟩
  · obtain ⟨es, hmisses⟩ := connect_misses herror
    obtain ⟨b', hb, hg⟩ := hnone (l.record stage none (.error e : Except Error Session))
    rw [hb] at hafter
    cases hafter
    rw [hg]
    exact ⟨i, .failed (x := ⟨w.clients, stage, none, .connect a⟩) e
      hmisses.missed.fails hmisses.added⟩

/-- Within a session a plan is carried out after the epoch of the message was checked. -/
lemma conducted_within {readOnly : Bool} {ledger : β → Ledger} {t : Task σ β} {b : β}
    (ht : Follows s plan l ledger t)
    (hrun : Task.runIn w (s.within v.peer (v.ensureEpoch s id readOnly >>= fun _ => t)) =
      (.ok b, w')) : Conducted plan l w (ledger b) w' := by
  obtain ⟨w₂, es, hbody, hcloses⟩ := within_eq_ok hrun
  obtain ⟨u, w₁, hepoch, hrest⟩ := Task.runIn_bind_eq_ok.1 hbody
  obtain ⟨is, -, hreplied⟩ := Session.ensureEpoch_replied hepoch
  have hfollowed := ht w₁ b w₂ hreplied.inUse hrest
  exact (hfollowed.before rfl hreplied.added).after hcloses.added hcloses.ending.workOf_eq

/-- A plan that does not depend on what is found out in the session. -/
lemma conducted_connect_within (rest : ClientId → Plan) {t : Session → Ledger → Task σ Ledger}
    (hrest : ∀ s l, Follows s (rest s.client) l (fun l => l) (t s l))
    {f : Option Session × Ledger → Task σ Ledger} {readOnly : Bool}
    (hnone : ∀ l, f (none, l) = pure l) (hsome : ∀ s l, f (some s, l) =
      s.within v.peer (v.ensureEpoch s id readOnly >>= fun _ => t s l))
    (hrun : Task.runIn w (Task.step stage none l (v.connect a) >>= f) = (.ok l', w')) :
    Conducted (⟨w.clients, stage, none, .connect a⟩ :: rest w.clients) l w l' w' := by
  have h : ∃ _ : Unit,
      Conducted (⟨w.clients, stage, none, .connect a⟩ :: rest w.clients) l w l' w' := by
    refine conducted_connect (i := ()) hrun (fun l => ⟨l, hnone l, rfl⟩)
      fun s l w₁ hopens hsession => ⟨(), ?_⟩
    rw [hsome] at hsession
    rw [← hopens.client]
    exact conducted_within (hrest s l) hsession
  obtain ⟨-, hconducted⟩ := h
  exact hconducted

lemma conducted_moveWithin {x : Option MoveStrategy × Ledger}
    (hrun : Task.runIn w (s.within v.peer (v.moveWithin s id mailbox l)) = (.ok x, w')) :
    ∃ strategy : MoveStrategy,
      Conducted (⟨s.client, "capabilities", some id.uid, .learn strategy⟩ ::
        strategy.steps s.client id.uid mailbox) l w x.2 w' := by
  obtain ⟨w₂, es, hbody, hcloses⟩ := within_eq_ok hrun
  obtain ⟨u, w₁, hepoch, hrest⟩ := Task.runIn_bind_eq_ok.1 hbody
  obtain ⟨is, -, hreplied⟩ := Session.ensureEpoch_replied hepoch
  obtain ⟨y, w₂', hstep, hafter⟩ := Task.runIn_bind_eq_ok.1 hrest
  suffices h : ∃ strategy : MoveStrategy,
      Conducted (⟨s.client, "capabilities", some id.uid, .learn strategy⟩ ::
        strategy.steps s.client id.uid mailbox) l w₁ x.2 w₂ by
    obtain ⟨strategy, hconducted⟩ := h
    exact ⟨strategy, (hconducted.before rfl hreplied.added).after hcloses.added
      hcloses.ending.workOf_eq⟩
  obtain ⟨capabilities, hok, rfl⟩ | ⟨e, herror, rfl⟩ := Task.runIn_step_eq_ok.1 hstep
  · obtain ⟨ts, hts, htold⟩ := Session.reads_capabilities.replied hok
    cases hts
    dsimp only at hafter
    obtain ⟨l', w₃, hmove, hpure⟩ := Task.runIn_bind_eq_ok.1 hafter
    cases hpure
    refine ⟨MoveStrategy.select (ts.map fun t => Text.upper t.toText), ?_⟩
    apply Conducted.next (x := ⟨s.client, "capabilities", some id.uid, .learn _⟩) _ htold.added
      (follows_moveBy _ _ _ _ _ _ _ htold.inUse hmove)
    exact ⟨ts, rfl, rfl⟩
  · obtain ⟨o, hunread⟩ := Session.reads_capabilities.unread hreplied.inUse herror
    cases hafter
    refine ⟨.native, .failed (x := ⟨s.client, "capabilities", some id.uid, .learn .native⟩) e ?_
      hunread.added⟩
    cases o with
    | ok ts => cases hunread.unread ts rfl
    | error f => exact ⟨f, rfl⟩

lemma conducted_deleteSteps
    (hrun : Task.runIn w (v.deleteSteps a id) = (.ok l', w')) :
    Conducted (⟨w.clients, "connect_authenticated", none, .connect a⟩ ::
      removalSteps w.clients id.uid) (.start id.encode) w l' w' := by
  exact conducted_connect_within (removalSteps · id.uid)
    (fun s l => follows_removeSteps id.uid l) (fun _ => rfl) (fun _ _ => rfl) hrun

lemma conducted_moveSteps {x : Option MoveStrategy × Ledger}
    (hrun : Task.runIn w (v.moveSteps a id mailbox) = (.ok x, w')) :
    ∃ strategy : MoveStrategy,
      Conducted (⟨w.clients, "connect_authenticated", none, .connect a⟩ ::
        ⟨w.clients, "capabilities", some id.uid, .learn strategy⟩ ::
        strategy.steps w.clients id.uid mailbox) (.start id.encode) w x.2 w' := by
  refine conducted_connect (i := .native) hrun (fun l => ⟨(none, l), rfl, rfl⟩)
    fun s l w₁ hopens hsession => ?_
  rw [← hopens.client]
  exact conducted_moveWithin hsession

/-- The step that fetches a message's source. -/
def fetchStep (k : ClientId) (uid : Int) : Plan.Step :=
  ⟨k, "fetch_raw_message_source", some uid, .fetchSource uid⟩

/-- The source session is left with the body, or the step that fetches it failed. -/
lemma fetchForCopy_cases {x : Option Value × Ledger} (hw : s.client ∉ w.abandoned)
    (hrun : Task.runIn w (s.within v.peer (v.fetchForCopy s id l)) = (.ok x, w')) :
    ∃ es, Added es w w' ∧ w'.clients = w.clients ∧
      ((∃ body, (fetchStep s.client id.uid).Succeeds (workOf es) ∧ w'.abandoned = w.abandoned ∧
          x = (some body, l.record "fetch_raw_message_source" (some id.uid) (.ok body))) ∨
        ∃ e, (fetchStep s.client id.uid).Fails (workOf es) ∧
          x = (none, l.booked 0 (some (fetchStep s.client id.uid, e)))) := by
  obtain ⟨w₁, ending, hfetch, hcloses⟩ := within_eq_ok hrun
  obtain ⟨es, hadded, hclients, hreads⟩ := Session.readsForCopy_fetchForCopy hw hfetch
  refine ⟨es ++ ending, hadded.trans hcloses.added, hcloses.clients.trans hclients, ?_⟩
  rw [workOf_append, hcloses.ending.workOf_eq, List.append_nil]
  cases hreads with
  | unread is o his ho hy =>
    obtain ⟨e, hy⟩ | ⟨f, hy⟩ := hy
    · cases hy
      exact .inr ⟨e, ⟨o, rfl, ho⟩, rfl⟩
    · cases hy
  | read is found his hbody habandoned =>
    exact .inl ⟨_, ⟨found, _, rfl, hbody⟩, hcloses.abandoned.trans habandoned, rfl⟩

/-- The steps of a copy that are taken once the source of the message is known. -/
def appendSteps (k : ClientId) (destination : Account) (mailbox : String) (octets : List UInt8) :
    Plan :=
  [⟨k, "connect_authenticated_destination", none, .connect destination⟩,
    ⟨k, "append_destination", none, .change (.append mailbox octets)⟩]

lemma conducted_appendTo {body : Value} (hw : Fresh w)
    (hrun : Task.runIn w (v.appendTo a mailbox body l) = (.ok l', w')) :
    ∃ octets, Conducted (appendSteps w.clients a mailbox octets) l w l' w' := by
  refine conducted_connect (i := []) hrun (fun l => ⟨l, rfl, rfl⟩)
    fun s l w₁ hopens hsession => ?_
  obtain ⟨w₂, es, hbody, hcloses⟩ := within_eq_ok hsession
  split at hbody
  · cases hbody
  · next octets _ =>
    have happended := Follows.last_change (c := .append mailbox octets) (fun _ => rfl) w₁ l' w₂
      (hopens.inUse hw) hbody
    rw [← hopens.client]
    exact ⟨octets, happended.after hcloses.added hcloses.ending.workOf_eq⟩

lemma conducted_copySteps_same {destination : Account}
    (hrun : Task.runIn w (v.copySteps a destination true id mailbox) = (.ok l', w')) :
    Conducted [⟨w.clients, "connect_authenticated_source", none, .connect a⟩,
      ⟨w.clients, "uid_copy", some id.uid, .change (.copy id.uid mailbox)⟩]
      (.start id.encode) w l' w' := by
  exact conducted_connect_within
    (fun k => [⟨k, "uid_copy", some id.uid, .change (.copy id.uid mailbox)⟩])
    (fun s l => Follows.last_change fun _ => rfl) (fun _ => rfl) (fun _ _ => rfl) hrun

lemma conducted_copySteps_other {destination : Account} (hw : Fresh w)
    (hrun : Task.runIn w (v.copySteps a destination false id mailbox) = (.ok l', w')) :
    ∃ octets, Conducted (⟨w.clients, "connect_authenticated_source", none, .connect a⟩ ::
      fetchStep w.clients id.uid :: appendSteps (w.clients + 1) destination mailbox octets)
      (.start id.encode) w l' w' := by
  refine conducted_connect (i := []) hrun (fun l => ⟨l, rfl, rfl⟩)
    fun s l w₁ hopens hsession => ?_
  obtain ⟨x, w₂, hwithin, hrest⟩ := Task.runIn_bind_eq_ok.1 hsession
  obtain ⟨es, hadded, hclients, ⟨body, hbody, habandoned, rfl⟩ | ⟨e, hfails, rfl⟩⟩ :=
    fetchForCopy_cases (hopens.inUse hw) hwithin
  · have hfresh : Fresh w₂ := by
      unfold Fresh
      rw [habandoned, hclients]
      exact (hopens.fresh hw).1
    obtain ⟨octets, happend⟩ := conducted_appendTo hfresh hrest
    rw [hclients, hopens.clients] at happend
    rw [hopens.client] at hbody
    exact ⟨octets, .next hbody hadded happend⟩
  · cases hrest
    rw [hopens.client] at hfails
    exact ⟨[], .failed e hfails hadded⟩

end Sessions

/-- The ledger in the answer to a copy, a move or a deletion. -/
def Answer.ledger? : Answer → Option Ledger
  | copy a => some a.ledger
  | move a => some a.ledger
  | deletion a => some a.ledger
  | _ => none

/-- The plans of copies, moves and deletions, whose first client is the next to be constructed. A
copy to another account leaves open what it appends, and a move by which strategy it goes on. -/
inductive Command.HasPlan (st : Settings) (k : ClientId) :
    Command → MessageId → Plan → Prop where
  | copyWithin {a m b : String} {d : Option String} {id : MessageId} {account : Account}
      (hid : MessageId.parseFor a m = .ok id) (haccount : st.account a = .ok account)
      (hd : d.getD a = a) :
    HasPlan st k (.copy a m b d) id
      [⟨k, "connect_authenticated_source", none, .connect account⟩,
        ⟨k, "uid_copy", some id.uid, .change (.copy id.uid b)⟩]
  | copyAcross {a m b : String} {d : Option String} {id : MessageId} {source destination : Account}
      (hid : MessageId.parseFor a m = .ok id) (hsource : st.account a = .ok source)
      (hdestination : st.account (d.getD a) = .ok destination) (hd : d.getD a ≠ a)
      (octets : List UInt8) :
    HasPlan st k (.copy a m b d) id
      (⟨k, "connect_authenticated_source", none, .connect source⟩ :: fetchStep k id.uid ::
        appendSteps (k + 1) destination b octets)
  | move {a m b : String} {id : MessageId} {account : Account}
      (hid : MessageId.parseFor a m = .ok id) (haccount : st.account a = .ok account)
      (strategy : MoveStrategy) :
    HasPlan st k (.move a m b) id
      (⟨k, "connect_authenticated", none, .connect account⟩ ::
        ⟨k, "capabilities", some id.uid, .learn strategy⟩ :: strategy.steps k id.uid b)
  | delete {a m : String} {confirmed : Bool} {id : MessageId} {account : Account}
      (hid : MessageId.parseFor a m = .ok id) (haccount : st.account a = .ok account) :
    HasPlan st k (.delete a m confirmed) id
      (⟨k, "connect_authenticated", none, .connect account⟩ :: removalSteps k id.uid)

section Commands

variable {σ : Type} {v : Service σ} {w w' : World σ} {a m b : String} {l : Ledger}

lemma Command.HasPlan.ne_nil {st : Settings} {k : ClientId} {c : Command} {id : MessageId}
    {plan : Plan} (h : c.HasPlan st k id plan) : plan ≠ [] := by
  cases h <;> simp

/-- What a command enters into its ledger is what became of its plan. -/
def Keeps (v : Service σ) (w : World σ) (c : Command) (l : Ledger) (w' : World σ) : Prop :=
  ∃ id plan, c.HasPlan v.settings w.clients id plan ∧ Conducted plan (.start id.encode) w l w'

lemma keeps_copyMessage {d : Option String} {x : Answer.Copy} (hw : Fresh w)
    (hrun : Task.runIn w (v.copyMessage a m b d) = (.ok x, w')) :
    Keeps v w (.copy a m b d) x.ledger w' := by
  obtain ⟨_, -, h⟩ := Task.runIn_check_bind_eq_ok.1 hrun
  obtain ⟨id, hid, h⟩ := Task.runIn_ofExcept_bind_eq_ok.1 h
  obtain ⟨_, -, h⟩ := Task.runIn_check_bind_eq_ok.1 h
  obtain ⟨_, -, h⟩ := Task.runIn_check_bind_eq_ok.1 h
  obtain ⟨source, hsource, h⟩ := Task.runIn_check_bind_eq_ok.1 h
  obtain ⟨destination, hdestination, h⟩ := Task.runIn_check_bind_eq_ok.1 h
  obtain ⟨l, w₁, hsteps, h⟩ := Task.runIn_bind_eq_ok.1 h
  cases h
  by_cases hd : d.getD a = a
  · rw [beq_iff_eq.2 hd] at hsteps
    exact ⟨id, _, .copyWithin hid hsource hd, (conducted_copySteps_same hsteps).after (.nil w₁) rfl⟩
  · rw [beq_eq_false_iff_ne.2 hd] at hsteps
    obtain ⟨octets, hconducted⟩ := conducted_copySteps_other hw hsteps
    exact ⟨id, _, .copyAcross hid hsource hdestination hd octets, hconducted.after (.nil w₁) rfl⟩

lemma keeps_moveMessage {x : Answer.Move}
    (hrun : Task.runIn w (v.moveMessage a m b) = (.ok x, w')) :
    Keeps v w (.move a m b) x.ledger w' := by
  obtain ⟨_, -, h⟩ := Task.runIn_check_bind_eq_ok.1 hrun
  obtain ⟨id, hid, h⟩ := Task.runIn_ofExcept_bind_eq_ok.1 h
  obtain ⟨_, -, h⟩ := Task.runIn_check_bind_eq_ok.1 h
  obtain ⟨account, haccount, h⟩ := Task.runIn_check_bind_eq_ok.1 h
  obtain ⟨y, w₁, hsteps, h⟩ := Task.runIn_bind_eq_ok.1 h
  cases h
  obtain ⟨strategy, hconducted⟩ := conducted_moveSteps hsteps
  exact ⟨id, _, .move hid haccount strategy, hconducted.after (.nil w₁) rfl⟩

lemma keeps_deleteMessage {confirmed : Bool} {x : Answer.Deletion}
    (hrun : Task.runIn w (v.deleteMessage a m confirmed) = (.ok x, w')) :
    Keeps v w (.delete a m confirmed) x.ledger w' := by
  obtain ⟨_, -, h⟩ := Task.runIn_check_bind_eq_ok.1 hrun
  cases confirmed with
  | false => cases h
  | true =>
    obtain ⟨id, hid, h⟩ := Task.runIn_ofExcept_bind_eq_ok.1 h
    obtain ⟨account, haccount, h⟩ := Task.runIn_check_bind_eq_ok.1 h
    obtain ⟨l, w₁, hsteps, h⟩ := Task.runIn_bind_eq_ok.1 h
    cases h
    exact ⟨id, _, .delete hid haccount, (conducted_deleteSteps hsteps).after (.nil w₁) rfl⟩

end Commands

namespace Service

variable {σ : Type}

lemma keeps_run {v : Service σ} {w w' : World σ} {c : Command} {answer : Answer} {l : Ledger}
    (hw : Fresh w) (hrun : Task.runIn w (v.run c) = (.ok answer, w'))
    (hl : answer.ledger? = some l) : Keeps v w c l w' := by
  cases c with
  | copy a m b d =>
    obtain ⟨x, w₁, hcommand, h⟩ := Task.runIn_bind_eq_ok.1 hrun
    cases h
    cases hl
    exact keeps_copyMessage hw hcommand
  | move a m b =>
    obtain ⟨x, w₁, hcommand, h⟩ := Task.runIn_bind_eq_ok.1 hrun
    cases h
    cases hl
    exact keeps_moveMessage hcommand
  | delete a m confirmed =>
    obtain ⟨x, w₁, hcommand, h⟩ := Task.runIn_bind_eq_ok.1 hrun
    cases h
    cases hl
    exact keeps_deleteMessage hcommand
  | listAccounts =>
    cases hrun
    cases hl
  | updateFlags a m add remove =>
    obtain ⟨x, w₁, -, h⟩ := Task.runIn_bind_eq_ok.1 hrun
    cases h
    cases hl
  | _ =>
    obtain ⟨_, w₁, -, h⟩ := Task.runIn_bind_eq_ok.1 hrun
    obtain ⟨x, w₂, -, h⟩ := Task.runIn_bind_eq_ok.1 h
    cases h
    cases hl

/-- In every run the ledger of a copy, a move or a deletion tells the truth: its steps are those of
a plan of the command, carried out one after another until one failed or none was left, and counts,
issues and status say how far that went. -/
theorem ledger_truthful (v : Service σ) (remote : σ) (clock : Nat) (os : List (Occurrence σ))
    (c : Command) (answer : Answer) (l : Ledger) (w' : World σ)
    (hrun : Task.runIn (v.after (.start remote clock) os) (v.run c) = (.ok answer, w'))
    (hl : answer.ledger? = some l) :
    ∃ id plan new n failed,
      c.HasPlan v.settings (v.after (.start remote clock) os).clients id plan ∧
      w'.trace = (v.after (.start remote clock) os).trace ++ new ∧
      CarriedOut plan (workOf new) n failed ∧ l.Truthful id plan (workOf new) n failed := by
  obtain ⟨id, plan, hplan, new, n, failed, hnew, hcarried, rfl⟩ :=
    keeps_run (after_fresh v remote clock os) hrun hl
  obtain ⟨s, rest, rfl⟩ := List.exists_cons_of_ne_nil hplan.ne_nil
  exact ⟨id, _, new, n, _, hplan, hnew, hcarried, hcarried.truthful⟩

/-- As the first of a run on a host, a command ends with a ledger of given counts and status that
tells the truth. -/
def Recounts (h : Host) (c : Command) (counts : Nat × Nat × Status) : Prop :=
  ∃ answer l w',
    Task.runIn ((Sample.service true).after (.start ⟨[("mail", h)], []⟩ 0) [])
      ((Sample.service true).run c) = (.ok answer, w') ∧
    answer.ledger? = some l ∧ (l.attempted, l.succeeded, l.status) = counts ∧
    ∃ id plan new n failed, c.HasPlan (Sample.service true).settings 0 id plan ∧
      w'.trace = new ∧ CarriedOut plan (workOf new) n failed ∧
      l.Truthful id plan (workOf new) n failed

/-- A host that refuses the credentials. -/
def refusingHost : Host :=
  { Sample.lossyHost with rules := [⟨.login, none, none, ⟨.login, "no"⟩⟩] }

/-- A copy that is done, a move and a deletion that break off, and a deletion without a session. -/
theorem ledger_truthful_of_sampleChanges :
    Recounts Sample.lossyHost (.copy "a" "imap:a:INBOX:7:2" "Archive" none) (2, 2, .ok) ∧
      Recounts Sample.lossyHost (.move "a" "imap:a:INBOX:7:2" "Archive") (5, 4, .incomplete) ∧
      Recounts Sample.lossyHost (.delete "a" "imap:a:INBOX:7:2" true) (3, 2, .incomplete) ∧
      Recounts refusingHost (.delete "a" "imap:a:INBOX:7:2" true) (1, 0, .failed) := by
  have htruth : ∀ h c counts, (∃ answer l w',
      Task.runIn ((Sample.service true).after (.start ⟨[("mail", h)], []⟩ 0) [])
        ((Sample.service true).run c) = (.ok answer, w') ∧
      answer.ledger? = some l ∧ (l.attempted, l.succeeded, l.status) = counts) →
      Recounts h c counts := by
    rintro h c counts ⟨answer, l, w', hrun, hl, hcounts⟩
    exact ⟨answer, l, w', hrun, hl, hcounts,
      ledger_truthful (Sample.service true) ⟨[("mail", h)], []⟩ 0 [] c answer l w' hrun hl⟩
  refine ⟨htruth _ _ _ ?_, htruth _ _ _ ?_, htruth _ _ _ ?_, htruth _ _ _ ?_⟩
  all_goals exact ⟨_, _, _, rfl, rfl, rfl⟩

end Service

end Mailroom
