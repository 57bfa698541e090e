import Mailroom.Proofs.LedgerTruth
import Mailroom.Proofs.SoundCommands

/-!
# What a flag change reports

A flag change makes up to two stores that do not depend on each other, and then looks at the flags.
Each is called for, until one breaks the conversation: this is the last call but the one that ends
the session. The answer tells which of the stores returned.
-/

namespace Mailroom

open Imap

/-- A call of a client returned normally. -/
def Returned (k : ClientId) (c : Call) (es : List Event) : Prop :=
  ∃ r, .called k c (.ok r) ∈ es

/-- The flags of a message were told. -/
def FlagsTold (k : ClientId) (uid : Int) (es : List Event) : Prop :=
  ∃ found is, .called k (.fetch uid [.flags]) (.ok found) ∈ es ∧
    Session.itemsOf uid found = some is

/-- One issue for each of the stages that failed for a message. -/
def IssuesOf (uid : Int) (messageId : String) (stages : List String) (is : List Issue) : Prop :=
  List.Forall₂ (fun (stage : String) (i : Issue) => i.stage = stage ∧ i.uid = some uid ∧
    i.messageId = some messageId) stages is

lemma IssuesOf.eq_nil_iff {uid : Int} {messageId : String} {stages : List String}
    {is : List Issue} (h : IssuesOf uid messageId stages is) : is = [] ↔ stages = [] := by
  rw [← List.length_eq_zero_iff, ← List.length_eq_zero_iff, List.Forall₂.length_eq h]

/-- A call within a session, other than the selection that comes first. -/
def Imap.Event.isRequest : Event → Bool
  | .called _ (.select ..) _ => false
  | e => e.isVerb

def requestsOf (es : List Event) : List Event :=
  es.filter Event.isRequest

lemma requestsOf_append (es es' : List Event) :
    requestsOf (es ++ es') = requestsOf es ++ requestsOf es' :=
  List.filter_append ..

/-- Calls that are made one after another, however they end, until one breaks the conversation. -/
inductive Issued (k : ClientId) : List Call → List Event → Prop where
  | done : Issued k [] []
  | broken (c : Call) (rest : List Call) {f : Fault} (hf : f.kind ∈ FaultKind.breaking) :
    Issued k (c :: rest) [.called k c (.error f)]
  | next (c : Call) {rest : List Call} {o : Except Fault c.Reply} {es : List Event}
    (ho : ∀ f, o = .error f → f.kind ∉ FaultKind.breaking) (hrest : Issued k rest es) :
    Issued k (c :: rest) (.called k c o :: es)

namespace Answer.FlagChange

/-- The stores that a flag change was asked for. -/
def stores (b : Answer.FlagChange) : List Call :=
  (if b.add = [] then [] else [.addFlags b.id.uid b.add]) ++
    if b.remove = [] then [] else [.removeFlags b.id.uid b.remove]

/-- All that is called for within the session: the stores, and the look at the flags. -/
def calls (b : Answer.FlagChange) : List Call :=
  b.stores ++ [.fetch b.id.uid [.flags]]

/-- The stages that failed, going by what a flag change answers of its stores and the flags. -/
def failures (b : Answer.FlagChange) : List String :=
  (if b.add = [] ∨ b.added then [] else ["uid_store_add_flags"]) ++
    (if b.remove = [] ∨ b.removed then [] else ["uid_store_remove_flags"]) ++
    if b.flags.isSome then [] else ["fetch_flags"]

/-- An answer that tells what became of the stores that it was asked for, and of the look at the
flags. -/
structure Reports (k : ClientId) (es : List Event) (b : Answer.FlagChange) : Prop where
  issued : Issued k b.calls (requestsOf es)
  ok : b.status = .ok ↔ ∀ c ∈ b.stores, Returned k c es
  failed : b.status = .failed ↔ ∀ c ∈ b.stores, ¬ Returned k c es
  incomplete : b.status = .incomplete ↔
    (∃ c ∈ b.stores, Returned k c es) ∧ ∃ c ∈ b.stores, ¬ Returned k c es
  added : b.added ↔ Returned k (.addFlags b.id.uid b.add) es
  removed : b.removed ↔ Returned k (.removeFlags b.id.uid b.remove) es
  flags : b.flags.isSome ↔ FlagsTold k b.id.uid es
  issues : IssuesOf b.id.uid b.id.encode b.failures b.issues
  broken : ∀ f, .called k (.addFlags b.id.uid b.add) (.error f) ∈ es →
    f.kind ∈ FaultKind.breaking → ∀ c o, .called k c o ∈ es →
      c.isFrame ∨ c = .select b.id.mailbox false ∨ c = .addFlags b.id.uid b.add

lemma forall_mem_stores {b : Answer.FlagChange} {P : Call → Prop} : (∀ c ∈ b.stores, P c) ↔
    (b.add = [] ∨ P (.addFlags b.id.uid b.add)) ∧
      (b.remove = [] ∨ P (.removeFlags b.id.uid b.remove)) := by
  unfold stores
  by_cases hadd : b.add = [] <;> by_cases hremove : b.remove = [] <;> simp [hadd, hremove]

lemma exists_mem_stores {b : Answer.FlagChange} {P : Call → Prop} : (∃ c ∈ b.stores, P c) ↔
    (b.add ≠ [] ∧ P (.addFlags b.id.uid b.add)) ∨
      (b.remove ≠ [] ∧ P (.removeFlags b.id.uid b.remove)) := by
  unfold stores
  by_cases hadd : b.add = [] <;> by_cases hremove : b.remove = [] <;> simp [hadd, hremove]

end Answer.FlagChange

section Calls

variable {σ α : Type} {p : Peer σ} {s : Session} {c : Call} {w w' : World σ}

/-- What was added by a call that is not made if there is no occasion, or if the session was given
up before. -/
structure Tried (k : ClientId) (c : Call) (es : List Event) (w w' : World σ) : Prop where
  added : Added es w w'
  only : es = [] ∨ ∃ o, es = [.called k c o]
  givenUp : k ∈ w.abandoned → es = [] ∧ k ∈ w'.abandoned
  lost : k ∈ w'.abandoned → k ∈ w.abandoned ∨
    ∃ f, es = [.called k c (.error f)] ∧ f.kind ∈ FaultKind.breaking
  breaks : ∀ f, es = [.called k c (.error f)] → f.kind ∈ FaultKind.breaking → k ∈ w'.abandoned

lemma Tried.eq_of_mem {k j : ClientId} {d : Call} {o : Except Fault d.Reply} {es : List Event}
    (h : Tried k c es w w') (hd : .called j d o ∈ es) : es = [.called j d o] := by
  rcases h.only with rfl | ⟨o', rfl⟩
  · cases hd
  · rw [List.mem_singleton.1 hd]

lemma Tried.not_mem {k j : ClientId} {d : Call} {o : Except Fault d.Reply} {es : List Event}
    (h : Tried k c es w w') (hd : d ≠ c) : .called j d o ∉ es := by
  intro hmem
  rcases h.only with rfl | ⟨o', rfl⟩
  · cases hmem
  · cases List.mem_singleton.1 hmem
    exact hd rfl

lemma Tried.none (k : ClientId) (c : Call) (w : World σ) : Tried k c [] w w where
  added := .nil w
  only := .inl rfl
  givenUp h := ⟨rfl, h⟩
  lost h := .inl h
  breaks f h := by cases h

/-- Of the calls tried one after another the one that breaks the conversation is the last. -/
lemma Tried.eq_of_broken {k : ClientId} {c₁ c₂ c₃ : Call} {es₁ es₂ es₃ : List Event}
    {w₁ w₂ w₃ w₄ : World σ} {f : Fault} (h₁ : Tried k c₁ es₁ w₁ w₂) (h₂ : Tried k c₂ es₂ w₂ w₃)
    (h₃ : Tried k c₃ es₃ w₃ w₄) (hf : .called k c₁ (.error f) ∈ es₁)
    (hbreaks : f.kind ∈ FaultKind.breaking) :
    es₁ = [.called k c₁ (.error f)] ∧ es₂ = [] ∧ es₃ = [] := by
  have hfirst : es₁ = [.called k c₁ (.error f)] := h₁.eq_of_mem hf
  obtain ⟨hsecond, hgone⟩ := h₂.givenUp (h₁.breaks f hfirst hbreaks)
  exact ⟨hfirst, hsecond, (h₃.givenUp hgone).1⟩

/-- What comes of calls that are to be made from a world on. In a session that was given up there is
nothing. -/
structure Goes (k : ClientId) (cs : List Call) (es : List Event) (w : World σ) : Prop where
  inUse : k ∉ w.abandoned → Issued k cs es
  givenUp : k ∈ w.abandoned → es = []

lemma Goes.none (k : ClientId) (w : World σ) : Goes k [] [] w :=
  ⟨fun _ => .done, fun _ => rfl⟩

lemma Goes.skip {k : ClientId} {cs : List Call} {es es' : List Event} (h : Tried k c es w w')
    (hes : es = []) (hrest : Goes k cs es' w') : Goes k cs (es ++ es') w := by
  subst hes
  constructor
  · intro hw
    refine hrest.inUse fun hw' => ?_
    obtain hgone | ⟨f, hf, -⟩ := h.lost hw'
    · exact hw hgone
    · cases hf
  · exact fun hw => hrest.givenUp (h.givenUp hw).2

lemma Goes.next {k : ClientId} {cs : List Call} {es es' : List Event} (h : Tried k c es w w')
    (hes : k ∉ w.abandoned → es ≠ []) (hrest : Goes k cs es' w') :
    Goes k (c :: cs) (es ++ es') w := by
  constructor
  · intro hw
    obtain ⟨o, rfl⟩ := h.only.resolve_left (hes hw)
    by_cases hw' : k ∈ w'.abandoned
    · obtain ⟨f, hf, hbreaks⟩ := (h.lost hw').resolve_left hw
      rw [hf, hrest.givenUp hw']
      exact .broken c cs hbreaks
    · refine .next c ?_ (hrest.inUse hw')
      rintro f rfl hbreaks
      exact hw' (h.breaks f rfl hbreaks)
  · intro hw
    obtain ⟨rfl, hw'⟩ := h.givenUp hw
    exact hrest.givenUp hw'

/-- A call that is not to be made if there is no occasion. -/
lemma Goes.unless {k : ClientId} {cs : List Call} {es es' : List Event} {p : Prop} [Decidable p]
    (h : Tried k c es w w') (hskip : p → es = []) (hmade : ¬ p → k ∉ w.abandoned → es ≠ [])
    (hrest : Goes k cs es' w') : Goes k ((if p then [] else [c]) ++ cs) (es ++ es') w := by
  by_cases hp : p
  · rw [if_pos hp]
    exact .skip h (hskip hp) hrest
  · rw [if_neg hp]
    exact .next h (hmade hp) hrest

lemma Tried.requestsOf_eq {k : ClientId} {es : List Event} (h : Tried k c es w w')
    (hc : ∀ o, (Event.called k c o).isRequest) : requestsOf es = es := by
  refine List.filter_eq_self.2 fun e he => ?_
  rcases h.only with rfl | ⟨o, rfl⟩
  · cases he
  · rw [List.mem_singleton.1 he]
    exact hc o

/-- A task that reads its result off a reply gives one if there was a reply to read it off. -/
lemma Imap.Session.Reads.tried {read : c.Reply → Option α} {t : Task σ α} {x : Except Failure α}
    (ht : Session.Reads p s c read t) (h : Task.runIn w t = (x, w')) :
    ∃ es, Tried s.client c es w w' ∧ (s.client ∉ w.abandoned → es ≠ []) ∧
      ((∃ a, x = .ok a) ↔ ∃ r a, .called s.client c (.ok r) ∈ es ∧ read r = some a) := by
  by_cases hw : s.client ∈ w.abandoned
  · obtain ⟨e, hrun, -⟩ := ht.issues.refused w hw
    rw [h] at hrun
    obtain ⟨rfl, rfl⟩ := Prod.mk.inj hrun
    exact ⟨[], .none s.client c w', fun hused => absurd hw hused, by simp⟩
  · have hworld := ht.issues.called w hw
    have hresult := ht.result w hw
    rw [h] at hworld hresult
    obtain rfl : w' = s.issued p c w := hworld
    refine ⟨[.called s.client c (p.answer s.client c w.remote).outcome], ?_,
      fun _ => List.cons_ne_nil _ _, ?_⟩
    · constructor
      · exact Session.issued_trace
      · exact .inr ⟨_, rfl⟩
      · exact fun hgone => absurd hgone hw
      · intro hgone
        obtain hgone | ⟨f, hf, hbreaks⟩ := Session.mem_issued_abandoned.1 hgone
        · exact .inl hgone
        · exact .inr ⟨f, by rw [hf], hbreaks⟩
      · intro f hf hbreaks
        rw [Session.mem_issued_abandoned]
        simp only [List.cons.injEq, Event.called.injEq, heq_eq_eq, true_and, and_true] at hf
        exact .inr ⟨f, hf, hbreaks⟩
    · simp only [hresult, List.mem_singleton, Event.called.injEq, heq_eq_eq, true_and]
      constructor
      · rintro ⟨a, r, ho, ha⟩
        exact ⟨r, a, ho.symm, ha⟩
      · rintro ⟨r, a, ho, ha⟩
        exact ⟨a, r, ho.symm, ha⟩

end Calls

section Entries

variable {σ : Type} {p : Peer σ} {s : Session} {c : Call} {w w' : World σ} {l l' : Ledger}
variable {stage : String} {uid : Int} {skipped done : Bool}

/-- What a store that may have been skipped adds to a ledger. -/
structure Enters (stage : String) (uid : Int) (skipped done : Bool) (l l' : Ledger) : Prop where
  messageId : l'.messageId = l.messageId
  succeeded : l'.succeeded = l.succeeded + done.toNat
  issues : ∃ is, l'.issues = l.issues ++ is ∧
    IssuesOf uid l.messageId (if skipped ∨ done then [] else [stage]) is

/-- The status of a ledger in which two stores were entered. -/
lemma Enters.status {messageId stage₁ stage₂ : String} {skipped₁ skipped₂ done₁ done₂ : Bool}
    (h₁ : Enters stage₁ uid skipped₁ done₁ (.start messageId) l)
    (h₂ : Enters stage₂ uid skipped₂ done₂ l l') :
    l'.status = Status.of (decide ((skipped₁ ∨ done₁) ∧ (skipped₂ ∨ done₂))) (done₁ || done₂) := by
  obtain ⟨is₁, his₁, hissues₁⟩ := h₁.issues
  obtain ⟨is₂, his₂, hissues₂⟩ := h₂.issues
  unfold Ledger.status
  congr 1
  · rw [his₂, his₁, Bool.eq_iff_iff, decide_eq_true_eq, List.isEmpty_iff]
    simp [Ledger.start, hissues₁.eq_nil_iff, hissues₂.eq_nil_iff, Decidable.or_iff_not_imp_left]
  · rw [h₂.succeeded, h₁.succeeded]
    cases done₁ <;> cases done₂ <;> simp [Ledger.start]

lemma stepUnless_cases {read : c.Reply → Option Unit} {t : Task σ Unit}
    (ht : Session.Reads p s c read t) (hread : ∀ r, read r = some ())
    (h : Task.runIn w (Service.stepUnless skipped stage uid l t) = (.ok (done, l'), w')) :
    ∃ es, Tried s.client c es w w' ∧ (skipped → es = []) ∧
      (skipped = false → s.client ∉ w.abandoned → es ≠ []) ∧ (done ↔ Returned s.client c es) ∧
      Enters stage uid skipped done l l' := by
  cases skipped with
  | true =>
    cases h
    refine ⟨[], .none s.client c w, fun _ => rfl, nofun, ?_, rfl, rfl, [], by simp, .nil⟩
    simp [Returned]
  | false =>
    obtain ⟨x, w₁, hstep, hpure⟩ := Task.runIn_bind_eq_ok.1 h
    cases hpure
    obtain ⟨u, hok, rfl⟩ | ⟨e, herror, rfl⟩ := Task.runIn_step_eq_ok.1 hstep
    · obtain ⟨es, htried, hmade, hresult⟩ := ht.tried hok
      refine ⟨es, htried, nofun, fun _ => hmade, ?_, rfl, rfl, [], by simp [Ledger.record], .nil⟩
      obtain ⟨r, -, hmem, -⟩ := hresult.1 ⟨u, rfl⟩
      exact iff_of_true rfl ⟨r, hmem⟩
    · obtain ⟨es, htried, hmade, hresult⟩ := ht.tried herror
      refine ⟨es, htried, nofun, fun _ => hmade, ?_, rfl, rfl, _, rfl,
        .cons ⟨rfl, rfl, rfl⟩ .nil⟩
      refine iff_of_false Bool.false_ne_true ?_
      rintro ⟨r, hmem⟩
      obtain ⟨u, hu⟩ := hresult.2 ⟨r, (), hmem, hread r⟩
      cases hu

end Entries

section Sessions

variable {σ : Type} {v : Service σ} {s : Session} {k : ClientId} {id : MessageId}
variable {add remove : List String}

section Choices

-- Of two things at least one is asked for, not both if `p` or `q`, and done if `a` or `r`.
variable {p q a r : Prop}

lemma neither_iff (hchoice : ¬ p ∨ ¬ q) (ha : p → ¬ a) (hr : q → ¬ r) :
    ¬ ((p ∨ a) ∧ (q ∨ r)) ∧ ¬ a ∧ ¬ r ↔ (p ∨ ¬ a) ∧ (q ∨ ¬ r) := by
  tauto

lemma one_of_two_iff (ha : p → ¬ a) (hr : q → ¬ r) : ¬ ((p ∨ a) ∧ (q ∨ r)) ∧ (a ∨ r) ↔
    (¬ p ∧ a ∨ ¬ q ∧ r) ∧ (¬ p ∧ ¬ a ∨ ¬ q ∧ ¬ r) := by
  tauto

end Choices

/-- What is told of a flag change whose stores and look at the flags were tried one after
another. -/
lemma reports_of_tried {w₁ w₂ w₃ w₄ : World σ} {es₁ es₂ es₃ : List Event} {l₁ l₂ : Ledger}
    {o : Except Fault Items} {added removed : Bool} {flags : Option (List String)}
    {is₃ : List Issue} {a : String} (hchoice : add ≠ [] ∨ remove ≠ []) (hused : k ∉ w₁.abandoned)
    (hes₁ : Tried k (.addFlags id.uid add) es₁ w₁ w₂)
    (hes₂ : Tried k (.removeFlags id.uid remove) es₂ w₂ w₃)
    (hes₃ : Tried k (.fetch id.uid [.flags]) es₃ w₃ w₄)
    (hadded : added ↔ Returned k (.addFlags id.uid add) es₁) (hskip₁ : add.isEmpty → es₁ = [])
    (hmade₁ : add.isEmpty = false → k ∉ w₁.abandoned → es₁ ≠ [])
    (hremoved : removed ↔ Returned k (.removeFlags id.uid remove) es₂)
    (hskip₂ : remove.isEmpty → es₂ = [])
    (hmade₂ : remove.isEmpty = false → k ∉ w₂.abandoned → es₂ ≠ [])
    (hmade₃ : k ∉ w₃.abandoned → es₃ ≠ []) (hflags : flags.isSome ↔ FlagsTold k id.uid es₃)
    (hl₁ : Enters "uid_store_add_flags" id.uid add.isEmpty added (.start id.encode) l₁)
    (hl₂ : Enters "uid_store_remove_flags" id.uid remove.isEmpty removed l₁ l₂)
    (his₃ : IssuesOf id.uid id.encode (if flags.isSome then [] else ["fetch_flags"]) is₃) :
    Answer.FlagChange.Reports k ([.called k (.select id.mailbox false) o] ++ es₁ ++ es₂ ++ es₃)
      ⟨l₂.status, l₂.issues ++ is₃, a, id, flags, add, remove, added, removed⟩ := by
  have hadd : Returned k (.addFlags id.uid add)
      ([.called k (.select id.mailbox false) o] ++ es₁ ++ es₂ ++ es₃) ↔ added := by
    rw [hadded]
    simp [Returned, hes₂.not_mem, hes₃.not_mem]
  have hremove : Returned k (.removeFlags id.uid remove)
      ([.called k (.select id.mailbox false) o] ++ es₁ ++ es₂ ++ es₃) ↔ removed := by
    rw [hremoved]
    simp [Returned, hes₁.not_mem, hes₃.not_mem]
  have hnone₁ : add = [] → ¬ added := by
    intro hnil
    rw [hadded, hskip₁ (by simp [hnil])]
    simp [Returned]
  have hnone₂ : remove = [] → ¬ removed := by
    intro hnil
    rw [hremoved, hskip₂ (by simp [hnil])]
    simp [Returned]
  have hstatus := hl₁.status hl₂
  simp only [List.isEmpty_iff] at hstatus
  constructor
  case issued =>
    have hrequests : requestsOf ([.called k (.select id.mailbox false) o] ++ es₁ ++ es₂ ++ es₃) =
        es₁ ++ (es₂ ++ (es₃ ++ [])) := by
      have hselect : requestsOf [.called k (.select id.mailbox false) o] = [] := rfl
      rw [requestsOf_append, requestsOf_append, requestsOf_append, hselect,
        hes₁.requestsOf_eq fun _ => rfl, hes₂.requestsOf_eq fun _ => rfl,
        hes₃.requestsOf_eq fun _ => rfl]
      simp
    have hlook : Goes k [.fetch id.uid [.flags]] (es₃ ++ []) w₃ := .next hes₃ hmade₃ (.none k w₄)
    have hsecond := Goes.unless (p := remove = []) hes₂ (fun h => hskip₂ (List.isEmpty_iff.2 h))
      (fun h => hmade₂ (List.isEmpty_eq_false_iff.2 h)) hlook
    have hfirst := Goes.unless (p := add = []) hes₁ (fun h => hskip₁ (List.isEmpty_iff.2 h))
      (fun h => hmade₁ (List.isEmpty_eq_false_iff.2 h)) hsecond
    rw [hrequests, Answer.FlagChange.calls, Answer.FlagChange.stores, List.append_assoc]
    exact hfirst.inUse hused
  case ok =>
    rw [hstatus, Answer.FlagChange.forall_mem_stores, Status.of_eq_ok, decide_eq_true_eq, hadd,
      hremove]
  case failed =>
    rw [hstatus, Answer.FlagChange.forall_mem_stores, Status.of_eq_failed, decide_eq_false_iff_not,
      hadd, hremove, Bool.or_eq_false_iff, ← Bool.not_eq_true, ← Bool.not_eq_true]
    exact neither_iff hchoice hnone₁ hnone₂
  case incomplete =>
    rw [hstatus, Answer.FlagChange.exists_mem_stores, Answer.FlagChange.exists_mem_stores,
      Status.of_eq_incomplete, decide_eq_false_iff_not, hadd, hremove, Bool.or_eq_true]
    exact one_of_two_iff hnone₁ hnone₂
  case added => exact hadd.symm
  case removed => exact hremove.symm
  case flags =>
    rw [hflags]
    simp [FlagsTold, hes₁.not_mem, hes₂.not_mem]
  case issues =>
    obtain ⟨is₁, his₁, hissues₁⟩ := hl₁.issues
    obtain ⟨is₂, his₂, hissues₂⟩ := hl₂.issues
    simp only [List.isEmpty_iff, hl₁.messageId] at hissues₁ hissues₂
    rw [his₂, his₁]
    exact List.rel_append (List.rel_append hissues₁ hissues₂) his₃
  case broken =>
    intro f hf hbreaks c o' hc
    have hmem : .called k (.addFlags id.uid add) (.error f) ∈ es₁ := by
      simpa [hes₂.not_mem, hes₃.not_mem] using hf
    -- The session was given up before the second store, which was not called, nor was the fetch.
    obtain ⟨hfirst, hsecond, hthird⟩ := hes₁.eq_of_broken hes₂ hes₃ hmem hbreaks
    rw [hfirst, hsecond, hthird] at hc
    simp only [List.cons_append, List.nil_append, List.append_nil, List.mem_cons, List.not_mem_nil,
      or_false] at hc
    rcases hc with hc | hc
    · cases hc
      exact .inr (.inl rfl)
    · cases hc
      exact .inr (.inr rfl)

/-- The look at the flags gives them if they were told. -/
lemma fetchFlags_tried {w w' : World σ} {uid : Int} {r : Except Error (List String)}
    (h : Task.runIn w (Task.attempt (s.fetchFlags v.peer uid)) = (.ok r, w')) :
    ∃ es, Tried s.client (.fetch uid [.flags]) es w w' ∧ (s.client ∉ w.abandoned → es ≠ []) ∧
      ((∃ flags, r = .ok flags) ↔ FlagsTold s.client uid es) := by
  obtain ⟨es, hes, hmade, hresult⟩ :=
    (Session.reads_fetchFlags uid).tried (Task.runIn_attempt_eq_ok.1 h)
  have hok : (∃ flags, r = .ok flags) ↔ ∃ flags, r.mapError Failure.refused = .ok flags := by
    cases r <;> simp [Except.mapError]
  refine ⟨es, hes, hmade, ?_⟩
  rw [hok, hresult]
  constructor
  · rintro ⟨found, flags, hmem, hflags⟩
    obtain ⟨is, his, -⟩ := Option.map_eq_some_iff.1 hflags
    exact ⟨found, is, hmem, his⟩
  · rintro ⟨found, is, hmem, his⟩
    exact ⟨found, is.flags, hmem, Option.map_eq_some_iff.2 ⟨is, his, rfl⟩⟩

lemma storeFlags_reports {w w' : World σ} {accountId : String} {b : Answer.FlagChange}
    (hchoice : add ≠ [] ∨ remove ≠ [])
    (h : Task.runIn w (v.storeFlags s accountId id add remove) = (.ok b, w')) :
    ∃ es, Added es w w' ∧ b.Reports s.client es ∧ b.id = id ∧ b.add = add ∧ b.remove = remove := by
  obtain ⟨u, w₁, hepoch, h⟩ := Task.runIn_bind_eq_ok.1 h
  obtain ⟨is, -, hselected⟩ := Session.ensureEpoch_replied hepoch
  obtain ⟨⟨added, l₁⟩, w₂, hadd, h⟩ := Task.runIn_bind_eq_ok.1 h
  obtain ⟨es₁, hes₁, hskip₁, hmade₁, hadded, hl₁⟩ := stepUnless_cases
    (Session.reads_issue (c := .addFlags id.uid add) "UID STORE") (fun _ => rfl) hadd
  obtain ⟨⟨removed, l₂⟩, w₃, hremove, h⟩ := Task.runIn_bind_eq_ok.1 h
  obtain ⟨es₂, hes₂, hskip₂, hmade₂, hremoved, hl₂⟩ := stepUnless_cases
    (Session.reads_issue (c := .removeFlags id.uid remove) "UID STORE") (fun _ => rfl) hremove
  obtain ⟨r, w₄, hattempt, h⟩ := Task.runIn_bind_eq_ok.1 h
  obtain ⟨es₃, hes₃, hmade₃, htold⟩ := fetchFlags_tried hattempt
  have hall := ((hselected.added.trans hes₁.added).trans hes₂.added).trans hes₃.added
  cases r with
  | ok flags =>
    cases h
    have hflags : (some flags).isSome ↔ FlagsTold s.client id.uid es₃ :=
      iff_of_true rfl (htold.1 ⟨flags, rfl⟩)
    have hreports := reports_of_tried (a := accountId) (o := .ok is) hchoice hselected.inUse hes₁
      hes₂ hes₃ hadded hskip₁ hmade₁ hremoved hskip₂ hmade₂ hmade₃ hflags hl₁ hl₂ .nil
    rw [List.append_nil] at hreports
    exact ⟨_, hall, hreports, rfl, rfl, rfl⟩
  | error e =>
    cases h
    have hflags : (none : Option (List String)).isSome ↔ FlagsTold s.client id.uid es₃ := by
      rw [← htold]
      simp
    exact ⟨_, hall, reports_of_tried hchoice hselected.inUse hes₁ hes₂ hes₃ hadded hskip₁ hmade₁
      hremoved hskip₂ hmade₂ hmade₃ hflags hl₁ hl₂ (.cons ⟨rfl, rfl, rfl⟩ .nil), rfl, rfl, rfl⟩

end Sessions

section Framing

variable {k : ClientId} {es before after : List Event} {c : Call}

lemma Answer.FlagChange.isFrame_of_mem_stores {b : Answer.FlagChange} (hc : c ∈ b.stores) :
    c.isFrame = false := by
  have hall : ∀ c ∈ b.stores, c.isFrame = false := by
    rw [forall_mem_stores]
    exact ⟨.inr rfl, .inr rfl⟩
  exact hall c hc

lemma requestsOf_framing (h : Framing k es) : requestsOf es = [] := by
  refine List.filter_eq_nil_iff.2 fun e he => ?_
  have hverb := (h e he).2
  unfold Event.isRequest
  split
  · exact Bool.false_ne_true
  · simp [hverb]

lemma Answer.FlagChange.Reports.framed {b : Answer.FlagChange} (h : b.Reports k es)
    (hbefore : Framing k before) (hafter : Framing k after) :
    b.Reports k (before ++ es ++ after) := by
  have hreturned : ∀ c : Call, c.isFrame = false →
      (Returned k c (before ++ es ++ after) ↔ Returned k c es) :=
    fun c hc => exists_congr fun r => mem_framed hbefore hafter hc
  have hstores : ∀ c ∈ b.stores, (Returned k c (before ++ es ++ after) ↔ Returned k c es) :=
    fun c hc => hreturned c (isFrame_of_mem_stores hc)
  have hrequests : requestsOf (before ++ es ++ after) = requestsOf es := by
    rw [requestsOf_append, requestsOf_append, requestsOf_framing hbefore, requestsOf_framing hafter,
      List.append_nil, List.nil_append]
  constructor
  case issued => exact hrequests ▸ h.issued
  case ok =>
    rw [h.ok]
    exact forall₂_congr fun c hc => (hstores c hc).symm
  case failed =>
    rw [h.failed]
    exact forall₂_congr fun c hc => not_congr (hstores c hc).symm
  case incomplete =>
    rw [h.incomplete]
    apply and_congr
    · exact exists_congr fun c => and_congr_right fun hc => (hstores c hc).symm
    · exact exists_congr fun c => and_congr_right fun hc => not_congr (hstores c hc).symm
  case added => rw [h.added, hreturned _ rfl]
  case removed => rw [h.removed, hreturned _ rfl]
  case flags =>
    rw [h.flags]
    exact exists_congr fun found => exists_congr fun is => by rw [mem_framed hbefore hafter rfl]
  case issues => exact h.issues
  case broken =>
    intro f hf hbreaks c o hc
    cases hframe : c.isFrame with
    | true => exact .inl rfl
    | false =>
      rw [mem_framed hbefore hafter rfl] at hf
      rw [mem_framed hbefore hafter hframe] at hc
      simpa [hframe] using h.broken f hf hbreaks c o hc

end Framing

namespace Service

variable {σ : Type}

/-- A flag change that is answered after its session was opened reports what became of it. -/
theorem flag_change_reported (v : Service σ) (w w' : World σ) (accountId messageId : String)
    (add remove : Option (List String)) (b : Answer.FlagChange)
    (hrun : Task.runIn w (v.updateFlags accountId messageId add remove) = (.ok b, w')) :
    MessageId.parseFor accountId messageId = .ok b.id ∧
      b.add = add.getD [] ∧ b.remove = remove.getD [] ∧ (b.add ≠ [] ∨ b.remove ≠ []) ∧
      ∃ new, w'.trace = w.trace ++ new ∧ ∀ user password,
        .called w.clients (.login user password) (.ok ()) ∈ new → b.Reports w.clients new := by
  obtain ⟨_, -, h⟩ := Task.runIn_check_bind_eq_ok.1 hrun
  obtain ⟨fs, hflags, h⟩ := Task.runIn_check_bind_eq_ok.1 h
  obtain ⟨rfl, -, hchoice⟩ := Command.checkFlags_eq_ok.1 hflags
  obtain ⟨id, hid, h⟩ := Task.runIn_ofExcept_bind_eq_ok.1 h
  obtain ⟨account, -, h⟩ := Task.runIn_check_bind_eq_ok.1 h
  obtain ⟨r, w₁, hattempt, h⟩ := Task.runIn_bind_eq_ok.1 h
  have hconnect := Task.runIn_attempt_eq_ok.1 hattempt
  cases r with
  | error e =>
    obtain ⟨es, hmisses⟩ := connect_misses hconnect
    cases h
    refine ⟨hid, rfl, rfl, hchoice, es, hmisses.added, fun user password hlogin => ?_⟩
    exact absurd hlogin hmisses.missed.not_mem_login
  | ok s =>
    have hopens := connect_opened hconnect
    obtain ⟨b', w₂, hwithin, h⟩ := Task.runIn_bind_eq_ok.1 h
    cases h
    obtain ⟨w₃, ending, hbody, hcloses⟩ := within_eq_ok hwithin
    obtain ⟨es, hadded, hreports, hsame, hadd, hremove⟩ := storeFlags_reports hchoice hbody
    refine ⟨hsame ▸ hid, hadd, hremove, ?_, _, (hopens.added.trans hadded).trans hcloses.added,
      fun _ _ _ => ?_⟩
    · rwa [hadd, hremove]
    · rw [← hopens.client]
      exact hreports.framed (framing_greeting _ _ _) hcloses.ending.framing

end Service

/-! ## A store that breaks the conversation -/

namespace Sample

def tornHost : Host :=
  ⟨[], [inbox], [⟨.addFlags, none, none, ⟨.abort, "connection lost"⟩⟩], []⟩

/-- The message is to be marked as seen and no longer as flagged. -/
def tornChange : Except Failure Answer.FlagChange × World Exchange :=
  Task.runIn (.start ⟨[("mail", tornHost)], []⟩ 0)
    ((service true).updateFlags "a" "imap:a:INBOX:7:2" (some ["\\Seen"]) (some ["\\Flagged"]))

end Sample

namespace Service

theorem flag_change_reported_of_tornChange :
    ∃ b w', Sample.tornChange = (.ok b, w') ∧ b.status = .failed ∧
      b.failures = ["uid_store_add_flags", "uid_store_remove_flags", "fetch_flags"] ∧
      .called 0 (.addFlags 2 ["\\Seen"]) (.error ⟨.abort, "connection lost"⟩) ∈ w'.trace ∧
      b.Reports 0 w'.trace := by
  obtain ⟨b, w', hrun⟩ : ∃ b w', Sample.tornChange = (.ok b, w') := ⟨_, _, rfl⟩
  obtain ⟨-, -, -, -, new, hnew, hreports⟩ := flag_change_reported (Sample.service true) _ w' "a"
    "imap:a:INBOX:7:2" (some ["\\Seen"]) (some ["\\Flagged"]) b hrun
  obtain rfl : w'.trace = new := hnew
  refine ⟨b, w', hrun, ?_, ?_, ?_, hreports "user" "secret" ?_⟩
  all_goals cases hrun
  · rfl
  · rfl
  · exact .tail _ (.tail _ (.tail _ (.tail _ (.head _))))
  · exact .tail _ (.head _)

end Service

end Mailroom
