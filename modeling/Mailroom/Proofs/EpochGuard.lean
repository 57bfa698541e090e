import Mailroom.Proofs.Serving

/-!
# Changes are guarded by the epoch

A change names a message by its UIDVALIDITY and UID. A command that changes mail makes its calls
only after it selected the message's mailbox and was told the UIDVALIDITY that the message was named
by. The trace of the command shows that: `Permitted` is what the past of each changing call looks
like.
-/

namespace Mailroom

open Imap

namespace Imap

def Call.changesMail : Call → Bool
  | .addFlags .. | .removeFlags .. | .copy .. | .move .. | .expunge _ | .append .. => true
  | _ => false

def Event.changesMail : Event → Bool
  | .called _ c _ => c.changesMail
  | .timeoutSet .. => false

def Event.selectsOn (k : ClientId) : Event → Prop
  | .called k' (.select ..) _ => k' = k
  | _ => False

lemma Call.not_selectsOn {c : Call} (hc : ∀ mailbox readOnly, c ≠ .select mailbox readOnly)
    (k k' : ClientId) (o : Except Fault c.Reply) : ¬ (Event.called k' c o).selectsOn k := by
  cases c with
  | select mailbox readOnly => exact absurd rfl (hc mailbox readOnly)
  | _ => exact id

lemma Call.isFrame_quiet {c : Call} (hc : c.isFrame) :
    (∀ mailbox readOnly, c ≠ .select mailbox readOnly) ∧ c.changesMail = false := by
  cases c <;> simp_all [Call.isFrame, Call.changesMail]

def Items.epoch? (is : Items) : Option Int :=
  match is.find? "UIDVALIDITY" with
  | some (.single t) => t.toInt?
  | _ => none

/-- How a selection ended: it told a UIDVALIDITY. -/
def Tells (o : Except Fault Items) (epoch : Int) : Prop :=
  ∃ is, o = .ok is ∧ is.epoch? = some epoch

end Imap

/-- The latest selection on a client was that of a mailbox, and told a UIDVALIDITY. -/
def Selected (k : ClientId) (mailbox : String) (readOnly : Bool) (epoch : Int)
    (past : List Event) : Prop :=
  ∃ before o after, past = before ++ .called k (.select mailbox readOnly) o :: after ∧
    Tells o epoch ∧ ∀ e ∈ after, ¬ e.selectsOn k

/-- The account and the message of a command that changes mail, as they were named. -/
def Command.target? : Command → Option (String × String)
  | .updateFlags a m _ _ | .copy a m _ _ | .move a m _ | .delete a m _ => some (a, m)
  | _ => none

def Connected (a : Account) (k : ClientId) (past : List Event) : Prop :=
  ∃ t t', .called k (.connect a.host a.port t t') (.ok ()) ∈ past

def LoggedIn (a : Account) (k : ClientId) (past : List Event) : Prop :=
  Connected a k past ∧ .called k (.login a.user a.password) (.ok ()) ∈ past

/-- What has to lie before a changing call for a message of an account. To append the message's
source elsewhere, its mailbox has to be selected for reading, to change the message itself, on the
same client and for writing. -/
def Permitted (a : Account) (id : MessageId) (past : List Event) (k : ClientId) : Call → Prop
  | .append .. => ∃ source, LoggedIn a source past ∧
      Selected source id.mailbox true id.uidvalidity past
  | c => c.uid? = some id.uid ∧ LoggedIn a k past ∧
      Selected k id.mailbox false id.uidvalidity past

/-- Each changing call of a trace is permitted by what lies before it. -/
def Guarded (a : Account) (id : MessageId) (new : List Event) : Prop :=
  ∀ before k c o after, new = before ++ .called k c o :: after → c.changesMail →
    Permitted a id before k c

/-- Each selection of a trace told the message's UIDVALIDITY. -/
def UpToDate (id : MessageId) (new : List Event) : Prop :=
  ∀ k mailbox readOnly o, .called k (.select mailbox readOnly) o ∈ new → Tells o id.uidvalidity

def Unchanging (new : List Event) : Prop :=
  ∀ e ∈ new, e.changesMail = false

def Unselected (new : List Event) : Prop :=
  ∀ k, ∀ e ∈ new, ¬ e.selectsOn k

def EndsWith (G : List Event → Prop) (k : ClientId) (c : Call)
    (O : Except Fault c.Reply → Prop) (new : List Event) : Prop :=
  ∃ old o, new = old ++ [.called k c o] ∧ G old ∧ O o

lemma EndsWith.imp {G : List Event → Prop} {k : ClientId} {c : Call}
    {O O' : Except Fault c.Reply → Prop} {new : List Event} (h : EndsWith G k c O new)
    (hO : ∀ o, O o → O' o) : EndsWith G k c O' new := by
  obtain ⟨old, o, hnew, hold, ho⟩ := h
  exact ⟨old, o, hnew, hold, hO o ho⟩

section Traces

variable {a : Account} {id : MessageId} {k : ClientId} {new past : List Event} {e : Event}

lemma Selected.append {mailbox : String} {readOnly : Bool} {epoch : Int}
    (h : Selected k mailbox readOnly epoch past) (he : ¬ e.selectsOn k) :
    Selected k mailbox readOnly epoch (past ++ [e]) := by
  obtain ⟨before, o, after, rfl, ho, hafter⟩ := h
  exact ⟨before, o, after ++ [e], by simp, ho,
    List.forall_mem_append.2 ⟨hafter, List.forall_mem_singleton.2 he⟩⟩

lemma Connected.append (h : Connected a k past) (e : Event) : Connected a k (past ++ [e]) := by
  obtain ⟨t, t', hc⟩ := h
  exact ⟨t, t', List.mem_append_left _ hc⟩

lemma LoggedIn.append (h : LoggedIn a k past) (e : Event) : LoggedIn a k (past ++ [e]) :=
  ⟨h.1.append e, List.mem_append_left _ h.2⟩

lemma Unchanging.append (h : Unchanging new) (he : e.changesMail = false) :
    Unchanging (new ++ [e]) :=
  List.forall_mem_append.2 ⟨h, List.forall_mem_singleton.2 he⟩

lemma Unselected.append (h : Unselected new) (he : ∀ k, ¬ e.selectsOn k) :
    Unselected (new ++ [e]) :=
  fun k => List.forall_mem_append.2 ⟨h k, List.forall_mem_singleton.2 (he k)⟩

lemma UpToDate.append (h : UpToDate id new)
    (he : ∀ k mailbox readOnly o, e = .called k (.select mailbox readOnly) o →
      Tells o id.uidvalidity) : UpToDate id (new ++ [e]) := by
  intro k mailbox readOnly o ho
  rcases List.mem_append.1 ho with ho | ho
  · exact h k mailbox readOnly o ho
  · exact he k mailbox readOnly o (List.mem_singleton.1 ho).symm

lemma Guarded.append (h : Guarded a id new)
    (he : ∀ k c o, e = .called k c o → c.changesMail → Permitted a id new k c) :
    Guarded a id (new ++ [e]) := by
  intro before k c o after hsplit hc
  rcases List.eq_nil_or_concat after with rfl | ⟨after, e', rfl⟩
  · obtain ⟨rfl, hlast⟩ := List.append_inj' hsplit rfl
    exact he k c o (List.singleton_inj.1 hlast) hc
  · rw [List.concat_eq_append, ← List.cons_append, ← List.append_assoc] at hsplit
    exact h before k c o after (List.append_inj' hsplit rfl).1 hc

lemma Unchanging.guarded (h : Unchanging new) : Guarded a id new := by
  rintro before k c o after rfl hc
  have := h _ (List.mem_append_right before List.mem_cons_self)
  simp only [Event.changesMail] at this
  rw [hc] at this
  cases this

lemma Unselected.upToDate (h : Unselected new) : UpToDate id new :=
  fun k _ _ _ ho => (h k _ ho rfl).elim

end Traces

section Sessions

variable {σ α : Type} {past : List Event} {G : List Event → Prop} {p : Peer σ} {s : Session}

/-- A condition that connecting, closing and setting deadlines keep. -/
structure FrameStable (G : List Event → Prop) : Prop where
  call : ∀ new k c o, c.isFrame → G new → G (new ++ [.called k c o])
  time : ∀ new k n, G new → G (new ++ [.timeoutSet k n])

/-- The footprint of what is not said to a mailbox. -/
def frame : Footprint := ⟨fun _ c => c.isFrame, fun _ => False⟩

lemma FrameStable.stable (hG : FrameStable G) :
    frame.Stable p (Footprint.Since past G : World σ → Prop) :=
  Footprint.stable_since hG.call hG.time

lemma FrameStable.or {G' : List Event → Prop} (hG : FrameStable G) (hG' : FrameStable G') :
    FrameStable fun new => G new ∨ G' new where
  call new k c o hc h := h.imp (hG.call new k c o hc) (hG'.call new k c o hc)
  time new k n h := h.imp (hG.time new k n) (hG'.time new k n)

lemma triple_ask {k : ClientId} {c : Call} {E : Failure → World σ → Prop} :
    Task.Triple (Footprint.Since past G) (Task.ask p k c)
      (fun o => Footprint.Since past (EndsWith G k c (· = o))) E :=
  fun _ hw => hw.append rfl fun old hold => ⟨old, _, rfl, hold, rfl⟩

lemma triple_issue {verb : String} {c : Call} :
    Task.Triple (Footprint.Since past G) (s.issue p verb c)
      (fun r => Footprint.Since past (EndsWith G s.client c (· = .ok r)))
      (fun _ => Footprint.Since past fun new =>
        G new ∨ EndsWith G s.client c (fun _ => True) new) := by
  intro w hw
  rw [Session.runIn_issue]
  cases w.abandoned.contains s.client with
  | true => exact hw.imp fun _ => .inl
  | false =>
    have hasked : Footprint.Since past
        (EndsWith G s.client c (· = (p.answer s.client c w.remote).outcome))
        (Task.asked p s.client c w) := hw.append rfl fun old hold => ⟨old, _, rfl, hold, rfl⟩
    simp only [Bool.false_eq_true, if_false]
    generalize (p.answer s.client c w.remote).outcome = o at hasked
    cases o with
    | ok r => exact hasked
    | error f =>
      dsimp only
      split
      · exact hasked.imp fun _ h => .inr (h.imp fun _ _ => trivial)
      · exact hasked.imp fun _ h => .inr (h.imp fun _ _ => trivial)

lemma triple_epoch {P : World σ → Prop} {is : Items} :
    Task.Triple P (Session.epoch is) (fun n w => P w ∧ is.epoch? = some n) fun _ => P := by
  unfold Session.epoch
  split
  · exact .refuse fun _ hw => hw
  · exact .refuse fun _ hw => hw
  · next t ht =>
    unfold Session.number
    split
    · next n hn => exact .pure fun _ hw => ⟨hw, by simp only [Items.epoch?, ht, hn]⟩
    · exact .escape fun _ hw => hw
  · exact .escape fun _ hw => hw

lemma triple_select {mailbox : String} {readOnly : Bool} :
    Task.Triple (Footprint.Since past G) (s.select p mailbox readOnly)
      (fun n => Footprint.Since past
        (EndsWith G s.client (.select mailbox readOnly) fun o => Tells o n))
      (fun _ => Footprint.Since past fun new =>
        G new ∨ EndsWith G s.client (.select mailbox readOnly) (fun _ => True) new) := by
  let Failed : World σ → Prop := Footprint.Since past fun new =>
    G new ∨ EndsWith G s.client (.select mailbox readOnly) (fun _ => True) new
  let Q : Except Error Items → World σ → Prop
    | .ok is => Footprint.Since past (EndsWith G s.client (.select mailbox readOnly) (· = .ok is))
    | .error _ => Failed
  refine .bind (Q := Q) (.attempt triple_issue (fun _ _ hw => hw) fun _ _ hw => hw) fun r => ?_
  cases r with
  | ok is =>
    refine triple_epoch.imp (fun _ hw => hw) ?_ ?_
    · exact fun n w ⟨hw, hn⟩ => hw.imp fun _ h => h.imp fun _ ho => ⟨is, ho, hn⟩
    · exact fun _ w hw => hw.imp fun _ h => .inr (h.imp fun _ _ => trivial)
  | error e =>
    refine .bind (Q := fun _ => Failed) (fun _ hw => hw) fun gone => ?_
    split
    · exact .refuse fun _ hw => hw
    · exact .refuse fun _ hw => hw

lemma triple_openClient (hG : FrameStable G) (st : Settings) (a : Account) :
    Task.Triple (Footprint.Since past G) (openClient p st a)
      (fun k => Footprint.Since past fun new => G new ∧ Connected a k new)
      (fun _ => Footprint.Since past G) := by
  refine .bind (Q := fun _ => Footprint.Since past G) (fun _ hw => hw) fun w => ?_
  refine .bind triple_ask fun o => ?_
  cases o with
  | error f =>
    refine .refuse fun _ hw => hw.imp ?_
    rintro _ ⟨old, o, rfl, hold, -⟩
    exact hG.call old _ _ _ rfl hold
  | ok _ =>
    refine .bind (Q := fun _ => Footprint.Since past fun new => G new ∧ Connected a w.clients new)
      (.modify fun w' hw => hw.imp ?_) fun _ => .pure fun _ hw => hw
    rintro _ ⟨old, o, rfl, hold, rfl⟩
    exact ⟨hG.call old _ _ _ rfl hold, _, _, List.mem_append_right _ List.mem_cons_self⟩

lemma triple_connect (hG : FrameStable G) (st : Settings) (a : Account) :
    Task.Triple (Footprint.Since past G) (connect p st a)
      (fun s => Footprint.Since past fun new => G new ∧ LoggedIn a s.client new)
      (fun _ => Footprint.Since past G) := by
  unfold connect
  split
  · exact fun _ hw => hw
  · refine .bind (Q := fun _ => Footprint.Since past G)
      (.check (fun _ _ _ hw => hw) fun _ _ _ hw => hw) fun _ => ?_
    refine .bind (triple_openClient hG st a) fun k => .bind triple_ask fun o => ?_
    cases o with
    | error f =>
      have hfail : ∀ w : World σ, Footprint.Since past (EndsWith (fun new => G new ∧
          Connected a k new) k (.login a.user a.password) (· = .error f)) w →
          Footprint.Since past G w := by
        refine fun w hw => hw.imp ?_
        rintro _ ⟨old, o, rfl, hold, -⟩
        exact hG.call old _ _ _ rfl hold.1
      have hshut : Task.Triple (Footprint.Since past G) (shutdownQuietly p k)
          (fun _ => Footprint.Since past G) fun _ => Footprint.Since past G :=
        Footprint.covers_shutdownQuietly (F := frame) rfl _ hG.stable
      dsimp only
      split
      · exact .bind (hshut.before hfail) fun _ => .throw fun _ hw => hw
      · exact .throw hfail
    | ok _ =>
      have hdone : ∀ w : World σ, Footprint.Since past (EndsWith (fun new => G new ∧
          Connected a k new) k (.login a.user a.password) (· = .ok ())) w →
          Footprint.Since past (fun new => G new ∧ LoggedIn a k new) w := by
        refine fun w hw => hw.imp ?_
        rintro _ ⟨old, o, rfl, ⟨hold, hc⟩, rfl⟩
        exact ⟨hG.call old _ _ _ rfl hold, Connected.append hc _,
          List.mem_append_right _ List.mem_cons_self⟩
      refine .bind (Q := fun _ => Footprint.Since past fun new => G new ∧ LoggedIn a k new)
        (.modify fun w hw => ?_) fun _ => ?_
      · exact (hdone w hw).append rfl fun new h => ⟨hG.time new k _ h.1, h.2.append _⟩
      · exact .bind (Q := fun _ => _) (.modify fun _ hw => hw) fun _ => .pure fun _ hw => hw

/-- A session is closed however its task ends. -/
lemma triple_within {α : Type} {P Q E : World σ → Prop} {t : Task σ α}
    (h : Task.Triple P t (fun _ => Q) fun _ => E) (hQ : frame.Stable p Q) (hE : frame.Stable p E)
    (hQE : ∀ w, Q w → E w) : Task.Triple P (s.within p t) (fun _ => Q) fun _ => E := by
  have hclose : ∀ {I : World σ → Prop}, frame.Stable p I →
      Task.Triple I (s.close p) (fun _ => I) fun _ => I :=
    fun hI => Footprint.covers_close (F := frame) (fun _ hc => hc) _ hI
  let R : Except Failure α → World σ → Prop
    | .ok _ => Q
    | .error _ => E
  refine .bind (Q := R) (.observe h) fun r => ?_
  cases r with
  | ok a =>
    have hclosed := (hclose hQ).imp (fun _ hw => hw) (fun _ _ hw => hw) fun _ => hQE
    exact .bind hclosed fun _ => .pure fun _ hw => hw
  | error f => exact .bind (hclose hE) fun _ => .throw fun _ hw => hw

end Sessions

section Guarding

open Footprint

variable {σ α : Type} {past new : List Event} {a : Account} {id : MessageId} {k : ClientId}
variable {readOnly : Bool} {v : Service σ} {s : Session}

/-- The trace of a command that did nothing to mailboxes yet. -/
structure Untouched (new : List Event) : Prop where
  unchanging : Unchanging new
  unselected : Unselected new

/-- The trace of a command that heeded the epoch of its message. -/
structure Heeded (a : Account) (id : MessageId) (new : List Event) : Prop where
  guarded : Guarded a id new
  upToDate : UpToDate id new

/-- The trace of a command that may change its message on a client, or append it elsewhere. -/
structure Ready (a : Account) (id : MessageId) (k : ClientId) (readOnly : Bool)
    (new : List Event) : Prop extends Heeded a id new where
  loggedIn : LoggedIn a k new
  selected : Selected k id.mailbox readOnly id.uidvalidity new

/-- What may be called after a selection: no selection, and no change but those it permits. -/
def permitted (a : Account) (id : MessageId) (k : ClientId) (readOnly : Bool) : Footprint where
  calls k' c := (∀ mailbox readOnly, c ≠ .select mailbox readOnly) ∧ (c.changesMail →
    ∀ past, LoggedIn a k past → Selected k id.mailbox readOnly id.uidvalidity past →
      Permitted a id past k' c)
  changes _ := False

lemma permitted_of_isFrame {k' : ClientId} {c : Call} (hc : c.isFrame) :
    (permitted a id k readOnly).calls k' c := by
  obtain ⟨hsel, hchg⟩ := Call.isFrame_quiet hc
  exact ⟨hsel, fun h => by rw [hchg] at h; cases h⟩

lemma permitted_of_uid {c : Call} (hc : c.uid? = some id.uid) :
    (permitted a id k false).calls k c := by
  constructor
  · rintro mailbox readOnly rfl
    cases hc
  intro _ past hlog hsel
  cases c with
  | append mailbox octets => cases hc
  | _ => exact ⟨hc, hlog, hsel⟩

lemma permitted_append {k' : ClientId} {mailbox : String} {octets : List UInt8} :
    (permitted a id k true).calls k' (.append mailbox octets) := by
  refine ⟨?_, fun _ _ hlog hsel => ⟨k, hlog, hsel⟩⟩
  rintro _ _ ⟨⟩

lemma permitted_quiet {k' : ClientId} {c : Call} (hc : c.changesMail = false)
    (hsel : ∀ mailbox readOnly, c ≠ .select mailbox readOnly) :
    (permitted a id k readOnly).calls k' c :=
  ⟨hsel, fun h => by rw [hc] at h; cases h⟩

lemma Ready.called {k' : ClientId} {c : Call} (h : Ready a id k readOnly new)
    (hc : (permitted a id k readOnly).calls k' c) (o : Except Fault c.Reply) :
    Ready a id k readOnly (new ++ [.called k' c o]) where
  guarded := by
    refine h.guarded.append fun k'' c' o' he hchg => ?_
    cases he
    exact hc.2 hchg new h.loggedIn h.selected
  upToDate := by
    refine h.upToDate.append fun k'' mailbox readOnly o' he => ?_
    cases he
    exact absurd rfl (hc.1 mailbox readOnly)
  loggedIn := h.loggedIn.append _
  selected := h.selected.append (Call.not_selectsOn hc.1 k k' o)

lemma Ready.timeoutSet (h : Ready a id k readOnly new) (k' : ClientId) (n : Nat) :
    Ready a id k readOnly (new ++ [.timeoutSet k' n]) where
  guarded := h.guarded.append fun _ _ _ he => by cases he
  upToDate := h.upToDate.append fun _ _ _ _ he => by cases he
  loggedIn := h.loggedIn.append _
  selected := h.selected.append fun h => h

lemma Ready.stable {p : Peer σ} : (permitted a id k readOnly).Stable p
    (Footprint.Since past (Ready a id k readOnly) : World σ → Prop) :=
  Footprint.stable_since (fun _ _ _ o hc h => h.called hc o) fun _ k' n h => h.timeoutSet k' n

lemma Ready.frameStable : FrameStable (Ready a id k readOnly) :=
  ⟨fun _ _ _ o hc h => h.called (permitted_of_isFrame hc) o, fun _ k' n h => h.timeoutSet k' n⟩

lemma Unchanging.frameStable : FrameStable Unchanging :=
  ⟨fun _ _ _ _ hc h => Unchanging.append h (Call.isFrame_quiet hc).2, fun _ _ _ h => h.append rfl⟩

lemma Untouched.frameStable : FrameStable Untouched where
  call _ k _ o hc h := ⟨h.unchanging.append (Call.isFrame_quiet hc).2,
    h.unselected.append fun k' => Call.not_selectsOn (Call.isFrame_quiet hc).1 k' k o⟩
  time _ _ _ h := ⟨h.unchanging.append rfl, h.unselected.append fun _ h => h⟩

lemma Untouched.heeded (h : Untouched new) : Heeded a id new :=
  ⟨h.unchanging.guarded, h.unselected.upToDate⟩

/-- A selection that is asked for the epoch of the message makes the session ready. -/
lemma triple_ensureEpoch :
    Task.Triple (Footprint.Since past fun new => Untouched new ∧ LoggedIn a s.client new)
      (v.ensureEpoch s id readOnly)
      (fun _ => Footprint.Since past (Ready a id s.client readOnly))
      (fun _ => Footprint.Since past Unchanging) := by
  have hunchanging : ∀ O new, EndsWith (fun new => Untouched new ∧ LoggedIn a s.client new) s.client
      (.select id.mailbox readOnly) O new → Unchanging new := by
    rintro O _ ⟨old, o, rfl, ⟨hold, -⟩, -⟩
    exact hold.unchanging.append rfl
  refine .bind (triple_select.imp (fun _ hw => hw) (fun _ _ hw => hw) fun _ w hw => hw.imp ?_)
    fun epoch => ?_
  · rintro new (h | h)
    · exact h.1.unchanging
    · exact hunchanging _ new h
  split
  · exact .refuse fun w hw => hw.imp (hunchanging _)
  · next hepoch =>
    refine .pure fun w hw => hw.imp ?_
    rintro _ ⟨old, o, rfl, ⟨hold, hlog⟩, ho⟩
    rw [Decidable.not_not] at hepoch
    subst hepoch
    exact {
      guarded := (hold.unchanging.append rfl).guarded
      upToDate := hold.unselected.upToDate.append fun _ _ _ _ he => by cases he; exact ho
      loggedIn := hlog.append _
      selected := ⟨old, o, [], rfl, ho, by simp⟩ }

lemma triple_session {t : Task σ α}
    (ht : AfterEpoch (permitted a id s.client readOnly) v s id readOnly t) :
    Task.Triple (Footprint.Since past fun new => Untouched new ∧ LoggedIn a s.client new)
      (s.within v.peer t)
      (fun _ => Footprint.Since past (Ready a id s.client readOnly))
      (fun _ => Footprint.Since past fun new => Ready a id s.client readOnly new ∨ Unchanging new)
      := by
  obtain ⟨rest, rfl, hrest⟩ := ht
  refine triple_within ?_ Ready.frameStable.stable
    (Ready.frameStable.or Unchanging.frameStable).stable fun _ hw => hw.imp fun _ => .inl
  refine .bind (triple_ensureEpoch.imp (fun _ hw => hw) (fun _ _ hw => hw) ?_) fun _ => ?_
  · exact fun _ _ hw => hw.imp fun _ => .inr
  · exact (hrest _ Ready.stable).imp (fun _ hw => hw) (fun _ _ hw => hw)
      fun _ _ hw => hw.imp fun _ => .inl

/-- A task for a message that changes nothing unless the epoch is right. -/
def Heeds (past : List Event) (a : Account) (id : MessageId) (t : Task σ α) : Prop :=
  Task.Triple (Footprint.Since past Untouched) t (fun _ => Footprint.Since past (Heeded a id))
    fun _ => Footprint.Since past fun new => Heeded a id new ∨ Unchanging new

/-- The same on a client that was just logged in. -/
def HeedsOn (past : List Event) (a : Account) (id : MessageId) (k : ClientId) (t : Task σ α) :
    Prop :=
  Task.Triple (Footprint.Since past fun new => Untouched new ∧ LoggedIn a k new) t
    (fun _ => Footprint.Since past (Heeded a id))
    fun _ => Footprint.Since past fun new => Heeded a id new ∨ Unchanging new

lemma heedsOn_session {t : Task σ α}
    (ht : AfterEpoch (permitted a id s.client readOnly) v s id readOnly t) :
    HeedsOn past a id s.client (s.within v.peer t) :=
  (triple_session ht).imp (fun _ hw => hw) (fun _ _ hw => hw.imp fun _ h => h.toHeeded)
    fun _ _ hw => hw.imp fun _ h => h.imp_left (·.toHeeded)

lemma heeds_connect {f : Except Error Session → Task σ α}
    (herror : ∀ e, Heeds past a id (f (.error e)))
    (hok : ∀ s, HeedsOn past a id s.client (f (.ok s))) :
    Heeds past a id (Task.attempt (v.connect a) >>= f) := by
  let Q : Except Error Session → World σ → Prop
    | .ok s => Footprint.Since past fun new => Untouched new ∧ LoggedIn a s.client new
    | .error _ => Footprint.Since past Untouched
  have hconnect : Task.Triple (Footprint.Since past Untouched) (v.connect a)
      (fun s => Footprint.Since past fun new => Untouched new ∧ LoggedIn a s.client new)
      (fun _ => Footprint.Since past Untouched) :=
    triple_connect Untouched.frameStable v.settings a
  refine .bind (Q := Q) (.attempt hconnect (fun _ _ hw => hw) fun _ w hw => ?_) fun r => ?_
  · exact hw.imp fun _ h => .inr h.unchanging
  · cases r with
    | error e => exact herror e
    | ok s => exact hok s

lemma heeds_connectStep {stage : String} {l : Ledger} {f : Option Session × Ledger → Task σ α}
    (hnone : ∀ l, Heeds past a id (f (none, l)))
    (hsome : ∀ s l, HeedsOn past a id s.client (f (some s, l))) :
    Heeds past a id (Task.step stage none l (v.connect a) >>= f) := by
  unfold Task.step
  rw [bind_assoc]
  exact heeds_connect (fun _ => hnone _) fun s => hsome s _

lemma Heeds.pure (x : α) : Heeds past a id (pure x : Task σ α) :=
  Task.Triple.pure fun _ hw => hw.imp fun _ h => h.heeded

lemma heeds_deleteSteps : Heeds past a id (v.deleteSteps a id) :=
  heeds_connectStep .pure fun _ l =>
    heedsOn_session (deleteWithin_afterEpoch (fun _ hc => permitted_of_uid hc.1) l)

lemma heeds_moveSteps (mailbox : String) : Heeds past a id (v.moveSteps a id mailbox) :=
  heeds_connectStep (fun _ => .pure _) fun _ l =>
    heedsOn_session (moveWithin_afterEpoch (fun _ hc => permitted_of_uid hc.1)
      (permitted_quiet rfl (by rintro _ _ ⟨⟩)) mailbox l)

lemma heeds_copySteps (destination : Account) (same : Bool) (mailbox : String) :
    Heeds past a id (v.copySteps a destination same id mailbox) := by
  refine heeds_connectStep .pure fun s l => ?_
  cases same with
  | true =>
    exact heedsOn_session (copyWithin_afterEpoch (permitted_of_uid rfl) l)
  | false =>
    have hfetch : AfterEpoch (permitted a id s.client true) v s id true (v.fetchForCopy s id l) :=
      fetchForCopy_afterEpoch (permitted_quiet rfl (by rintro _ _ ⟨⟩)) l
    refine .bind ((triple_session hfetch).imp (fun _ hw => hw) (fun _ _ hw => hw) ?_) fun r => ?_
    · exact fun _ _ hw => hw.imp fun _ h => h.imp_left (·.toHeeded)
    rcases r with ⟨_ | source, l⟩
    · exact .pure fun _ hw => hw.imp fun _ h => h.toHeeded
    -- The client that the source is appended on is another one, but it is the fetching client's
    -- selection that permits it, and that stays the latest.
    · have happend : (permitted a id s.client true).Covers v.peer
          (v.appendTo destination mailbox source l) :=
        covers_appendTo (fun _ _ hc => permitted_of_isFrame hc) (fun _ _ _ => permitted_append)
          destination mailbox source l
      exact (happend _ Ready.stable).imp (fun _ hw => hw)
        (fun _ _ hw => hw.imp fun _ h => h.toHeeded)
        fun _ _ hw => hw.imp fun _ h => .inl h.toHeeded

lemma heedsOn_storeFlags (accountId : String) (add remove : List String) :
    HeedsOn past a id s.client (s.within v.peer (v.storeFlags s accountId id add remove)) :=
  heedsOn_session (storeFlags_afterEpoch (fun _ hc => permitted_of_uid hc.1) accountId)

end Guarding

section Commands

variable {σ α β : Type} {past : List Event} {v : Service σ} {accountId messageId : String}

def HeededNamed (settings : Settings) (accountId messageId : String) (new : List Event) : Prop :=
  ∃ id a, MessageId.parseFor accountId messageId = .ok id ∧ settings.account accountId = .ok a ∧
    Heeded a id new

/-- A command for the message that an id names, which changes nothing unless the epoch is right. -/
def HeedsNamed (past : List Event) (settings : Settings) (accountId messageId : String)
    (t : Task σ α) : Prop :=
  Task.Triple (Footprint.Since past Untouched) t
    (fun _ => Footprint.Since past (HeededNamed settings accountId messageId))
    fun _ => Footprint.Since past fun new =>
      HeededNamed settings accountId messageId new ∨ Unchanging new

lemma HeedsNamed.refuse (e : Error) :
    HeedsNamed past v.settings accountId messageId (Task.refuse e : Task σ α) :=
  Task.Triple.refuse fun _ hw => hw.imp fun _ h => .inr h.unchanging

lemma HeedsNamed.ofExcept {r : Except Failure α} {f : α → Task σ β}
    (hf : ∀ x, r = .ok x → HeedsNamed past v.settings accountId messageId (f x)) :
    HeedsNamed past v.settings accountId messageId (Task.ofExcept r >>= f) := by
  cases r with
  | ok x => exact hf x rfl
  | error e => exact Task.Triple.throw fun _ hw => hw.imp fun _ h => .inr h.unchanging

lemma HeedsNamed.check {r : Except Error α} {f : α → Task σ β}
    (hf : ∀ x, r = .ok x → HeedsNamed past v.settings accountId messageId (f x)) :
    HeedsNamed past v.settings accountId messageId (Task.check r >>= f) := by
  cases r with
  | ok x => exact hf x rfl
  | error e => exact .refuse e

lemma Heeds.named {id : MessageId} {a : Account} {t : Task σ α} (ht : Heeds past a id t)
    (hid : MessageId.parseFor accountId messageId = .ok id)
    (ha : v.settings.account accountId = .ok a) :
    HeedsNamed past v.settings accountId messageId t := by
  have hnamed : ∀ new, Heeded a id new → HeededNamed v.settings accountId messageId new :=
    fun new h => ⟨id, a, hid, ha, h⟩
  exact Task.Triple.imp ht (fun _ hw => hw) (fun _ _ hw => hw.imp hnamed)
    fun _ _ hw => hw.imp fun new h => h.imp_left (hnamed new)

lemma heedsNamed_updateFlags (add remove : Option (List String)) :
    HeedsNamed past v.settings accountId messageId
      (v.updateFlags accountId messageId add remove) := by
  refine .check fun _ _ => .check fun flags _ => .ofExcept fun id hid => .check fun a ha => ?_
  refine Heeds.named (heeds_connect (fun e => ?_) fun s => ?_) hid ha
  · exact fun _ hw => Footprint.Since.imp hw fun _ h => h.heeded
  · exact .bind (heedsOn_storeFlags accountId flags.1 flags.2) fun _ _ hw => hw

lemma heedsNamed_copyMessage (mailbox : String) (destinationId : Option String) :
    HeedsNamed past v.settings accountId messageId
      (v.copyMessage accountId messageId mailbox destinationId) := by
  refine .check fun _ _ => .ofExcept fun id hid => .check fun _ _ => .check fun _ _ => ?_
  refine .check fun a ha => .check fun destination _ => ?_
  refine Heeds.named (.bind (heeds_copySteps destination _ mailbox) fun _ => ?_) hid ha
  exact fun _ hw => hw

lemma heedsNamed_moveMessage (mailbox : String) :
    HeedsNamed past v.settings accountId messageId
      (v.moveMessage accountId messageId mailbox) := by
  refine .check fun _ _ => .ofExcept fun id hid => .check fun _ _ => .check fun a ha => ?_
  refine Heeds.named (.bind (heeds_moveSteps mailbox) fun _ => ?_) hid ha
  exact fun _ hw => hw

lemma heedsNamed_deleteMessage (confirmed : Bool) :
    HeedsNamed past v.settings accountId messageId
      (v.deleteMessage accountId messageId confirmed) := by
  refine .check fun _ _ => ?_
  cases confirmed with
  | false => exact .refuse _
  | true =>
    refine .ofExcept fun id hid => .check fun a ha => ?_
    refine Heeds.named (.bind heeds_deleteSteps fun _ => ?_) hid ha
    exact fun _ hw => hw

/-- A command for the message that an id names runs, whatever the command, as it has to. -/
lemma heedsNamed_run {c : Command} (h : c.target? = some (accountId, messageId)) :
    HeedsNamed past v.settings accountId messageId (v.run c) := by
  cases c with
  | updateFlags a m add remove =>
    obtain ⟨rfl, rfl⟩ := h
    exact .bind (heedsNamed_updateFlags add remove) fun _ _ hw => hw
  | copy a m mailbox d =>
    obtain ⟨rfl, rfl⟩ := h
    exact .bind (heedsNamed_copyMessage mailbox d) fun _ _ hw => hw
  | move a m mailbox =>
    obtain ⟨rfl, rfl⟩ := h
    exact .bind (heedsNamed_moveMessage mailbox) fun _ _ hw => hw
  | delete a m confirmed =>
    obtain ⟨rfl, rfl⟩ := h
    exact .bind (heedsNamed_deleteMessage confirmed) fun _ _ hw => hw
  | _ => cases h

end Commands

namespace Service

variable {σ : Type}

/-- A command for a message changes mail only after it selected the message's mailbox and was told
the message's UIDVALIDITY, on the client that it changes the message through, or that it fetched
the source from. If a selection tells anything else, the command raises and nothing is changed. -/
theorem changes_heed_epoch (v : Service σ) (w : World σ) {c : Command}
    {accountId messageId : String} (h : c.target? = some (accountId, messageId)) :
    ∃ new, (Task.runIn w (v.run c)).2.trace = w.trace ++ new ∧
      (∀ before k call o after, new = before ++ .called k call o :: after → call.changesMail →
        ∃ id a, MessageId.parseFor accountId messageId = .ok id ∧
          v.settings.account accountId = .ok a ∧ Permitted a id before k call) ∧
      ∀ id, MessageId.parseFor accountId messageId = .ok id →
        ∀ k mailbox readOnly o, .called k (.select mailbox readOnly) o ∈ new →
          ¬ Tells o id.uidvalidity →
          (∃ f, (Task.runIn w (v.run c)).1 = .error f) ∧ ∀ e ∈ new, e.changesMail = false := by
  have hstart : Footprint.Since w.trace Untouched w :=
    ⟨[], by simp, by simp [Unchanging], by simp [Unselected]⟩
  have hguard : ∀ {new}, HeededNamed v.settings accountId messageId new →
      ∀ before k call o after, new = before ++ .called k call o :: after → call.changesMail →
        ∃ id a, MessageId.parseFor accountId messageId = .ok id ∧
          v.settings.account accountId = .ok a ∧ Permitted a id before k call :=
    fun ⟨id, a, hid, ha, hnew⟩ before k call o after hsplit hc =>
      ⟨id, a, hid, ha, hnew.guarded before k call o after hsplit hc⟩
  have htold : ∀ {new}, HeededNamed v.settings accountId messageId new →
      ∀ id, MessageId.parseFor accountId messageId = .ok id → UpToDate id new := by
    rintro new ⟨id, a, hid, -, hnew⟩ id' hid'
    rw [hid] at hid'
    cases hid'
    exact hnew.upToDate
  have hrun : HeedsNamed w.trace v.settings accountId messageId (v.run c) := heedsNamed_run h
  rcases hr : Task.runIn w (v.run c) with ⟨f | answer, w'⟩
  -- What was heeded leaves no selection that tells another epoch, so that only a run without any
  -- change is left for one.
  · obtain ⟨new, hw', hnew | hnew⟩ := Task.Triple.error hrun hstart hr
    · refine ⟨new, hw', hguard hnew, fun id hid k mailbox readOnly o ho htells => ?_⟩
      exact absurd (htold hnew id hid k mailbox readOnly o ho) htells
    · refine ⟨new, hw', fun before k call o after hsplit hc => ?_, fun _ _ _ _ _ _ _ _ => ?_⟩
      · subst hsplit
        have hquiet := hnew _ (List.mem_append_right before List.mem_cons_self)
        exact absurd hc (by rw [show call.changesMail = false from hquiet]; decide)
      · exact ⟨⟨f, rfl⟩, hnew⟩
  · obtain ⟨new, hw', hnew⟩ := Task.Triple.ok hrun hstart hr
    refine ⟨new, hw', hguard hnew, fun id hid k mailbox readOnly o ho htells => ?_⟩
    exact absurd (htold hnew id hid k mailbox readOnly o ho) htells

/-- A deletion in the world of the sample. -/
def sampleDeletion (messageId : String) : Except Failure Answer × World Exchange :=
  Task.runIn (Sample.world 0) ((Sample.service true).run (.delete "a" messageId true))

/-- A deletion by the epoch that the mailbox has marks the message as deleted once it is permitted.
By an epoch that the mailbox left nothing is changed. -/
theorem changes_heed_epoch_of_sampleDeletions :
    (∀ m, (Command.delete "a" m true).target? = some ("a", m)) ∧
      (∃ before o after, (sampleDeletion "imap:a:INBOX:7:2").2.trace =
        before ++ .called 0 (.addFlags 2 [deletedFlag]) o :: after ∧
      Permitted Sample.account ⟨"a", "INBOX", 7, 2⟩ before 0 (.addFlags 2 [deletedFlag])) ∧
      (∃ f, (sampleDeletion "imap:a:INBOX:8:2").1 = .error f) ∧
      ∀ e ∈ (sampleDeletion "imap:a:INBOX:8:2").2.trace, e.changesMail = false := by
  have htarget : ∀ m, (Command.delete "a" m true).target? = some ("a", m) := fun _ => rfl
  refine ⟨htarget, ?_, ?_⟩
  · obtain ⟨new, hnew, hpermitted, -⟩ :=
      changes_heed_epoch (Sample.service true) (Sample.world 0) (htarget "imap:a:INBOX:7:2")
    obtain rfl : (sampleDeletion "imap:a:INBOX:7:2").2.trace = new := hnew
    obtain ⟨before, o, after, hsplit⟩ : ∃ before o after,
        (sampleDeletion "imap:a:INBOX:7:2").2.trace =
          before ++ .called 0 (.addFlags 2 [deletedFlag]) o :: after :=
      ⟨(sampleDeletion "imap:a:INBOX:7:2").2.trace.take 4, _, _, rfl⟩
    obtain ⟨id, a, hid, ha, h⟩ := hpermitted before 0 _ o after hsplit rfl
    cases hid
    cases ha
    exact ⟨before, o, after, hsplit, h⟩
  · obtain ⟨new, hnew, -, hstale⟩ :=
      changes_heed_epoch (Sample.service true) (Sample.world 0) (htarget "imap:a:INBOX:8:2")
    obtain rfl : (sampleDeletion "imap:a:INBOX:8:2").2.trace = new := hnew
    have hid : MessageId.parseFor "a" "imap:a:INBOX:8:2" = .ok ⟨"a", "INBOX", 8, 2⟩ := rfl
    have hselect : (sampleDeletion "imap:a:INBOX:8:2").2.trace[3]? =
        some (.called 0 (.select "INBOX" false)
          (.ok [(.octets (ascii "UIDVALIDITY"), .single (.number 7))])) := rfl
    refine hstale _ hid 0 "INBOX" false _ (List.mem_of_getElem? hselect) ?_
    rintro ⟨is, his, hepoch⟩
    cases his
    exact absurd hepoch (by decide +kernel)

end Service

end Mailroom
