import Mailroom.Proofs.GatedSteps
import Mailroom.Proofs.TraceGrowth

/-!
# Copies to other accounts

A copy to another account visits two accounts. In the first the message is read and nothing is
changed; in the second, which is visited only if a body was found, the body is appended once. What
lies between the two, the end of the first session, neither drops the message nor doubles it.
-/

namespace Mailroom

open Imap

/-- The events of visiting the account of a message that is copied elsewhere, and the body that was
found there. -/
inductive SourceVisit (st : Settings) (a : Account) (id : MessageId) (k : ClientId) :
    List Event → Option Value → Prop where
  | missed {es : List Event} (h : Missed st a k es) : SourceVisit st a id k es none
  | unselected (o : Except Fault Items) (ho : ¬ Tells o id.uidvalidity) {ending : List Event}
      (hending : Ending k ending) :
    SourceVisit st a id k
      (greeting st a k ++ [.called k (.select id.mailbox true) o] ++ ending) none
  | fetched (is : Items) (his : is.epoch? = some id.uidvalidity)
      (o : Except Fault (List (Int × Items))) {ending : List Event} (hending : Ending k ending) :
    SourceVisit st a id k
      (greeting st a k ++ [.called k (.select id.mailbox true) (.ok is),
        .called k (.fetch id.uid [.source]) o] ++ ending)
      (o.toOption.bind (Session.bodyOf id.uid))

/-- The events of visiting the account that a body is copied to, which may consist of octets. -/
inductive DestinationVisit (st : Settings) (a : Account) (mailbox : String) (k : ClientId) :
    Option (List UInt8) → List Event → Prop where
  | missed (octets : Option (List UInt8)) {es : List Event} (h : Missed st a k es) :
    DestinationVisit st a mailbox k octets es
  | unreadable {ending : List Event} (hending : Ending k ending) :
    DestinationVisit st a mailbox k none (greeting st a k ++ ending)
  | appended (octets : List UInt8) (o : Except Fault Unit) {ending : List Event}
      (hending : Ending k ending) :
    DestinationVisit st a mailbox k (some octets)
      (greeting st a k ++ [.called k (.append mailbox octets) o] ++ ending)

/-- The events of a copy to another account: two visits, the second only if a body was found. -/
inductive Crossing (st : Settings) (source destination : Account) (id : MessageId)
    (mailbox : String) (k : ClientId) : List Event → List Event → Prop where
  | unread {first : List Event} (hfirst : SourceVisit st source id k first none) :
    Crossing st source destination id mailbox k first []
  | read {first second : List Event} {body : Value}
      (hfirst : SourceVisit st source id k first (some body))
      (hsecond : DestinationVisit st destination mailbox (k + 1) body.octets? second) :
    Crossing st source destination id mailbox k first second

section Runs

variable {σ : Type} {v : Service σ} {s : Session} {a : Account} {id : MessageId}
variable {mailbox : String} {l : Ledger} {w w' : World σ}

/-- What is done in the second session. -/
lemma visit_appendWithin {w₁ : World σ} {x : Except Failure Ledger} {body : Value}
    (hopens : Opened v.settings a w s w₁) (hw : Fresh w)
    (h : Task.runIn w₁ (s.within v.peer (v.appendWithin s mailbox body l)) = (x, w')) :
    ∃ es, Added es w w' ∧ DestinationVisit v.settings a mailbox w.clients body.octets? es := by
  obtain ⟨y, w₂, ending, hrun, hcloses, -⟩ := within_cases h
  have hending := hcloses.ending
  rw [hopens.client] at hending
  unfold Service.appendWithin at hrun
  cases hbody : body.octets? with
  | none =>
    rw [hbody] at hrun
    cases hrun
    exact ⟨_, hopens.added.trans hcloses.added, .unreadable hending⟩
  | some octets =>
    have hconducts : Task.Conducts s [.append mailbox octets]
        (v.appendWithin s mailbox body l) := by
      unfold Service.appendWithin
      rw [hbody]
      exact .step (fun _ => .pure _) fun _ _ => .done (.pure _)
    obtain ⟨es, hadded, hgated⟩ := hconducts w₁ (hopens.inUse hw)
    obtain ⟨o, rfl⟩ := hgated.singleton
    unfold Service.appendWithin at hadded
    rw [hrun, hopens.client] at hadded
    exact ⟨_, (hopens.added.trans hadded).trans hcloses.added, .appended octets o hending⟩

lemma visit_appendTo (v : Service σ) (a : Account) (mailbox : String) (body : Value) (l : Ledger)
    (hw : Fresh w) :
    ∃ es, Added es w (Task.runIn w (v.appendTo a mailbox body l)).2 ∧
      DestinationVisit v.settings a mailbox w.clients body.octets? es := by
  unfold Service.appendTo
  rw [Task.runIn_bind, Task.runIn_stepOf]
  rcases hconnect : Task.runIn w (v.connect a) with ⟨f | s, w₁⟩
  · obtain ⟨es, hmisses⟩ := connect_misses hconnect
    refine ⟨es, ?_, .missed _ hmisses.missed⟩
    cases f <;> exact hmisses.added
  · exact visit_appendWithin (connect_opened hconnect) hw rfl

/-- The first session is left with the body if one was found. -/
lemma visit_fetchForCopy {w₁ : World σ} {x : Except Failure (Option Value × Ledger)}
    (hp : v.peer.Orderly) (hopens : Opened v.settings a w s w₁) (hw : Fresh w)
    (h : Task.runIn w₁ (s.within v.peer (v.fetchForCopy s id l)) = (x, w')) :
    ∃ es read, Added es w w' ∧ SourceVisit v.settings a id w.clients es read ∧
      (∀ body, read = some body ↔ ∃ l', x = .ok (some body, l')) ∧
      (read ≠ none → Fresh w' ∧ w'.clients = w.clients + 1) := by
  obtain ⟨y, w₂, ending, hrun, hcloses, hx⟩ := within_cases h
  replace hx : x = y ∨ ∃ f, x = .error f ∧ ¬ v.peer.Orderly := by
    obtain hx | ⟨⟨f, hx⟩, hunruly⟩ := hx
    · exact .inl hx
    · exact .inr ⟨f, hx, hunruly⟩
  obtain ⟨es, hadded, hclients, hreads⟩ :=
    Session.readsForCopy_fetchForCopy (hopens.inUse hw) hrun
  have hall := (hopens.added.trans hadded).trans hcloses.added
  have hending := hcloses.ending
  rw [hopens.client] at hending
  cases hreads with
  | unselected o f ho =>
    rw [hopens.client] at hall
    refine ⟨_, none, hall, .unselected o ho hending, fun body => ?_, fun hnone => absurd rfl hnone⟩
    obtain rfl | ⟨f', rfl, -⟩ := hx <;> simp
  | unread is o his ho hy =>
    rw [hopens.client] at hall
    have hbody : o.toOption.bind (Session.bodyOf id.uid) = none := by
      cases o with
      | error f => rfl
      | ok found => exact ho found rfl
    have hvisit : SourceVisit v.settings a id w.clients _ _ := .fetched is his o hending
    rw [hbody] at hvisit
    refine ⟨_, none, hall, hvisit, fun body => ?_, fun hnone => absurd rfl hnone⟩
    obtain rfl | ⟨f', rfl, -⟩ := hx
    · obtain ⟨e, rfl⟩ | ⟨f, rfl⟩ := hy <;> simp
    · simp
  | read is found his hbody habandoned =>
    rw [hopens.client] at hall
    have hvisit : SourceVisit v.settings a id w.clients _ _ :=
      .fetched is his (.ok found) hending
    rw [Except.toOption, Option.bind_some, hbody] at hvisit
    obtain rfl := hx.resolve_right fun ⟨_, _, hunruly⟩ => hunruly hp
    refine ⟨_, _, hall, hvisit, fun body => ?_, fun _ => ⟨hcloses.fresh ?_, ?_⟩⟩
    · simp
    · unfold Fresh
      rw [habandoned, hclients]
      exact (hopens.fresh hw).1
    · rw [hcloses.clients, hclients, hopens.clients]

/-- A copy to another account visits the two accounts, one after the other. -/
lemma crossing_copySteps (a destination : Account) (id : MessageId) (mailbox : String)
    (hp : v.peer.Orderly) (hw : Fresh w) :
    ∃ first second,
      Added (first ++ second) w (Task.runIn w (v.copySteps a destination false id mailbox)).2 ∧
      Crossing v.settings a destination id mailbox w.clients first second := by
  unfold Service.copySteps
  dsimp only
  rw [Task.runIn_bind, Task.runIn_stepOf]
  rcases hconnect : Task.runIn w (v.connect a) with ⟨f | s, w₁⟩
  · obtain ⟨es, hmisses⟩ := connect_misses hconnect
    refine ⟨es, [], ?_, .unread (.missed hmisses.missed)⟩
    rw [List.append_nil]
    cases f <;> exact hmisses.added
  · have hopens := connect_opened hconnect
    dsimp only
    rw [if_neg Bool.false_ne_true, Task.runIn_bind]
    rcases hwithin : Task.runIn w₁ (s.within v.peer _) with ⟨x, w₂⟩
    obtain ⟨first, read, hadded, hvisit, hread, hleft⟩ :=
      visit_fetchForCopy hp hopens hw hwithin
    cases read with
    | none =>
      refine ⟨first, [], ?_, .unread hvisit⟩
      rw [List.append_nil]
      rcases x with f | ⟨_ | body, l'⟩
      · exact hadded
      · exact hadded
      · exact absurd ((hread body).2 ⟨l', rfl⟩) (by simp)
    | some body =>
      obtain ⟨l', rfl⟩ := (hread body).1 rfl
      obtain ⟨hfresh, hclients⟩ := hleft (by simp)
      obtain ⟨second, hsecond, hvisit'⟩ := visit_appendTo v destination mailbox body l' hfresh
      rw [hclients] at hvisit'
      exact ⟨first, second, hadded.trans hsecond, .read hvisit hvisit'⟩

end Runs

section Receipts

variable {st : Settings} {a : Account} {id : MessageId} {k : ClientId} {mailbox : String}
variable {es es' : List Event} {e : Event}

/-- An event of a client that reads: it changes no mail, and opens no mailbox for changes. -/
def Imap.Event.IsReading (k : ClientId) (e : Event) : Prop :=
  e.client = k ∧ e.changesMail = false ∧ ∀ name o, e ≠ .called k (.select name false) o

/-- The body of a message was read, from a mailbox that had been selected for reading and had told
the UIDVALIDITY that the message is named by. -/
def Sourced (a : Account) (id : MessageId) (k : ClientId) (octets : List UInt8)
    (es : List Event) : Prop :=
  ∃ before found after, es = before ++ .called k (.fetch id.uid [.source]) (.ok found) :: after ∧
    LoggedIn a k before ∧ Selected k id.mailbox true id.uidvalidity before ∧
    (Session.bodyOf id.uid found).bind Value.octets? = some octets

lemma Imap.Event.isReading_of_not_isVerb (hclient : e.client = k) (hverb : e.isVerb = false) :
    e.IsReading k := by
  refine ⟨hclient, ?_, ?_⟩
  · cases e with
    | timeoutSet => rfl
    | called j c o => cases c <;> first | rfl | cases hverb
  · rintro name o rfl
    cases hverb

lemma Imap.Framing.isReading (h : Framing k es) : ∀ e ∈ es, e.IsReading k :=
  fun e he => Event.isReading_of_not_isVerb (h e he).1 (h e he).2

lemma LoggedIn.mono (h : LoggedIn a k es) (hes : es ⊆ es') : LoggedIn a k es' := by
  obtain ⟨⟨t, t', hconnect⟩, hlogin⟩ := h
  exact ⟨⟨t, t', hes hconnect⟩, hes hlogin⟩

lemma loggedIn_greeting (st : Settings) (a : Account) (k : ClientId) :
    LoggedIn a k (greeting st a k) :=
  ⟨⟨st.connectTimeout, st.greetingTimeout, .head _⟩, .tail _ (.head _)⟩

namespace SourceVisit

variable {read : Option Value} {found : List (Int × Items)}

lemma isReading (h : SourceVisit st a id k es read) : ∀ e ∈ es, e.IsReading k := by
  have hselect : ∀ o : Except Fault Items,
      (Event.called k (.select id.mailbox true) o).IsReading k := by
    intro o
    refine ⟨rfl, rfl, fun name o' => ?_⟩
    simp
  have hfetch : ∀ o, (Event.called k (.fetch id.uid [.source]) o).IsReading k := by
    intro o
    refine ⟨rfl, rfl, fun name o' => ?_⟩
    simp
  have hgreeting := (framing_greeting st a k).isReading
  cases h with
  | missed h => exact h.framing.isReading
  | unselected o _ hending =>
    rw [List.forall_mem_append, List.forall_mem_append, List.forall_mem_singleton]
    exact ⟨⟨hgreeting, hselect _⟩, hending.framing.isReading⟩
  | fetched is _ o hending =>
    rw [List.forall_mem_append, List.forall_mem_append, List.forall_mem_cons,
      List.forall_mem_singleton]
    exact ⟨⟨hgreeting, hselect _, hfetch _⟩, hending.framing.isReading⟩

lemma sourced {body : Value} {octets : List UInt8} (h : SourceVisit st a id k es (some body))
    (hbody : body.octets? = some octets) : Sourced a id k octets es := by
  generalize hread : some body = read at h
  cases h with
  | missed h => cases hread
  | unselected o ho hending => cases hread
  | @fetched is his o ending hending =>
    cases o with
    | error f => cases hread
    | ok found =>
      refine ⟨greeting st a k ++ [.called k (.select id.mailbox true) (.ok is)], found, ending,
        by simp, (loggedIn_greeting st a k).append _, ?_, ?_⟩
      · exact ⟨_, _, [], rfl, ⟨is, rfl, his⟩, List.forall_mem_nil _⟩
      · rw [Except.toOption, Option.bind_some] at hread
        rw [← hread, Option.bind_some, hbody]

/-- What was fetched is what the visit is left with. -/
lemma read_eq (h : SourceVisit st a id k es read)
    (hfound : .called k (.fetch id.uid [.source]) (.ok found) ∈ es) :
    read = Session.bodyOf id.uid found := by
  have hgreeting := framing_greeting st a k
  cases h with
  | missed h => exact absurd hfound (h.framing.notMem rfl)
  | unselected o ho hending =>
    rw [mem_framed hgreeting hending.framing rfl] at hfound
    cases List.mem_singleton.1 hfound
  | fetched is his o hending =>
    rw [mem_framed hgreeting hending.framing rfl] at hfound
    obtain rfl : .ok found = o := by simpa using hfound
    rfl

end SourceVisit

namespace DestinationVisit

variable {octets : Option (List UInt8)}

lemma receives (h : DestinationVisit st a mailbox k octets es) :
    (∀ e ∈ es, e.client = k ∧ (e.isVerb → ∃ octets o, e = .called k (.append mailbox octets) o)) ∧
      es.countP Event.isVerb ≤ 1 := by
  have hframe : ∀ {es}, Framing k es →
      ∀ e ∈ es, e.client = k ∧
        (e.isVerb → ∃ octets o, e = .called k (.append mailbox octets) o) := by
    intro es hes e he
    refine ⟨(hes e he).1, fun hverb => ?_⟩
    rw [(hes e he).2] at hverb
    cases hverb
  have hgreeting := framing_greeting st a k
  cases h with
  | missed _ h =>
    rw [h.framing.countP_isVerb]
    exact ⟨hframe h.framing, Nat.zero_le 1⟩
  | unreadable hending =>
    rw [List.forall_mem_append, List.countP_append, hgreeting.countP_isVerb,
      hending.framing.countP_isVerb]
    exact ⟨⟨hframe hgreeting, hframe hending.framing⟩, Nat.zero_le 1⟩
  | appended octets o hending =>
    rw [List.forall_mem_append, List.forall_mem_append, List.forall_mem_singleton,
      List.countP_append, List.countP_append, hgreeting.countP_isVerb,
      hending.framing.countP_isVerb]
    have happended : (Event.called k (.append mailbox octets) o).client = k ∧
        ((Event.called k (.append mailbox octets) o).isVerb → ∃ octets' o',
          Event.called k (.append mailbox octets) o = .called k (.append mailbox octets') o') :=
      ⟨rfl, fun _ => ⟨octets, o, rfl⟩⟩
    exact ⟨⟨⟨hframe hgreeting, happended⟩, hframe hending.framing⟩, Nat.le_refl 1⟩

/-- A body is appended if it consists of octets and the account can be logged in to. -/
lemma appends_iff (h : DestinationVisit st a mailbox k octets es) (body : List UInt8) :
    (∃ o, .called k (.append mailbox body) o ∈ es) ↔ octets = some body ∧ LoggedIn a k es := by
  have hgreeting := framing_greeting st a k
  cases h with
  | missed _ h =>
    refine iff_of_false (fun ⟨o, ho⟩ => h.framing.notMem rfl ho) fun ⟨_, hlogged⟩ => ?_
    exact h.not_mem_login hlogged.2
  | unreadable hending =>
    refine iff_of_false (fun ⟨o, ho⟩ => ?_) fun ⟨hnone, _⟩ => by cases hnone
    rcases List.mem_append.1 ho with ho | ho
    · exact hgreeting.notMem rfl ho
    · exact hending.framing.notMem rfl ho
  | @appended octets o ending hending =>
    have hlogged : LoggedIn a k
        (greeting st a k ++ [.called k (.append mailbox octets) o] ++ ending) :=
      ((loggedIn_greeting st a k).append _).mono (List.subset_append_left _ _)
    rw [and_iff_left hlogged, Option.some_inj]
    constructor
    · rintro ⟨o', ho'⟩
      rw [mem_framed hgreeting hending.framing rfl] at ho'
      cases List.mem_singleton.1 ho'
      rfl
    · rintro rfl
      exact ⟨o, (mem_framed hgreeting hending.framing rfl).2 (.head _)⟩

end DestinationVisit

end Receipts

/-- What the clients of the two accounts receive of a copy. The first only reads. The second is
given the body that was read, once, if there is one and if it could be logged in to. -/
structure CarriedAcross (st : Settings) (accountId messageId mailbox destinationId : String)
    (k : ClientId) (first second : List Event) : Prop where
  reading : ∀ e ∈ first, e.IsReading k
  receives : ∀ e ∈ second, e.client = k + 1 ∧
    (e.isVerb → ∃ octets o, e = .called (k + 1) (.append mailbox octets) o)
  once : second.countP Event.isVerb ≤ 1
  appends_iff : ∀ octets, (∃ o, .called (k + 1) (.append mailbox octets) o ∈ second) ↔
    ∃ id source destination, MessageId.parseFor accountId messageId = .ok id ∧
      st.account accountId = .ok source ∧ st.account destinationId = .ok destination ∧
      Sourced source id k octets first ∧ LoggedIn destination (k + 1) second

section Accounts

variable {st : Settings} {accountId messageId mailbox destinationId : String} {k : ClientId}
variable {first second : List Event}

lemma carriedAcross_nil : CarriedAcross st accountId messageId mailbox destinationId k [] [] where
  reading := List.forall_mem_nil _
  receives := List.forall_mem_nil _
  once := Nat.zero_le 1
  appends_iff octets := by
    refine iff_of_false (fun ⟨o, ho⟩ => by cases ho) ?_
    rintro ⟨id, source, destination, -, -, -, -, hlogin⟩
    cases hlogin.2

lemma Crossing.carriedAcross {id : MessageId} {source destination : Account}
    (h : Crossing st source destination id mailbox k first second)
    (hid : MessageId.parseFor accountId messageId = .ok id)
    (hsource : st.account accountId = .ok source)
    (hdestination : st.account destinationId = .ok destination) :
    CarriedAcross st accountId messageId mailbox destinationId k first second := by
  -- the accounts and the message are those that were looked up
  have hnamed : ∀ {P : MessageId → Account → Account → Prop},
      (∃ id source destination, MessageId.parseFor accountId messageId = .ok id ∧
        st.account accountId = .ok source ∧ st.account destinationId = .ok destination ∧
        P id source destination) ↔ P id source destination := by
    intro P
    constructor
    · rintro ⟨id', source', destination', hid', hsource', hdestination', hP⟩
      rw [hid] at hid'
      rw [hsource] at hsource'
      rw [hdestination] at hdestination'
      cases hid'
      cases hsource'
      cases hdestination'
      exact hP
    · intro hP
      exact ⟨id, source, destination, hid, hsource, hdestination, hP⟩
  cases h with
  | unread hfirst =>
    refine ⟨hfirst.isReading, List.forall_mem_nil _, Nat.zero_le 1, fun octets => ?_⟩
    rw [hnamed]
    refine iff_of_false (fun ⟨o, ho⟩ => by cases ho) fun ⟨_, hlogin⟩ => ?_
    cases hlogin.2
  | read hfirst hsecond =>
    obtain ⟨hreceives, honce⟩ := hsecond.receives
    refine ⟨hfirst.isReading, hreceives, honce, fun octets => ?_⟩
    rw [hnamed, hsecond.appends_iff]
    refine and_congr_left fun _ => ⟨hfirst.sourced, ?_⟩
    rintro ⟨before, found, after, rfl, -, -, hbody⟩
    rw [← hfirst.read_eq (List.mem_append_right _ (.head _))] at hbody
    exact hbody

end Accounts

section Refusals

variable {σ : Type} {v : Service σ} {w : World σ}

/-- What two clients received between two worlds is right for a copy. -/
def LeftAcross (st : Settings) (accountId messageId mailbox destinationId : String)
    (w w' : World σ) : Prop :=
  ∃ first second, Added (first ++ second) w w' ∧
    CarriedAcross st accountId messageId mailbox destinationId w.clients first second

/-- A copy that names another account is refused before anything is called, or visits both. -/
lemma leftAcross_copyMessage {accountId messageId mailbox destinationId : String}
    (hp : v.peer.Orderly) (hw : Fresh w) (hne : destinationId ≠ accountId) :
    LeftAcross v.settings accountId messageId mailbox destinationId w
      (Task.runIn w (v.copyMessage accountId messageId mailbox (some destinationId))).2 := by
  let Q : World σ → Prop := LeftAcross v.settings accountId messageId mailbox destinationId w
  have hrefused : ∀ w', w' = w → Q w' := by
    rintro _ rfl
    exact ⟨[], [], .nil _, carriedAcross_nil⟩
  suffices h : Task.Triple (· = w)
      (v.copyMessage accountId messageId mailbox (some destinationId)) (fun _ => Q) fun _ => Q from
    h.final rfl
  refine .check_bind (fun _ _ => ?_) fun _ _ => hrefused
  refine .ofExcept_bind (fun id hid => ?_) fun _ _ => hrefused
  refine .check_bind (fun _ _ => ?_) fun _ _ => hrefused
  refine .check_bind (fun _ _ => ?_) fun _ _ => hrefused
  refine .check_bind (fun source hsource => ?_) fun _ _ => hrefused
  refine .check_bind (fun destination hdestination => ?_) fun _ _ => hrefused
  rw [Option.getD_some, beq_eq_false_iff_ne.2 hne]
  have hsteps : Task.Triple (· = w) (v.copySteps source destination false id mailbox)
      (fun _ => Q) fun _ => Q := by
    obtain ⟨first, second, hadded, hcrossing⟩ :=
      crossing_copySteps source destination id mailbox hp hw
    have hall : Q (Task.runIn w (v.copySteps source destination false id mailbox)).2 :=
      ⟨first, second, hadded, hcrossing.carriedAcross hid hsource hdestination⟩
    refine .of_cases (fun w₀ l w' hw₀ hrun => ?_) fun w₀ f w' hw₀ hrun => ?_
    all_goals
      subst hw₀
      rwa [hrun] at hall
  exact hsteps.bind fun l => .bind (Q := fun _ => Q) (.modify fun _ h => h) fun _ =>
    .bind (Q := fun _ => Q) (.modify fun _ h => h) fun _ => .pure fun _ h => h

end Refusals

namespace Service

/-- In every run a copy to another account carries the body across, and does so at most once. -/
theorem copy_carried_across {σ : Type} (v : Service σ) (hp : v.peer.Orderly) (remote : σ)
    (clock : Nat) (os : List (Occurrence σ)) (accountId messageId mailbox destinationId : String)
    (hne : destinationId ≠ accountId) :
    ∃ first second,
      (Task.runIn (v.after (.start remote clock) os)
        (v.copyMessage accountId messageId mailbox (some destinationId))).2.trace =
        (v.after (.start remote clock) os).trace ++ (first ++ second) ∧
      CarriedAcross v.settings accountId messageId mailbox destinationId
        (v.after (.start remote clock) os).clients first second :=
  leftAcross_copyMessage hp (after_fresh v remote clock os) hne

/-- The message that is copied between the sample's accounts is appended as it was read. -/
theorem copy_carried_across_of_crossing : ∃ first second,
    (Task.runIn (crossing.after (Sample.world 0) [])
      (crossing.copyMessage "a" "imap:a:INBOX:7:1" "INBOX" (some "b"))).2.trace =
      first ++ second ∧
    (∃ o, .called 1 (.append "INBOX" (ascii "Subject: one\n\n")) o ∈ first ++ second) ∧
    CarriedAcross crossing.settings "a" "imap:a:INBOX:7:1" "INBOX" "b" 0 first second := by
  have happended : (Task.runIn (crossing.after (Sample.world 0) [])
      (crossing.copyMessage "a" "imap:a:INBOX:7:1" "INBOX" (some "b"))).2.trace[9]? =
      some (.called 1 (.append "INBOX" (ascii "Subject: one\n\n")) (.ok ())) := rfl
  obtain ⟨first, second, htrace, hcarried⟩ := copy_carried_across crossing
    (Peer.orderly_calmed _) (Sample.world 0).remote 0 [] "a" "imap:a:INBOX:7:1" "INBOX" "b"
    (by decide)
  refine ⟨first, second, htrace, ⟨.ok (), ?_⟩, hcarried⟩
  rw [show first ++ second = _ from htrace.symm]
  exact List.mem_of_getElem? happended

end Service

end Mailroom
