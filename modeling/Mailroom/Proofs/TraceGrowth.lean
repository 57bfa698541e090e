import Mailroom.Proofs.EpochGuard
import Mailroom.Proofs.SearchRun
import Mailroom.Proofs.SessionTrace

/-!
# What the parts of a visit add to the trace

A visit is put together of connecting, verbs and closing. Here is what each of these adds to the
trace, when it gives a result and when it gives none. In every run the client that is constructed
next was never given up.
-/

namespace Mailroom

open Imap

section Growing

variable {σ : Type} {es es' : List Event} {w w' w'' : World σ}

/-- All that happened between two worlds. -/
def Added (es : List Event) (w w' : World σ) : Prop :=
  w'.trace = w.trace ++ es

lemma Added.trans (h : Added es w w') (h' : Added es' w' w'') : Added (es ++ es') w w'' := by
  unfold Added at h h' ⊢
  rw [h', h, List.append_assoc]

lemma Added.nil (w : World σ) : Added [] w w :=
  (List.append_nil _).symm

end Growing

/-- An account for which nothing is called: its password would be sent without a secure connection,
or its host cannot be named when one is set up. -/
def Account.Barred (a : Account) : Prop :=
  a.secure = false ∨ Text.isHostName a.host = false

lemma Account.barred_of_host {a : Account} {e : Error} (h : Check.host a.host = .error e) :
    a.Barred := by
  rw [Check.host] at h
  split at h
  · cases h
  · exact .inr (Bool.eq_false_iff.2 ‹_›)

namespace Task

variable {σ α : Type}

@[simp] lemma runIn_refuse (w : World σ) (e : Error) :
    runIn w (refuse e : Task σ α) = (.error (.refused e), w) := rfl

@[simp] lemma runIn_escape (w : World σ) (e : Escape) :
    runIn w (escape e : Task σ α) = (.error (.escaped e), w) := rfl

/-- A step of a change ends like its task, but for refusals, and the ledger tells how. -/
lemma runIn_stepOf (stage : String) (uid : Option Int) (l : Ledger) (t : Task σ α) (w : World σ) :
    runIn w (step stage uid l t) =
      match runIn w t with
      | (.ok a, w') => (.ok (some a, l.record stage uid (.ok a)), w')
      | (.error (.refused e), w') =>
        (.ok (none, l.record stage uid (.error e : Except Error α)), w')
      | (.error (.escaped e), w') => (.error (.escaped e), w') := by
  unfold step
  rw [runIn_bind, runIn_attempt]
  rcases runIn w t with ⟨(e | e) | a, w'⟩ <;> rfl

lemma runIn_step_eq_ok {stage : String} {uid : Option Int} {l : Ledger} {t : Task σ α}
    {w w' : World σ} {x : Option α × Ledger} :
    runIn w (step stage uid l t) = (.ok x, w') ↔
      (∃ a, runIn w t = (.ok a, w') ∧ x = (some a, l.record stage uid (.ok a))) ∨
        ∃ e, runIn w t = (.error (.refused e), w') ∧
          x = (none, l.record stage uid (.error e : Except Error α)) := by
  rw [runIn_stepOf]
  rcases runIn w t with ⟨(e | e) | a, w₁⟩ <;> simp <;> grind

end Task

namespace Imap

open Mailroom.Task

variable {σ α β : Type} {p : Peer σ} {s : Session} {c : Call} {w w' : World σ}

namespace Session

/-- A task that makes one call of a session and reads its result off the reply, if it is in there.
If the session was given up it is refused without the call. -/
structure Reads (p : Peer σ) (s : Session) (c : Call) (read : c.Reply → Option α)
    (t : Task σ α) : Prop where
  issues : Issues p s c t
  result : ∀ w, s.client ∉ w.abandoned → ∀ a, (runIn w t).1 = .ok a ↔
    ∃ r, (p.answer s.client c w.remote).outcome = .ok r ∧ read r = some a

lemma reads_issue (verb : String) : Reads p s c some (s.issue p verb c) where
  issues := issues_issue verb
  result w hw a := by
    rw [runIn_issue, if_neg (mt List.contains_iff_mem.1 hw)]
    cases (p.answer s.client c w.remote).outcome <;> simp

lemma Reads.bind {read : c.Reply → Option α} {g : α → Option β} {t : Task σ α} {f : α → Task σ β}
    (ht : Reads p s c read t) (hstill : ∀ a, Still (f a))
    (hf : ∀ a w b, (runIn w (f a)).1 = .ok b ↔ g a = some b) :
    Reads p s c (fun r => (read r).bind g) (t >>= f) where
  issues := ht.issues.bind hstill
  result w hw b := by
    simp only [Option.bind_eq_some_iff]
    constructor
    · intro h
      obtain ⟨a, w₁, hrun, hrest⟩ := runIn_bind_eq_ok.1 (Prod.ext h rfl)
      obtain ⟨r, ho, ha⟩ := (ht.result w hw a).1 (by rw [hrun])
      exact ⟨r, ho, a, ha, (hf a w₁ b).1 (by rw [hrest])⟩
    · rintro ⟨r, ho, a, ha, hb⟩
      have hrun := (ht.result w hw a).2 ⟨r, ho, ha⟩
      rw [runIn_bind_ok (Prod.ext hrun rfl)]
      exact (hf a _ b).2 hb

lemma reads_capabilities : Reads p s .capabilities
    (fun ts => some (ts.map fun t => Text.upper t.toText)) (s.capabilities p) :=
  (reads_issue (c := .capabilities) "CAPABILITY").bind
    (g := fun ts => some (ts.map fun t => Text.upper t.toText)) (fun _ => .pure _)
    fun _ _ _ => by simp

lemma runIn_epoch_iff {is : Items} {n : Int} :
    (runIn w (epoch is)).1 = .ok n ↔ is.epoch? = some n := by
  unfold epoch Items.epoch?
  rcases is.find? "UIDVALIDITY" with _ | _ | t | ts
  · simp
  · simp
  · unfold number
    dsimp only
    cases t.toInt? <;> simp
  · simp

/-- Selecting a mailbox gives the UIDVALIDITY that the server told. -/
lemma reads_select (mailbox : String) (readOnly : Bool) :
    Reads p s (.select mailbox readOnly) Items.epoch? (s.select p mailbox readOnly) where
  issues := issues_select mailbox readOnly
  result w hw n := by
    have hissue := reads_issue (p := p) (s := s) (c := .select mailbox readOnly)
      (if readOnly then "EXAMINE" else "SELECT")
    constructor
    · intro h
      obtain ⟨x, w₁, hattempt, hrest⟩ := runIn_bind_eq_ok.1 (Prod.ext h rfl)
      have hrun := runIn_attempt_eq_ok.1 hattempt
      cases x with
      | ok is =>
        obtain ⟨r, ho, hr⟩ := (hissue.result w hw is).1 (by rw [hrun]; rfl)
        cases hr
        exact ⟨is, ho, runIn_epoch_iff.1 (by rw [hrest])⟩
      | error e =>
        obtain ⟨gone, w₂, -, hrefuse⟩ := runIn_bind_eq_ok.1 hrest
        split at hrefuse <;> cases hrefuse
    · rintro ⟨is, ho, hn⟩
      have hrun := (hissue.result w hw is).2 ⟨is, ho, rfl⟩
      have hattempt : runIn w (attempt (s.issue p (if readOnly then "EXAMINE" else "SELECT")
          (.select mailbox readOnly))) = (.ok (.ok is), _) :=
        runIn_attempt_eq_ok.2 (Prod.ext hrun rfl)
      unfold select
      rw [runIn_bind_ok hattempt]
      exact runIn_epoch_iff.2 hn

/-- What a reply to a fetch tells of a message. -/
def itemsOf (uid : Int) (found : List (Int × Items)) : Option Items :=
  (found.find? (·.1 == uid)).map (·.2)

/-- The body in a reply to a fetch of a message's source. -/
def bodyOf (uid : Int) (found : List (Int × Items)) : Option Value :=
  (itemsOf uid found).bind Items.body?

lemma reads_fetch (uid : Int) (is : List FetchItem) :
    Reads p s (.fetch uid is) (itemsOf uid) (s.fetch p uid is) := by
  refine (reads_issue (c := .fetch uid is) "UID FETCH").bind (g := itemsOf uid)
    (fun found => ?_) fun found w is => ?_
  · split
    · exact .pure _
    · exact .refuse _
  · unfold itemsOf
    split
    · next h => simp [h]
    · next h => simp [h]

lemma reads_fetchFlags (uid : Int) :
    Reads p s (.fetch uid [.flags]) (fun found => (itemsOf uid found).map Items.flags)
      (s.fetchFlags p uid) := by
  simp only [Option.map_eq_bind]
  exact (reads_fetch uid [.flags]).bind (fun _ => .pure _) fun _ _ _ => by simp

lemma reads_fetchSource (uid : Int) :
    Reads p s (.fetch uid [.source]) (bodyOf uid) (s.fetchSource p uid) := by
  refine (reads_fetch uid [.source]).bind (fun is => ?_) fun is w v => ?_
  · split
    · exact .pure _
    · exact .refuse _
  · cases is.body? <;> simp

/-- The header and the flags in a reply to a fetch. -/
def headOf (uid : Int) (found : List (Int × Items)) : Option (Value × List String) :=
  (itemsOf uid found).bind fun is => is.body?.map fun header => (header, is.flags)

lemma reads_fetchHeader (uid : Int) :
    Reads p s (.fetch uid [.flags, .headerFields]) (headOf uid) (s.fetchHeader p uid) := by
  refine (reads_fetch uid [.flags, .headerFields]).bind (fun is => ?_) fun is w x => ?_
  · split
    · exact .pure _
    · exact .refuse _
  · cases is.body? <;> simp

/-- To check the epoch of a message is to read off a selection that it is right. -/
lemma reads_ensureEpoch (v : Service σ) (id : MessageId) (readOnly : Bool) :
    Reads v.peer s (.select id.mailbox readOnly)
      (fun is => is.epoch?.bind fun n => if n = id.uidvalidity then some () else none)
      (v.ensureEpoch s id readOnly) := by
  refine (reads_select id.mailbox readOnly).bind (fun n => ?_) fun n w u => ?_
  · split
    · exact .refuse _
    · exact .pure _
  · by_cases hn : n = id.uidvalidity <;> simp [hn]

section Runs

variable {read : c.Reply → Option α} {t : Task σ α} {a : α} {f : Failure}

/-- A result was read off the reply to a call, and the session is still in use. -/
structure Replied (s : Session) (c : Call) (r : c.Reply) (w w' : World σ) : Prop where
  added : Added [.called s.client c (.ok r)] w w'
  inUse : s.client ∉ w'.abandoned
  abandoned : w'.abandoned = w.abandoned
  clients : w'.clients = w.clients

/-- A call was made from whose outcome nothing could be read. -/
structure Unread (s : Session) (c : Call) (read : c.Reply → Option α)
    (o : Except Fault c.Reply) (w w' : World σ) : Prop where
  added : Added [.called s.client c o] w w'
  unread : ∀ r, o = .ok r → read r = none
  abandoned : ∀ j ∈ w'.abandoned, j = s.client ∨ j ∈ w.abandoned
  clients : w'.clients = w.clients

lemma Reads.inUse (ht : Reads p s c read t) (h : runIn w t = (.ok a, w')) :
    s.client ∉ w.abandoned := by
  intro hw
  obtain ⟨e, hrun, -⟩ := ht.issues.refused w hw
  rw [hrun] at h
  cases h

lemma Reads.replied (ht : Reads p s c read t) (h : runIn w t = (.ok a, w')) :
    ∃ r, read r = some a ∧ Replied s c r w w' := by
  have hw := ht.inUse h
  obtain ⟨r, ho, ha⟩ := (ht.result w hw a).1 (by rw [h])
  have hworld := ht.issues.called w hw
  have habandoned : (issued p s c w).abandoned = w.abandoned := by
    unfold issued
    rw [ho]
    rfl
  rw [h] at hworld
  obtain rfl : w' = issued p s c w := hworld
  refine ⟨r, ha, ?_, habandoned ▸ hw, habandoned, issued_clients⟩
  rw [Added, issued_trace, ho]

lemma Reads.unread (ht : Reads p s c read t) (hw : s.client ∉ w.abandoned)
    (h : runIn w t = (.error f, w')) : ∃ o, Unread s c read o w w' := by
  have hworld := ht.issues.called w hw
  rw [h] at hworld
  obtain rfl : w' = issued p s c w := hworld
  refine ⟨_, issued_trace, fun r ho => ?_, fun j => of_mem_issued_abandoned, issued_clients⟩
  refine Option.eq_none_iff_forall_ne_some.2 fun a ha => ?_
  have hok := (ht.result w hw a).2 ⟨r, ho, ha⟩
  rw [h] at hok
  cases hok

/-- A message whose epoch was checked is up to date, and the session is in use. -/
lemma ensureEpoch_replied {v : Service σ} {id : MessageId} {readOnly : Bool} {u : Unit}
    (h : runIn w (v.ensureEpoch s id readOnly) = (.ok u, w')) :
    ∃ is, is.epoch? = some id.uidvalidity ∧ Replied s (.select id.mailbox readOnly) is w w' := by
  obtain ⟨is, hread, hreplied⟩ := (reads_ensureEpoch v id readOnly).replied h
  obtain ⟨n, hn, hsame⟩ := Option.bind_eq_some_iff.1 hread
  split at hsame
  · next heq => exact ⟨is, heq ▸ hn, hreplied⟩
  · cases hsame

/-- How a message is read that is to be copied elsewhere: its mailbox is selected, its source is
fetched if the epoch is right, and a body is found or not. -/
inductive ReadsForCopy (s : Session) (id : MessageId) (l : Ledger) (w w' : World σ) :
    Except Failure (Option Value × Ledger) → List Event → Prop where
  | unselected (o : Except Fault Items) (f : Failure) (ho : ¬ Tells o id.uidvalidity) :
    ReadsForCopy s id l w w' (.error f) [.called s.client (.select id.mailbox true) o]
  | unread (is : Items) (o : Except Fault (List (Int × Items)))
      {y : Except Failure (Option Value × Ledger)} (his : is.epoch? = some id.uidvalidity)
      (ho : ∀ found, o = .ok found → bodyOf id.uid found = none)
      (hy : (∃ e, y = .ok (none, l.record "fetch_raw_message_source" (some id.uid)
        (.error e : Except Error Value))) ∨ ∃ f, y = .error f) :
    ReadsForCopy s id l w w' y [.called s.client (.select id.mailbox true) (.ok is),
      .called s.client (.fetch id.uid [.source]) o]
  | read (is : Items) (found : List (Int × Items)) {body : Value}
      (his : is.epoch? = some id.uidvalidity) (hbody : bodyOf id.uid found = some body)
      (habandoned : w'.abandoned = w.abandoned) :
    ReadsForCopy s id l w w'
      (.ok (some body, l.record "fetch_raw_message_source" (some id.uid) (.ok body)))
      [.called s.client (.select id.mailbox true) (.ok is),
        .called s.client (.fetch id.uid [.source]) (.ok found)]

lemma readsForCopy_fetchForCopy {v : Service σ} {id : MessageId} {l : Ledger}
    {y : Except Failure (Option Value × Ledger)} (hw : s.client ∉ w.abandoned)
    (h : runIn w (v.fetchForCopy s id l) = (y, w')) :
    ∃ es, Added es w w' ∧ w'.clients = w.clients ∧ ReadsForCopy s id l w w' y es := by
  unfold Service.fetchForCopy at h
  rw [runIn_bind] at h
  rcases hepoch : runIn w (v.ensureEpoch s id true) with ⟨f | u, w₁⟩
  · rw [hepoch] at h
    cases h
    obtain ⟨o, hunread⟩ := (reads_ensureEpoch v id true).unread hw hepoch
    refine ⟨_, hunread.added, hunread.clients, .unselected o f ?_⟩
    rintro ⟨is, rfl, his⟩
    simpa [his] using hunread.unread is rfl
  · obtain ⟨is, his, hreplied⟩ := ensureEpoch_replied hepoch
    rw [hepoch] at h
    dsimp only at h
    rw [runIn_stepOf] at h
    rcases hfetch : runIn w₁ (s.fetchSource v.peer id.uid) with ⟨f | body, w₂⟩
    · obtain ⟨o, hunread⟩ := (reads_fetchSource id.uid).unread hreplied.inUse hfetch
      have hclients : w₂.clients = w.clients := hunread.clients.trans hreplied.clients
      have hadded := hreplied.added.trans hunread.added
      rw [hfetch] at h
      cases f with
      | refused e =>
        cases h
        exact ⟨_, hadded, hclients, .unread is o his hunread.unread (.inl ⟨e, rfl⟩)⟩
      | escaped e =>
        cases h
        exact ⟨_, hadded, hclients, .unread is o his hunread.unread (.inr ⟨_, rfl⟩)⟩
    · obtain ⟨found, hbody, hfetched⟩ := (reads_fetchSource id.uid).replied hfetch
      rw [hfetch] at h
      cases h
      exact ⟨_, hreplied.added.trans hfetched.added, hfetched.clients.trans hreplied.clients,
        .read is found his hbody (hfetched.abandoned.trans hreplied.abandoned)⟩

end Runs

end Session

section Visits

variable {st : Settings} {a : Account} {k : ClientId} {es : List Event}

/-- The events of connecting. -/
def greeting (st : Settings) (a : Account) (k : ClientId) : List Event :=
  [.called k (.connect a.host a.port st.connectTimeout st.greetingTimeout) (.ok ()),
    .called k (.login a.user a.password) (.ok ()), .timeoutSet k st.socketTimeout]

/-- Events of which each belongs to one client and ends its session. -/
def Ending (k : ClientId) (es : List Event) : Prop :=
  ∀ e ∈ es, e.client = k ∧ e.isEnding

/-- The events of an attempt to connect that fails. -/
inductive Missed (st : Settings) (a : Account) (k : ClientId) : List Event → Prop where
  | uncalled (h : a.Barred) : Missed st a k []
  | unreached (f : Fault) : Missed st a k
    [.called k (.connect a.host a.port st.connectTimeout st.greetingTimeout) (.error f)]
  | rejected (f : Fault) {rest : List Event} (hrest : Ending k rest) : Missed st a k
    (.called k (.connect a.host a.port st.connectTimeout st.greetingTimeout) (.ok ()) ::
      .called k (.login a.user a.password) (.error f) :: rest)

lemma Missed.not_mem_login {j : ClientId} {user password : String} (h : Missed st a k es) :
    .called j (.login user password) (.ok ()) ∉ es := by
  intro hmem
  cases h with
  | uncalled => cases hmem
  | unreached f => cases List.mem_singleton.1 hmem
  | rejected f hrest =>
    simp only [List.mem_cons, Event.called.injEq, reduceCtorEq, heq_eq_eq, false_and, and_false,
      false_or] at hmem
    cases (hrest _ hmem).2

/-- Events that open or end the session of one client. -/
def Framing (k : ClientId) (es : List Event) : Prop :=
  ∀ e ∈ es, e.client = k ∧ e.isVerb = false

lemma Framing.notMem {c : Call} {o : Except Fault c.Reply} (h : Framing k es)
    (hc : c.isFrame = false) : .called k c o ∉ es := by
  intro hmem
  have hverb : (!c.isFrame) = false := (h _ hmem).2
  rw [hc] at hverb
  cases hverb

/-- What no frame call is about can be told without the frame. -/
lemma mem_framed {before after : List Event} {c : Call} {o : Except Fault c.Reply}
    (hbefore : Framing k before) (hafter : Framing k after) (hc : c.isFrame = false) :
    .called k c o ∈ before ++ es ++ after ↔ .called k c o ∈ es := by
  simp [hbefore.notMem hc, hafter.notMem hc]

lemma Framing.countP_isVerb (h : Framing k es) : es.countP Event.isVerb = 0 :=
  List.countP_eq_zero.2 fun e he => by simp [(h e he).2]

lemma framing_greeting (st : Settings) (a : Account) (k : ClientId) :
    Framing k (greeting st a k) := by
  simp [Framing, greeting, Event.client, Event.isVerb, Call.isFrame]

lemma Ending.framing (h : Ending k es) : Framing k es := by
  intro e he
  obtain ⟨hclient, hending⟩ := h e he
  refine ⟨hclient, ?_⟩
  cases e with
  | timeoutSet => rfl
  | called j c o => cases c <;> first | rfl | cases hending

lemma Missed.framing (h : Missed st a k es) : Framing k es := by
  cases h with
  | uncalled => exact List.forall_mem_nil _
  | unreached f => exact List.forall_mem_singleton.2 ⟨rfl, rfl⟩
  | rejected f hrest =>
    exact List.forall_mem_cons.2 ⟨⟨rfl, rfl⟩, List.forall_mem_cons.2 ⟨⟨rfl, rfl⟩, hrest.framing⟩⟩

/-- A session was opened by the client that is next to be constructed. -/
structure Opened (st : Settings) (a : Account) (w : World σ) (s : Session) (w' : World σ) :
    Prop where
  client : s.client = w.clients
  clients : w'.clients = w.clients + 1
  abandoned : w'.abandoned = w.abandoned
  added : Added (greeting st a w.clients) w w'

/-- No session was opened. -/
structure Misses (st : Settings) (a : Account) (w w' : World σ) (es : List Event) : Prop where
  missed : Missed st a w.clients es
  added : Added es w w'
  clients : w.clients ≤ w'.clients
  abandoned : w'.abandoned = w.abandoned

/-- The construction of the client by which connecting begins. -/
def dialled (st : Settings) (a : Account) (k : ClientId) (o : Except Fault Unit) : Event :=
  .called k (.connect a.host a.port st.connectTimeout st.greetingTimeout) o

/-- The calls of connecting if the login fails, with those that are made afterwards. -/
def rejected (st : Settings) (a : Account) (k : ClientId) (f : Fault) (after : List Event) :
    List Event :=
  dialled st a k (.ok ()) :: .called k (.login a.user a.password) (.error f) :: after

/-- All ways in which connecting as a client can end, with the calls made until then. -/
inductive Connects (st : Settings) (a : Account) (k : ClientId) :
    Except Failure Session → List Event → Prop where
  | uncalled (e : Error) (h : a.Barred) : Connects st a k (.error (.refused e)) []
  | unreached (f : Fault) :
    Connects st a k (.error (.refused f.whileConnecting)) [dialled st a k (.error f)]
  /-- The client refused the credentials, and its connection is left open. -/
  | left (f : Fault) (hf : f.kind = .value) :
    Connects st a k (.error (.escaped (.clientValue f.message))) (rejected st a k f [])
  | dropped (f : Fault) (hf : f.kind ≠ .value) (o : Except Fault Unit)
      (ho : ∀ g, o = .error g → g.kind ≠ .value) :
    Connects st a k (.error f.whileLoggingIn) (rejected st a k f [.called k .shutdown o])
  /-- The client refused to be shut down. -/
  | stuck (f g : Fault) (hf : f.kind ≠ .value) (hg : g.kind = .value) :
    Connects st a k (.error (.escaped (.clientValue g.message)))
      (rejected st a k f [.called k .shutdown (.error g)])
  | opened : Connects st a k (.ok ⟨k⟩) (greeting st a k)

/-- Connecting has ended. -/
structure Ended (st : Settings) (a : Account) (w : World σ) (r : Except Failure Session)
    (w' : World σ) (es : List Event) : Prop where
  connects : Connects st a w.clients r es
  added : Added es w w'
  clients : w'.clients = w.clients + es.countP Event.isConstruction
  abandoned : w'.abandoned = w.abandoned

/-- A client was constructed that received some events, and no session was given up. -/
structure Constructs (w w' : World σ) (es : List Event) : Prop where
  added : Added es w w'
  clients : w'.clients = w.clients + 1
  abandoned : w'.abandoned = w.abandoned

lemma Constructs.asked {c : Call} (h : Constructs w w' es) :
    Constructs w (Task.asked p k c w') (es ++ [.called k c (p.answer k c w'.remote).outcome]) :=
  ⟨h.added.trans rfl, h.clients, h.abandoned⟩

lemma Constructs.ended {r : Except Failure Session} (h : Constructs w w' es)
    (hconnects : Connects st a w.clients r es) (hone : es.countP Event.isConstruction = 1) :
    Ended st a w r w' es :=
  ⟨hconnects, h.added, h.clients.trans (by rw [hone]), h.abandoned⟩

lemma ended_openClient (w : World σ) :
    Triple (· = w) (openClient p st a)
      (fun k w' => k = w.clients ∧ Constructs w w' [dialled st a k (.ok ())])
      fun f w' => ∃ es, Ended st a w (.error f) w' es := by
  rintro w rfl
  have hget : runIn w (get : Task σ (World σ)) = (.ok w, w) := rfl
  unfold openClient
  rw [runIn_bind_ok hget, runIn_bind_ok (runIn_ask w p _ _)]
  have hadded : Added [dialled st a w.clients _] w (Task.asked p w.clients
    (.connect a.host a.port st.connectTimeout st.greetingTimeout) w) := rfl
  cases ho : (p.answer w.clients (.connect a.host a.port st.connectTimeout st.greetingTimeout)
    w.remote).outcome with
  | error f =>
    rw [ho] at hadded
    exact ⟨_, .unreached f, hadded, rfl, rfl⟩
  | ok u =>
    rw [ho] at hadded
    exact ⟨rfl, hadded, rfl, rfl⟩

/-- After a failed login the connection is dropped by one call. Its failure is passed over unless
the client refused its arguments. -/
lemma ended_shutdownQuietly {f : Fault} (w : World σ) (hf : f.kind ≠ .value) :
    Triple (Constructs w · (rejected st a w.clients f [])) (shutdownQuietly p w.clients)
      (fun _ w' => ∃ es, Ended st a w (.error f.whileLoggingIn) w' es)
      fun e w' => ∃ es, Ended st a w (.error e) w' es := by
  intro w₁ hw
  have hasked := hw.asked (p := p) (k := w.clients) (c := .shutdown)
  unfold shutdownQuietly
  rw [runIn_bind_ok (runIn_ask w₁ p w.clients .shutdown)]
  cases ho : (p.answer w.clients .shutdown w₁.remote).outcome with
  | ok u =>
    rw [ho] at hasked
    exact ⟨_, hasked.ended (.dropped f hf (.ok u) nofun) rfl⟩
  | error g =>
    rw [ho] at hasked
    dsimp only
    by_cases hg : g.kind = .value
    · rw [if_pos hg]
      exact ⟨_, hasked.ended (.stuck f g hf hg) rfl⟩
    · rw [if_neg hg]
      have hother : ∀ g', Except.error g = (.error g' : Except Fault Unit) → g'.kind ≠ .value := by
        rintro _ ⟨⟩
        exact hg
      exact ⟨_, .dropped f hf (.error g) hother, hasked.added, hasked.clients, hasked.abandoned⟩

lemma ended_connect (w : World σ) :
    Triple (· = w) (connect p st a) (fun s w' => ∃ es, Ended st a w (.ok s) w' es)
      fun f w' => ∃ es, Ended st a w (.error f) w' es := by
  have huncalled : ∀ e w', a.Barred → w' = w →
      ∃ es, Ended st a w (.error (.refused e)) w' es := by
    rintro e w' hbarred rfl
    exact ⟨[], .uncalled e hbarred, .nil w', rfl, rfl⟩
  unfold connect
  split
  · have hbarred : a.Barred := .inl (by simpa using ‹(!a.secure) = true›)
    exact .bind (Q := fun _ _ => False) (.refuse fun w' => huncalled _ w' hbarred)
      fun _ _ h => h.elim
  refine .bind (Q := fun _ => (· = w))
    (.check (fun _ _ _ hw => hw) fun e he w' => huncalled e w' (Account.barred_of_host he))
    fun _ => .bind (ended_openClient w) fun k => ?_
  rintro w₁ ⟨rfl, hw⟩
  have hasked := hw.asked (p := p) (k := w.clients) (c := .login a.user a.password)
  rw [runIn_bind_ok (runIn_ask w₁ p _ _)]
  cases ho : (p.answer w.clients (.login a.user a.password) w₁.remote).outcome with
  | ok u =>
    rw [ho] at hasked
    exact ⟨greeting st a w.clients, .opened, hasked.added.trans rfl, hasked.clients,
      hasked.abandoned⟩
  | error f =>
    rw [ho] at hasked
    dsimp only
    by_cases hf : f.kind = .value
    · rw [if_neg (not_not_intro hf)]
      have hescape : f.whileLoggingIn = .escaped (.clientValue f.message) := by
        simp [Fault.whileLoggingIn, hf]
      rw [hescape]
      exact ⟨_, hasked.ended (.left f hf) rfl⟩
    · rw [if_pos hf]
      exact Triple.bind (ended_shutdownQuietly w hf) (fun _ => .throw fun _ hw => hw) _ hasked

lemma connect_opened {s : Session} {w w' : World σ} (h : runIn w (connect p st a) = (.ok s, w')) :
    Opened st a w s w' := by
  obtain ⟨es, hconnects, hadded, hclients, habandoned⟩ := (ended_connect w).ok rfl h
  cases hconnects
  exact ⟨rfl, hclients, habandoned, hadded⟩

lemma connect_misses {f : Failure} {w w' : World σ}
    (h : runIn w (connect p st a) = (.error f, w')) : ∃ es, Misses st a w w' es := by
  obtain ⟨es, hconnects, hadded, hclients, habandoned⟩ := (ended_connect w).error rfl h
  have hmissed : Missed st a w.clients es := by
    cases hconnects with
    | uncalled e hbarred => exact .uncalled hbarred
    | unreached f => exact .unreached f
    | left f hf => exact .rejected f (List.forall_mem_nil _)
    | dropped f hf o ho => exact .rejected f (List.forall_mem_singleton.2 ⟨rfl, rfl⟩)
    | stuck f g hf hg => exact .rejected f (List.forall_mem_singleton.2 ⟨rfl, rfl⟩)
  exact ⟨es, hmissed, hadded, by omega, habandoned⟩

/-- A session was closed, by at most the call that ends it. -/
structure Closes (s : Session) (w w' : World σ) (es : List Event) : Prop where
  ending : Ending s.client es
  added : Added es w w'
  clients : w'.clients = w.clients
  abandoned : w'.abandoned = w.abandoned

lemma closes_close (p : Peer σ) (s : Session) (w : World σ) :
    ∃ es, Closes s w (runIn w (s.close p)).2 es := by
  rcases Session.close_cases p s w with ⟨-, hsame⟩ | ⟨-, c, logs, hc, hrun⟩
  · rw [hsame]
    exact ⟨[], List.forall_mem_nil _, .nil w, rfl, rfl⟩
  · rw [hrun]
    refine ⟨[.called s.client c _], List.forall_mem_singleton.2 ⟨rfl, ?_⟩, rfl, rfl, rfl⟩
    split at hc <;> subst hc <;> rfl

/-- The block of a session is left by closing it, and ends like its body if that goes well. -/
lemma within_cases {v : Service σ} {t : Task σ α} {x : Except Failure α}
    (h : runIn w (s.within v.peer t) = (x, w')) :
    ∃ y w₁ es, runIn w t = (y, w₁) ∧ Closes s w₁ w' es ∧
      (x = y ∨ (∃ f, x = .error f) ∧ ¬ v.peer.Orderly) := by
  obtain ⟨es, hcloses⟩ := closes_close v.peer s (runIn w t).2
  have hunruly := triple_close (p := v.peer) (s := s) (runIn w t).2 trivial
  rw [runIn_within] at h
  refine ⟨_, _, es, rfl, ?_⟩
  rcases hclose : runIn (runIn w t).2 (s.close v.peer) with ⟨f | u, w₂⟩
  · rw [hclose] at h hcloses hunruly
    cases h
    exact ⟨hcloses, .inr ⟨⟨f, rfl⟩, hunruly⟩⟩
  · rw [hclose] at h hcloses
    cases h
    exact ⟨hcloses, .inl rfl⟩

lemma within_eq_ok {v : Service σ} {t : Task σ α} {x : α}
    (h : runIn w (s.within v.peer t) = (.ok x, w')) :
    ∃ w₁ es, runIn w t = (.ok x, w₁) ∧ Closes s w₁ w' es := by
  obtain ⟨y, w₁, es, hrun, hcloses, rfl | ⟨⟨f, hf⟩, -⟩⟩ := within_cases h
  · exact ⟨w₁, es, hrun, hcloses⟩
  · cases hf

end Visits

section Freshness

variable {st' : Settings} {st : Settings}

/-- The clients that are constructed next were never given up. -/
def Fresh (w : World σ) : Prop :=
  ∀ k ∈ w.abandoned, k < w.clients

lemma Fresh.next (h : Fresh w) : w.clients ∉ w.abandoned :=
  fun hw => Nat.lt_irrefl _ (h _ hw)

lemma Opened.inUse {a : Account} (h : Opened st a w s w') (hw : Fresh w) :
    s.client ∉ w'.abandoned := by
  rw [h.client, h.abandoned]
  exact hw.next

lemma Opened.fresh {a : Account} (h : Opened st a w s w') (hw : Fresh w) :
    Fresh w' ∧ s.client < w'.clients := by
  unfold Fresh
  rw [h.abandoned, h.clients, h.client]
  exact ⟨fun k hk => Nat.lt_succ_of_lt (hw k hk), Nat.lt_succ_self _⟩

lemma Misses.fresh {a : Account} {es : List Event} (h : Misses st a w w' es) (hw : Fresh w) :
    Fresh w' := by
  unfold Fresh
  rw [h.abandoned]
  exact fun k hk => Nat.lt_of_lt_of_le (hw k hk) h.clients

lemma Closes.fresh {es : List Event} (h : Closes s w w' es) (hw : Fresh w) : Fresh w' := by
  unfold Fresh
  rwa [h.abandoned, h.clients]

lemma fresh_dialogue {t : Task σ α} (ht : Dialogue p s t) :
    Triple (fun w => Fresh w ∧ s.client < w.clients) t
      (fun _ w => Fresh w ∧ s.client < w.clients) fun _ w => Fresh w ∧ s.client < w.clients := by
  refine ht.keeps (fun c w _ _ hw => ?_) (fun _ _ hw => hw) fun _ _ hw => hw
  have hclients : (s.issued p c w).clients = w.clients := Session.issued_clients
  refine ⟨fun k hk => ?_, by rw [hclients]; exact hw.2⟩
  rw [hclients]
  rcases Session.of_mem_issued_abandoned hk with rfl | hk
  · exact hw.2
  · exact hw.1 k hk

lemma fresh_within {v : Service σ} {t : Task σ α} (ht : Dialogue v.peer s t) :
    Triple (fun w => Fresh w ∧ s.client < w.clients) (s.within v.peer t) (fun _ => Fresh)
      fun _ => Fresh := by
  have hfinal : ∀ {w x w'}, Fresh w ∧ s.client < w.clients →
      runIn w (s.within v.peer t) = (x, w') → Fresh w' := by
    intro w x w' hw hrun
    obtain ⟨y, w₁, es, hbody, hcloses, -⟩ := within_cases hrun
    have hkept := (fresh_dialogue ht).final hw
    rw [hbody] at hkept
    exact hcloses.fresh hkept.1
  exact .of_cases (fun _ _ _ hw hrun => hfinal hw hrun) fun _ _ _ hw hrun => hfinal hw hrun

lemma fresh_connect (a : Account) :
    Triple Fresh (connect p st a) (fun s w => Fresh w ∧ s.client < w.clients) fun _ => Fresh := by
  refine .of_cases (fun w s w' hw hrun => (connect_opened hrun).fresh hw) fun w f w' hw hrun => ?_
  obtain ⟨es, hmisses⟩ := connect_misses hrun
  exact hmisses.fresh hw

lemma fresh_attempt_connect (a : Account) :
    Triple Fresh (attempt (connect p st a))
      (fun r w => Fresh w ∧ ∀ s, r = .ok s → s.client < w.clients) fun _ => Fresh := by
  refine .attempt ((fresh_connect a).imp (fun _ hw => hw) (fun s w hw => ⟨hw.1, ?_⟩)
    fun _ _ hw => hw) (fun _ _ hw => ⟨hw, nofun⟩) fun _ _ hw => hw
  rintro _ ⟨⟩
  exact hw.2

lemma fresh_itinerary {v : Service σ} {t t' : Task σ α} (ht : Itinerary v.peer st st' t t') :
    Triple Fresh t (fun _ => Fresh) fun _ => Fresh := by
  induction ht with
  | pure a => exact .pure fun _ hw => hw
  | throw f => exact .throw fun _ hw => hw
  | bind _ _ iht ihf => exact iht.bind ihf
  | attempt _ ih => exact .attempt ih (fun _ _ hw => hw) fun _ _ hw => hw
  | log _ _ _ => exact .modify fun _ hw => hw
  | logIssues _ _ _ _ _ => exact .modify fun _ hw => hw
  | now => exact fun _ hw => hw
  | cursors f => exact fun _ hw => hw
  | visit ha _ hbody hok hok' _ _ iherror ihrest =>
    refine .bind (fresh_attempt_connect _) fun r => ?_
    cases r with
    | ok s =>
      rw [hok]
      exact ((fresh_within (hbody s)).bind ihrest).before fun _ hw => ⟨hw.1, hw.2 s rfl⟩
    | error e => exact (iherror e).before fun _ hw => hw.1

end Freshness

end Imap

namespace Service

variable {σ : Type}

/-- In every run the client that is next to be constructed was never given up. -/
lemma after_fresh (v : Service σ) (remote : σ) (clock : Nat) (os : List (Occurrence σ)) :
    Fresh (v.after (.start remote clock) os) := by
  have hstart : Fresh (World.start remote clock) := fun _ hk => by cases hk
  refine after_keeps (fun o _ w hw => ?_) hstart
  cases o with
  | wait n => exact hw
  | drift f => exact hw
  | call today tool args =>
    have has : v.settings.accounts.map Account.anonymous =
        v.settings.accounts.map Account.anonymous := rfl
    exact (fresh_itinerary
      (Itinerary.call (v := { v with today := today }) has tool args)).final hw

end Service

end Mailroom
