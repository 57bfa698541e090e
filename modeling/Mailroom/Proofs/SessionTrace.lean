import Mailroom.Proofs.Itinerary
import Mailroom.Proofs.Paging

/-!
# The sessions of a run

Every client that is constructed is used as one session and ended once, by the call that constructed
it and before another client is constructed. The trace of a run is a sequence of such visits, failed
attempts to connect among them, whatever the calls are and however they end.
-/

namespace Mailroom

open Imap

namespace Imap

namespace Event

def client : Event → ClientId
  | called k _ _ | timeoutSet k _ => k

/-- An attempt to construct a client. -/
def isConnect : Event → Bool
  | called _ (.connect ..) _ => true
  | _ => false

def isConstruction : Event → Bool
  | called _ (.connect ..) (.ok _) => true
  | _ => false

def isVerb : Event → Bool
  | called _ c _ => !c.isFrame
  | timeoutSet .. => false

/-- A verb that fails and leaves the conversation in an unknown state. -/
def isBreak : Event → Bool
  | called _ c (.error f) => !c.isFrame && FaultKind.breaking.contains f.kind
  | _ => false

end Event

def Constructed (k : ClientId) (es : List Event) : Prop :=
  ∃ e ∈ es, e.isConstruction ∧ e.client = k

/-- What a client was called after its construction, and the deadlines that were set for it. -/
def received (k : ClientId) (es : List Event) : List Event :=
  es.filter fun e => e.client = k && !e.isConnect

/-- All that a client receives. If its login fails the connection is dropped. Else it is given a
deadline and used, and ended once: the connection is dropped if a verb broke the conversation, and
logged out of if none did. -/
inductive Lifetime (k : ClientId) : List Event → Prop where
  | rejected (user password : String) (f : Fault) (o : Except Fault Unit) :
    Lifetime k [.called k (.login user password) (.error f), .called k .shutdown o]
  | used (user password : String) (n : Nat) {verbs : List Event} {c : Call}
      (o : Except Fault c.Reply) (hverbs : ∀ e ∈ verbs, e.client = k ∧ e.isVerb)
      (hc : c = if verbs.any Event.isBreak then .shutdown else .logout) :
    Lifetime k (.called k (.login user password) (.ok ()) :: .timeoutSet k n ::
      (verbs ++ [.called k c o]))

/-- The events of visits, one after another, that constructed the clients before `k`. -/
inductive Visits : ClientId → List Event → Prop where
  | none : Visits 0 []
  | missed {k : ClientId} {es : List Event} (h : Visits k es) (host : String) (port m n : Nat)
      (f : Fault) : Visits k (es ++ [.called k (.connect host port m n) (.error f)])
  | made {k : ClientId} {es life : List Event} (h : Visits k es) (host : String)
      (port m n : Nat) (hlife : Lifetime k life) :
    Visits (k + 1) (es ++ .called k (.connect host port m n) (.ok ()) :: life)

section Traces

variable {k n : ClientId} {es es' life before after : List Event} {e c : Event}

lemma Event.isConnect_of_isVerb (h : e.isVerb) : e.isConnect = false := by
  cases e with
  | timeoutSet k n => rfl
  | called k c o => cases c <;> first | rfl | cases h

lemma Event.isConnect_of_isConstruction (h : e.isConstruction) : e.isConnect := by
  cases e with
  | timeoutSet k n => cases h
  | called k c o => cases c <;> first | rfl | cases h

lemma Lifetime.of_mem (h : Lifetime k life) (he : e ∈ life) :
    e.client = k ∧ e.isConnect = false := by
  cases h with
  | rejected user password f o =>
    simp only [List.mem_cons, List.not_mem_nil, or_false] at he
    rcases he with rfl | rfl <;> exact ⟨rfl, rfl⟩
  | used user password n o hverbs hc =>
    simp only [List.mem_cons, List.mem_append, List.not_mem_nil, or_false] at he
    rcases he with rfl | rfl | he | rfl
    · exact ⟨rfl, rfl⟩
    · exact ⟨rfl, rfl⟩
    · exact ⟨(hverbs e he).1, Event.isConnect_of_isVerb (hverbs e he).2⟩
    · refine ⟨rfl, ?_⟩
      split at hc <;> subst hc <;> rfl

lemma received_append : received k (es ++ es') = received k es ++ received k es' :=
  List.filter_append ..

lemma received_connect (he : e.isConnect) : received k (e :: es) = received k es :=
  List.filter_cons_of_neg (by simp [he])

lemma received_eq_nil (h : ∀ e ∈ es, e.isConnect ∨ e.client ≠ k) : received k es = [] := by
  refine List.filter_eq_nil_iff.2 fun e he => ?_
  rcases h e he with hconnect | hclient
  · simp [hconnect]
  · simp [hclient]

lemma Lifetime.received_self (h : Lifetime k life) : received k life = life :=
  List.filter_eq_self.2 fun e he => by simp [h.of_mem he]

lemma constructed_append : Constructed k (es ++ es') ↔ Constructed k es ∨ Constructed k es' := by
  simp only [Constructed, List.mem_append, or_and_right, exists_or]

lemma Lifetime.constructed_iff (h : Lifetime n life) {host : String} {port l m : Nat} :
    Constructed k (.called n (.connect host port l m) (.ok ()) :: life) ↔ k = n := by
  constructor
  · rintro ⟨e, he, hconstruction, rfl⟩
    rcases List.mem_cons.1 he with rfl | he
    · rfl
    · have hconnect := Event.isConnect_of_isConstruction hconstruction
      rw [(h.of_mem he).2] at hconnect
      cases hconnect
  · rintro rfl
    exact ⟨_, List.mem_cons_self, rfl, rfl⟩

/-- Events of which each belongs to one of the first `n` clients, each of which was constructed and
served. -/
structure Accounted (n : ClientId) (es : List Event) : Prop where
  constructed : ∀ k, Constructed k es ↔ k < n
  lifetime : ∀ k < n, Lifetime k (received k es)
  owned : ∀ e ∈ es, e.isConnect ∨ e.client < n

lemma Accounted.received_next (h : Accounted n es) : received n es = [] :=
  received_eq_nil fun e he => (h.owned e he).imp_right fun hlt => Nat.ne_of_lt hlt

lemma Visits.accounted (h : Visits n es) : Accounted n es := by
  induction h with
  | none => exact ⟨fun k => by simp [Constructed], fun k hk => absurd hk (Nat.not_lt_zero k),
      fun e he => by cases he⟩
  | @missed n es h host port l m f ih =>
    have hnone : ∀ k, ¬ Constructed k [.called n (.connect host port l m) (.error f)] := by
      rintro k ⟨e, he, hconstruction, -⟩
      rw [List.mem_singleton.1 he] at hconstruction
      cases hconstruction
    refine ⟨fun k => ?_, fun k hk => ?_, fun e he => ?_⟩
    · rw [constructed_append, or_iff_left (hnone k), ih.constructed]
    · rw [received_append, received_connect rfl]
      exact (List.append_nil _).symm ▸ ih.lifetime k hk
    · rcases List.mem_append.1 he with he | he
      · exact ih.owned e he
      · exact .inl (List.mem_singleton.1 he ▸ rfl)
  | @made n es life h host port l m hlife ih =>
    refine ⟨fun k => ?_, fun k hk => ?_, fun e he => ?_⟩
    · rw [constructed_append, hlife.constructed_iff, ih.constructed, Nat.lt_succ_iff_lt_or_eq]
    · rw [received_append, received_connect rfl]
      rcases Nat.lt_succ_iff_lt_or_eq.1 hk with hlt | rfl
      · rw [received_eq_nil fun e he => .inr ((hlife.of_mem he).1.trans_ne (Nat.ne_of_gt hlt)),
          List.append_nil]
        exact ih.lifetime k hlt
      · rw [ih.received_next, hlife.received_self]
        exact hlife
    · rcases List.mem_append.1 he with he | he
      · exact (ih.owned e he).imp_right Nat.lt_succ_of_lt
      · rcases List.mem_cons.1 he with rfl | he
        · exact .inl rfl
        · exact .inr ((hlife.of_mem he).1 ▸ Nat.lt_succ_self _)

lemma before_connect (h : es ++ c :: life = before ++ e :: after)
    (hlife : ∀ x ∈ life, x.isConnect = false) (he : e.isConnect) :
    before = es ∨ ∃ rest, es = before ++ e :: rest := by
  rcases List.append_eq_append_iff.1 h with ⟨mid, hbefore, hmid⟩ | ⟨mid, hes, hmid⟩
  · cases mid with
    | nil => exact .inl (by simpa using hbefore)
    | cons x mid =>
      obtain ⟨rfl, hrest⟩ := List.cons.inj hmid
      have hconnect := hlife e (hrest ▸ List.mem_append_right mid List.mem_cons_self)
      rw [he] at hconnect
      cases hconnect
  · cases mid with
    | nil => exact .inl (by simpa using hes.symm)
    | cons x mid =>
      obtain ⟨rfl, -⟩ := List.cons.inj hmid
      exact .inr ⟨mid, hes⟩

/-- Where an attempt to connect begins, all visits before it are over. -/
lemma Visits.before_attempt (h : Visits n es) (hes : es = before ++ e :: after) (he : e.isConnect) :
    ∃ m, Visits m before := by
  induction h generalizing after with
  | none => simp at hes
  | missed h host port l m f ih =>
    rcases before_connect hes (by simp) he with rfl | ⟨rest, hrest⟩
    · exact ⟨_, h⟩
    · exact ih hrest
  | made h host port l m hlife ih =>
    rcases before_connect hes (fun x hx => (hlife.of_mem hx).2) he with rfl | ⟨rest, hrest⟩
    · exact ⟨_, h⟩
    · exact ih hrest

end Traces

/-! ## What a call keeps -/

/-- A peer whose clients can use any credentials: what fails a login is the server or the
network. -/
def Peer.TakesCredentials {σ : Type} (p : Peer σ) : Prop :=
  ∀ k user password x f,
    (p.answer k (.login user password) x).outcome = .error f → f.kind ≠ .value

section Worlds

variable {σ : Type} {p : Peer σ} {k : ClientId} {es verbs : List Event} {w w' : World σ} {c : Call}

/-- All visits are over. -/
structure Idle (w : World σ) : Prop where
  visits : Visits w.clients w.trace
  abandoned : ∀ j ∈ w.abandoned, j < w.clients
  closed : ∀ j ∈ w.closed, j < w.clients

/-- The visit of a client is not over, which has received some events since its construction. -/
structure Busy (k : ClientId) (es : List Event) (w : World σ) : Prop where
  visits : ∃ past host port m n, Visits k past ∧
    w.trace = past ++ .called k (.connect host port m n) (.ok ()) :: es
  clients : w.clients = k + 1
  abandoned : ∀ j ∈ w.abandoned, j ≤ k
  gone : k ∈ w.abandoned ↔ es.any Event.isBreak
  closed : ∀ j ∈ w.closed, j < k

lemma Busy.idle (h : Busy k es w) (hes : Lifetime k es) : Idle w := by
  obtain ⟨past, host, port, m, n, hpast, htrace⟩ := h.visits
  refine ⟨?_, fun j hj => ?_, fun j hj => ?_⟩
  · rw [h.clients, htrace]
    exact hpast.made host port m n hes
  · rw [h.clients]
    exact Nat.lt_succ_of_le (h.abandoned j hj)
  · rw [h.clients]
    exact Nat.lt_succ_of_lt (h.closed j hj)

lemma Busy.receive {e : Event} (h : Busy k es w) (htrace : w'.trace = w.trace ++ [e])
    (hclients : w'.clients = w.clients) (habandoned : ∀ j ∈ w'.abandoned, j ≤ k)
    (hgone : k ∈ w'.abandoned ↔ k ∈ w.abandoned ∨ e.isBreak) (hclosed : w'.closed = w.closed) :
    Busy k (es ++ [e]) w' where
  visits := by
    obtain ⟨past, host, port, m, n, hpast, hw⟩ := h.visits
    exact ⟨past, host, port, m, n, hpast, by rw [htrace, hw, List.append_assoc, List.cons_append]⟩
  clients := hclients.trans h.clients
  abandoned := habandoned
  gone := by rw [hgone, h.gone]; simp
  closed := hclosed ▸ h.closed

lemma Busy.asked (h : Busy k es w) (hc : c.isFrame) :
    Busy k (es ++ [.called k c (p.answer k c w.remote).outcome]) (Task.asked p k c w) := by
  refine h.receive rfl rfl h.abandoned ?_ rfl
  have hbreak : Event.isBreak (.called k c (p.answer k c w.remote).outcome) = false := by
    cases (p.answer k c w.remote).outcome <;> simp [Event.isBreak, hc]
  simp [hbreak, Task.asked]

lemma Busy.issued (h : Busy k es w) (hc : c.isFrame = false) :
    Busy k (es ++ [.called k c (p.answer k c w.remote).outcome])
      ((⟨k⟩ : Session).issued p c w) := by
  have hgone := Session.mem_issued_abandoned (p := p) (s := ⟨k⟩) (c := c) (w := w)
  refine h.receive Session.issued_trace Session.issued_clients (fun j hj => ?_) ?_
    Session.issued_closed
  · rcases Session.of_mem_issued_abandoned hj with rfl | hj
    · exact Nat.le_refl _
    · exact h.abandoned j hj
  · rw [hgone]
    refine or_congr_right ?_
    cases (p.answer k c w.remote).outcome <;> simp [Event.isBreak, hc]

/-- A session is open and was used for some verbs so far. -/
def Using (k : ClientId) (w : World σ) : Prop :=
  ∃ user password n verbs, (∀ e ∈ verbs, e.client = k ∧ e.isVerb) ∧
    Busy k (.called k (.login user password) (.ok ()) :: .timeoutSet k n :: verbs) w

variable {s : Session}

/-- Closing ends the session, for it was not closed before. -/
lemma Using.close (h : Using s.client w) : Idle (Task.runIn w (s.close p)).2 := by
  obtain ⟨user, password, n, verbs, hverbs, hbusy⟩ := h
  rcases Session.close_cases p s w with ⟨hclosed, -⟩ | ⟨-, c, logs, hc, hrun⟩
  · exact absurd (hbusy.closed _ hclosed) (Nat.lt_irrefl _)
  rw [hrun]
  have hframe : c.isFrame := by
    rw [hc]
    split <;> rfl
  have hend : Lifetime s.client (.called s.client (.login user password) (.ok ()) ::
      .timeoutSet s.client n ::
        (verbs ++ [.called s.client c (p.answer s.client c w.remote).outcome])) := by
    refine .used user password n _ hverbs (hc.trans (if_congr ?_ rfl rfl))
    rw [hbusy.gone]
    rfl
  have hidle : Idle (Task.asked p s.client c w) := (hbusy.asked hframe).idle hend
  refine ⟨hidle.visits, hidle.abandoned, fun j hj => ?_⟩
  rcases List.mem_cons.1 hj with rfl | hj
  · exact hbusy.clients ▸ Nat.lt_succ_self _
  · exact hidle.closed j hj

lemma Using.dialogue {α : Type} {t : Task σ α} (ht : Dialogue p s t) :
    Task.Triple (Using s.client) t (fun _ => Using s.client) fun _ => Using s.client := by
  refine ht.keeps (fun c w hc _ hw => ?_) (fun w logs hw => ?_) fun w store hw => ?_
  · obtain ⟨user, password, n, verbs, hverbs, hbusy⟩ := hw
    refine ⟨user, password, n, _, fun e he => ?_, hbusy.issued hc⟩
    rcases List.mem_append.1 he with he | he
    · exact hverbs e he
    · rw [List.mem_singleton.1 he]
      exact ⟨rfl, by simp [Event.isVerb, hc]⟩
  · obtain ⟨user, password, n, verbs, hverbs, hbusy⟩ := hw
    exact ⟨user, password, n, verbs, hverbs, hbusy.visits, hbusy.clients, hbusy.abandoned,
      hbusy.gone, hbusy.closed⟩
  · obtain ⟨user, password, n, verbs, hverbs, hbusy⟩ := hw
    exact ⟨user, password, n, verbs, hverbs, hbusy.visits, hbusy.clients, hbusy.abandoned,
      hbusy.gone, hbusy.closed⟩

lemma triple_ask (hc : c.isFrame) {E : Failure → World σ → Prop} :
    Task.Triple (Busy k es) (Task.ask p k c) (fun o => Busy k (es ++ [.called k c o])) E :=
  fun _ hw => hw.asked hc

lemma Idle.logged (h : Idle w) (logs : List Log.Record) : Idle { w with logs := logs } :=
  ⟨h.visits, h.abandoned, h.closed⟩

/-- Dropping the connection after a failed login ends the visit. -/
lemma triple_reject (user password : String) (f : Fault) :
    Task.Triple (Busy k [.called k (.login user password) (.error f)]) (shutdownQuietly p k)
      (fun _ => Idle) fun _ => Idle := by
  refine .bind (triple_ask rfl) fun o => ?_
  have hidle : ∀ w : World σ, Busy k ([.called k (.login user password) (.error f)] ++
      [.called k .shutdown o]) w → Idle w := fun w hw => hw.idle (.rejected user password f o)
  cases o with
  | ok _ => exact .pure hidle
  | error f =>
    dsimp only
    split
    · exact .escape hidle
    · exact .modify fun w hw => (hidle w hw).logged _

lemma triple_openClient (st : Settings) (a : Account) :
    Task.Triple Idle (openClient p st a) (fun k => Busy k []) fun _ => Idle := by
  intro w hw
  unfold openClient
  have hget : Task.runIn w (get : Task σ (World σ)) = (.ok w, w) := rfl
  rw [Task.runIn_bind_ok hget, Task.runIn_bind_ok (Task.runIn_ask w p _ _)]
  have htrace : (Task.asked p w.clients
      (.connect a.host a.port st.connectTimeout st.greetingTimeout) w).trace = w.trace ++
      [.called w.clients (.connect a.host a.port st.connectTimeout st.greetingTimeout) (p.answer _ _
        w.remote).outcome] := rfl
  cases ho : (p.answer w.clients (.connect a.host a.port st.connectTimeout st.greetingTimeout)
    w.remote).outcome with
  | error f =>
    rw [ho] at htrace
    exact ⟨htrace ▸ hw.visits.missed _ _ _ _ f, hw.abandoned, hw.closed⟩
  | ok u =>
    rw [ho] at htrace
    refine ⟨⟨w.trace, _, _, _, _, hw.visits, htrace⟩, rfl, fun j hj => ?_, ?_, hw.closed⟩
    · exact Nat.le_of_lt (hw.abandoned j hj)
    · exact iff_of_false (fun h => Nat.lt_irrefl _ (hw.abandoned _ h)) (by simp)

/-- Connecting opens a session, or fails when all is over again. -/
lemma triple_connect (hp : p.TakesCredentials) (st : Settings) (a : Account) :
    Task.Triple Idle (connect p st a) (fun s => Using s.client) fun _ => Idle := by
  unfold connect
  split
  · exact .bind (Q := fun _ _ => False) (.refuse fun _ hw => hw) fun _ _ h => h.elim
  refine .bind (.check (fun _ _ _ hw => hw) fun _ _ _ hw => hw) fun _ => ?_
  refine .bind (triple_openClient st a) fun k => ?_
  intro w hw
  rw [Task.runIn_bind_ok (Task.runIn_ask w p k _)]
  have hlogin := hw.asked (p := p) (c := .login a.user a.password) rfl
  cases ho : (p.answer k (.login a.user a.password) w.remote).outcome with
  | error f =>
    rw [ho] at hlogin
    dsimp only
    rw [if_pos (hp _ _ _ _ _ ho)]
    exact Task.Triple.bind (triple_reject _ _ f) (fun _ => .throw fun _ hw => hw) _ hlogin
  | ok u =>
    rw [ho] at hlogin
    refine ⟨a.user, a.password, st.socketTimeout, [], List.forall_mem_nil _, ?_⟩
    let w₁ := Task.asked p k (.login a.user a.password) w
    let w₂ : World σ := { w₁ with
      remote := p.setTimeout k st.socketTimeout w₁.remote
      trace := w₁.trace ++ [.timeoutSet k st.socketTimeout] }
    have hready : Busy k _ w₂ :=
      hlogin.receive rfl rfl hlogin.abandoned (by simp [w₁, w₂, Event.isBreak]) rfl
    exact ⟨hready.visits, hready.clients, hready.abandoned, hready.gone, hready.closed⟩

/-- A visit ends with the block of its session, however the block ends. -/
lemma triple_visit {α : Type} {t : Task σ α} (ht : Dialogue p s t) :
    Task.Triple (Using s.client) (s.within p t) (fun _ => Idle) fun _ => Idle := by
  have hclose : Task.Triple (Using s.client) (s.close p) (fun _ => Idle) fun _ => Idle :=
    .of_cases (fun w a w' hw hr => by simpa [hr] using hw.close (p := p))
      fun w f w' hw hr => by simpa [hr] using hw.close (p := p)
  refine .bind (.observe (R := fun _ => Using s.client) (Using.dialogue ht)) fun r =>
    .bind hclose fun _ => ?_
  exact .ofExcept (fun _ _ _ hw => hw) fun _ _ _ hw => hw

/-- Where an attempt to connect leaves the sessions. -/
def Attempted : Except Error Session → World σ → Prop
  | .ok s => Using s.client
  | .error _ => Idle

/-- A task that starts when all visits are over ends when all are over again. -/
lemma triple_itinerary {α : Type} {st st' : Settings} {t t' : Task σ α}
    (hp : p.TakesCredentials) (ht : Itinerary p st st' t t') :
    Task.Triple Idle t (fun _ => Idle) fun _ => Idle := by
  induction ht with
  | pure a => exact .pure fun _ hw => hw
  | throw f => exact .throw fun _ hw => hw
  | bind _ _ iht ihf => exact iht.bind ihf
  | attempt _ ih => exact .attempt ih (fun _ _ hw => hw) fun _ _ hw => hw
  | log _ _ _ => exact .modify fun w hw => hw.logged _
  | logIssues _ _ _ _ _ => exact .modify fun w hw => hw.logged _
  | now => exact fun _ hw => hw
  | cursors f => exact fun w hw => ⟨hw.visits, hw.abandoned, hw.closed⟩
  | visit ha _ hbody hok hok' _ _ iherror ihrest =>
    refine .bind (.attempt (R := Attempted) (triple_connect hp st _) (fun _ _ hw => hw)
      fun _ _ hw => hw) fun r => ?_
    cases r with
    | ok s =>
      rw [hok]
      exact (triple_visit (hbody s)).bind ihrest
    | error e => exact iherror e

end Worlds

end Imap

namespace Service

variable {σ : Type}

lemma undergo_idle {v : Service σ} {w : World σ} (hp : v.peer.TakesCredentials) (hw : Idle w)
    (o : Occurrence σ) : Idle (v.undergo w o) := by
  cases o with
  | wait n => exact ⟨hw.visits, hw.abandoned, hw.closed⟩
  | drift f => exact ⟨hw.visits, hw.abandoned, hw.closed⟩
  | call today tool args =>
    have has : v.settings.accounts.map Account.anonymous =
        v.settings.accounts.map Account.anonymous := rfl
    exact (triple_itinerary hp
      (Itinerary.call (v := { v with today := today }) has tool args)).final hw

/-- In every run each client that is constructed lives one lifetime: its login fails and its
connection is dropped, or it is used and then ended once. No other client is constructed before,
and nothing is called but on clients that were constructed. -/
theorem sessions_ended_once (v : Service σ) (hp : v.peer.TakesCredentials) (remote : σ)
    (clock : Nat) (os : List (Occurrence σ)) :
    let trace := (v.after (.start remote clock) os).trace
    (∀ k, Constructed k trace → Lifetime k (received k trace)) ∧
      (∀ before e after, trace = before ++ e :: after → e.isConnect →
        ∀ k, Constructed k before → Lifetime k (received k before)) ∧
      ∀ e ∈ trace, e.isConnect ∨ Constructed e.client trace := by
  have hstart : Idle (World.start remote clock) :=
    ⟨.none, List.forall_mem_nil _, List.forall_mem_nil _⟩
  have hidle : Idle (v.after (.start remote clock) os) :=
    after_keeps (fun o _ w hw => undergo_idle hp hw o) hstart
  have haccounted := hidle.visits.accounted
  refine ⟨fun k hk => haccounted.lifetime k ((haccounted.constructed k).1 hk), ?_, ?_⟩
  · intro before e after htrace he k hk
    obtain ⟨m, hbefore⟩ := hidle.visits.before_attempt htrace he
    exact hbefore.accounted.lifetime k ((hbefore.accounted.constructed k).1 hk)
  · exact fun e he => (haccounted.owned e he).imp_right (haccounted.constructed _).2

/-- Two accounts on the sample's host, whose clients take any credentials. -/
def crossing : Service Exchange :=
  { Sample.service true with
    peer := Exchange.peer.calmed
    settings := { (Sample.service true).settings with
      accounts := [Sample.account, { Sample.account with id := "b" }] } }

/-- A message is copied to the other account, and then another whose mailbox has a newer epoch. -/
def crossed : World Exchange :=
  crossing.after (Sample.world 0) [
    .call Sample.noon "imap_copy_message" [("account_id", .string "a"),
      ("message_id", .string "imap:a:INBOX:7:1"), ("destination_mailbox", .string "INBOX"),
      ("destination_account_id", .string "b")],
    .call Sample.noon "imap_copy_message" [("account_id", .string "a"),
      ("message_id", .string "imap:a:INBOX:6:2"), ("destination_mailbox", .string "INBOX")]]

/-- The copy opens two sessions, and the refusal of the outdated message ends a third. -/
theorem sessions_ended_once_of_crossing :
    crossing.peer.TakesCredentials ∧
      ∀ k ∈ [0, 1, 2], Constructed k crossed.trace ∧ Lifetime k (received k crossed.trace) := by
  have hp : crossing.peer.TakesCredentials := fun _ _ _ _ _ hf => Peer.calmed_ne_value hf
  have hmade : ∀ k ∈ [0, 1, 2], Constructed k crossed.trace := by
    unfold Constructed
    decide +kernel
  exact ⟨hp, fun k hk => ⟨hmade k hk, (sessions_ended_once crossing hp _ _ _).1 k (hmade k hk)⟩⟩

end Service

end Mailroom
