import Mailroom.Proofs.TraceGrowth

/-!
# How connecting ends

A session is opened by constructing a client and logging in. Every fault of the two calls becomes a
refusal, and a client that was constructed in vain is shut down once, but for one kind of fault:
where the client refuses the credentials that it is given, the fault escapes and the connection
stays open.
-/

namespace Mailroom

open Imap

namespace Imap

open Mailroom.Task

namespace Event

def isShutdown : Event → Bool
  | called _ .shutdown _ => true
  | _ => false

/-- A login or a shutdown in which the client refused its arguments. -/
def isMisused : Event → Bool
  | called _ (.login ..) (.error f) | called _ .shutdown (.error f) => f.kind == .value
  | _ => false

end Event

/-- How often a client was shut down. -/
def shutdowns (k : ClientId) (es : List Event) : Nat :=
  (received k es).countP Event.isShutdown

/-- Connecting gave a session, or it was refused and every client that it had constructed was shut
down exactly once. -/
def Settled (r : Except Failure Session) (es : List Event) : Prop :=
  ∀ f, r = .error f →
    (∃ e, f = .refused e) ∧ ∀ k, Constructed k es → shutdowns k es = 1

lemma Fault.exists_refused {f : Fault} (hf : f.kind ≠ .value) :
    ∃ e, f.whileLoggingIn = .refused e := by
  unfold whileLoggingIn
  cases hkind : f.kind with
  | value => exact absurd hkind hf
  | timeout => exact ⟨_, rfl⟩
  | login => exact ⟨_, rfl⟩
  | abort | refusal | system | tls | certificate =>
    dsimp only
    split
    · exact ⟨_, rfl⟩
    · exact ⟨_, rfl⟩

section Ends

variable {st : Settings} {a : Account} {j k : ClientId} {r : Except Failure Session} {f g : Fault}
  {es after : List Event}

lemma constructed_rejected (hafter : ∀ e ∈ after, e.isConnect = false) :
    Constructed j (rejected st a k f after) ↔ j = k := by
  unfold Constructed rejected
  constructor
  · rintro ⟨e, he, hconstruction, rfl⟩
    have hconnect := Event.isConnect_of_isConstruction hconstruction
    rcases List.mem_cons.1 he with rfl | he
    · rfl
    rcases List.mem_cons.1 he with rfl | he
    · cases hconnect
    · rw [hafter e he] at hconnect
      cases hconnect
  · rintro rfl
    exact ⟨_, List.mem_cons_self, rfl, rfl⟩

lemma shutdowns_rejected : shutdowns k (rejected st a k f after) = shutdowns k after := by
  unfold shutdowns rejected
  rw [received_connect rfl]
  simp [received, Event.client, Event.isConnect, Event.isShutdown]

lemma shutdowns_once (o : Except Fault Unit) : shutdowns k [.called k .shutdown o] = 1 := by
  simp [shutdowns, received, Event.client, Event.isConnect, Event.isShutdown]

lemma mem_rejected {user password : String} :
    .called j (.login user password) (.error g) ∈ rejected st a k f after ↔
      (j = k ∧ user = a.user ∧ password = a.password ∧ g = f) ∨
        .called j (.login user password) (.error g) ∈ after := by
  simp [rejected, dialled, and_assoc]

lemma Connects.settled_iff (h : Connects st a k r es) :
    Settled r es ↔ ∀ e ∈ es, e.isMisused = false := by
  cases h with
  | uncalled e h =>
    simp [Settled, Constructed]
  | unreached f =>
    simp [Settled, Constructed, dialled, Event.isMisused, Event.isConstruction]
  | left f hf =>
    simp [Settled, rejected, Event.isMisused, hf]
  | dropped f hf o ho =>
    obtain ⟨e, he⟩ := Fault.exists_refused hf
    apply iff_of_true
    · rintro _ ⟨⟩
      refine ⟨⟨e, he⟩, fun j hj => ?_⟩
      obtain rfl := (constructed_rejected (by simp [Event.isConnect])).1 hj
      rw [shutdowns_rejected, shutdowns_once]
    · have hshutdown : (Event.called k .shutdown o).isMisused = false := by
        cases o with
        | ok u => rfl
        | error g => simpa [Event.isMisused] using ho g rfl
      simp only [rejected, List.forall_mem_cons, hshutdown]
      simp [dialled, Event.isMisused, hf]
  | stuck f g hf hg =>
    simp [Settled, rejected, Event.isMisused, hg]
  | opened =>
    simp [Settled, greeting, Event.isMisused]

/-- A client that refuses its credentials is not shut down. -/
lemma Connects.left_open (h : Connects st a k r es) {user password : String}
    (hlogin : .called j (.login user password) (.error g) ∈ es) (hg : g.kind = .value) :
    r = .error (.escaped (.clientValue g.message)) ∧ Constructed j es ∧ shutdowns j es = 0 := by
  cases h with
  | uncalled e h => cases hlogin
  | unreached f => simp [dialled] at hlogin
  | left f hf =>
    obtain ⟨rfl, -, -, rfl⟩ | hafter := mem_rejected.1 hlogin
    · refine ⟨rfl, (constructed_rejected (List.forall_mem_nil _)).2 rfl, ?_⟩
      rw [shutdowns_rejected]
      rfl
    · cases hafter
  | dropped f hf o ho =>
    obtain ⟨-, -, -, rfl⟩ | hafter := mem_rejected.1 hlogin
    · exact absurd hg hf
    · simp at hafter
  | stuck f g' hf hg' =>
    obtain ⟨-, -, -, rfl⟩ | hafter := mem_rejected.1 hlogin
    · exact absurd hg hf
    · simp at hafter
  | opened => simp [greeting] at hlogin

end Ends

variable {σ : Type}

/-- Connecting settles in all worlds and with all peers, unless the client refused the credentials
or to be shut down. If it refused the credentials, that escapes and the client is not shut down. -/
theorem connect_settles_iff (p : Peer σ) (st : Settings) (a : Account) (w : World σ) :
    ∃ es, Added es w (runIn w (connect p st a)).2 ∧
      (Settled (runIn w (connect p st a)).1 es ↔ ∀ e ∈ es, e.isMisused = false) ∧
      ∀ k user password f, .called k (.login user password) (.error f) ∈ es → f.kind = .value →
        (runIn w (connect p st a)).1 = .error (.escaped (.clientValue f.message)) ∧
          Constructed k es ∧ shutdowns k es = 0 := by
  have hended : ∃ es, Ended st a w (runIn w (connect p st a)).1
      (runIn w (connect p st a)).2 es := by
    rcases hrun : runIn w (connect p st a) with ⟨f | s, w'⟩
    · exact (ended_connect w).error rfl hrun
    · exact (ended_connect w).ok rfl hrun
  obtain ⟨es, hconnects, hadded, -, -⟩ := hended
  exact ⟨es, hadded, hconnects.settled_iff, fun k user password f hlogin hf =>
    hconnects.left_open hlogin hf⟩

end Imap

namespace Sample

/-- The world of a host to which every login fails in one way. -/
def closedWorld (f : Fault) : World Exchange :=
  .start ⟨[("mail", ⟨[], [], [⟨.login, none, none, f⟩], []⟩)], []⟩ 0

/-- The host refuses the credentials. -/
def unwelcome : Fault :=
  ⟨.login, "no"⟩

/-- The client cannot write the credentials down. -/
def unwritable : Fault :=
  ⟨.value, "ordinal not in range(128)"⟩

def loggingIn (f : Fault) : Except Failure Session × World Exchange :=
  Task.runIn (closedWorld f) (connect Exchange.peer (service false).settings account)

end Sample

namespace Imap

theorem connect_settles_iff_of_unwelcome :
    ∃ es, Added es (Sample.closedWorld Sample.unwelcome) (Sample.loggingIn Sample.unwelcome).2 ∧
      Settled (Sample.loggingIn Sample.unwelcome).1 es ∧ Constructed 0 es := by
  obtain ⟨es, hadded, hsettles, -⟩ := connect_settles_iff Exchange.peer
    (Sample.service false).settings Sample.account (Sample.closedWorld Sample.unwelcome)
  refine ⟨es, hadded, hsettles.2 ?_, ?_⟩
  all_goals obtain rfl : (Sample.loggingIn Sample.unwelcome).2.trace = es := hadded
  · decide
  · exact ⟨_, List.mem_cons_self, rfl, rfl⟩

theorem connect_unsettled :
    ¬ ∀ (st : Settings) (a : Account) (w : World Exchange), ∃ es,
      Added es w (Task.runIn w (connect Exchange.peer st a)).2 ∧
        Settled (Task.runIn w (connect Exchange.peer st a)).1 es := by
  intro h
  obtain ⟨es, -, hsettled⟩ := h (Sample.service false).settings Sample.account
    (Sample.closedWorld Sample.unwritable)
  obtain ⟨⟨e, he⟩, -⟩ := hsettled _ rfl
  cases he

end Imap

end Mailroom
