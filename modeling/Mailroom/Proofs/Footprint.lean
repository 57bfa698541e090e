import Mailroom.Proofs.TaskTriple
import Mailroom.Task.Calling

/-!
# Footprints

A footprint is a set of calls and of changes to the cursor store. A task that it covers makes no
other ones, so the task keeps every property of worlds that these calls and changes keep. Each
session verb has a rule here, and each command a footprint of its own.
-/

namespace Mailroom

open Imap

/-- Calls that a task may make, and changes to the cursor store. -/
structure Footprint where
  calls : ClientId → Call → Prop
  changes : (Instant → Cursor.Store → Cursor.Store) → Prop

namespace Footprint

variable {σ α β : Type}

/-- A property of worlds that nothing in a footprint destroys. It may speak of the other side, the
clock, the cursors and the trace. -/
structure Stable (F : Footprint) (p : Peer σ) (I : World σ → Prop) : Prop where
  asked : ∀ w k c, F.calls k c → I w → I (Task.asked p k c w)
  timeoutSet : ∀ w k n, I w → I { w with
    remote := p.setTimeout k n w.remote
    trace := w.trace ++ [Event.timeoutSet k n] }
  changed : ∀ w f, F.changes f → I w →
    I { w with cursors := f (Instant.ofMillis w.clock) w.cursors }
  booked : ∀ w clients abandoned closed logs, I w → I { w with
    clients := clients
    abandoned := abandoned
    closed := closed
    logs := logs }

/-- A task that keeps whatever the calls and changes of a footprint keep. -/
def Covers (F : Footprint) (p : Peer σ) (t : Task σ α) : Prop :=
  ∀ I, F.Stable p I → Task.Triple I t (fun _ => I) (fun _ => I)

variable {F : Footprint} {p : Peer σ} {t : Task σ α}

namespace Covers

protected lemma pure (a : α) : F.Covers p (pure a : Task σ α) :=
  fun _ _ => .pure fun _ hw => hw

protected lemma refuse (e : Error) : F.Covers p (Task.refuse e : Task σ α) :=
  fun _ _ => .refuse fun _ hw => hw

protected lemma escape (e : Escape) : F.Covers p (Task.escape e : Task σ α) :=
  fun _ _ => .escape fun _ hw => hw

protected lemma throw (f : Failure) : F.Covers p (throw f : Task σ α) :=
  fun _ _ => .throw fun _ hw => hw

protected lemma ofExcept (r : Except Failure α) : F.Covers p (Task.ofExcept r : Task σ α) :=
  fun _ _ => .ofExcept (fun _ _ _ hw => hw) (fun _ _ _ hw => hw)

protected lemma check (r : Except Error α) : F.Covers p (Task.check r : Task σ α) :=
  fun _ _ => .check (fun _ _ _ hw => hw) (fun _ _ _ hw => hw)

protected lemma get : F.Covers p (get : Task σ (World σ)) := fun _ _ _ hw => hw

protected lemma now : F.Covers p (Task.now : Task σ Instant) := fun _ _ _ hw => hw

protected lemma bind {f : α → Task σ β} (ht : F.Covers p t) (hf : ∀ a, F.Covers p (f a)) :
    F.Covers p (t >>= f) :=
  fun I hI => .bind (ht I hI) fun a => hf a I hI

/-- In a sequence the first task's results need only be taken as they can be. -/
lemma bind_of {f : α → Task σ β} {R : α → Prop} (ht : F.Covers p t) (hR : Task.Yields t R)
    (hf : ∀ a, R a → F.Covers p (f a)) : F.Covers p (t >>= f) := by
  intro I hI
  have hboth := ((ht I hI).and hR).imp (fun w hw => ⟨hw, trivial⟩) (fun _ _ h => h)
    (fun _ _ h => h.1)
  exact .bind hboth fun a w hw => hf a hw.2 I hI w hw.1

protected lemma observe (ht : F.Covers p t) : F.Covers p (Task.observe t) :=
  fun I hI => .observe (ht I hI)

protected lemma attempt (ht : F.Covers p t) : F.Covers p (Task.attempt t) :=
  fun I hI => .attempt (ht I hI) (fun _ _ hw => hw) (fun _ _ hw => hw)

lemma log (l : Log.Level) (s : Log.Source) (m : String) :
    F.Covers p (Task.log l s m : Task σ Unit) :=
  fun _ hI => .modify fun w hw => hI.booked w _ _ _ _ hw

lemma logIssues (tool : Tool) (s : Status) (a : String) (b : Option String) (is : List Issue) :
    F.Covers p (Task.logIssues tool s a b is : Task σ Unit) :=
  fun _ hI => .modify fun w hw => hI.booked w _ _ _ _ hw

lemma ask {k : ClientId} {c : Call} (h : F.calls k c) : F.Covers p (Task.ask p k c) :=
  fun _ hI w hw => hI.asked w k c h hw

lemma setTimeout (k : ClientId) (n : Nat) : F.Covers p (Task.setTimeout p k n) :=
  fun _ hI => .modify fun w hw => hI.timeoutSet w k n hw

lemma cursors {f : Instant → Cursor.Store → α × Cursor.Store}
    (h : F.changes fun now store => (f now store).2) : F.Covers p (Task.cursors f : Task σ α) :=
  fun _ hI w hw => hI.changed w _ h hw

/-- What follows a refusal does not run. -/
lemma refuse_bind (e : Error) (f : β → Task σ α) :
    F.Covers p ((Task.refuse e : Task σ β) >>= f) :=
  fun _ _ _ hw => hw

lemma refuseIf {c : Prop} [Decidable c] {e : Error} {f : β → Task σ α} (ht : F.Covers p t) :
    F.Covers p (if c then (Task.refuse e : Task σ β) >>= f else t) := by
  split
  · exact refuse_bind e f
  · exact ht

lemma mono {F' : Footprint} (ht : F'.Covers p t) (hc : ∀ k c, F'.calls k c → F.calls k c)
    (hs : ∀ f, F'.changes f → F.changes f) : F.Covers p t :=
  fun I hI => ht I ⟨fun w k c h => hI.asked w k c (hc k c h), hI.timeoutSet,
    fun w f h => hI.changed w f (hs f h), hI.booked⟩

lemma mapM {γ : Type} {f : γ → Task σ α} (hf : ∀ x, F.Covers p (f x)) (xs : List γ) :
    F.Covers p (xs.mapM f) := by
  induction xs with
  | nil => exact .pure []
  | cons x xs ih =>
    rw [List.mapM_cons]
    exact (hf x).bind fun _ => ih.bind fun _ => .pure _

end Covers

/-- A change of what a world tells of its clients and log records. -/
lemma covers_booked {f : World σ → World σ}
    (h : ∀ w, ∃ clients abandoned closed logs, f w = { w with
      clients := clients
      abandoned := abandoned
      closed := closed
      logs := logs }) : F.Covers p (modify f : Task σ Unit) := by
  refine fun _ hI => .modify fun w hw => ?_
  obtain ⟨clients, abandoned, closed, logs, hf⟩ := h w
  rw [hf]
  exact hI.booked w clients abandoned closed logs hw

/-- The world's trace goes on from an earlier one with events that satisfy a condition. -/
def Since (past : List Event) (G : List Event → Prop) (w : World σ) : Prop :=
  ∃ new, w.trace = past ++ new ∧ G new

lemma Since.imp {past : List Event} {G G' : List Event → Prop} {w : World σ}
    (h : Since past G w) (hG : ∀ new, G new → G' new) : Since past G' w := by
  obtain ⟨new, hw, hnew⟩ := h
  exact ⟨new, hw, hG new hnew⟩

lemma Since.append {past : List Event} {G G' : List Event → Prop} {w w' : World σ} {e : Event}
    (h : Since past G w) (hw : w'.trace = w.trace ++ [e]) (hG : ∀ new, G new → G' (new ++ [e])) :
    Since past G' w' := by
  obtain ⟨new, hnew, hg⟩ := h
  exact ⟨new ++ [e], by rw [hw, hnew, List.append_assoc], hG new hg⟩

/-- A condition on events is stable if the calls of the footprint and the setting of deadlines keep
it. -/
lemma stable_since {past : List Event} {G : List Event → Prop}
    (hcall : ∀ new k c o, F.calls k c → G new → G (new ++ [.called k c o]))
    (htime : ∀ new k n, G new → G (new ++ [.timeoutSet k n])) :
    F.Stable p (Since past G : World σ → Prop) where
  asked _ k c h hw := hw.append rfl fun new hnew => hcall new k c _ h hnew
  timeoutSet _ k n hw := hw.append rfl fun new hnew => htime new k n hnew
  changed _ _ _ hw := hw
  booked _ _ _ _ _ hw := hw

end Footprint

namespace Imap

/-- The calls that open and close a session. -/
def Call.isFrame : Call → Bool
  | .connect .. | .login .. | .logout | .shutdown => true
  | _ => false

end Imap

namespace Footprint

variable {σ α : Type} {F : Footprint} {p : Peer σ} {s : Session}

section Sessions

lemma covers_shutdownQuietly {k : ClientId} (h : F.calls k .shutdown) :
    F.Covers p (shutdownQuietly p k) := by
  refine .bind (.ask h) fun r => ?_
  cases r with
  | ok _ => exact .pure _
  | error f =>
    dsimp only
    split
    · exact .escape _
    · exact .log _ _ _

lemma covers_openClient (h : ∀ k c, c.isFrame → F.calls k c) (st : Settings) (a : Account) :
    F.Covers p (openClient p st a) := by
  refine .bind .get fun w => .bind (.ask (h _ _ rfl)) fun r => ?_
  cases r with
  | error f => exact .refuse _
  | ok _ =>
    exact .bind (covers_booked fun _ => ⟨_, _, _, _, rfl⟩) fun _ => .pure _

lemma covers_connect (h : ∀ k c, c.isFrame → F.calls k c) (st : Settings) (a : Account) :
    F.Covers p (connect p st a) := by
  refine .refuseIf (.bind (.check _) fun _ => ?_)
  refine .bind (covers_openClient h st a) fun k => .bind (.ask (h _ _ rfl)) fun r => ?_
  cases r with
  | error f =>
    dsimp only
    split
    · exact .bind (covers_shutdownQuietly (h _ _ rfl)) fun _ => .throw _
    · exact .throw _
  | ok _ => exact .bind (.setTimeout _ _) fun _ => .bind (.log _ _ _) fun _ => .pure _

lemma covers_isAbandoned : F.Covers p (s.isAbandoned : Task σ Bool) :=
  .bind .get fun _ => .pure _

lemma covers_close (h : ∀ c, c.isFrame → F.calls s.client c) : F.Covers p (s.close p) := by
  refine .bind .get fun w => ?_
  split
  · exact .pure _
  · refine .bind (covers_booked fun _ => ⟨_, _, _, _, rfl⟩) fun _ => ?_
    refine .bind covers_isAbandoned fun gone => ?_
    cases gone with
    | true => exact covers_shutdownQuietly (h _ rfl)
    | false =>
      refine .bind (.ask (h _ rfl)) fun r => ?_
      cases r with
      | ok _ => exact .pure _
      | error f =>
        dsimp only
        split
        · exact .escape _
        · exact .log _ _ _

lemma covers_within {t : Task σ α} (h : ∀ c, c.isFrame → F.calls s.client c)
    (ht : F.Covers p t) : F.Covers p (s.within p t) :=
  .bind (.observe ht) fun _ => .bind (covers_close h) fun _ => .ofExcept _

lemma covers_issue {verb : String} {c : Call} (h : F.calls s.client c) :
    F.Covers p (s.issue p verb c) := by
  refine .bind covers_isAbandoned fun gone => .refuseIf (.bind (.ask h) fun r => ?_)
  cases r with
  | ok r => exact .pure r
  | error f =>
    dsimp only
    split
    · exact .bind (covers_booked fun _ => ⟨_, _, _, _, rfl⟩) fun _ => .throw _
    · exact .throw _

lemma covers_capabilities (h : F.calls s.client .capabilities) :
    F.Covers p (s.capabilities p) :=
  .bind (covers_issue h) fun _ => .pure _

lemma covers_mailboxes (h : F.calls s.client .listFolders) : F.Covers p (s.mailboxes p) :=
  .bind (covers_issue h) fun _ => .pure _

lemma covers_number (t : Token) : F.Covers p (Session.number t : Task σ Int) := by
  unfold Session.number
  split
  · exact .pure _
  · exact .escape _

lemma covers_epoch (is : Items) : F.Covers p (Session.epoch is : Task σ Int) := by
  unfold Session.epoch
  split
  · exact .refuse _
  · exact .refuse _
  · exact covers_number _
  · exact .escape _

lemma covers_select {mailbox : String} {readOnly : Bool}
    (h : F.calls s.client (.select mailbox readOnly)) :
    F.Covers p (s.select p mailbox readOnly) := by
  refine .bind (.attempt (covers_issue h)) fun r => ?_
  cases r with
  | ok is => exact covers_epoch is
  | error e =>
    refine .bind covers_isAbandoned fun gone => ?_
    split
    · exact .refuse _
    · exact .refuse _

lemma covers_search {criteria : List Search.Atom}
    (h : F.calls s.client (.search criteria (Search.charset? criteria))) :
    F.Covers p (s.search p criteria) :=
  .bind (covers_issue h) fun _ => .bind (.mapM covers_number _) fun _ => .pure _

lemma covers_fetch {uid : Int} {is : List FetchItem} (h : F.calls s.client (.fetch uid is)) :
    F.Covers p (s.fetch p uid is) := by
  refine .bind (covers_issue h) fun found => ?_
  split
  · exact .pure _
  · exact .refuse _

lemma covers_fetchHeader {uid : Int} (h : F.calls s.client (.fetch uid [.flags, .headerFields])) :
    F.Covers p (s.fetchHeader p uid) := by
  refine .bind (covers_fetch h) fun is => ?_
  split
  · exact .pure _
  · exact .refuse _

lemma covers_fetchFlags {uid : Int} (h : F.calls s.client (.fetch uid [.flags])) :
    F.Covers p (s.fetchFlags p uid) :=
  .bind (covers_fetch h) fun _ => .pure _

lemma covers_fetchSource {uid : Int} (h : F.calls s.client (.fetch uid [.source])) :
    F.Covers p (s.fetchSource p uid) := by
  refine .bind (covers_fetch h) fun is => ?_
  split
  · exact .pure _
  · exact .refuse _

lemma covers_step {stage : String} {uid : Option Int} {l : Ledger} {t : Task σ α}
    (ht : F.Covers p t) : F.Covers p (Task.step stage uid l t) :=
  .bind (.attempt ht) fun _ => .pure _

end Sessions

end Footprint

end Mailroom
