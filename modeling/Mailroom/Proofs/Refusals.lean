import Mailroom.Proofs.CursorBounds

/-!
# Refusals

A call whose arguments do not pass the checks ends before anything is asked of a server. A call
whose arguments do is refused for few reasons: the epoch of a message's mailbox could not be
compared or is another one, a cursor or the number of matches does not allow the search, or a source
is too long. Whatever else goes wrong with a server becomes a part of the answer.
-/

namespace Mailroom

open Imap

namespace Task

variable {σ α β : Type}

def Refuses (w : World σ) (t : Task σ α) (e : Error) : Prop :=
  (runIn w t).1 = .error (.refused e)

/-- A task that never refuses, whatever escapes from it. -/
def Settles (t : Task σ α) : Prop :=
  ∀ e, Avoids (.refused e) t

namespace Settles

variable {t : Task σ α}

protected lemma pure {a : α} : Settles (pure a : Task σ α) :=
  fun _ => .pure a

protected lemma escape {e : Escape} : Settles (Task.escape e : Task σ α) :=
  fun _ => .escape e

protected lemma now : Settles (Task.now : Task σ Instant) :=
  fun _ _ _ => trivial

protected lemma log {l : Log.Level} {source : Log.Source} {m : String} :
    Settles (Task.log l source m : Task σ Unit) :=
  fun _ => .modify _

protected lemma logIssues {tool : Tool} {status : Status} {a : String} {b : Option String}
    {is : List Issue} : Settles (Task.logIssues tool status a b is : Task σ Unit) :=
  fun _ => .modify _

protected lemma cursors {f : Instant → Cursor.Store → α × Cursor.Store} :
    Settles (Task.cursors f : Task σ α) :=
  fun _ _ _ => trivial

protected lemma attempt : Settles (Task.attempt t) :=
  fun _ => .attempt t

protected lemma bind {f : α → Task σ β} (ht : Settles t) (hf : ∀ a, Settles (f a)) :
    Settles (t >>= f) :=
  fun e => (ht e).bind fun a => hf a e

protected lemma step {stage : String} {uid : Option Int} {l : Ledger} :
    Settles (Task.step stage uid l t) :=
  Settles.attempt.bind fun _ => .pure

protected lemma mapM {f : β → Task σ α} (hf : ∀ x, Settles (f x)) {xs : List β} :
    Settles (xs.mapM f) :=
  fun e => .mapM (fun x => hf x e) xs

end Settles

namespace Refuses

variable {t : Task σ α} {w w' : World σ} {e : Error}

lemma of_runIn (h : runIn w t = (.error (.refused e), w')) : Refuses w t e :=
  congrArg Prod.fst h

lemma of_refuse {e' : Error} (h : Refuses w (refuse e' : Task σ α) e) : e = e' :=
  (Failure.refused.inj (Except.error.inj h)).symm

lemma not_settles (h : Refuses w t e) : ¬ Settles t := by
  intro ht
  exact (ht e).error trivial (Prod.ext h rfl) rfl

/-- What refuses in a sequence is the first task, or else the second after it. -/
lemma of_bind {f : α → Task σ β} (h : Refuses w (t >>= f) e) :
    Refuses w t e ∨ ∃ a w', runIn w t = (.ok a, w') ∧ Refuses w' (f a) e := by
  unfold Refuses at h ⊢
  rw [runIn_bind] at h
  rcases ht : runIn w t with ⟨f' | a, w'⟩
  · rw [ht] at h
    exact .inl (congrArg _ (Except.error.inj h))
  · rw [ht] at h
    exact .inr ⟨a, w', rfl, h⟩

lemma of_bind_settled {f : α → Task σ β} (h : Refuses w (t >>= f) e) (hf : ∀ a, Settles (f a)) :
    Refuses w t e := by
  obtain h | ⟨a, w', -, h⟩ := h.of_bind
  · exact h
  · exact absurd (hf a) h.not_settles

lemma of_settled_bind {f : α → Task σ β} (h : Refuses w (t >>= f) e) (ht : Settles t) :
    ∃ a w', runIn w t = (.ok a, w') ∧ Refuses w' (f a) e :=
  h.of_bind.resolve_left fun h => h.not_settles ht

/-- If failing is answered, what refuses comes after the task was done. -/
lemma of_attempt {f : Except Error α → Task σ β} (h : Refuses w (attempt t >>= f) e)
    (hf : ∀ x, Settles (f (.error x))) :
    ∃ a w', runIn w t = (.ok a, w') ∧ Refuses w' (f (.ok a)) e := by
  obtain ⟨x, w', ht, h⟩ := h.of_settled_bind .attempt
  cases x with
  | error x => exact absurd (hf x) h.not_settles
  | ok a => exact ⟨a, w', runIn_attempt_eq_ok.1 ht, h⟩

lemma of_step {stage : String} {uid : Option Int} {l : Ledger}
    {f : Option α × Ledger → Task σ β} (h : Refuses w (step stage uid l t >>= f) e)
    (hf : ∀ l, Settles (f (none, l))) :
    ∃ a w' l', runIn w t = (.ok a, w') ∧ Refuses w' (f (some a, l')) e := by
  unfold step at h
  rw [bind_assoc] at h
  obtain ⟨a, w', ht, h⟩ := h.of_attempt fun _ => hf _
  exact ⟨a, w', _, ht, h⟩

/-- Closing a session does not refuse. -/
lemma of_within {v : Service σ} {s : Session} (h : Refuses w (s.within v.peer t) e) :
    Refuses w t e := by
  unfold Refuses at h
  rw [runIn_within] at h
  rcases hclose : runIn (runIn w t).2 (s.close v.peer) with ⟨f | _, w'⟩
  · rw [hclose] at h
    exact absurd (Except.error.inj h) (avoids_close.error trivial hclose)
  · rw [hclose] at h
    exact h

end Refuses

lemma Settles.within {t : Task σ α} {v : Service σ} {s : Session} (ht : Settles t) :
    Settles (s.within v.peer t) :=
  fun _ => .of_cases (fun _ _ _ _ _ => trivial) fun _ _ _ _ hr hf =>
    (Refuses.of_within (.of_runIn (hf ▸ hr))).not_settles ht

end Task

section Causes

variable {σ : Type}

/-- The account of a command is connected to, when nothing but log records came before. -/
def Service.Reaches (v : Service σ) (w : World σ) (accountId : String) (s : Session)
    (w' : World σ) : Prop :=
  ∃ account logs, v.settings.account accountId = .ok account ∧
    Task.runIn { w with logs := logs } (v.connect account) = (.ok s, w')

/-- Why the epoch of a message is not found to be that of its mailbox. -/
inductive EpochRefusal (v : Service σ) (s : Session) (id : MessageId) (w : World σ) : Error → Prop
  | outdated {readOnly : Bool} {epoch : Int} {w' : World σ}
      (hselect : Task.runIn w (s.select v.peer id.mailbox readOnly) = (.ok epoch, w'))
      (hepoch : epoch ≠ id.uidvalidity) : EpochRefusal v s id w .messageEpoch
  | unselected {readOnly : Bool} {e : Error}
      (hselect : Task.Refuses w (s.select v.peer id.mailbox readOnly) e) :
      EpochRefusal v s id w e

/-- Why a search is refused whose mailbox has some epoch. -/
inductive SearchRefusal (v : Service σ) (s : Session) (r : Search.Request) (epoch : Int)
    (w : World σ) : Error → Prop
  | unknown {token : String} (hcursor : r.cursor = some token)
      (hget : (w.cursors.get (Instant.ofMillis w.clock) token).1 = none) :
      SearchRefusal v s r epoch w .unknownCursor
  | foreign {token : String} {e : Cursor.Entry} (hcursor : r.cursor = some token)
      (hget : (w.cursors.get (Instant.ofMillis w.clock) token).1 = some e)
      (hforeign : e.accountId ≠ r.accountId ∨ e.mailbox ≠ r.mailbox) :
      SearchRefusal v s r epoch w .foreignCursor
  | outdated {token : String} {e : Cursor.Entry} (hcursor : r.cursor = some token)
      (hget : (w.cursors.get (Instant.ofMillis w.clock) token).1 = some e)
      (hepoch : e.uidvalidity ≠ epoch) : SearchRefusal v s r epoch w .snapshotEpoch
  | outOfRange {token : String} {e : Cursor.Entry} (hcursor : r.cursor = some token)
      (hget : (w.cursors.get (Instant.ofMillis w.clock) token).1 = some e)
      (hoffset : e.uids.length < e.offset) : SearchRefusal v s r epoch w .cursorOutOfRange
  | tooMany {criteria : List Search.Atom} {uids : List Int} {w' : World σ}
      (hcursor : r.cursor = none) (hcriteria : r.criteria v.today.date = .ok criteria)
      (hsearch : Task.runIn w (s.search v.peer criteria) = (.ok uids, w'))
      (hmany : 20000 < uids.length) :
      SearchRefusal v s r epoch w (.tooManyMatches uids.length 20000)

/-- Why a command is refused to which nothing was objected without a server. -/
inductive LateRefusal (v : Service σ) (w : World σ) : Command → Error → Prop
  | epoch {c : Command} {a m : String} {id : MessageId} {s : Session} {w' : World σ} {e : Error}
      (hmessage : c.message? = some (a, m)) (hid : MessageId.parseFor a m = .ok id)
      (hreaches : v.Reaches w a s w') (hepoch : EpochRefusal v s id w' e) : LateRefusal v w c e
  | search {r : Search.Request} {s : Session} {epoch : Int} {w₁ w₂ : World σ} {e : Error}
      (hreaches : v.Reaches w r.accountId s w₁)
      (hselect : Task.runIn w₁ (s.select v.peer r.mailbox true) = (.ok epoch, w₂))
      (hsearch : SearchRefusal v s r epoch w₂ e) : LateRefusal v w (.search r) e
  | source {a m : String} {n : Int} {id : MessageId} {s : Session} {w₁ w₂ : World σ}
      {source : Value} {octets : List UInt8} (hid : MessageId.parseFor a m = .ok id)
      (hreaches : v.Reaches w a s w₁)
      (hfetch : Task.runIn w₁ (s.within v.peer (v.fetchSource s a id)) = (.ok (.ok source), w₂))
      (hoctets : source.octets? = some octets) (hlong : n < octets.length) :
      LateRefusal v w (.readSource a m n) .sourceTooLong

end Causes

section Bodies

variable {σ α β : Type} {v : Service σ} {s : Session} {w : World σ} {e : Error}

open Mailroom.Task

/-- What is done with a message once its epoch was compared refuses nothing, so only the comparison
does. -/
lemma epochRefusal_of_bind {id : MessageId} {readOnly : Bool} {f : Unit → Task σ α}
    (h : Refuses w (v.ensureEpoch s id readOnly >>= f) e) (hf : ∀ u, Settles (f u)) :
    EpochRefusal v s id w e := by
  obtain h | ⟨epoch, w', hselect, h⟩ := (h.of_bind_settled hf).of_bind
  · exact .unselected h
  · split at h
    · next hepoch =>
      cases Refuses.of_refuse h
      exact .outdated hselect hepoch
    · cases h

lemma settles_stepUnless {nothing : Bool} {stage : String} {uid : Int} {l : Ledger}
    {t : Task σ Unit} : Settles (Service.stepUnless nothing stage uid l t) := by
  unfold Service.stepUnless
  split
  · exact .pure
  · exact Settles.step.bind fun _ => .pure

lemma settles_removeSteps {uid : Int} {l : Ledger} : Settles (v.removeSteps s uid l) := by
  refine Settles.step.bind fun x => ?_
  split
  · exact .pure
  · exact Settles.step.bind fun _ => .pure

lemma settles_moveBy {strategy : MoveStrategy} {uid : Int} {mailbox : String} {l : Ledger} :
    Settles (v.moveBy strategy s uid mailbox l) := by
  cases strategy with
  | native => exact Settles.step.bind fun _ => .pure
  | copyDeleteExpunge =>
    refine Settles.step.bind fun x => ?_
    split
    · exact .pure
    · exact settles_removeSteps

lemma settles_appendTo {destination : Account} {mailbox : String} {source : Value} {l : Ledger} :
    Settles (v.appendTo destination mailbox source l) := by
  refine Settles.step.bind fun x => ?_
  split
  · exact .pure
  · refine .within ?_
    split
    · exact .escape
    · exact Settles.step.bind fun _ => .pure

lemma settles_failedSearch {r : Search.Request} {stage : String} {e : Error} :
    Settles (Service.failedSearch r stage e : Task σ Answer.Page) :=
  Settles.logIssues.bind fun _ => .pure

lemma settles_unreadMessage {a : String} {id : MessageId} {i : Issue} :
    Settles (Service.unreadMessage a id i : Task σ Answer.Message) :=
  Settles.logIssues.bind fun _ => .pure

lemma settles_unreadSource {a : String} {id : MessageId} {stage : String} {e : Error}
    {uid : Option Int} : Settles (Service.unreadSource a id stage e uid : Task σ Answer.Source) :=
  Settles.logIssues.bind fun _ => .pure

lemma epochRefusal_of_storeFlags {a : String} {id : MessageId} {add remove : List String}
    (h : Refuses w (v.storeFlags s a id add remove) e) : EpochRefusal v s id w e := by
  refine epochRefusal_of_bind h fun _ => ?_
  refine settles_stepUnless.bind fun added => ?_
  refine settles_stepUnless.bind fun removed => Settles.attempt.bind fun flags => ?_
  split <;> exact .pure

lemma epochRefusal_of_copyWithin {id : MessageId} {mailbox : String} {l : Ledger}
    (h : Refuses w (v.copyWithin s id mailbox l) e) : EpochRefusal v s id w e :=
  epochRefusal_of_bind h fun _ => Settles.step.bind fun _ => .pure

lemma epochRefusal_of_fetchForCopy {id : MessageId} {l : Ledger}
    (h : Refuses w (v.fetchForCopy s id l) e) : EpochRefusal v s id w e :=
  epochRefusal_of_bind h fun _ => .step

lemma epochRefusal_of_moveWithin {id : MessageId} {mailbox : String} {l : Ledger}
    (h : Refuses w (v.moveWithin s id mailbox l) e) : EpochRefusal v s id w e := by
  refine epochRefusal_of_bind h fun _ => Settles.step.bind fun capabilities => ?_
  split
  · exact .pure
  · exact settles_moveBy.bind fun _ => .pure

lemma epochRefusal_of_deleteWithin {id : MessageId} {l : Ledger}
    (h : Refuses w (v.deleteWithin s id l) e) : EpochRefusal v s id w e :=
  epochRefusal_of_bind h fun _ => settles_removeSteps

lemma epochRefusal_of_fetchMessage {a : String} {id : MessageId} {o : Mail.DigestOptions}
    (h : Refuses w (v.fetchMessage s a id o) e) : EpochRefusal v s id w e := by
  refine epochRefusal_of_bind h fun _ => Settles.attempt.bind fun source => ?_
  split
  · exact settles_unreadMessage.bind fun _ => .pure
  · refine Settles.attempt.bind fun d => ?_
    split
    · exact settles_unreadMessage.bind fun _ => .pure
    · exact Settles.attempt.bind fun _ => .pure

lemma epochRefusal_of_fetchSource {a : String} {id : MessageId}
    (h : Refuses w (v.fetchSource s a id) e) : EpochRefusal v s id w e := by
  refine epochRefusal_of_bind h fun _ => Settles.attempt.bind fun source => ?_
  split
  · exact settles_unreadSource.bind fun _ => .pure
  · exact .pure

end Bodies

section Searching

variable {σ : Type} {v : Service σ} {s : Session} {r : Search.Request} {epoch : Int}
variable {w : World σ} {e : Error}

open Mailroom.Task

lemma searchRefusal_of_resume {token : String} (hcursor : r.cursor = some token)
    (h : Refuses w (Service.resume r epoch token) e) : SearchRefusal v s r epoch w e := by
  have hlook : runIn w (Task.cursors fun now store => store.get now token) =
      (.ok (w.cursors.get (Instant.ofMillis w.clock) token).1,
        { w with cursors := w.cursors.purge (Instant.ofMillis w.clock) }) := rfl
  unfold Refuses Service.resume at h
  rw [runIn_bind_ok hlook] at h
  cases hget : (w.cursors.get (Instant.ofMillis w.clock) token).1 with
  | none =>
    rw [hget] at h
    cases Refuses.of_refuse h
    exact .unknown hcursor hget
  | some entry =>
    rw [hget] at h
    dsimp only at h
    split at h
    · next hforeign =>
      cases Refuses.of_refuse h
      exact .foreign hcursor hget hforeign
    · split at h
      · next hepoch =>
        cases Refuses.of_refuse h
        exact .outdated hcursor hget hepoch
      · cases h

lemma searchRefusal_of_start (hvalid : r.validate = .ok ()) (hcursor : r.cursor = none)
    (hcode : e.code = .invalidInput ∨ e.code = .conflict) (h : Refuses w (v.start s r) e) :
    SearchRefusal v s r epoch w e := by
  have hserver : e.code ≠ .timeout ∧ e.code ≠ .internal := by
    rcases hcode with hcode | hcode <;> rw [hcode] <;> exact ⟨nofun, nofun⟩
  obtain h | ⟨criteria, w', hrun, h⟩ := h.of_bind
  · exact absurd h ((Search.Request.validate_eq_ok.1 hvalid).criteria_ne _ nofun)
  obtain ⟨hcriteria, rfl⟩ := Prod.mk.inj hrun
  obtain h | ⟨uids, w', hsearch, h⟩ := h.of_bind
  -- What a server refuses has another code, so only the number of matches is left.
  · exact absurd rfl ((avoids_search hserver criteria).error trivial (Prod.ext h rfl))
  split at h
  · next hmany =>
    cases Refuses.of_refuse h
    exact .tooMany hcursor hcriteria hsearch hmany
  · cases h

lemma searchRefusal_of_snapshot (hvalid : r.validate = .ok ())
    (h : Refuses w (v.snapshot s r epoch) e) : SearchRefusal v s r epoch w e := by
  unfold Service.snapshot at h
  split at h
  · next token hcursor =>
    exact searchRefusal_of_resume hcursor (h.of_bind_settled fun _ => .pure)
  · next hcursor =>
    obtain ⟨x, w', hattempt, h⟩ := h.of_settled_bind .attempt
    cases x with
    | ok n => cases h
    | error e' =>
      dsimp only at h
      split at h
      · next hcode =>
        cases Refuses.of_refuse h
        have hstart := runIn_attempt_eq_ok.1 hattempt
        exact searchRefusal_of_start hvalid hcursor hcode (.of_runIn hstart)
      · exact absurd (settles_failedSearch.bind fun _ => .pure) h.not_settles

/-- Only a cursor's snapshot begins anywhere but at its first message. -/
lemma searchRefusal_of_range {n : Snapshot} {w' : World σ}
    (h : runIn w (v.snapshot s r epoch) = (.ok (.ok n), w'))
    (hrange : (n.uids.length : Int) < n.offset) :
    SearchRefusal v s r epoch w .cursorOutOfRange := by
  cases hcursor : r.cursor with
  | none =>
    have hbegin := (snapshot_started hcursor h).1.2
    omega
  | some token =>
    obtain ⟨entry, hget, -, -, -, rfl, -⟩ := (snapshot_resumed_iff hcursor).1 h
    exact .outOfRange hcursor hget hrange

lemma settles_fetchRow {n : Snapshot} {uid : Int} : Settles (v.fetchRow s r epoch n uid) := by
  refine Settles.attempt.bind fun x => ?_
  split
  · exact .pure
  · split
    · exact .pure
    · exact .pure

lemma searchRefusal_of_readSheet (hvalid : r.validate = .ok ())
    (h : Refuses w (v.readSheet s r) e) :
    ∃ epoch w', runIn w (s.select v.peer r.mailbox true) = (.ok epoch, w') ∧
      SearchRefusal v s r epoch w' e := by
  obtain ⟨epoch, w', hselect, h⟩ :=
    h.of_attempt fun _ => settles_failedSearch.bind fun _ => .pure
  refine ⟨epoch, w', hselect, ?_⟩
  obtain h | ⟨x, w'', hsnapshot, h⟩ := h.of_bind
  · exact searchRefusal_of_snapshot hvalid h
  cases x with
  | error page => cases h
  | ok n =>
    dsimp only at h
    split at h
    · next hrange =>
      cases Refuses.of_refuse h
      exact searchRefusal_of_range hsnapshot hrange
    · exact absurd ((Settles.mapM fun _ => settles_fetchRow).bind fun _ => .pure) h.not_settles

lemma settles_page {b : Service.Sheet} : Settles (v.page r b) := by
  have hadvance : Settles (v.advance r b) := by
    unfold Service.advance
    split <;> split
    · exact .cursors
    · exact .pure
    · exact .cursors
    · exact .cursors
  exact hadvance.bind fun _ => Settles.logIssues.bind fun _ =>
    Settles.log.bind fun _ => .pure

end Searching

section Sifting

variable {σ α β : Type} {v : Service σ} {w : World σ} {c : Command} {t : Task σ α}

open Mailroom.Task Mailroom.Command

/-- A task that fails before anything but log records came of it if its command is not sound, and
that is refused for reasons only that a server gives if the command is. The log records are free,
for a command may announce itself before its checks. -/
def Sifted (v : Service σ) (w : World σ) (c : Command) (t : Task σ α) : Prop :=
  ∀ logs,
    (¬ c.Sound v.settings →
      ∃ f logs', runIn { w with logs := logs } t = (.error f, { w with logs := logs' })) ∧
    (c.Sound v.settings → ∀ e, Refuses { w with logs := logs } t e → LateRefusal v w c e)

namespace Sifted

lemma of_sound (hsound : c.Sound v.settings)
    (h : ∀ logs e, Refuses { w with logs := logs } t e → LateRefusal v w c e) : Sifted v w c t :=
  fun logs => ⟨absurd hsound, fun _ => h logs⟩

lemma of_settled (hsound : c.Sound v.settings) (ht : Settles t) : Sifted v w c t :=
  .of_sound hsound fun _ _ h => absurd ht h.not_settles

lemma of_error {f : Failure} (hsound : ¬ c.Sound v.settings) :
    Sifted v w c (throw f : Task σ α) :=
  fun logs => ⟨fun _ => ⟨f, logs, rfl⟩, fun h => absurd h hsound⟩

lemma log_bind {l : Log.Level} {source : Log.Source} {m : String} {f : Unit → Task σ α}
    (h : Sifted v w c (f ())) : Sifted v w c (Task.log l source m >>= f) :=
  fun logs => h (logs ++ [⟨l, source, m⟩])

/-- A check that a sound command passes. -/
lemma ofExcept_bind {r : Except Failure β} {f : β → Task σ α}
    (hsound : c.Sound v.settings → ∃ x, r = .ok x) (h : ∀ x, r = .ok x → Sifted v w c (f x)) :
    Sifted v w c (Task.ofExcept r >>= f) := by
  cases r with
  | error f' => exact .of_error fun hc => by simpa using hsound hc
  | ok x => exact h x rfl

lemma check_bind {r : Except Error β} {f : β → Task σ α}
    (hsound : c.Sound v.settings → ∃ x, r = .ok x) (h : ∀ x, r = .ok x → Sifted v w c (f x)) :
    Sifted v w c (Task.check r >>= f) := by
  cases r with
  | error e => exact .of_error fun hc => by simpa using hsound hc
  | ok x => exact h x rfl

lemma bind_pure {g : α → β} (h : Sifted v w c t) :
    Sifted v w c (t >>= fun a => pure (g a)) := by
  intro logs
  refine ⟨fun hc => ?_, fun hc e he => (h logs).2 hc e (he.of_bind_settled fun _ => .pure)⟩
  obtain ⟨f, logs', hf⟩ := (h logs).1 hc
  exact ⟨f, logs', runIn_bind_error hf _⟩

end Sifted

lemma sifted_verifyAccount {a : String} :
    Sifted v w (.verifyAccount a) (v.verifyAccount a) := by
  refine .check_bind (fun h => ⟨(), (sound_verifyAccount_iff.1 h).1⟩) fun _ hid => ?_
  refine .check_bind (fun h => (sound_verifyAccount_iff.1 h).2) fun account haccount => ?_
  refine .of_settled (sound_verifyAccount_iff.2 ⟨hid, account, haccount⟩) ?_
  refine Settles.now.bind fun started => Settles.attempt.bind fun x => ?_
  have hprobe : ∀ s, Settles (v.probe s) := by
    refine fun s => Settles.attempt.bind fun alive => Settles.attempt.bind fun found => ?_
    cases alive <;> cases found <;> exact .pure
  split
  · exact Settles.logIssues.bind fun _ => Settles.now.bind fun _ => .pure
  · exact (Settles.within (hprobe _)).bind fun _ => Settles.logIssues.bind fun _ =>
      Settles.now.bind fun _ => .pure

lemma sifted_listMailboxes {a : String} :
    Sifted v w (.listMailboxes a) (v.listMailboxes a) := by
  refine .check_bind (fun h => ⟨(), (sound_listMailboxes_iff.1 h).1⟩) fun _ hid => ?_
  refine .check_bind (fun h => (sound_listMailboxes_iff.1 h).2) fun account haccount => ?_
  refine .of_settled (sound_listMailboxes_iff.2 ⟨hid, account, haccount⟩) ?_
  refine Settles.attempt.bind fun x => ?_
  split
  · exact Settles.logIssues.bind fun _ => .pure
  · exact (Settles.within .attempt).bind fun _ => Settles.logIssues.bind fun _ => .pure

lemma sifted_search {r : Search.Request} : Sifted v w (.search r) (v.search r) := by
  refine .check_bind (fun h => ⟨(), (sound_search_iff.1 h).1⟩) fun _ hvalid => ?_
  refine .check_bind (fun h => (sound_search_iff.1 h).2) fun account haccount => ?_
  refine .of_sound (sound_search_iff.2 ⟨hvalid, account, haccount⟩) fun logs e h => ?_
  obtain ⟨s, w₁, hconnect, h⟩ := h.of_attempt fun _ => settles_failedSearch
  have hread := h.of_bind_settled fun x => by
    split
    · exact .pure
    · exact settles_page
  obtain ⟨epoch, w₂, hselect, hsearch⟩ := searchRefusal_of_readSheet hvalid hread.of_within
  exact .search ⟨account, logs, haccount, hconnect⟩ hselect hsearch

lemma sifted_readMessage {a m : String} {o : ReadOptions} :
    Sifted v w (.readMessage a m o) (v.readMessage a m o) := by
  refine .check_bind (fun h => (sound_readMessage_iff.1 h).1) fun n hcheck => ?_
  refine .ofExcept_bind (fun h => (sound_readMessage_iff.1 h).2.1) fun id hid => ?_
  refine .check_bind (fun h => (sound_readMessage_iff.1 h).2.2) fun account haccount => ?_
  refine .of_sound (sound_readMessage_iff.2 ⟨⟨n, hcheck⟩, ⟨id, hid⟩, account, haccount⟩)
    fun logs e h => ?_
  obtain ⟨s, w₁, hconnect, h⟩ := h.of_attempt fun _ => settles_unreadMessage
  have hfetch := h.of_bind_settled fun x => by
    split
    · exact .pure
    · exact Settles.logIssues.bind fun _ => .pure
  have hepoch := epochRefusal_of_fetchMessage hfetch.of_within
  exact .epoch rfl hid ⟨account, logs, haccount, hconnect⟩ hepoch

lemma sifted_readSource {a m : String} {n : Int} :
    Sifted v w (.readSource a m n) (v.readSource a m n) := by
  refine .check_bind (fun h => ⟨(), (sound_readSource_iff.1 h).1⟩) fun _ hcheck => ?_
  refine .ofExcept_bind (fun h => (sound_readSource_iff.1 h).2.1) fun id hid => ?_
  refine .check_bind (fun h => (sound_readSource_iff.1 h).2.2) fun account haccount => ?_
  refine .of_sound (sound_readSource_iff.2 ⟨hcheck, ⟨id, hid⟩, account, haccount⟩)
    fun logs e h => ?_
  obtain ⟨s, w₁, hconnect, h⟩ := h.of_attempt fun _ => settles_unreadSource
  have hreaches : v.Reaches w a s w₁ := ⟨account, logs, haccount, hconnect⟩
  obtain h | ⟨x, w₂, hfetch, h⟩ := h.of_bind
  · exact .epoch rfl hid hreaches (epochRefusal_of_fetchSource h.of_within)
  cases x with
  | error answer => cases h
  | ok source =>
    dsimp only at h
    split at h
    · cases h
    · next octets hoctets =>
      split at h
      · next hlong =>
        cases Refuses.of_refuse h
        exact .source hid hreaches hfetch hoctets hlong
      · cases h

lemma sifted_updateFlags {a m : String} {add remove : Option (List String)} :
    Sifted v w (.updateFlags a m add remove) (v.updateFlags a m add remove) := by
  refine .check_bind (fun h => ⟨(), (sound_updateFlags_iff.1 h).1⟩) fun _ hcheck => ?_
  refine .check_bind (fun h => (sound_updateFlags_iff.1 h).2.1) fun fs hflags => ?_
  refine .ofExcept_bind (fun h => (sound_updateFlags_iff.1 h).2.2.1) fun id hid => ?_
  refine .check_bind (fun h => (sound_updateFlags_iff.1 h).2.2.2) fun account haccount => ?_
  refine .of_sound (sound_updateFlags_iff.2 ⟨hcheck, ⟨fs, hflags⟩, ⟨id, hid⟩, account, haccount⟩)
    fun logs e h => ?_
  obtain ⟨s, w₁, hconnect, h⟩ := h.of_attempt fun _ => Settles.logIssues.bind fun _ => .pure
  have hstore := h.of_bind_settled fun _ => Settles.logIssues.bind fun _ =>
    Settles.log.bind fun _ => .pure
  have hepoch := epochRefusal_of_storeFlags hstore.of_within
  exact .epoch rfl hid ⟨account, logs, haccount, hconnect⟩ hepoch

lemma sifted_copyMessage {a m b : String} {d : Option String} :
    Sifted v w (.copy a m b d) (v.copyMessage a m b d) := by
  refine .check_bind (fun h => ⟨(), (sound_copy_iff.1 h).1⟩) fun _ hcheck => ?_
  refine .ofExcept_bind (fun h => (sound_copy_iff.1 h).2.1) fun id hid => ?_
  refine .check_bind (fun h => ⟨(), (sound_copy_iff.1 h).2.2.1⟩) fun _ hb => ?_
  refine .check_bind (fun h => ⟨(), (sound_copy_iff.1 h).2.2.2.1⟩) fun _ hd => ?_
  refine .check_bind (fun h => (sound_copy_iff.1 h).2.2.2.2.1) fun account haccount => ?_
  refine .check_bind (fun h => (sound_copy_iff.1 h).2.2.2.2.2) fun destination hdestination => ?_
  refine .of_sound (sound_copy_iff.2 ⟨hcheck, ⟨id, hid⟩, hb, hd, ⟨account, haccount⟩, destination,
    hdestination⟩) fun logs e h => ?_
  have hsteps := h.of_bind_settled fun _ => Settles.logIssues.bind fun _ =>
    Settles.log.bind fun _ => .pure
  obtain ⟨s, w₁, l, hconnect, h⟩ := hsteps.of_step fun _ => .pure
  refine .epoch rfl hid ⟨account, logs, haccount, hconnect⟩ ?_
  -- Whichever account the copy goes to, the message's own mailbox is compared first, and appending
  -- to the other account's refuses nothing.
  dsimp only at h
  split at h
  · exact epochRefusal_of_copyWithin h.of_within
  · refine epochRefusal_of_fetchForCopy (h.of_bind_settled fun x => ?_).of_within
    split
    · exact .pure
    · exact settles_appendTo

lemma sifted_moveMessage {a m b : String} :
    Sifted v w (.move a m b) (v.moveMessage a m b) := by
  refine .check_bind (fun h => ⟨(), (sound_move_iff.1 h).1⟩) fun _ hcheck => ?_
  refine .ofExcept_bind (fun h => (sound_move_iff.1 h).2.1) fun id hid => ?_
  refine .check_bind (fun h => ⟨(), (sound_move_iff.1 h).2.2.1⟩) fun _ hb => ?_
  refine .check_bind (fun h => (sound_move_iff.1 h).2.2.2) fun account haccount => ?_
  refine .of_sound (sound_move_iff.2 ⟨hcheck, ⟨id, hid⟩, hb, account, haccount⟩)
    fun logs e h => ?_
  have hsteps := h.of_bind_settled fun _ => Settles.logIssues.bind fun _ => .pure
  obtain ⟨s, w₁, l, hconnect, h⟩ := hsteps.of_step fun _ => .pure
  have hepoch := epochRefusal_of_moveWithin h.of_within
  exact .epoch rfl hid ⟨account, logs, haccount, hconnect⟩ hepoch

lemma sifted_deleteMessage {a m : String} {confirmed : Bool} :
    Sifted v w (.delete a m confirmed) (v.deleteMessage a m confirmed) := by
  refine .check_bind (fun h => ⟨(), (sound_delete_iff.1 h).1⟩) fun _ hcheck => ?_
  cases confirmed with
  | false =>
    exact .of_error (f := .refused .notConfirmed) fun h => by simpa using (sound_delete_iff.1 h).2.1
  | true =>
    refine .ofExcept_bind (fun h => (sound_delete_iff.1 h).2.2.1) fun id hid => ?_
    refine .check_bind (fun h => (sound_delete_iff.1 h).2.2.2) fun account haccount => ?_
    refine .of_sound (sound_delete_iff.2 ⟨hcheck, rfl, ⟨id, hid⟩, account, haccount⟩)
      fun logs e h => ?_
    have hsteps := h.of_bind_settled fun _ => Settles.logIssues.bind fun _ =>
      Settles.log.bind fun _ => .pure
    obtain ⟨s, w₁, l, hconnect, h⟩ := hsteps.of_step fun _ => .pure
    have hepoch := epochRefusal_of_deleteWithin h.of_within
    exact .epoch rfl hid ⟨account, logs, haccount, hconnect⟩ hepoch

lemma sifted_run (c : Command) : Sifted v w c (v.run c) := by
  cases c with
  | listAccounts => exact .of_settled sound_listAccounts .pure
  | verifyAccount a => exact .log_bind (.bind_pure sifted_verifyAccount)
  | listMailboxes a => exact .log_bind (.bind_pure sifted_listMailboxes)
  | search r => exact .log_bind (.bind_pure sifted_search)
  | readMessage a m o => exact .log_bind (.bind_pure sifted_readMessage)
  | readSource a m n => exact .log_bind (.bind_pure sifted_readSource)
  | updateFlags a m add remove => exact .bind_pure sifted_updateFlags
  | copy a m b d => exact .bind_pure sifted_copyMessage
  | move a m b => exact .bind_pure sifted_moveMessage
  | delete a m confirmed => exact .bind_pure sifted_deleteMessage

end Sifting

namespace Service

variable {σ : Type}

/-- The command of a call to which nothing can be objected without a server. -/
def Accepts (v : Service σ) (tool : String) (args : Arguments) (c : Command) : Prop :=
  ∃ t, Tool.ofName? tool = some t ∧ args.Fits t ∧ args.command tool = .ok c ∧ c.Sound v.settings

/-- A call fails before anything but log records came of it, unless its tool is known, its arguments
fit the tool and its command is sound. If they are, it is refused for reasons only that a server
gives. -/
theorem arguments_checked_first (v : Service σ) (w : World σ) (tool : String) (args : Arguments) :
    ((¬ ∃ c, v.Accepts tool args c) →
      ∃ f logs, Task.runIn w (v.answer tool args) = (.error f, { w with logs := logs })) ∧
    ∀ c, v.Accepts tool args c → ∀ e w',
      Task.runIn w (v.answer tool args) = (.error (.refused e), w') → LateRefusal v w c e := by
  unfold answer
  cases hcommand : args.command tool with
  | error e =>
    refine ⟨fun _ => ⟨.refused e, w.logs, rfl⟩, ?_⟩
    rintro c ⟨t, -, -, hc, -⟩
    cases hcommand.symm.trans hc
  | ok c =>
    have hrun : Task.runIn w (Task.check (.ok c) >>= v.run) = Task.runIn w (v.run c) := rfl
    rw [hrun]
    refine ⟨fun hnone => (sifted_run c w.logs).1 fun hsound => ?_, ?_⟩
    · obtain ⟨as, hcheck, -⟩ := bind_eq_ok.1 hcommand
      obtain ⟨t, ht, hfits, -⟩ := Arguments.check_eq_ok.1 hcheck
      exact hnone ⟨c, t, ht, hfits, hcommand, hsound⟩
    · rintro _ ⟨t, -, -, hc, hsound⟩ e w' h
      cases hcommand.symm.trans hc
      exact (sifted_run c w.logs).2 hsound e (.of_runIn h)

/-- The arguments of a deletion by a message id whose epoch its mailbox left. -/
def outdatedDeletion : Arguments :=
  [("account_id", .string "a"), ("message_id", .string "imap:a:INBOX:8:2"), ("confirm", .bool true)]

/-- The deletion fails before anything happened while changes are not allowed, and is refused for
its epoch while they are. -/
theorem arguments_checked_first_of_outdatedDeletion :
    (∃ f logs, Task.runIn (Sample.world 0)
        ((Sample.service false).answer Tool.deleteMessage.name outdatedDeletion) =
      (.error f, { Sample.world 0 with logs := logs })) ∧
    LateRefusal (Sample.service true) (Sample.world 0) (.delete "a" "imap:a:INBOX:8:2" true)
      .messageEpoch := by
  have hcommand : outdatedDeletion.command Tool.deleteMessage.name =
      .ok (.delete "a" "imap:a:INBOX:8:2" true) := rfl
  constructor
  · refine (arguments_checked_first (Sample.service false) (Sample.world 0) Tool.deleteMessage.name
      outdatedDeletion).1 ?_
    rintro ⟨c, t, -, -, hc, hsound⟩
    cases hcommand.symm.trans hc
    exact absurd (hsound.writes rfl) (by decide)
  · have hsound : (Command.delete "a" "imap:a:INBOX:8:2" true).Sound
        (Sample.service true).settings :=
      Command.sound_delete_iff.2 ⟨rfl, rfl, ⟨_, rfl⟩, _, rfl⟩
    obtain ⟨as, hcheck, -⟩ := bind_eq_ok.1 hcommand
    obtain ⟨t, ht, hfits, -⟩ := Arguments.check_eq_ok.1 hcheck
    exact (arguments_checked_first (Sample.service true) (Sample.world 0) Tool.deleteMessage.name
      outdatedDeletion).2 _ ⟨t, ht, hfits, hcommand, hsound⟩ _ _ (Prod.ext rfl rfl)

end Service

end Mailroom
