import Mailroom.Proofs.Footprint
import Mailroom.Proofs.SessionLife

/-!
# Itineraries

A command visits accounts, one after another: it connects, carries on a dialogue within the session
if there is one, and leaves. An `Itinerary` relates two tasks that pay the same visits, each to
accounts of its own that are alike but for their credentials. Every command is on one itinerary with
itself under other credentials.
-/

namespace Mailroom

open Imap

/-- A task that talks to the other side through one session only, and does not end it. -/
inductive Dialogue {σ : Type} (p : Peer σ) (s : Session) : {α : Type} → Task σ α → Prop where
  | pure {α : Type} (a : α) : Dialogue p s (pure a : Task σ α)
  | throw {α : Type} (f : Failure) : Dialogue p s (throw f : Task σ α)
  | bind {α β : Type} {t : Task σ α} {f : α → Task σ β} (ht : Dialogue p s t)
      (hf : ∀ a, Dialogue p s (f a)) : Dialogue p s (t >>= f)
  | attempt {α : Type} {t : Task σ α} (ht : Dialogue p s t) : Dialogue p s (Task.attempt t)
  | issue (verb : String) (c : Call) (hc : c.isFrame = false) : Dialogue p s (s.issue p verb c)
  | isAbandoned : Dialogue p s s.isAbandoned
  | logIssues (tool : Tool) (status : Status) (a : String) (b : Option String) (is : List Issue) :
    Dialogue p s (Task.logIssues tool status a b is)
  | cursors {α : Type} (f : Instant → Cursor.Store → α × Cursor.Store) :
    Dialogue p s (Task.cursors f)

/-- What `appendTo` does within its session. -/
def Service.appendWithin {σ : Type} (v : Service σ) (session : Session) (mailbox : String)
    (source : Value) (l : Ledger) : Task σ Ledger :=
  match source.octets? with
  | none => Task.escape .unexpectedValue
  | some octets => do
    let (_, l) ← Task.step "append_destination" none l (session.append v.peer mailbox octets)
    return l

namespace Dialogue

variable {σ α : Type} {p : Peer σ} {v : Service σ} {s : Session} {id : MessageId}

protected lemma refuse (e : Error) : Dialogue p s (Task.refuse e : Task σ α) := .throw _

protected lemma escape (e : Escape) : Dialogue p s (Task.escape e : Task σ α) := .throw _

protected lemma ofExcept (r : Except Failure α) : Dialogue p s (Task.ofExcept r : Task σ α) := by
  cases r with
  | ok a => exact .pure a
  | error f => exact .throw f

lemma mapM {β : Type} {f : β → Task σ α} (hf : ∀ x, Dialogue p s (f x)) (xs : List β) :
    Dialogue p s (xs.mapM f) := by
  induction xs with
  | nil => exact .pure []
  | cons x xs ih =>
    rw [List.mapM_cons]
    exact (hf x).bind fun _ => ih.bind fun _ => .pure _

lemma step {stage : String} {uid : Option Int} {l : Ledger} {t : Task σ α}
    (ht : Dialogue p s t) : Dialogue p s (Task.step stage uid l t) :=
  ht.attempt.bind fun _ => .pure _

/-- What the verbs of a session keep, and logging and the use of cursors, a dialogue keeps. -/
lemma keeps {I : World σ → Prop} {t : Task σ α} (ht : Dialogue p s t)
    (hissued : ∀ c w, c.isFrame = false → s.client ∉ w.abandoned → I w → I (s.issued p c w))
    (hlogs : ∀ w logs, I w → I { w with logs := logs })
    (hcursors : ∀ w store, I w → I { w with cursors := store }) :
    Task.Triple I t (fun _ => I) fun _ => I := by
  induction ht with
  | pure a => exact .pure fun _ hw => hw
  | throw f => exact .throw fun _ hw => hw
  | bind _ _ iht ihf => exact iht.bind ihf
  | attempt _ ih => exact .attempt ih (fun _ _ hw => hw) fun _ _ hw => hw
  | issue verb c hc =>
    have hissue := Session.issues_issue (p := p) (s := s) (c := c) verb
    have hfinal : ∀ w, I w → I (Task.runIn w (s.issue p verb c)).2 := by
      intro w hw
      by_cases hgone : s.client ∈ w.abandoned
      · obtain ⟨e, hrun, -⟩ := hissue.refused w hgone
        rwa [hrun]
      · rw [hissue.called w hgone]
        exact hissued c w hc hgone hw
    exact .of_cases (fun w a w' hw hr => by simpa [hr] using hfinal w hw)
      fun w f w' hw hr => by simpa [hr] using hfinal w hw
  | isAbandoned => exact fun _ hw => hw
  | logIssues tool status a b is => exact .modify fun w hw => hlogs w _ hw
  | cursors f => exact fun w hw => hcursors w _ hw

section Verbs

lemma capabilities : Dialogue p s (s.capabilities p) :=
  (issue _ _ rfl).bind fun _ => .pure _

lemma mailboxes : Dialogue p s (s.mailboxes p) :=
  (issue _ _ rfl).bind fun _ => .pure _

lemma number (t : Token) : Dialogue p s (Session.number t : Task σ Int) := by
  unfold Session.number
  split
  · exact .pure _
  · exact .escape _

lemma epoch (is : Items) : Dialogue p s (Session.epoch is : Task σ Int) := by
  unfold Session.epoch
  split
  · exact .refuse _
  · exact .refuse _
  · exact number _
  · exact .escape _

lemma select (mailbox : String) (readOnly : Bool) :
    Dialogue p s (s.select p mailbox readOnly) := by
  refine (issue _ _ rfl).attempt.bind fun r => ?_
  cases r with
  | ok is => exact epoch is
  | error e =>
    refine isAbandoned.bind fun gone => ?_
    split
    · exact .refuse _
    · exact .refuse _

lemma search (criteria : List Search.Atom) : Dialogue p s (s.search p criteria) :=
  (issue _ _ rfl).bind fun ts => (mapM number ts).bind fun _ => .pure _

lemma fetch (uid : Int) (is : List FetchItem) : Dialogue p s (s.fetch p uid is) := by
  refine (issue _ _ rfl).bind fun found => ?_
  split
  · exact .pure _
  · exact .refuse _

lemma fetchHeader (uid : Int) : Dialogue p s (s.fetchHeader p uid) := by
  refine (fetch _ _).bind fun is => ?_
  split
  · exact .pure _
  · exact .refuse _

lemma fetchFlags (uid : Int) : Dialogue p s (s.fetchFlags p uid) :=
  (fetch _ _).bind fun _ => .pure _

lemma fetchSource (uid : Int) : Dialogue p s (s.fetchSource p uid) := by
  refine (fetch _ _).bind fun is => ?_
  split
  · exact .pure _
  · exact .refuse _

lemma ensureEpoch (id : MessageId) (readOnly : Bool) :
    Dialogue v.peer s (v.ensureEpoch s id readOnly) := by
  refine (select _ _).bind fun epoch => ?_
  split
  · exact .refuse _
  · exact .pure _

end Verbs

section Reading

lemma probe : Dialogue v.peer s (v.probe s) := by
  refine (issue _ _ rfl).attempt.bind fun _ => capabilities.attempt.bind fun r => ?_
  cases r with
  | ok _ => exact .pure _
  | error _ => exact .pure _

lemma fetchMessage (a : String) (id : MessageId) (o : Mail.DigestOptions) :
    Dialogue v.peer s (v.fetchMessage s a id o) := by
  have hfailed : ∀ i, Dialogue v.peer s (Service.unreadMessage a id i : Task σ Answer.Message) :=
    fun i => (logIssues _ _ _ _ _).bind fun _ => .pure _
  refine (ensureEpoch id true).bind fun _ => (fetchSource _).attempt.bind fun r => ?_
  cases r with
  | error e => exact (hfailed _).bind fun _ => .pure _
  | ok source =>
    refine (Dialogue.ofExcept _).attempt.bind fun r => ?_
    cases r with
    | error e => exact (hfailed _).bind fun _ => .pure _
    | ok d => exact (fetchFlags _).attempt.bind fun _ => .pure _

lemma fetchSourceOf (a : String) (id : MessageId) :
    Dialogue v.peer s (v.fetchSource s a id) := by
  refine (ensureEpoch id true).bind fun _ => (fetchSource _).attempt.bind fun r => ?_
  cases r with
  | error e => exact ((logIssues _ _ _ _ _).bind fun _ => .pure _).bind fun _ => .pure _
  | ok source => exact .pure _

end Reading

section Searching

variable (r : Search.Request)

lemma failedSearch (stage : String) (e : Error) :
    Dialogue p s (Service.failedSearch r stage e : Task σ Answer.Page) :=
  (logIssues _ _ _ _ _).bind fun _ => .pure _

lemma resume (epoch : Int) (token : String) :
    Dialogue p s (Service.resume r epoch token : Task σ Snapshot) := by
  refine (cursors _).bind fun found => ?_
  cases found with
  | none => exact .refuse _
  | some e =>
    dsimp only
    split
    · exact .refuse _
    · split
      · exact (cursors _).bind fun _ => .refuse _
      · exact .pure _

lemma start : Dialogue v.peer s (v.start s r) := by
  refine (Dialogue.ofExcept _).bind fun criteria => (search _).bind fun uids => ?_
  split
  · exact .refuse _
  · exact .pure _

lemma snapshot (epoch : Int) : Dialogue v.peer s (v.snapshot s r epoch) := by
  unfold Service.snapshot
  split
  · exact (resume r _ _).bind fun _ => .pure _
  · refine (start r).attempt.bind fun x => ?_
    cases x with
    | ok n => exact .pure _
    | error e =>
      dsimp only
      split
      · exact .refuse _
      · exact (failedSearch r _ _).bind fun _ => .pure _

lemma fetchRow (epoch : Int) (n : Snapshot) (uid : Int) :
    Dialogue v.peer s (v.fetchRow s r epoch n uid) := by
  refine (fetchHeader uid).attempt.bind fun x => ?_
  cases x with
  | error e => exact .pure _
  | ok found =>
    dsimp only
    split
    · exact .pure _
    · exact .pure _

lemma readSheet : Dialogue v.peer s (v.readSheet s r) := by
  refine (select _ _).attempt.bind fun x => ?_
  cases x with
  | error e => exact (failedSearch r _ _).bind fun _ => .pure _
  | ok epoch =>
    refine (snapshot r epoch).bind fun x => ?_
    cases x with
    | error page => exact .pure _
    | ok n =>
      dsimp only
      split
      · exact .refuse _
      · exact (mapM (fetchRow r epoch n) _).bind fun _ => .pure _

end Searching

section Changing

lemma stepUnless (nothing : Bool) {stage : String} {uid : Int} {l : Ledger} {t : Task σ Unit}
    (ht : Dialogue p s t) : Dialogue p s (Service.stepUnless nothing stage uid l t) := by
  cases nothing with
  | true => exact .pure _
  | false => exact ht.step.bind fun _ => .pure _

lemma storeFlags (a : String) (id : MessageId) (add remove : List String) :
    Dialogue v.peer s (v.storeFlags s a id add remove) := by
  refine (ensureEpoch id false).bind fun _ => (stepUnless _ (issue _ _ rfl)).bind fun _ => ?_
  refine (stepUnless _ (issue _ _ rfl)).bind fun _ => (fetchFlags _).attempt.bind fun r => ?_
  cases r with
  | ok _ => exact .pure _
  | error _ => exact .pure _

lemma copyWithin (id : MessageId) (mailbox : String) (l : Ledger) :
    Dialogue v.peer s (v.copyWithin s id mailbox l) :=
  (ensureEpoch id false).bind fun _ => (issue _ _ rfl).step.bind fun _ => .pure _

lemma fetchForCopy (id : MessageId) (l : Ledger) : Dialogue v.peer s (v.fetchForCopy s id l) :=
  (ensureEpoch id true).bind fun _ => (fetchSource _).step

lemma removeSteps (uid : Int) (l : Ledger) : Dialogue v.peer s (v.removeSteps s uid l) := by
  refine (issue _ _ rfl).step.bind fun x => ?_
  rcases x with ⟨_ | _, l⟩
  · exact .pure _
  · exact (issue _ _ rfl).step.bind fun _ => .pure _

lemma moveBy (strategy : MoveStrategy) (uid : Int) (mailbox : String) (l : Ledger) :
    Dialogue v.peer s (v.moveBy strategy s uid mailbox l) := by
  cases strategy with
  | native => exact (issue _ _ rfl).step.bind fun _ => .pure _
  | copyDeleteExpunge =>
    refine (issue _ _ rfl).step.bind fun x => ?_
    rcases x with ⟨_ | _, l⟩
    · exact .pure _
    · exact removeSteps uid l

lemma moveWithin (id : MessageId) (mailbox : String) (l : Ledger) :
    Dialogue v.peer s (v.moveWithin s id mailbox l) := by
  refine (ensureEpoch id false).bind fun _ => capabilities.step.bind fun x => ?_
  rcases x with ⟨_ | _, l⟩
  · exact .pure _
  · exact (moveBy _ _ _ _).bind fun _ => .pure _

lemma deleteWithin (id : MessageId) (l : Ledger) : Dialogue v.peer s (v.deleteWithin s id l) :=
  (ensureEpoch id false).bind fun _ => removeSteps _ _

lemma appendWithin (mailbox : String) (source : Value) (l : Ledger) :
    Dialogue v.peer s (v.appendWithin s mailbox source l) := by
  unfold Service.appendWithin
  split
  · exact .escape _
  · exact (issue _ _ rfl).step.bind fun _ => .pure _

end Changing

end Dialogue

/-- An account without its credentials. -/
def Account.anonymous (a : Account) : Account :=
  { a with user := "", password := "" }

lemma Account.summary_anonymous (a : Account) : a.anonymous.summary = a.summary := rfl

/-- Two tasks that do the same, and visit alike accounts in the same order. A visit is to connect,
to carry on a dialogue within the session, and to go on when the session is closed. -/
inductive Itinerary {σ : Type} (p : Peer σ) (st st' : Settings) :
    {α : Type} → Task σ α → Task σ α → Prop where
  | pure {α : Type} (a : α) : Itinerary p st st' (pure a : Task σ α) (pure a)
  | throw {α : Type} (f : Failure) : Itinerary p st st' (throw f : Task σ α) (throw f)
  | bind {α β : Type} {t t' : Task σ α} {f f' : α → Task σ β} (ht : Itinerary p st st' t t')
      (hf : ∀ a, Itinerary p st st' (f a) (f' a)) : Itinerary p st st' (t >>= f) (t' >>= f')
  | attempt {α : Type} {t t' : Task σ α} (ht : Itinerary p st st' t t') :
    Itinerary p st st' (Task.attempt t) (Task.attempt t')
  | log (level : Log.Level) (source : Log.Source) (message : String) :
    Itinerary p st st' (Task.log level source message) (Task.log level source message)
  | logIssues (tool : Tool) (status : Status) (a : String) (b : Option String) (is : List Issue) :
    Itinerary p st st' (Task.logIssues tool status a b is) (Task.logIssues tool status a b is)
  | now : Itinerary p st st' Task.now Task.now
  | cursors {α : Type} (f : Instant → Cursor.Store → α × Cursor.Store) :
    Itinerary p st st' (Task.cursors f) (Task.cursors f)
  | visit {α β : Type} {a a' : Account} (ha : a.anonymous = a'.anonymous)
      {f f' : Except Error Session → Task σ α} (body : Session → Task σ β)
      {rest rest' : β → Task σ α} (hbody : ∀ s, Dialogue p s (body s))
      (hok : ∀ s, f (.ok s) = s.within p (body s) >>= rest)
      (hok' : ∀ s, f' (.ok s) = s.within p (body s) >>= rest')
      (herror : ∀ e, Itinerary p st st' (f (.error e)) (f' (.error e)))
      (hrest : ∀ b, Itinerary p st st' (rest b) (rest' b)) :
    Itinerary p st st' (Task.attempt (connect p st a) >>= f)
      (Task.attempt (connect p st' a') >>= f')

/-- The same service for other accounts. -/
def Service.withAccounts {σ : Type} (v : Service σ) (as : List Account) : Service σ :=
  { v with settings := { v.settings with accounts := as } }

namespace Itinerary

variable {σ α β : Type} {p : Peer σ} {st st' : Settings}

protected lemma refuse (e : Error) : Itinerary p st st' (Task.refuse e : Task σ α)
    (Task.refuse e) := .throw _

protected lemma escape (e : Escape) : Itinerary p st st' (Task.escape e : Task σ α)
    (Task.escape e) := .throw _

protected lemma ofExcept (r : Except Failure α) :
    Itinerary p st st' (Task.ofExcept r : Task σ α) (Task.ofExcept r) := by
  cases r with
  | ok a => exact .pure a
  | error f => exact .throw f

protected lemma check (r : Except Error α) :
    Itinerary p st st' (Task.check r : Task σ α) (Task.check r) := .ofExcept _

lemma refuseUnless {c : Prop} [Decidable c] {e : Error} {t t' : Task σ α}
    {f : β → Task σ α} (ht : Itinerary p st st' t t') :
    Itinerary p st st' (if c then Task.refuse e >>= f else t)
      (if c then Task.refuse e >>= f else t') := by
  split
  · exact .throw _
  · exact ht

/-- A visit whose connecting is a step of a change. -/
lemma visitStep {γ : Type} {a a' : Account} (ha : a.anonymous = a'.anonymous) {stage : String}
    {uid : Option Int} {l : Ledger} {f f' : Option Session × Ledger → Task σ α}
    (body : Ledger → Session → Task σ γ) {rest rest' : Ledger → γ → Task σ α}
    (hbody : ∀ l s, Dialogue p s (body l s))
    (hok : ∀ s l, f (some s, l) = s.within p (body l s) >>= rest l)
    (hok' : ∀ s l, f' (some s, l) = s.within p (body l s) >>= rest' l)
    (herror : ∀ l, Itinerary p st st' (f (none, l)) (f' (none, l)))
    (hrest : ∀ l b, Itinerary p st st' (rest l b) (rest' l b)) :
    Itinerary p st st' (Task.step stage uid l (connect p st a) >>= f)
      (Task.step stage uid l (connect p st' a') >>= f') := by
  unfold Task.step
  rw [bind_assoc, bind_assoc]
  -- The ledger of a step that succeeded does not depend on what the step gave.
  obtain ⟨l', hl'⟩ : ∃ l', ∀ s : Session, l.record stage uid (.ok s) = l' := ⟨_, fun _ => rfl⟩
  refine .visit ha (body l') (hbody l') (fun s => ?_) (fun s => ?_) (fun e => ?_) (hrest l')
  · rw [pure_bind, hl']
    exact hok s l'
  · rw [pure_bind, hl']
    exact hok' s l'
  · rw [pure_bind, pure_bind]
    exact herror _

/-- A visit of this kind after which nothing is left to do. -/
lemma lastStep {a a' : Account} (ha : a.anonymous = a'.anonymous) {stage : String}
    {uid : Option Int} {l : Ledger} {f f' : Option Session × Ledger → Task σ α}
    (body : Ledger → Session → Task σ α) (hbody : ∀ l s, Dialogue p s (body l s))
    (hok : ∀ s l, f (some s, l) = s.within p (body l s))
    (hok' : ∀ s l, f' (some s, l) = s.within p (body l s))
    (herror : ∀ l, Itinerary p st st' (f (none, l)) (f' (none, l))) :
    Itinerary p st st' (Task.step stage uid l (connect p st a) >>= f)
      (Task.step stage uid l (connect p st' a') >>= f') :=
  visitStep ha body hbody (fun s l => (hok s l).trans (bind_pure _).symm)
    (fun s l => (hok' s l).trans (bind_pure _).symm) herror fun _ _ => .pure _

section Commands

variable {v : Service σ} {as : List Account}

/-- The accounts of an id under both settings are alike, or there is none under either. -/
lemma account_cases (has : as.map Account.anonymous = v.settings.accounts.map Account.anonymous)
    (id : String) :
    (∃ a a', a.anonymous = a'.anonymous ∧ v.settings.account id = .ok a ∧
      (v.withAccounts as).settings.account id = .ok a') ∨
    ∃ e, v.settings.account id = .error e ∧ (v.withAccounts as).settings.account id = .error e := by
  have hfind : ∀ l : List Account, (l.map Account.anonymous).find? (·.id == id) =
      (l.find? (·.id == id)).map Account.anonymous := fun l => List.find?_map
  have hsame : (as.find? (·.id == id)).map Account.anonymous =
      (v.settings.accounts.find? (·.id == id)).map Account.anonymous := by
    rw [← hfind, ← hfind, has]
  unfold Settings.account Service.withAccounts
  dsimp only
  cases h : v.settings.accounts.find? (·.id == id) with
  | none =>
    rw [h] at hsame
    rw [Option.map_eq_none_iff.1 hsame]
    exact .inr ⟨_, rfl, rfl⟩
  | some a =>
    rw [h] at hsame
    obtain ⟨a', ha', haa'⟩ := Option.map_eq_some_iff.1 hsame
    rw [ha']
    exact .inl ⟨a, a', haa'.symm, rfl, rfl⟩

lemma summaries_alike
    (has : as.map Account.anonymous = v.settings.accounts.map Account.anonymous) :
    v.listAccounts = (v.withAccounts as).listAccounts := by
  have hsummaries : v.settings.accounts.map Account.summary = as.map Account.summary := by
    have h := congrArg (List.map Account.summary) has
    rw [List.map_map, List.map_map] at h
    exact h.symm
  unfold Service.listAccounts
  rw [hsummaries]
  rfl

variable (has : as.map Account.anonymous = v.settings.accounts.map Account.anonymous)

include has

lemma account {id : String} {f f' : Account → Task σ α}
    (hf : ∀ a a', a.anonymous = a'.anonymous →
      Itinerary v.peer v.settings (v.withAccounts as).settings (f a) (f' a')) :
    Itinerary v.peer v.settings (v.withAccounts as).settings (v.account id >>= f)
      ((v.withAccounts as).account id >>= f') := by
  unfold Service.account
  rcases account_cases has id with ⟨a, a', ha, h, h'⟩ | ⟨e, h, h'⟩
  · rw [h, h']
    exact hf a a' ha
  · rw [h, h']
    exact .throw _

lemma verifyAccount (a : String) : Itinerary v.peer v.settings (v.withAccounts as).settings
    (v.verifyAccount a) ((v.withAccounts as).verifyAccount a) := by
  refine .bind (.check _) fun _ => account has fun account account' ha => .bind .now fun _ => ?_
  have hsummary : account.summary = account'.summary := by
    rw [← Account.summary_anonymous, ha, Account.summary_anonymous]
  refine .visit ha v.probe (fun _ => .probe) (fun _ => rfl) (fun _ => rfl)
    (fun e => ?_) fun found => ?_
  · dsimp only
    rw [hsummary]
    exact .bind (.logIssues _ _ _ _ _) fun _ => .bind .now fun _ => .pure _
  · dsimp only
    rw [hsummary]
    exact .bind (.logIssues _ _ _ _ _) fun _ => .bind .now fun _ => .pure _

lemma listMailboxes (a : String) : Itinerary v.peer v.settings (v.withAccounts as).settings
    (v.listMailboxes a) ((v.withAccounts as).listMailboxes a) := by
  refine .bind (.check _) fun _ => account has fun _ _ ha => ?_
  refine .visit ha (fun s => Task.attempt (s.mailboxes v.peer))
    (fun _ => Dialogue.mailboxes.attempt) (fun _ => rfl) (fun _ => rfl) (fun e => ?_)
    fun found => ?_
  · exact .bind (.logIssues _ _ _ _ _) fun _ => .pure _
  · exact .bind (.logIssues _ _ _ _ _) fun _ => .pure _

omit has in
lemma advance (r : Search.Request) (b : Service.Sheet) :
    Itinerary v.peer v.settings (v.withAccounts as).settings (v.advance r b)
      ((v.withAccounts as).advance r b) := by
  unfold Service.advance
  split
  · split
    · exact .cursors _
    · exact .pure _
  · split
    · exact .cursors _
    · exact .cursors _

lemma search (r : Search.Request) : Itinerary v.peer v.settings (v.withAccounts as).settings
    (v.search r) ((v.withAccounts as).search r) := by
  refine .bind (.check _) fun _ => account has fun _ _ ha => ?_
  refine .visit ha (fun s => v.readSheet s r) (fun _ => .readSheet r) (fun _ => rfl)
    (fun _ => rfl) (fun e => .bind (.logIssues _ _ _ _ _) fun _ => .pure _) fun found => ?_
  cases found with
  | error page => exact .pure _
  | ok b =>
    exact .bind (advance r b) fun _ => .bind (.logIssues _ _ _ _ _) fun _ =>
      .bind (.log _ _ _) fun _ => .pure _

lemma readMessage (a m : String) (o : ReadOptions) :
    Itinerary v.peer v.settings (v.withAccounts as).settings (v.readMessage a m o)
      ((v.withAccounts as).readMessage a m o) := by
  refine .bind (.check _) fun n => .bind (.ofExcept _) fun id => account has fun _ _ ha => ?_
  refine .visit ha
    (fun s => v.fetchMessage s a id
      ⟨o.bodyMaxChars, o.includeHtml, o.extractText, n, v.pdf⟩)
    (fun _ => .fetchMessage _ _ _) (fun _ => rfl) (fun _ => rfl)
    (fun e => .bind (.logIssues _ _ _ _ _) fun _ => .pure _) fun found => ?_
  cases found with
  | error _ => exact .pure _
  | ok shown => exact .bind (.logIssues _ _ _ _ _) fun _ => .pure _

lemma readSource (a m : String) (n : Int) :
    Itinerary v.peer v.settings (v.withAccounts as).settings (v.readSource a m n)
      ((v.withAccounts as).readSource a m n) := by
  refine .bind (.check _) fun _ => .bind (.ofExcept _) fun id => account has fun _ _ ha => ?_
  refine .visit ha (fun s => v.fetchSource s a id) (fun _ => .fetchSourceOf _ _)
    (fun _ => rfl) (fun _ => rfl) (fun e => .bind (.logIssues _ _ _ _ _) fun _ => .pure _)
    fun found => ?_
  cases found with
  | error _ => exact .pure _
  | ok source =>
    dsimp only
    split
    · exact .escape _
    · split
      · exact .refuse _
      · exact .pure _

lemma updateFlags (a m : String) (add remove : Option (List String)) :
    Itinerary v.peer v.settings (v.withAccounts as).settings (v.updateFlags a m add remove)
      ((v.withAccounts as).updateFlags a m add remove) := by
  refine .bind (.check _) fun _ => .bind (.check _) fun flags => .bind (.ofExcept _) fun id => ?_
  refine account has fun _ _ ha => ?_
  exact .visit ha (fun s => v.storeFlags s a id flags.1 flags.2)
    (fun _ => .storeFlags _ _ _ _) (fun _ => rfl) (fun _ => rfl)
    (fun e => .bind (.logIssues _ _ _ _ _) fun _ => .pure _)
    fun answer => .bind (.logIssues _ _ _ _ _) fun _ => .bind (.log _ _ _) fun _ => .pure _

omit has in
lemma appendTo {a a' : Account} (ha : a.anonymous = a'.anonymous) (mailbox : String)
    (source : Value) (l : Ledger) : Itinerary v.peer v.settings (v.withAccounts as).settings
      (v.appendTo a mailbox source l) ((v.withAccounts as).appendTo a' mailbox source l) :=
  .lastStep ha (fun l s => v.appendWithin s mailbox source l)
    (fun _ _ => .appendWithin _ _ _) (fun _ _ => rfl) (fun _ _ => rfl) fun _ => .pure _

omit has in
lemma copySteps {a a' b b' : Account} (ha : a.anonymous = a'.anonymous)
    (hb : b.anonymous = b'.anonymous) (same : Bool) (id : MessageId) (mailbox : String) :
    Itinerary v.peer v.settings (v.withAccounts as).settings (v.copySteps a b same id mailbox)
      ((v.withAccounts as).copySteps a' b' same id mailbox) := by
  cases same with
  | true =>
    exact .lastStep ha (fun l s => v.copyWithin s id mailbox l)
      (fun _ _ => .copyWithin _ _ _) (fun _ _ => rfl) (fun _ _ => rfl) fun _ => .pure _
  | false =>
    refine .visitStep ha (fun l s => v.fetchForCopy s id l)
      (fun _ _ => .fetchForCopy _ _) (fun _ _ => rfl) (fun _ _ => rfl) (fun _ => .pure _)
      fun _ found => ?_
    rcases found with ⟨_ | octets, l⟩
    · exact .pure _
    · exact appendTo hb mailbox octets l

lemma copyMessage (a m mailbox : String) (d : Option String) :
    Itinerary v.peer v.settings (v.withAccounts as).settings (v.copyMessage a m mailbox d)
      ((v.withAccounts as).copyMessage a m mailbox d) := by
  refine .bind (.check _) fun _ => .bind (.ofExcept _) fun id => .bind (.check _) fun _ => ?_
  refine .bind (.check _) fun _ => account has fun _ _ ha => account has fun _ _ hb => ?_
  exact .bind (copySteps ha hb _ _ _) fun _ => .bind (.logIssues _ _ _ _ _) fun _ =>
    .bind (.log _ _ _) fun _ => .pure _

lemma moveMessage (a m mailbox : String) :
    Itinerary v.peer v.settings (v.withAccounts as).settings (v.moveMessage a m mailbox)
      ((v.withAccounts as).moveMessage a m mailbox) := by
  refine .bind (.check _) fun _ => .bind (.ofExcept _) fun id => .bind (.check _) fun _ => ?_
  refine account has fun _ _ ha => .bind ?_ fun _ => .bind (.logIssues _ _ _ _ _) fun _ => .pure _
  exact .lastStep ha (fun l s => v.moveWithin s id mailbox l)
    (fun _ _ => .moveWithin _ _ _) (fun _ _ => rfl) (fun _ _ => rfl) fun _ => .pure _

lemma deleteMessage (a m : String) (confirmed : Bool) :
    Itinerary v.peer v.settings (v.withAccounts as).settings (v.deleteMessage a m confirmed)
      ((v.withAccounts as).deleteMessage a m confirmed) := by
  refine .bind (.check _) fun _ => .refuseUnless (.bind (.ofExcept _) fun id => ?_)
  refine account has fun _ _ ha => .bind ?_ fun _ => .bind (.logIssues _ _ _ _ _) fun _ =>
    .bind (.log _ _ _) fun _ => .pure _
  exact .lastStep ha (fun l s => v.deleteWithin s id l)
    (fun _ _ => .deleteWithin _ _) (fun _ _ => rfl) (fun _ _ => rfl) fun _ => .pure _

lemma run (c : Command) : Itinerary v.peer v.settings (v.withAccounts as).settings (v.run c)
    ((v.withAccounts as).run c) := by
  cases c with
  | listAccounts =>
    unfold Service.run
    rw [summaries_alike has]
    exact .pure _
  | verifyAccount a =>
    exact .bind (.log _ _ _) fun _ => .bind (verifyAccount has a) fun _ => .pure _
  | listMailboxes a =>
    exact .bind (.log _ _ _) fun _ => .bind (listMailboxes has a) fun _ => .pure _
  | search r => exact .bind (.log _ _ _) fun _ => .bind (search has r) fun _ => .pure _
  | readMessage a m o =>
    exact .bind (.log _ _ _) fun _ => .bind (readMessage has a m o) fun _ => .pure _
  | readSource a m n =>
    exact .bind (.log _ _ _) fun _ => .bind (readSource has a m n) fun _ => .pure _
  | updateFlags a m add remove => exact .bind (updateFlags has a m add remove) fun _ => .pure _
  | copy a m b d => exact .bind (copyMessage has a m b d) fun _ => .pure _
  | move a m b => exact .bind (moveMessage has a m b) fun _ => .pure _
  | delete a m confirmed => exact .bind (deleteMessage has a m confirmed) fun _ => .pure _

/-- A tool call is on one itinerary with itself under other credentials. -/
theorem call (tool : String) (args : Arguments) :
    Itinerary v.peer v.settings (v.withAccounts as).settings (v.call tool args)
      ((v.withAccounts as).call tool args) := by
  have hanswer : Itinerary v.peer v.settings (v.withAccounts as).settings (v.answer tool args)
      ((v.withAccounts as).answer tool args) := .bind (.check _) fun c => run has c
  refine .bind .now fun _ => .bind (.attempt hanswer) fun x => ?_
  cases x with
  | ok a => exact .bind .now fun _ => .pure _
  | error e => exact .bind (.log _ _ _) fun _ => .pure _

end Commands

end Itinerary

end Mailroom
