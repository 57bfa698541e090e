import Mailroom.Proofs.Itinerary
import Mailroom.Proofs.Serving

/-!
# Credentials

What a service answers, what it logs and which calls it makes do not depend on the users and the
passwords of its accounts; only the arguments of the logins do. Two runs of services that differ in
these are compared step by step, against another side that may remember credentials but reacts to
all of them alike.
-/

namespace Mailroom

open Imap

lemma Account.exists_of_anonymous {a a' : Account} (h : a.anonymous = a'.anonymous) :
    ∃ user password, a' = { a with user := user, password := password } := by
  obtain ⟨id, host, user, password, port, secure⟩ := a
  obtain ⟨id', host', user', password', port', secure'⟩ := a'
  simp only [anonymous, Account.mk.injEq, true_and] at h
  obtain ⟨rfl, rfl, rfl, rfl⟩ := h
  exact ⟨user', password', rfl⟩

/-- Settings without the credentials of their accounts. -/
def Settings.anonymous (st : Settings) : Settings :=
  { st with accounts := st.accounts.map Account.anonymous }

lemma Settings.exists_of_anonymous {st st' : Settings} (h : st.anonymous = st'.anonymous) :
    ∃ as, st' = { st with accounts := as } ∧
      as.map Account.anonymous = st.accounts.map Account.anonymous := by
  obtain ⟨as, write, connectTimeout, greetingTimeout, socketTimeout, ttl, capacity⟩ := st
  obtain ⟨as', write', connectTimeout', greetingTimeout', socketTimeout', ttl', capacity'⟩ := st'
  simp only [anonymous, Settings.mk.injEq] at h
  obtain ⟨has, rfl, rfl, rfl, rfl, rfl, rfl⟩ := h
  exact ⟨as', rfl, has.symm⟩

namespace Imap

/-- An event without the credentials of a login. -/
def Event.anonymous : Event → Event
  | .called k (.login _ _) o => .called k (.login "" "") o
  | e => e

variable {σ α : Type}

/-- Reactions that differ at most in the state they leave, and there only as a relation allows. -/
structure Answer.Like (R : σ → σ → Prop) (a a' : Answer σ α) : Prop where
  outcome : a.outcome = a'.outcome
  delay : a.delay = a'.delay
  next : R a.next a'.next

/-- A peer whose reactions do not depend on what a login is given. The relation is between states
that may differ in what the peer remembers of it. -/
structure Peer.Indifferent (p : Peer σ) (R : σ → σ → Prop) : Prop where
  answer : ∀ k c x y, R x y → (p.answer k c x).Like R (p.answer k c y)
  login : ∀ k user password user' password' x y, R x y →
    (p.answer k (.login user password) x).Like R (p.answer k (.login user' password') y)
  setTimeout : ∀ k n x y, R x y → R (p.setTimeout k n x) (p.setTimeout k n y)

end Imap

section Alike

variable {σ α β : Type} {R : σ → σ → Prop} {p : Peer σ}

/-- Worlds that differ at most in what logins were given, and in the states of the other side. -/
inductive Akin (R : σ → σ → Prop) : World σ → World σ → Prop where
  | intro (w : World σ) (remote : σ) (trace : List Event) (hremote : R w.remote remote)
      (htrace : w.trace.map Event.anonymous = trace.map Event.anonymous) :
    Akin R w { w with remote := remote, trace := trace }

section Akin

variable {w w' : World σ}

lemma Akin.clients (h : Akin R w w') : w.clients = w'.clients := by cases h; rfl

lemma Akin.closed (h : Akin R w w') : w.closed = w'.closed := by cases h; rfl

lemma Akin.logs (h : Akin R w w') : w.logs = w'.logs := by cases h; rfl

lemma Akin.trace (h : Akin R w w') :
    w.trace.map Event.anonymous = w'.trace.map Event.anonymous := by
  cases h with
  | intro remote trace hremote htrace => exact htrace

end Akin

/-- Tasks that give the same in akin worlds, and leave akin worlds. -/
def Alike (R : σ → σ → Prop) (t t' : Task σ α) : Prop :=
  ∀ w w', Akin R w w' → (Task.runIn w t).1 = (Task.runIn w' t').1 ∧
    Akin R (Task.runIn w t).2 (Task.runIn w' t').2

namespace Alike

protected lemma pure (a : α) : Alike R (pure a : Task σ α) (pure a) :=
  fun _ _ hw => ⟨rfl, hw⟩

protected lemma throw (f : Failure) : Alike R (throw f : Task σ α) (throw f) :=
  fun _ _ hw => ⟨rfl, hw⟩

protected lemma refuse (e : Error) : Alike R (Task.refuse e : Task σ α) (Task.refuse e) :=
  .throw _

protected lemma escape (e : Escape) : Alike R (Task.escape e : Task σ α) (Task.escape e) :=
  .throw _

protected lemma ofExcept (r : Except Failure α) :
    Alike R (Task.ofExcept r : Task σ α) (Task.ofExcept r) :=
  fun _ _ hw => ⟨rfl, hw⟩

protected lemma bind {t t' : Task σ α} {f f' : α → Task σ β} (ht : Alike R t t')
    (hf : ∀ a, Alike R (f a) (f' a)) : Alike R (t >>= f) (t' >>= f') := by
  intro w w' hw
  have h := ht w w' hw
  rw [Task.runIn_bind, Task.runIn_bind]
  rcases hr : Task.runIn w t with ⟨x, w₁⟩
  rcases hr' : Task.runIn w' t' with ⟨x', w₁'⟩
  rw [hr, hr'] at h
  obtain ⟨rfl, hw₁⟩ := h
  cases x with
  | ok a => exact hf a w₁ w₁' hw₁
  | error f => exact ⟨rfl, hw₁⟩

protected lemma observe {t t' : Task σ α} (ht : Alike R t t') :
    Alike R (Task.observe t) (Task.observe t') :=
  fun w w' hw => ⟨congrArg Except.ok (ht w w' hw).1, (ht w w' hw).2⟩

protected lemma attempt {t t' : Task σ α} (ht : Alike R t t') :
    Alike R (Task.attempt t) (Task.attempt t') := by
  refine (Alike.observe ht).bind fun x => ?_
  rcases x with (e | e) | a
  · exact .pure _
  · exact .escape e
  · exact .pure _

protected lemma modify {f f' : World σ → World σ}
    (hf : ∀ w w', Akin R w w' → Akin R (f w) (f' w')) :
    Alike R (modify f : Task σ Unit) (modify f') :=
  fun w w' hw => ⟨rfl, hf w w' hw⟩

/-- A task that looks at the world does not see in what akin worlds differ. -/
lemma get_bind {f f' : World σ → Task σ α}
    (hf : ∀ w w', Akin R w w' → Alike R (f w) (f' w')) : Alike R (get >>= f) (get >>= f') :=
  fun w w' hw => hf w w' hw w w' hw

lemma log (level : Log.Level) (source : Log.Source) (message : String) :
    Alike R (Task.log level source message : Task σ Unit) (Task.log level source message) := by
  refine .modify fun w w' hw => ?_
  cases hw with
  | intro remote trace hremote htrace => exact .intro _ _ _ hremote htrace

lemma logIssues (tool : Tool) (status : Status) (a : String) (b : Option String)
    (is : List Issue) : Alike R (Task.logIssues tool status a b is : Task σ Unit)
      (Task.logIssues tool status a b is) := by
  refine .modify fun w w' hw => ?_
  cases hw with
  | intro remote trace hremote htrace => exact .intro _ _ _ hremote htrace

lemma now : Alike R (Task.now : Task σ Instant) Task.now := by
  refine .get_bind fun w w' hw => ?_
  cases hw with
  | intro remote trace hremote htrace => exact .pure _

lemma cursors (f : Instant → Cursor.Store → α × Cursor.Store) :
    Alike R (Task.cursors f : Task σ α) (Task.cursors f) := by
  intro w w' hw
  cases hw with
  | intro remote trace hremote htrace => exact ⟨rfl, .intro _ _ _ hremote htrace⟩

end Alike

lemma Akin.answered {w w' : World σ} (hw : Akin R w w') {a a' : Imap.Answer σ α}
    (ha : a.Like R a') {e e' : Event} (he : e.anonymous = e'.anonymous) :
    Akin R
      { w with remote := a.next, clock := w.clock + a.delay, trace := w.trace ++ [e] }
      { w' with remote := a'.next, clock := w'.clock + a'.delay, trace := w'.trace ++ [e'] } := by
  cases hw with
  | intro remote trace hremote htrace =>
    rw [← ha.delay]
    exact .intro _ _ _ ha.next (by simp [htrace, he])

variable {s : Session} (hp : p.Indifferent R)

include hp

lemma alike_ask (k : ClientId) (c : Call) : Alike R (Task.ask p k c) (Task.ask p k c) := by
  intro w w' hw
  have hanswer : (p.answer k c w.remote).Like R (p.answer k c w'.remote) := by
    cases hw with
    | intro remote trace hremote htrace => exact hp.answer _ _ _ _ hremote
  exact ⟨congrArg Except.ok hanswer.outcome, hw.answered hanswer (by rw [hanswer.outcome])⟩

lemma alike_login (k : ClientId) (user password user' password' : String) :
    Alike R (Task.ask p k (.login user password)) (Task.ask p k (.login user' password')) := by
  intro w w' hw
  have hanswer : (p.answer k (.login user password) w.remote).Like R
      (p.answer k (.login user' password') w'.remote) := by
    cases hw with
    | intro remote trace hremote htrace => exact hp.login _ _ _ _ _ _ _ hremote
  refine ⟨congrArg Except.ok hanswer.outcome, hw.answered hanswer ?_⟩
  rw [hanswer.outcome]
  rfl

lemma alike_setTimeout (k : ClientId) (n : Nat) :
    Alike R (Task.setTimeout p k n) (Task.setTimeout p k n) := by
  refine .modify fun w w' hw => ?_
  cases hw with
  | intro remote trace hremote htrace =>
    exact .intro _ _ _ (hp.setTimeout _ _ _ _ hremote) (by simp [htrace])

lemma alike_shutdownQuietly (k : ClientId) :
    Alike R (shutdownQuietly p k) (shutdownQuietly p k) := by
  refine (alike_ask hp k .shutdown).bind fun r => ?_
  cases r with
  | ok _ => exact .pure _
  | error f =>
    dsimp only
    split
    · exact .escape _
    · exact .log _ _ _

lemma alike_openClient (st : Settings) (as : List Account) (a : Account) (user password : String) :
    Alike R (openClient p st a)
      (openClient p { st with accounts := as } { a with user := user, password := password }) := by
  refine .get_bind fun w w' hw => ?_
  dsimp only
  rw [hw.clients]
  refine (alike_ask hp _ _).bind fun r => ?_
  cases r with
  | error f => exact .refuse _
  | ok _ =>
    refine (Alike.modify fun x x' hx => ?_).bind fun _ => .pure _
    cases hx with
    | intro remote trace hremote htrace => exact .intro _ _ _ hremote htrace

/-- Connecting is alike with any credentials. -/
lemma alike_connect (st : Settings) (as : List Account) (a : Account) (user password : String) :
    Alike R (connect p st a)
      (connect p { st with accounts := as } { a with user := user, password := password }) := by
  unfold connect
  dsimp only
  split
  · exact .throw _
  refine (Alike.ofExcept _).bind fun _ => ?_
  refine (alike_openClient hp st as a user password).bind fun k => ?_
  refine (alike_login hp k a.user a.password user password).bind fun r => ?_
  cases r with
  | error f =>
    dsimp only
    split
    · exact (alike_shutdownQuietly hp k).bind fun _ => .throw _
    · exact .throw _
  | ok _ => exact (alike_setTimeout hp k _).bind fun _ => (Alike.log _ _ _).bind fun _ => .pure _

omit hp in
lemma alike_isAbandoned : Alike R (s.isAbandoned : Task σ Bool) s.isAbandoned := by
  refine .get_bind fun w w' hw => ?_
  cases hw with
  | intro remote trace hremote htrace => exact .pure _

lemma alike_issue (verb : String) (c : Call) :
    Alike R (s.issue p verb c) (s.issue p verb c) := by
  refine alike_isAbandoned.bind fun gone => ?_
  split
  · exact .throw _
  refine (alike_ask hp _ _).bind fun r => ?_
  cases r with
  | ok r => exact .pure r
  | error f =>
    dsimp only
    split
    · refine (Alike.modify fun w w' hw => ?_).bind fun _ => .throw _
      cases hw with
      | intro remote trace hremote htrace => exact .intro _ _ _ hremote htrace
    · exact .throw _

lemma alike_dialogue {t : Task σ α} (ht : Dialogue p s t) : Alike R t t := by
  induction ht with
  | pure a => exact .pure a
  | throw f => exact .throw f
  | bind _ _ iht ihf => exact iht.bind ihf
  | attempt _ ih => exact ih.attempt
  | issue verb c _ => exact alike_issue hp verb c
  | isAbandoned => exact alike_isAbandoned
  | logIssues tool status a b is => exact .logIssues tool status a b is
  | cursors f => exact .cursors f

lemma alike_close : Alike R (s.close p) (s.close p) := by
  refine .get_bind fun w w' hw => ?_
  rw [hw.closed]
  split
  · exact .pure _
  refine (Alike.modify fun x x' hx => ?_).bind fun _ => alike_isAbandoned.bind fun gone => ?_
  · cases hx with
    | intro remote trace hremote htrace => exact .intro _ _ _ hremote htrace
  cases gone with
  | true => exact alike_shutdownQuietly hp _
  | false =>
    refine (alike_ask hp _ .logout).bind fun r => ?_
    cases r with
    | ok _ => exact .pure _
    | error f =>
      dsimp only
      split
      · exact .escape _
      · exact .log _ _ _

lemma alike_within {t : Task σ α} (ht : Dialogue p s t) :
    Alike R (s.within p t) (s.within p t) :=
  (alike_dialogue hp ht).observe.bind fun _ => (alike_close hp).bind fun _ => .ofExcept _

/-- Tasks on one itinerary are alike if their settings are but for the credentials. -/
lemma alike_itinerary {st : Settings} {as : List Account} {t t' : Task σ α}
    (ht : Itinerary p st { st with accounts := as } t t') : Alike R t t' := by
  induction ht with
  | pure a => exact .pure a
  | throw f => exact .throw f
  | bind _ _ iht ihf => exact iht.bind ihf
  | attempt _ ih => exact ih.attempt
  | log level source message => exact .log level source message
  | logIssues tool status a b is => exact .logIssues tool status a b is
  | now => exact .now
  | cursors f => exact .cursors f
  | visit ha _ hbody hok hok' _ _ iherror ihrest =>
    obtain ⟨user, password, rfl⟩ := Account.exists_of_anonymous ha
    refine (alike_connect hp st as _ user password).attempt.bind fun r => ?_
    cases r with
    | ok s =>
      rw [hok, hok']
      exact (alike_within hp (hbody s)).bind ihrest
    | error e => exact iherror e

end Alike

/-- An occurrence that the other side undergoes alike in states that are related. -/
def Occurrence.Respects {σ : Type} (R : σ → σ → Prop) : Occurrence σ → Prop
  | .drift f => ∀ x y, R x y → R (f x) (f y)
  | .wait _ | .call .. => True

namespace Imap

/-- Rules tell calls apart by their kind and the message they are about. -/
lemma FailRule.apply_congr {c c' : Call} (hverb : c.verb = c'.verb) (huid : c.uid? = c'.uid?)
    (rs : List FailRule) : FailRule.apply c rs = FailRule.apply c' rs := by
  induction rs with
  | nil => rfl
  | cons r rs ih =>
    have hfits : r.fits c = r.fits c' := by rw [fits, fits, hverb, huid]
    rw [FailRule.apply, FailRule.apply, hfits, ih]

/-- Hosts in memory do not look at credentials. -/
lemma Exchange.indifferent_peer : Exchange.peer.Indifferent Eq where
  answer := by
    rintro k c x _ rfl
    exact ⟨rfl, rfl, rfl⟩
  login := by
    rintro k user password user' password' x _ rfl
    have hhost : ∀ h k, Host.react h k (.login user password) =
        Host.react h k (.login user' password') := by
      intro h k
      unfold Host.react
      rw [FailRule.apply_congr (show (Call.login user password).verb =
        (Call.login user' password').verb from rfl) rfl]
      rfl
    have hreact : Exchange.react k (.login user password) x =
        Exchange.react k (.login user' password') x := by
      unfold Exchange.react
      simp only [hhost]
      rfl
    exact ⟨congrArg _ hreact, congrArg _ hreact, congrArg _ hreact⟩
  setTimeout := by
    rintro k n x _ rfl
    rfl

end Imap

namespace Service

variable {σ : Type}

/-- What a tool call gives; no other occurrence gives anything. -/
def reply? (v : Service σ) (w : World σ) : Occurrence σ → Option (Except Failure Json)
  | .call today tool args => some (Task.runIn w ({ v with today := today }.call tool args)).1
  | .wait _ | .drift _ => none

/-- What the occurrences of a run give, in their order. -/
def replies (v : Service σ) (w : World σ) :
    List (Occurrence σ) → List (Option (Except Failure Json))
  | [] => []
  | o :: os => v.reply? w o :: v.replies (v.undergo w o) os

/-- Akin worlds undergo an occurrence alike. -/
lemma undergo_akin {R : σ → σ → Prop} {v : Service σ} (hp : v.peer.Indifferent R)
    {as : List Account} (has : as.map Account.anonymous = v.settings.accounts.map Account.anonymous)
    {w w' : World σ} (hw : Akin R w w') {o : Occurrence σ} (ho : o.Respects R) :
    v.reply? w o = (v.withAccounts as).reply? w' o ∧
      Akin R (v.undergo w o) ((v.withAccounts as).undergo w' o) := by
  cases o with
  | wait n =>
    cases hw with
    | intro remote trace hremote htrace => exact ⟨rfl, .intro _ _ _ hremote htrace⟩
  | drift f =>
    cases hw with
    | intro remote trace hremote htrace => exact ⟨rfl, .intro _ _ _ (ho _ _ hremote) htrace⟩
  | call today tool args =>
    have hcall := alike_itinerary hp (Itinerary.call (v := { v with today := today }) has tool args)
    exact ⟨congrArg some (hcall w w' hw).1, (hcall w w' hw).2⟩

/-- Akin worlds undergo a run alike. -/
lemma after_akin {R : σ → σ → Prop} {v : Service σ} (hp : v.peer.Indifferent R)
    {as : List Account} (has : as.map Account.anonymous = v.settings.accounts.map Account.anonymous)
    {w w' : World σ} (hw : Akin R w w') {os : List (Occurrence σ)}
    (hos : ∀ o ∈ os, o.Respects R) :
    v.replies w os = (v.withAccounts as).replies w' os ∧
      Akin R (v.after w os) ((v.withAccounts as).after w' os) := by
  induction os generalizing w w' with
  | nil => exact ⟨rfl, hw⟩
  | cons o os ih =>
    obtain ⟨hreply, hnext⟩ := undergo_akin hp has hw (hos o List.mem_cons_self)
    obtain ⟨hreplies, hend⟩ := ih hnext fun o' ho' => hos o' (List.mem_cons_of_mem o ho')
    exact ⟨congrArg₂ List.cons hreply hreplies, hend⟩

/-- Nothing but the arguments of the logins tells the credentials of the accounts: runs of services
with other ones give the same answers, end in the same failures, write the same log records and make
the same calls. -/
theorem credentials_unseen {R : σ → σ → Prop} (v : Service σ) (hp : v.peer.Indifferent R)
    (st : Settings) (hst : v.settings.anonymous = st.anonymous) {remote remote' : σ}
    (hremote : R remote remote') (clock : Nat) (os : List (Occurrence σ))
    (hos : ∀ o ∈ os, o.Respects R) :
    v.replies (.start remote clock) os =
        { v with settings := st }.replies (.start remote' clock) os ∧
      (v.after (.start remote clock) os).logs =
        ({ v with settings := st }.after (.start remote' clock) os).logs ∧
      (v.after (.start remote clock) os).trace.map Event.anonymous =
        ({ v with settings := st }.after (.start remote' clock) os).trace.map Event.anonymous := by
  obtain ⟨as, rfl, has⟩ := Settings.exists_of_anonymous hst
  have hstart : Akin R (World.start remote clock) (.start remote' clock) :=
    .intro _ _ _ hremote rfl
  obtain ⟨hreplies, hend⟩ := after_akin hp has hstart hos
  exact ⟨hreplies, hend.logs, hend.trace⟩

/-- The sample's settings with other credentials. -/
def otherCredentials : Settings :=
  { (Sample.service false).settings with
    accounts := [{ Sample.account with user := "somebody", password := "hidden" }] }

/-- An account is verified, and a message is opened of which there is none. -/
def glances : List (Occurrence Exchange) :=
  [.call Sample.noon "imap_verify_account" [("account_id", .string "a")],
    .call Sample.noon "imap_get_message" [("account_id", .string "a"),
      ("message_id", .string "imap:a:INBOX:7:9")]]

theorem credentials_unseen_of_glances :
    Exchange.peer.Indifferent Eq ∧
      (Sample.service false).settings.anonymous = otherCredentials.anonymous ∧
      (Sample.service false).settings ≠ otherCredentials ∧
      (∀ o ∈ glances, o.Respects Eq) ∧
      (Sample.service false).replies (Sample.world 0) glances =
        { Sample.service false with settings := otherCredentials }.replies (Sample.world 0)
          glances := by
  have hrespects : ∀ o ∈ glances, o.Respects Eq := by
    simp [glances, Occurrence.Respects]
  refine ⟨Exchange.indifferent_peer, rfl, by decide, hrespects, ?_⟩
  exact (credentials_unseen (Sample.service false) Exchange.indifferent_peer otherCredentials rfl
    rfl 0 glances hrespects).1

end Service

end Mailroom
