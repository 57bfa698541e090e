import Mathlib.Data.List.Basic
import Mathlib.Logic.Basic
import Mailroom.Imap.Script
import Mailroom.Proofs.TaskTriple

/-!
# The life of a session

A session is used for one verb after another, until it is closed or its block is left. A failure
after which the state of the conversation is unknown gives the session up for good: later verbs are
refused without a call, and closing drops the connection. A session is ended once, however often it
is closed and whatever is tried afterwards.
-/

namespace Mailroom

open Imap

namespace Task

variable {σ α β : Type}

/-- A task that leaves every world as it is. -/
def Still (t : Task σ α) : Prop :=
  ∀ w, (runIn w t).2 = w

namespace Still

protected lemma pure (a : α) : Still (pure a : Task σ α) := fun _ => rfl

protected lemma refuse (e : Error) : Still (Task.refuse e : Task σ α) := fun _ => rfl

protected lemma escape (e : Escape) : Still (Task.escape e : Task σ α) := fun _ => rfl

protected lemma bind {t : Task σ α} {f : α → Task σ β} (ht : Still t) (hf : ∀ a, Still (f a)) :
    Still (t >>= f) := by
  intro w
  have hw := ht w
  rw [runIn_bind]
  rcases hr : runIn w t with ⟨e | a, w'⟩
  · rwa [hr] at hw
  · rw [hr] at hw
    obtain rfl : w' = w := hw
    exact hf a w'

protected lemma mapM {f : α → Task σ β} (hf : ∀ a, Still (f a)) (xs : List α) :
    Still (xs.mapM f) := by
  induction xs with
  | nil => exact .pure []
  | cons x xs ih =>
    rw [List.mapM_cons]
    exact (hf x).bind fun _ => ih.bind fun _ => .pure _

end Still

end Task

namespace Imap

open Mailroom.Task

/-- The failures of the system, timeouts and failures of TLS among them, and those by which the
server ends the conversation. -/
def FaultKind.breaking : List FaultKind :=
  [.timeout, .abort, .system, .tls, .certificate]

/-- The failures by which the server refuses a command and goes on with the conversation. -/
def FaultKind.refusing : List FaultKind :=
  [.refusal, .login]

lemma FaultKind.isAbandoning_iff (k : FaultKind) : k.isAbandoning ↔ k ∈ breaking := by
  cases k <;> decide

lemma FaultKind.not_breaking_of_refusing {k : FaultKind} (h : k ∈ refusing) : k ∉ breaking := by
  cases k <;> revert h <;> decide

/-- A call that ends a session. -/
def Event.isEnding : Event → Bool
  | .called _ .logout _ | .called _ .shutdown _ => true
  | _ => false

namespace Session

variable {σ α β : Type} {p : Peer σ} {s : Session} {c : Call} {w : World σ}

section Verbs

/-- The world after a call of a session, whose failure may give the session up. -/
def issued (p : Peer σ) (s : Session) (c : Call) (w : World σ) : World σ :=
  match (p.answer s.client c w.remote).outcome with
  | .ok _ => asked p s.client c w
  | .error f =>
    if f.kind.isAbandoning then
      { asked p s.client c w with abandoned := s.client :: w.abandoned }
    else asked p s.client c w

lemma issued_trace : (issued p s c w).trace =
    w.trace ++ [.called s.client c (p.answer s.client c w.remote).outcome] := by
  unfold issued
  split
  · rfl
  · split <;> rfl

lemma issued_closed : (issued p s c w).closed = w.closed := by
  unfold issued
  split
  · rfl
  · split <;> rfl

lemma issued_clients : (issued p s c w).clients = w.clients := by
  unfold issued
  split
  · rfl
  · split <;> rfl

/-- A call of a session gives up no other one. -/
lemma of_mem_issued_abandoned {k : ClientId} (h : k ∈ (issued p s c w).abandoned) :
    k = s.client ∨ k ∈ w.abandoned := by
  unfold issued at h
  split at h
  · exact .inr h
  · split at h
    · exact List.mem_cons.1 h
    · exact .inr h

lemma mem_issued_abandoned : s.client ∈ (issued p s c w).abandoned ↔ s.client ∈ w.abandoned ∨
    ∃ f, (p.answer s.client c w.remote).outcome = .error f ∧ f.kind ∈ FaultKind.breaking := by
  unfold issued
  cases ho : (p.answer s.client c w.remote).outcome with
  | ok r => simp [asked]
  | error f =>
    by_cases hf : f.kind.isAbandoning
    · simp [hf, (FaultKind.isAbandoning_iff _).1 hf]
    · simp [hf, mt (FaultKind.isAbandoning_iff _).2 hf, asked]

/-- A task that makes one call of a session, or is refused without one if the session was given up.
All else that it does is to read what the call gave back. -/
structure Issues (p : Peer σ) (s : Session) (c : Call) (t : Task σ α) : Prop where
  refused : ∀ w, s.client ∈ w.abandoned →
    ∃ e, runIn w t = (.error (.refused e), w) ∧ e.code = .internal
  called : ∀ w, s.client ∉ w.abandoned → (runIn w t).2 = issued p s c w

lemma issues_issue (verb : String) : Issues p s c (s.issue p verb c) where
  refused w hw := by
    rw [runIn_issue, if_pos (List.contains_iff_mem.2 hw)]
    exact ⟨_, rfl, rfl⟩
  called w hw := by
    rw [runIn_issue, if_neg (mt List.contains_iff_mem.1 hw), issued]
    cases (p.answer s.client c w.remote).outcome <;> rfl

lemma Issues.bind {t : Task σ α} {f : α → Task σ β} (ht : Issues p s c t)
    (hf : ∀ a, Still (f a)) : Issues p s c (t >>= f) where
  refused w hw := by
    obtain ⟨e, hrun, he⟩ := ht.refused w hw
    exact ⟨e, runIn_bind_error hrun f, he⟩
  called w hw := by
    rw [← ht.called w hw, runIn_bind]
    rcases runIn w t with ⟨e | a, w'⟩
    · rfl
    · exact hf a w'

lemma still_number (t : Token) : Still (number t : Task σ Int) := by
  unfold number
  split
  · exact .pure _
  · exact .escape _

lemma still_epoch (items : Items) : Still (epoch items : Task σ Int) := by
  unfold epoch
  split
  · exact .refuse _
  · exact .refuse _
  · exact still_number _
  · exact .escape _

/-- Selecting tells refusals of the server by another error, but not that the session was given
up. -/
lemma issues_select (mailbox : String) (readOnly : Bool) :
    Issues p s (.select mailbox readOnly) (s.select p mailbox readOnly) := by
  have hissue : ∀ verb, Issues p s (.select mailbox readOnly)
      (s.issue p verb (.select mailbox readOnly)) := issues_issue
  constructor
  · intro w hw
    obtain ⟨e, hrun, he⟩ := (hissue (if readOnly then "EXAMINE" else "SELECT")).refused w hw
    have hattempt : runIn w (attempt (s.issue p (if readOnly then "EXAMINE" else "SELECT")
        (.select mailbox readOnly))) = (.ok (.error e), w) := runIn_attempt_eq_ok.2 hrun
    have hgone : runIn w (s.isAbandoned : Task σ Bool) = (.ok true, w) := by
      rw [← List.contains_iff_mem.2 hw]
      rfl
    unfold select
    rw [runIn_bind_ok hattempt]
    dsimp only
    rw [runIn_bind_ok hgone, if_neg (by simp)]
    exact ⟨e, rfl, he⟩
  · intro w hw
    rw [← (hissue (if readOnly then "EXAMINE" else "SELECT")).called w hw]
    unfold select
    rw [runIn_bind, runIn_attempt]
    rcases runIn w (s.issue p (if readOnly then "EXAMINE" else "SELECT")
      (.select mailbox readOnly)) with ⟨(e | e) | items, w'⟩
    · dsimp only
      have hread : Still (s.isAbandoned : Task σ Bool) := fun _ => rfl
      refine hread.bind (fun gone => ?_) w'
      split
      · exact .refuse _
      · exact .refuse _
    · rfl
    · exact still_epoch items w'

lemma issues_fetch (uid : Int) (items : List FetchItem) :
    Issues p s (.fetch uid items) (s.fetch p uid items) := by
  refine (issues_issue _).bind fun found => ?_
  split
  · exact .pure _
  · exact .refuse _

lemma issues_search (criteria : List Search.Atom) :
    Issues p s (.search criteria (Search.charset? criteria)) (s.search p criteria) :=
  (issues_issue _).bind fun ts => (Still.mapM still_number ts).bind fun _ => .pure _

lemma issues_fetchHeader (uid : Int) :
    Issues p s (.fetch uid [.flags, .headerFields]) (s.fetchHeader p uid) := by
  refine (issues_fetch _ _).bind fun items => ?_
  split
  · exact .pure _
  · exact .refuse _

lemma issues_fetchSource (uid : Int) :
    Issues p s (.fetch uid [.source]) (s.fetchSource p uid) := by
  refine (issues_fetch _ _).bind fun items => ?_
  split
  · exact .pure _
  · exact .refuse _

end Verbs

/-! ## What is done with a session -/

/-- A use of a session: a verb, closing it, or leaving its block, whose body ended somehow. -/
inductive Use where
  | noop
  | capabilities
  | mailboxes
  | select (mailbox : String) (readOnly : Bool)
  | search (criteria : List Search.Atom)
  | fetchHeader (uid : Int)
  | fetchFlags (uid : Int)
  | fetchSource (uid : Int)
  | addFlags (uid : Int) (flags : List String)
  | removeFlags (uid : Int) (flags : List String)
  | copy (uid : Int) (mailbox : String)
  | move (uid : Int) (mailbox : String)
  | expunge (uid : Int)
  | append (mailbox : String) (source : List UInt8)
  | close
  | leave (result : Except Failure Unit)

/-- The call that a verb makes. Closing a session and leaving its block are no verbs. -/
def Use.call? : Use → Option Call
  | .noop => some .noop
  | .capabilities => some .capabilities
  | .mailboxes => some .listFolders
  | .select mailbox readOnly => some (.select mailbox readOnly)
  | .search criteria => some (.search criteria (Search.charset? criteria))
  | .fetchHeader uid => some (.fetch uid [.flags, .headerFields])
  | .fetchFlags uid => some (.fetch uid [.flags])
  | .fetchSource uid => some (.fetch uid [.source])
  | .addFlags uid flags => some (.addFlags uid flags)
  | .removeFlags uid flags => some (.removeFlags uid flags)
  | .copy uid mailbox => some (.copy uid mailbox)
  | .move uid mailbox => some (.move uid mailbox)
  | .expunge uid => some (.expunge uid)
  | .append mailbox source => some (.append mailbox source)
  | .close | .leave _ => none

def perform (p : Peer σ) (s : Session) : Use → Task σ Unit
  | .noop => s.noop p
  | .capabilities => do let _ ← s.capabilities p
  | .mailboxes => do let _ ← s.mailboxes p
  | .select mailbox readOnly => do let _ ← s.select p mailbox readOnly
  | .search criteria => do let _ ← s.search p criteria
  | .fetchHeader uid => do let _ ← s.fetchHeader p uid
  | .fetchFlags uid => do let _ ← s.fetchFlags p uid
  | .fetchSource uid => do let _ ← s.fetchSource p uid
  | .addFlags uid flags => s.addFlags p uid flags
  | .removeFlags uid flags => s.removeFlags p uid flags
  | .copy uid mailbox => s.copy p uid mailbox
  | .move uid mailbox => s.move p uid mailbox
  | .expunge uid => s.expunge p uid
  | .append mailbox source => s.append p mailbox source
  | .close => s.close p
  | .leave result => s.within p (Task.ofExcept result)

lemma issues_perform {u : Use} (hu : u.call? = some c) : Issues p s c (s.perform p u) := by
  have hskip : ∀ {α : Type} (_ : α), Still (pure () : Task σ Unit) := fun _ => .pure ()
  cases u <;> cases hu
  case noop => exact issues_issue _
  case capabilities => exact ((issues_issue _).bind fun _ => .pure _).bind hskip
  case mailboxes => exact ((issues_issue _).bind fun _ => .pure _).bind hskip
  case select mailbox readOnly => exact (issues_select mailbox readOnly).bind hskip
  case search criteria => exact (issues_search criteria).bind hskip
  case fetchHeader uid => exact (issues_fetchHeader uid).bind hskip
  case fetchFlags uid => exact ((issues_fetch uid _).bind fun _ => .pure _).bind hskip
  case fetchSource uid => exact (issues_fetchSource uid).bind hskip
  all_goals exact issues_issue _

/-- One use of a session, between the worlds before and after it. -/
structure Stage (σ : Type) where
  start : World σ
  use : Use
  result : Except Failure Unit
  finish : World σ

def stage (p : Peer σ) (s : Session) (w : World σ) (u : Use) : Stage σ :=
  ⟨w, u, (runIn w (s.perform p u)).1, (runIn w (s.perform p u)).2⟩

/-- A session is used again and again, whatever each use comes to. -/
def stages (p : Peer σ) (s : Session) (w : World σ) : List Use → List (Stage σ)
  | [] => []
  | u :: us => s.stage p w u :: s.stages p (s.stage p w u).finish us

namespace Stage

/-- What happened in a stage. -/
def events (t : Stage σ) : List Event :=
  t.finish.trace.drop t.start.trace.length

def IsVerb (t : Stage σ) : Prop :=
  t.use.call? ≠ none

/-- The call of a verb failed, with a failure of one of some kinds. -/
def FailsBy (s : Session) (kinds : List FaultKind) (t : Stage σ) : Prop :=
  ∃ c f, t.use.call? = some c ∧ .called s.client c (.error f) ∈ t.events ∧ f.kind ∈ kinds

lemma events_eq {t : Stage σ} {es : List Event} (h : t.finish.trace = t.start.trace ++ es) :
    t.events = es := by
  rw [events, h, List.drop_left]

end Stage

/-! ## One stage -/

section Stages

variable {u : Use}

lemma stage_refused (hu : u.call? = some c) (hw : s.client ∈ w.abandoned) :
    ∃ e, e.code = .internal ∧ s.stage p w u = ⟨w, u, .error (.refused e), w⟩ := by
  obtain ⟨e, hrun, he⟩ := (issues_perform hu).refused w hw
  exact ⟨e, he, by rw [stage, hrun]⟩

lemma stage_called (hu : u.call? = some c) (hw : s.client ∉ w.abandoned) :
    (s.stage p w u).finish = issued p s c w ∧
      (s.stage p w u).events = [.called s.client c (p.answer s.client c w.remote).outcome] := by
  have hfinish : (s.stage p w u).finish = issued p s c w := (issues_perform hu).called w hw
  exact ⟨hfinish, Stage.events_eq (by rw [hfinish]; exact issued_trace)⟩

/-- A task that adds to the log records at most. -/
def LogsOnly (t : Task σ α) : Prop :=
  ∀ w, ∃ logs, (runIn w t).2 = { w with logs := logs }

lemma logsOnly_ignored (f : Fault) (message : String) :
    LogsOnly (if f.kind = .value then Task.escape (.clientValue f.message)
      else Task.log .debug .imap message : Task σ Unit) := by
  intro w
  split
  · exact ⟨w.logs, rfl⟩
  · exact ⟨_, rfl⟩

/-- What closing a session comes to: nothing if it was closed before, else the call that ends it. -/
lemma close_cases (p : Peer σ) (s : Session) (w : World σ) :
    (s.client ∈ w.closed ∧ (runIn w (s.close p)).2 = w) ∨
    (s.client ∉ w.closed ∧ ∃ c logs, c = (if s.client ∈ w.abandoned then .shutdown else .logout) ∧
      (runIn w (s.close p)).2 =
        { asked p s.client c w with closed := s.client :: w.closed, logs := logs }) := by
  have hget : runIn w (get : Task σ (World σ)) = (.ok w, w) := rfl
  by_cases hclosed : s.client ∈ w.closed
  · refine .inl ⟨hclosed, ?_⟩
    unfold close
    rw [runIn_bind_ok hget, if_pos (List.contains_iff_mem.2 hclosed)]
    rfl
  obtain ⟨w₁, hw₁⟩ : ∃ w₁, w₁ = { w with closed := s.client :: w.closed } := ⟨_, rfl⟩
  have hmodify : runIn w (modify fun w => { w with closed := s.client :: w.closed }) =
      (.ok (), w₁) := by
    rw [hw₁]
    rfl
  have hgone : runIn w₁ (s.isAbandoned : Task σ Bool) =
      (.ok (w.abandoned.contains s.client), w₁) := by
    rw [hw₁]
    rfl
  have hend : ∀ (c : Call) (f : Except Fault c.Reply → Task σ Unit), (∀ o, LogsOnly (f o)) →
      ∃ logs, (runIn w₁ (ask p s.client c >>= f)).2 =
        { asked p s.client c w with closed := s.client :: w.closed, logs := logs } := by
    intro c f hf
    obtain ⟨logs, hlogs⟩ := hf (p.answer s.client c w₁.remote).outcome (asked p s.client c w₁)
    refine ⟨logs, ?_⟩
    rw [runIn_bind_ok (runIn_ask w₁ p s.client c), hlogs, hw₁]
    rfl
  refine .inr ⟨hclosed, ?_⟩
  unfold close
  rw [runIn_bind_ok hget, if_neg (mt List.contains_iff_mem.1 hclosed), runIn_bind_ok hmodify,
    runIn_bind_ok hgone]
  by_cases habandoned : s.client ∈ w.abandoned
  · rw [List.contains_iff_mem.2 habandoned, if_pos rfl, if_pos habandoned, shutdownQuietly]
    refine ⟨.shutdown, (hend .shutdown _ fun o => ?_).imp fun logs hrun => ⟨rfl, hrun⟩⟩
    cases o with
    | ok _ => exact fun w => ⟨w.logs, rfl⟩
    | error f => exact logsOnly_ignored f s!"Ignoring shutdown failure: {f.message}"
  · rw [if_neg (mt List.contains_iff_mem.1 habandoned), if_neg habandoned]
    refine ⟨.logout, (hend .logout _ fun o => ?_).imp fun logs hrun => ⟨rfl, hrun⟩⟩
    cases o with
    | ok _ => exact fun w => ⟨w.logs, rfl⟩
    | error f => exact logsOnly_ignored f s!"Ignoring logout failure: {f.message}"

lemma runIn_perform_closing {u : Use} (hu : u.call? = none) (w : World σ) :
    (runIn w (s.perform p u)).2 = (runIn w (s.close p)).2 := by
  cases u <;> cases hu
  case close => rfl
  case leave result =>
    have hbody : runIn w (Task.observe (Task.ofExcept result : Task σ Unit)) =
        (.ok result, w) := rfl
    simp only [perform, within]
    rw [runIn_bind_ok hbody, runIn_bind]
    rcases runIn w (s.close p) with ⟨f | _, w'⟩ <;> rfl

lemma stage_closing_again (hu : u.call? = none) (hw : s.client ∈ w.closed) :
    (s.stage p w u).finish = w := by
  have hfinish : (s.stage p w u).finish = (runIn w (s.close p)).2 := runIn_perform_closing hu w
  rcases close_cases p s w with ⟨-, hsame⟩ | ⟨hopen, -⟩
  · exact hfinish.trans hsame
  · exact absurd hw hopen

lemma stage_closing (hu : u.call? = none) (hw : s.client ∉ w.closed) :
    (s.stage p w u).finish.abandoned = w.abandoned ∧
      (s.stage p w u).finish.closed = s.client :: w.closed ∧
      ∃ c o, c = (if s.client ∈ w.abandoned then .shutdown else .logout) ∧
        (s.stage p w u).events = [.called s.client c o] := by
  have hfinish : (s.stage p w u).finish = (runIn w (s.close p)).2 := runIn_perform_closing hu w
  rcases close_cases p s w with ⟨hclosed, -⟩ | ⟨-, c, logs, hc, hend⟩
  · exact absurd hclosed hw
  · rw [hend] at hfinish
    refine ⟨by rw [hfinish]; rfl, by rw [hfinish], c, (p.answer s.client c w.remote).outcome, hc,
      ?_⟩
    exact Stage.events_eq (by rw [hfinish]; rfl)

lemma events_stage_still (h : (s.stage p w u).finish = w) : (s.stage p w u).events = [] :=
  Stage.events_eq (by rw [h]; exact (List.append_nil _).symm)

/-- A session is given up by the failures that break the conversation, and by nothing else. -/
lemma mem_abandoned_stage : s.client ∈ (s.stage p w u).finish.abandoned ↔
    s.client ∈ w.abandoned ∨ (s.stage p w u).FailsBy s FaultKind.breaking := by
  cases hu : u.call? with
  | none =>
    have hverb : ¬ (s.stage p w u).FailsBy s FaultKind.breaking := by
      rintro ⟨c, f, hc, -⟩
      have hc : u.call? = some c := hc
      rw [hu] at hc
      cases hc
    rw [or_iff_left hverb]
    by_cases hclosed : s.client ∈ w.closed
    · rw [stage_closing_again hu hclosed]
    · rw [(stage_closing hu hclosed).1]
  | some c =>
    by_cases hgone : s.client ∈ w.abandoned
    · obtain ⟨e, -, hstage⟩ := stage_refused (p := p) hu hgone
      rw [hstage]
      exact ⟨.inl, fun _ => hgone⟩
    · obtain ⟨hfinish, hevents⟩ := stage_called (p := p) hu hgone
      rw [hfinish, mem_issued_abandoned]
      refine or_congr_right ⟨?_, ?_⟩
      · rintro ⟨f, ho, hf⟩
        exact ⟨c, f, hu, by rw [hevents, ho]; exact List.mem_singleton_self _, hf⟩
      · rintro ⟨c', f, hc', hmem, hf⟩
        have hc' : u.call? = some c' := hc'
        rw [hu] at hc'
        cases hc'
        rw [hevents, List.mem_singleton] at hmem
        obtain ⟨-, -, ho⟩ := Event.called.inj hmem
        exact ⟨f, (eq_of_heq ho).symm, hf⟩

lemma mem_closed_stage : s.client ∈ (s.stage p w u).finish.closed ↔
    s.client ∈ w.closed ∨ ¬ (s.stage p w u).IsVerb := by
  have hverb : (s.stage p w u).IsVerb ↔ u.call? ≠ none := Iff.rfl
  rw [hverb, not_not]
  cases hu : u.call? with
  | none =>
    by_cases hclosed : s.client ∈ w.closed
    · rw [stage_closing_again hu hclosed]
      exact ⟨.inl, fun _ => hclosed⟩
    · rw [(stage_closing hu hclosed).2.1]
      exact ⟨fun _ => .inr rfl, fun _ => List.mem_cons_self⟩
  | some c =>
    rw [or_iff_left (by simp)]
    by_cases hgone : s.client ∈ w.abandoned
    · obtain ⟨e, -, hstage⟩ := stage_refused (p := p) hu hgone
      rw [hstage]
    · rw [(stage_called hu hgone).1, issued_closed]

/-! ## All stages -/

/-- Where a stage begins, the session is given up or closed exactly if a stage before did so. -/
lemma stages_split {us : List Use} {before after : List (Stage σ)} {t : Stage σ}
    (h : s.stages p w us = before ++ t :: after) :
    t = s.stage p t.start t.use ∧ (∃ us', after = s.stages p t.finish us') ∧
      (s.client ∈ t.start.abandoned ↔
        s.client ∈ w.abandoned ∨ ∃ b ∈ before, b.FailsBy s FaultKind.breaking) ∧
      (s.client ∈ t.start.closed ↔ s.client ∈ w.closed ∨ ∃ b ∈ before, ¬ b.IsVerb) := by
  induction before generalizing w us with
  | nil =>
    cases us with
    | nil => cases h
    | cons u us =>
      obtain ⟨rfl, rfl⟩ := List.cons.inj h
      exact ⟨rfl, ⟨us, rfl⟩, by simp [stage], by simp [stage]⟩
  | cons b before ih =>
    cases us with
    | nil => cases h
    | cons u us =>
      obtain ⟨rfl, hrest⟩ := List.cons.inj h
      obtain ⟨ht, hafter, habandoned, hclosed⟩ := ih hrest
      refine ⟨ht, hafter, ?_, ?_⟩
      · rw [habandoned, mem_abandoned_stage, List.exists_mem_cons_iff, or_assoc]
      · rw [hclosed, mem_closed_stage, List.exists_mem_cons_iff, or_assoc]

/-- Calls that end the session are made by its first closing only. -/
lemma countP_isEnding_le (us : List Use) (w : World σ) :
    ((s.stages p w us).flatMap Stage.events).countP Event.isEnding ≤
      if s.client ∈ w.closed then 0 else 1 := by
  induction us generalizing w with
  | nil => exact Nat.zero_le _
  | cons u us ih =>
    have hrest := ih (s.stage p w u).finish
    rw [stages, List.flatMap_cons, List.countP_append]
    cases hu : u.call? with
    | none =>
      by_cases hclosed : s.client ∈ w.closed
      · have hsame := stage_closing_again (p := p) hu hclosed
        rw [hsame] at hrest ⊢
        rw [events_stage_still hsame]
        simpa using hrest
      · obtain ⟨-, hfinish, c, o, -, hevents⟩ := stage_closing (p := p) hu hclosed
        rw [hfinish, if_pos List.mem_cons_self] at hrest
        rw [hevents, if_neg hclosed]
        have hone := List.countP_le_length (p := Event.isEnding) (l := [.called s.client c o])
        rw [List.length_singleton] at hone
        omega
    | some c =>
      have hquiet : (s.stage p w u).events.countP Event.isEnding = 0 := by
        by_cases hgone : s.client ∈ w.abandoned
        · obtain ⟨e, -, hstage⟩ := stage_refused (p := p) hu hgone
          rw [events_stage_still (by rw [hstage])]
          rfl
        · rw [(stage_called hu hgone).2]
          cases u <;> cases hu <;> rfl
      have hclosed : s.client ∈ (s.stage p w u).finish.closed ↔ s.client ∈ w.closed := by
        rw [mem_closed_stage, or_iff_left]
        exact not_not.2 (by simp [Stage.IsVerb, stage, hu])
      simp only [hclosed] at hrest
      rw [hquiet]
      omega

/-- On a session that was given up, a verb is refused and nothing happens. Its first closing drops
the connection, and any other closing does nothing. -/
lemma stage_given_up {before rest : List (Stage σ)} {t : Stage σ} {us : List Use}
    (hopen : s.client ∉ w.closed) (h : s.stages p w us = before ++ t :: rest)
    (hgone : s.client ∈ t.start.abandoned) :
    s.client ∈ t.finish.abandoned ∧
      (t.IsVerb → t.finish = t.start ∧ ∃ e, t.result = .error (.refused e) ∧ e.code = .internal) ∧
      (¬ t.IsVerb → (∀ b ∈ before, b.IsVerb) → ∃ o, t.events = [.called s.client .shutdown o]) ∧
      (¬ t.IsVerb → ¬ (∀ b ∈ before, b.IsVerb) → t.finish = t.start) := by
  obtain ⟨ht, -, -, hclosed⟩ := stages_split h
  rw [or_iff_right hopen] at hclosed
  have hstay : s.client ∈ t.finish.abandoned := by
    rw [ht]
    exact mem_abandoned_stage.2 (.inl hgone)
  refine ⟨hstay, fun hverb => ?_, fun hclosing hfirst => ?_, fun hclosing hlater => ?_⟩
  · obtain ⟨c, hc⟩ := Option.ne_none_iff_exists'.1 hverb
    obtain ⟨e, he, hstage⟩ := stage_refused (p := p) hc hgone
    rw [← ht] at hstage
    exact ⟨by rw [hstage], e, by rw [hstage], he⟩
  · have hopen : s.client ∉ t.start.closed := by
      rw [hclosed]
      rintro ⟨b, hb, hverb⟩
      exact hverb (hfirst b hb)
    obtain ⟨-, -, c, o, hc, hevents⟩ := stage_closing (p := p) (not_not.1 hclosing) hopen
    rw [if_pos hgone] at hc
    obtain rfl := hc
    rw [← ht] at hevents
    exact ⟨o, hevents⟩
  · have hover : s.client ∈ t.start.closed := by
      rw [hclosed]
      simpa using hlater
    have hsame := stage_closing_again (p := p) (not_not.1 hclosing) hover
    rwa [← ht] at hsame

/-- A verb that the server refuses leaves the session usable: the next one is called. -/
lemma usable_after_refusal {before after : List (Stage σ)} {t : Stage σ} {us : List Use}
    (h : s.stages p w us = before ++ t :: after) (hrefuses : t.FailsBy s FaultKind.refusing) :
    s.client ∉ t.finish.abandoned ∧ ∀ u rest c, after = u :: rest → u.use.call? = some c →
      ∃ o, u.events = [.called s.client c o] := by
  obtain ⟨c, f, hc, hmem, hf⟩ := hrefuses
  obtain ⟨ht, ⟨us', hrest⟩, -, -⟩ := stages_split h
  -- The verb was called, so that the session had not been given up before.
  have hstart : s.client ∉ t.start.abandoned := by
    intro hgone
    obtain ⟨e, -, hstage⟩ := stage_refused (p := p) hc hgone
    rw [ht, events_stage_still (by rw [hstage])] at hmem
    cases hmem
  obtain ⟨hfinish, hevents⟩ := stage_called (p := p) hc hstart
  rw [← ht] at hfinish hevents
  rw [hevents, List.mem_singleton] at hmem
  obtain ⟨-, -, ho⟩ := Event.called.inj hmem
  have hstay : s.client ∉ t.finish.abandoned := by
    rw [hfinish, mem_issued_abandoned, ← eq_of_heq ho]
    rintro (hgone | ⟨f', hf', hbreaks⟩)
    · exact hstart hgone
    · cases hf'
      exact FaultKind.not_breaking_of_refusing hf hbreaks
  refine ⟨hstay, fun u rest c' hafter hu => ?_⟩
  rw [hafter] at hrest
  cases us' with
  | nil => cases hrest
  | cons u' us' =>
    obtain ⟨rfl, -⟩ := List.cons.inj hrest
    exact ⟨_, (stage_called hu hstay).2⟩

/-- A logout is called by closing a session that was not given up. -/
lemma logout_first {before rest : List (Stage σ)} {t : Stage σ} {us : List Use}
    {o : Except Fault Unit} (hfresh : s.client ∉ w.abandoned)
    (h : s.stages p w us = before ++ t :: rest) (hlogout : .called s.client .logout o ∈ t.events) :
    ¬ t.IsVerb ∧ ∀ b ∈ before, ¬ b.FailsBy s FaultKind.breaking := by
  obtain ⟨ht, -, habandoned, -⟩ := stages_split h
  rw [or_iff_right hfresh] at habandoned
  have hclosing : t.use.call? = none := by
    by_contra hverb
    obtain ⟨c, hc⟩ := Option.ne_none_iff_exists'.1 hverb
    by_cases hgone : s.client ∈ t.start.abandoned
    · obtain ⟨e, -, hstage⟩ := stage_refused (p := p) hc hgone
      rw [ht, events_stage_still (by rw [hstage])] at hlogout
      cases hlogout
    · rw [ht, (stage_called hc hgone).2, List.mem_singleton] at hlogout
      obtain ⟨-, rfl, -⟩ := Event.called.inj hlogout
      cases hu : t.use <;> rw [hu] at hc <;> cases hc
  refine ⟨not_not.2 hclosing, fun b hb hbreaks => ?_⟩
  have hgone : s.client ∈ t.start.abandoned := habandoned.2 ⟨b, hb, hbreaks⟩
  by_cases hover : s.client ∈ t.start.closed
  · rw [ht, events_stage_still (stage_closing_again hclosing hover)] at hlogout
    cases hlogout
  · obtain ⟨-, -, c, o', hc, hevents⟩ := stage_closing (p := p) hclosing hover
    rw [if_pos hgone] at hc
    obtain rfl := hc
    rw [ht, hevents, List.mem_singleton] at hlogout
    obtain ⟨-, hcall, -⟩ := Event.called.inj hlogout
    cases hcall

/-- A failure that breaks the conversation gives a session up for ever. Verbs are refused from then
on without a call, and all that is still called is a shutdown, by the first closing of all. Refusals
of the server leave the session usable. A session is ended at most once, with a logout only if no
failure broke the conversation before. -/
theorem given_up_for_good (p : Peer σ) (s : Session) (w : World σ) (us : List Use)
    (hfresh : s.client ∉ w.abandoned) (hopen : s.client ∉ w.closed) :
    (∀ before t after, s.stages p w us = before ++ t :: after →
      t.FailsBy s FaultKind.breaking → s.client ∈ t.finish.abandoned ∧
        ∀ mid u rest, after = mid ++ u :: rest → s.client ∈ u.finish.abandoned ∧
          (u.IsVerb →
            u.finish = u.start ∧ ∃ e, u.result = .error (.refused e) ∧ e.code = .internal) ∧
          (¬ u.IsVerb → (∀ b ∈ before ++ t :: mid, b.IsVerb) →
            ∃ o, u.events = [.called s.client .shutdown o]) ∧
          (¬ u.IsVerb → ¬ (∀ b ∈ before ++ t :: mid, b.IsVerb) → u.finish = u.start)) ∧
    (∀ before t after, s.stages p w us = before ++ t :: after →
      t.FailsBy s FaultKind.refusing → s.client ∉ t.finish.abandoned ∧
        ∀ u rest c, after = u :: rest → u.use.call? = some c →
          ∃ o, u.events = [.called s.client c o]) ∧
    ((s.stages p w us).flatMap Stage.events).countP Event.isEnding ≤ 1 ∧
    ∀ before t after o, s.stages p w us = before ++ t :: after →
      .called s.client .logout o ∈ t.events →
        ¬ t.IsVerb ∧ ∀ b ∈ before, ¬ b.FailsBy s FaultKind.breaking := by
  refine ⟨fun before t after h hbreaks => ?_, fun before t after h hrefuses => ?_, ?_,
    fun before t after o h hlogout => ?_⟩
  · obtain ⟨ht, -, -, -⟩ := stages_split h
    have hgone : s.client ∈ t.finish.abandoned := by
      rw [ht] at hbreaks ⊢
      exact mem_abandoned_stage.2 (.inr hbreaks)
    refine ⟨hgone, fun mid u rest hafter => ?_⟩
    have hsplit : s.stages p w us = (before ++ t :: mid) ++ u :: rest := by
      rw [h, hafter, List.append_assoc, List.cons_append]
    obtain ⟨-, -, habandoned, -⟩ := stages_split hsplit
    refine stage_given_up hopen hsplit (habandoned.2 (.inr ⟨t, ?_, hbreaks⟩))
    exact List.mem_append_right _ List.mem_cons_self
  · exact usable_after_refusal h hrefuses
  · have hle := countP_isEnding_le (p := p) (s := s) us w
    rwa [if_neg hopen] at hle
  · exact logout_first hfresh h hlogout

end Stages

/-- A server that refuses a `NOOP` and then goes away during another. -/
def brokenOff : Script :=
  { noop := [.error ⟨.refusal, "not now"⟩, .error ⟨.abort, "bye"⟩] }

/-- The session of the first client is used on that server, also after it was closed. -/
def brokenOffStages : List (Stage Script) :=
  (⟨0⟩ : Session).stages Script.peer (.start brokenOff 0)
    [.noop, .mailboxes, .noop, .select "INBOX" true, .close, .capabilities, .leave (.ok ())]

theorem given_up_for_good_of_abort :
    0 ∉ (World.start brokenOff 0).abandoned ∧ 0 ∉ (World.start brokenOff 0).closed ∧
    (∃ t after, brokenOffStages = t :: after ∧ t.FailsBy ⟨0⟩ FaultKind.refusing ∧
      0 ∉ t.finish.abandoned) ∧
    (∃ before t after, brokenOffStages = before ++ t :: after ∧
      t.FailsBy ⟨0⟩ FaultKind.breaking ∧ after.length = 4 ∧
      ∀ u ∈ after, 0 ∈ u.finish.abandoned ∧ (u.IsVerb → u.finish = u.start)) ∧
    (brokenOffStages.flatMap Stage.events).countP Event.isEnding ≤ 1 := by
  have hfresh : 0 ∉ (World.start brokenOff 0).abandoned := List.not_mem_nil
  have hopen : 0 ∉ (World.start brokenOff 0).closed := List.not_mem_nil
  obtain ⟨hbreaks, hrefuses, hends, -⟩ := given_up_for_good Script.peer ⟨0⟩ (.start brokenOff 0)
    [.noop, .mailboxes, .noop, .select "INBOX" true, .close, .capabilities, .leave (.ok ())]
    hfresh hopen
  have hsplit : brokenOffStages = (brokenOffStages.take 2) ++
      brokenOffStages[2] :: brokenOffStages.drop 3 := rfl
  have hsecond : brokenOffStages = [] ++ brokenOffStages[0] :: brokenOffStages.drop 1 := rfl
  have hfirstFails : brokenOffStages[0].FailsBy ⟨0⟩ FaultKind.refusing :=
    ⟨.noop, ⟨.refusal, "not now"⟩, rfl, List.mem_singleton.2 rfl, by decide⟩
  have hthirdFails : brokenOffStages[2].FailsBy ⟨0⟩ FaultKind.breaking :=
    ⟨.noop, ⟨.abort, "bye"⟩, rfl, List.mem_singleton.2 rfl, by decide⟩
  refine ⟨hfresh, hopen, ⟨_, _, hsecond, hfirstFails, (hrefuses _ _ _ hsecond hfirstFails).1⟩,
    ⟨_, _, _, hsplit, hthirdFails, rfl, fun u hu => ?_⟩, hends⟩
  obtain ⟨mid, rest, hafter⟩ := List.append_of_mem hu
  obtain ⟨hgone, hverb, -⟩ := (hbreaks _ _ _ hsplit hthirdFails).2 mid u rest hafter
  exact ⟨hgone, fun h => (hverb h).1⟩

end Session

end Imap

end Mailroom
