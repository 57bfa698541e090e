import Mailroom.Proofs.SearchRun
import Mailroom.Proofs.Serving

/-!
# Overlapping searches

Searches that are called at the same time share the world. A call uses the cursors twice: it looks
its cursor up, and after it attempted the messages of its page one after another it moves the cursor
on. Other calls may do anything in between. Every run of such calls is a sequence of beats, each of
which uses the cursors once or makes one attempt; a call that nothing overlaps is one such run.
-/

namespace Mailroom

open Imap

/-- How far a search call is that has its snapshot. -/
inductive Progress where
  | reading
  | left (next : Option String)
  | failed
deriving DecidableEq

/-- A search call that has its snapshot, with the rows of its page so far. -/
structure Visit where
  session : Session
  request : Search.Request
  sheet : Service.Sheet
  progress : Progress

namespace Visit

/-- The messages that a call is to attempt. -/
def page (c : Visit) : List Int :=
  slice c.sheet.snapshot.uids c.sheet.snapshot.offset (c.sheet.snapshot.offset + c.request.limit)

def next? (c : Visit) : Option Int :=
  c.page[c.sheet.rows.length]?

def attempted (c : Visit) (row : Except Issue MessageRow) : Visit :=
  { c with sheet := { c.sheet with rows := c.sheet.rows ++ [row] } }

def ended (c : Visit) (progress : Progress) : Visit :=
  { c with progress := progress }

/-- A call was given a cursor, or gave it. -/
def On (token : String) (c : Visit) : Prop :=
  c.sheet.snapshot.cursor = some token ∨ c.progress = .left (some token)

def HasLeft (c : Visit) : Prop :=
  ∃ next, c.progress = .left next

/-- A call attempted the message at a place of its snapshot. -/
def Attempts (c : Visit) (k : Nat) (uid : Int) : Prop :=
  ∃ j : Nat, ∃ row, c.sheet.rows[j]? = some row ∧ c.sheet.snapshot.offset + j = k ∧
    attemptedUid row = some uid

end Visit

/-- The world and the calls that took a snapshot, the earliest first. -/
structure Scene (σ : Type) where
  world : World σ
  visits : List Visit

/-- What a moment can bring: anything that leaves the cursors alone, the two uses of a cursor by a
call that is refused, and the steps of a search call. -/
inductive Beat (σ : Type) where
  | elsewhere (f : World σ → World σ)
  | lookUp (token : String)
  | giveUp (token : String)
  | enter (today : Moment) (s : Session) (r : Search.Request) (epoch : Int)
  | attempt (i : Nat)
  | leave (i : Nat)

namespace Scene

variable {σ : Type}

def opening (remote : σ) (clock : Nat) : Scene σ :=
  ⟨.start remote clock, []⟩

def receive (x : Scene σ) (y : Option Visit × World σ) : Scene σ :=
  ⟨y.2, x.visits ++ y.1.toList⟩

/-- A step of one of the calls. -/
def turn (x : Scene σ) (i : Nat) (f : World σ → Visit → Visit × World σ) : Scene σ :=
  match x.visits[i]? with
  | none => x
  | some c => ⟨(f x.world c).2, x.visits.set i (f x.world c).1⟩

end Scene

namespace Service

variable {σ : Type}

/-- Takes the snapshot of a call, if the call is not refused or answered at once. -/
def enter (v : Service σ) (w : World σ) (s : Session) (r : Search.Request) (epoch : Int) :
    Option Visit × World σ :=
  match r.validate with
  | .error _ => (none, w)
  | .ok _ =>
    match Task.runIn w (v.snapshot s r epoch) with
    | (.ok (.ok n), w') =>
      (if (n.uids.length : Int) < n.offset then none else some ⟨s, r, ⟨epoch, n, []⟩, .reading⟩, w')
    | (_, w') => (none, w')

/-- Attempts the next message of a call's page, if there is one left. -/
def attemptNext (v : Service σ) (w : World σ) (c : Visit) : Visit × World σ :=
  match c.progress, c.next? with
  | .reading, some uid =>
    match Task.runIn w (v.fetchRow c.session c.request c.sheet.epoch c.sheet.snapshot uid) with
    | (.ok row, w') => (c.attempted row, w')
    | (.error _, w') => (c.ended .failed, w')
  | _, _ => (c, w)

/-- Moves the cursor behind a call's page, if no message of it is left. -/
def leave (v : Service σ) (w : World σ) (c : Visit) : Visit × World σ :=
  match c.progress, c.next? with
  | .reading, none =>
    match Task.runIn w (v.advance c.request c.sheet) with
    | (.ok next, w') => (c.ended (.left next), w')
    | (.error _, w') => (c.ended .failed, w')
  | _, _ => (c, w)

def beat (v : Service σ) (x : Scene σ) : Beat σ → Scene σ
  | .elsewhere f => { x with world := { f x.world with cursors := x.world.cursors } }
  | .lookUp token => { x with world := (Task.runIn x.world
      (Task.cursors fun now store => store.get now token)).2 }
  | .giveUp token => { x with world := (Task.runIn x.world
      (Task.cursors fun now store => ((), store.delete now token))).2 }
  | .enter today s r epoch => x.receive ({ v with today := today }.enter x.world s r epoch)
  | .attempt i => x.turn i v.attemptNext
  | .leave i => x.turn i v.leave

def overlap (v : Service σ) (x : Scene σ) (bs : List (Beat σ)) : Scene σ :=
  bs.foldl v.beat x

lemma overlap_append (v : Service σ) (x : Scene σ) (bs : List (Beat σ)) (b : Beat σ) :
    v.overlap x (bs ++ [b]) = v.beat (v.overlap x bs) b := by
  rw [overlap, List.foldl_append]
  rfl

end Service

section Sequence

variable {σ : Type} {v : Service σ} {r : Search.Request} {s : Session} {epoch : Int} {n : Snapshot}
variable {w w' w₂ w₃ : World σ} {page : Answer.Page} {visits : List Visit} {c : Visit}

/-- The attempts of one call without others in between. -/
lemma overlap_attempts {done rest : List Int} {rows : List (Except Issue MessageRow)}
    (hreading : c.progress = .reading) (hpage : c.page = done ++ rest)
    (hdone : c.sheet.rows.length = done.length)
    (h : Task.runIn w (rest.mapM (v.fetchRow c.session c.request c.sheet.epoch
      c.sheet.snapshot)) = (.ok rows, w')) :
    v.overlap ⟨w, visits ++ [c]⟩ (List.replicate rest.length (.attempt visits.length)) =
      ⟨w', visits ++ [{ c with sheet := { c.sheet with rows := c.sheet.rows ++ rows } }]⟩ := by
  induction rest generalizing w c done rows with
  | nil =>
    rw [List.mapM_nil] at h
    cases h
    rw [List.append_nil]
    rfl
  | cons uid rest ih =>
    rw [List.mapM_cons] at h
    obtain ⟨row, w₁, hrow, h⟩ := Task.runIn_bind_eq_ok.1 h
    obtain ⟨rows', w₂, hrows, h⟩ := Task.runIn_bind_eq_ok.1 h
    cases h
    have hnext : c.next? = some uid := by
      rw [Visit.next?, hpage, hdone, List.getElem?_append_right le_rfl, Nat.sub_self]
      rfl
    have hbeat : v.beat ⟨w, visits ++ [c]⟩ (.attempt visits.length) =
        ⟨w₁, visits ++ [c.attempted row]⟩ := by
      have hget : (visits ++ [c])[visits.length]? = some c := by simp
      simp only [Service.beat, Scene.turn, hget, Service.attemptNext, hreading, hnext, hrow]
      simp
    have hpage' : (c.attempted row).page = (done ++ [uid]) ++ rest := by
      rw [List.append_assoc]
      exact hpage
    have hrest := ih (c := c.attempted row) hreading hpage' (by simp [Visit.attempted, hdone]) hrows
    rw [List.length_cons, List.replicate_succ, Service.overlap, List.foldl_cons, hbeat]
    refine hrest.trans ?_
    simp [Visit.attempted]

lemma beat_elsewhere {w₁ : World σ} (h : w₁.cursors = w.cursors) (visits : List Visit) :
    v.beat ⟨w, visits⟩ (.elsewhere fun _ => w₁) = ⟨w₁, visits⟩ := by
  rw [Service.beat]
  dsimp only
  rw [← h]

/-- A search call that no other overlaps is a run of beats. -/
theorem Service.search_eq_overlap (hselects : v.Selects w r s epoch w₂)
    (hsnapshot : Task.runIn w₂ (v.snapshot s r epoch) = (.ok (.ok n), w₃))
    (hrange : n.offset ≤ n.uids.length) (h : Task.runIn w (v.search r) = (.ok page, w'))
    (visits : List Visit) :
    ∃ bs c, v.overlap ⟨w, visits⟩ bs = ⟨w', visits ++ [c]⟩ ∧ c.request = r ∧
      c.sheet.snapshot = n ∧ Shows c.sheet page ∧ c.progress = .left page.nextCursor := by
  obtain ⟨_, hvalid, -⟩ := Task.runIn_check_bind_eq_ok.1 h
  rcases search_runs hvalid hselects hsnapshot hrange with
    ⟨f, hf, -⟩ | ⟨rows, w₄, w₅, hrows, hclose, hrun⟩
  · rw [h] at hf
    cases hf
  obtain ⟨cursor, w₆, hadvance, hpage⟩ := Task.runIn_bind_eq_ok.1 (hrun.symm.trans h)
  let c : Visit := ⟨s, r, ⟨epoch, n, []⟩, .reading⟩
  let d : Visit := ⟨s, r, ⟨epoch, n, rows⟩, .reading⟩
  have henter : v.beat ⟨w₂, visits⟩ (.enter v.today s r epoch) = ⟨w₃, visits ++ [c]⟩ := by
    simp only [Service.beat, Service.enter, hvalid, hsnapshot, if_neg (not_lt.2 hrange)]
    rfl
  have hattempts : v.overlap ⟨w₃, visits ++ [c]⟩
      (List.replicate c.page.length (.attempt visits.length)) = ⟨w₄, visits ++ [d]⟩ :=
    overlap_attempts rfl (List.nil_append _).symm rfl hrows
  have hleave : v.beat ⟨w₅, visits ++ [d]⟩ (.leave visits.length) =
      ⟨w₆, visits ++ [d.ended (.left cursor)]⟩ := by
    have hnext : d.next? = none := by
      have hlength := congrArg List.length ((triple_fetchRows r epoch n _).ok trivial hrows)
      rw [List.length_map, List.length_map] at hlength
      exact List.getElem?_eq_none hlength.ge
    have hget : (visits ++ [d])[visits.length]? = some d := by simp
    have hreading : d.progress = .reading := rfl
    simp only [Service.beat, Scene.turn, hget, Service.leave, hreading, hnext]
    simp [d, hadvance]
  have hclosed : w₅.cursors = w₄.cursors :=
    ((resting_refl w₄).run (Footprint.covers_close fun _ _ => trivial) hclose).1
  refine ⟨[.elsewhere fun _ => w₂, .enter v.today s r epoch] ++
    List.replicate c.page.length (.attempt visits.length) ++
    [.elsewhere fun _ => w₅, .leave visits.length, .elsewhere fun _ => w'],
    d.ended (.left cursor), ?_, rfl, rfl, ?_, ?_⟩
  · simp only [Service.overlap, List.foldl_append, List.foldl_cons, List.foldl_nil]
    rw [beat_elsewhere hselects.resting.1, henter, ← Service.overlap, hattempts,
      beat_elsewhere hclosed, hleave]
    cases hpage
    rfl
  · cases hpage
    exact ⟨rfl, rfl, rfl⟩
  · cases hpage
    rfl

end Sequence

/-! ## Samples

Four messages, of which the first page takes the newest. -/

namespace Sample

def longInbox : StoredMailbox :=
  { inbox with
    messages := inbox.messages ++ [message 4 "Subject: four\n\n"]
    nextUid := 5 }

def longScene : Scene Exchange :=
  .opening ⟨[("mail", { host 0 with mailboxes := [longInbox] })], []⟩ 0

/-- Some call connects and selects the inbox. -/
def connecting : Beat Exchange :=
  .elsewhere fun w => (Task.runIn w do
    let s ← (service false).connect account
    s.select Exchange.peer "INBOX" true).2

def entering (client : ClientId) (limit : Int) (cursor : Option String) : Beat Exchange :=
  .enter noon ⟨client⟩ (search limit cursor) 7

def firstPage : List (Beat Exchange) :=
  [connecting, entering 0 1 none, .attempt 0, .leave 0]

/-- A second call that begins when the first has left. -/
def inTurn : List (Beat Exchange) :=
  firstPage ++ [connecting, entering 1 1 (some "cursor-1"), .attempt 1, .leave 1]

/-- Two calls with one cursor of which the one with the longer page leaves first. -/
def overlapping : List (Beat Exchange) :=
  firstPage ++ [connecting, connecting, entering 1 1 (some "cursor-1"),
    entering 2 2 (some "cursor-1"), .attempt 1, .attempt 2, .attempt 2, .leave 2, .leave 1]

/-- A call with the rest of the messages. -/
def ending : List (Beat Exchange) :=
  [connecting, entering 3 2 (some "cursor-1"), .attempt 3, .attempt 3, .leave 3]

/-- Of each call its cursor, its place, how much it attempted and how far it is; and the place that
is kept. -/
def summary (x : Scene Exchange) : List (Option String × Int × Nat × Progress) × Option Int :=
  (x.visits.map fun c => (c.sheet.snapshot.cursor, c.sheet.snapshot.offset, c.sheet.rows.length,
    c.progress), (x.world.cursors.find? "cursor-1").map (·.offset))

lemma summaries :
    summary ((service false).overlap longScene inTurn) =
      ([(none, 0, 1, .left (some "cursor-1")),
        (some "cursor-1", 1, 1, .left (some "cursor-1"))], some 2) ∧
    summary ((service false).overlap longScene overlapping) =
      ([(none, 0, 1, .left (some "cursor-1")), (some "cursor-1", 1, 1, .left (some "cursor-1")),
        (some "cursor-1", 1, 2, .left (some "cursor-1"))], some 2) ∧
    (summary ((service false).overlap longScene overlapping.dropLast)).2 = some 3 ∧
    (some "cursor-1", 2, 2, .left none) ∈
      (summary ((service false).overlap longScene (overlapping ++ ending))).1 := by
  -- Only the first page searches, so that its numbers are sorted before the rest is computed.
  suffices h : ∃ x, (service false).overlap longScene [connecting, entering 0 1 none] = x ∧
      summary ((service false).overlap x (inTurn.drop 2)) =
        ([(none, 0, 1, .left (some "cursor-1")),
          (some "cursor-1", 1, 1, .left (some "cursor-1"))], some 2) ∧
      summary ((service false).overlap x (overlapping.drop 2)) =
        ([(none, 0, 1, .left (some "cursor-1")), (some "cursor-1", 1, 1, .left (some "cursor-1")),
          (some "cursor-1", 1, 2, .left (some "cursor-1"))], some 2) ∧
      (summary ((service false).overlap x (overlapping.dropLast.drop 2))).2 = some 3 ∧
      (some "cursor-1", 2, 2, .left none) ∈
        (summary ((service false).overlap x ((overlapping ++ ending).drop 2))).1 by
    obtain ⟨x, rfl, h⟩ := h
    exact h
  refine ⟨?x, ?_, ?_⟩
  rotate_left
  · change Scene.receive ((service false).beat longScene connecting)
      ((service false).enter ((service false).beat longScene connecting).world ⟨0⟩ (search 1 none)
        7) = _
    unfold Service.enter Service.snapshot Service.start Session.search
    simp only [newestFirst_eq_insertionSort]
    rfl
  · refine ⟨?_, ?_, ?_, ?_⟩ <;> decide +kernel

end Sample

end Mailroom
