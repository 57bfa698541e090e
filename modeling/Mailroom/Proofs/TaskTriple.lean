import Mathlib.Tactic.Lemma
import Mailroom.Task.Service
import Mailroom.Task.Searching

/-!
# Triples of tasks

`Triple P t Q E` says what a task makes of the worlds that satisfy `P`: with a result it ends as `Q`
says, without one as `E` says. The rules follow the ways in which tasks are put together, so that a
property of a command is derived from one rule for each of its steps.
-/

namespace Mailroom.Task

open Imap

variable {σ α β : Type}

@[simp] lemma runIn_pure (w : World σ) (a : α) : runIn w (pure a) = (.ok a, w) := rfl

@[simp] lemma runIn_ofExcept (w : World σ) (r : Except Failure α) :
    runIn w (ofExcept r) = (r, w) := rfl

@[simp] lemma runIn_check (w : World σ) (r : Except Error α) :
    runIn w (check r) = (r.mapError .refused, w) := rfl

@[simp] lemma runIn_observe (w : World σ) (t : Task σ α) :
    runIn w (observe t) = (.ok (runIn w t).1, (runIn w t).2) := rfl

@[simp] lemma runIn_now (w : World σ) :
    runIn w (now : Task σ Instant) = (.ok (Instant.ofMillis w.clock), w) := rfl

def asked (p : Peer σ) (k : ClientId) (c : Call) (w : World σ) : World σ :=
  { w with
    remote := (p.answer k c w.remote).next
    clock := w.clock + (p.answer k c w.remote).delay
    trace := w.trace ++ [.called k c (p.answer k c w.remote).outcome] }

@[simp] lemma runIn_ask (w : World σ) (p : Peer σ) (k : ClientId) (c : Call) :
    runIn w (ask p k c) = (.ok (p.answer k c w.remote).outcome, asked p k c w) := rfl

lemma runIn_bind (w : World σ) (t : Task σ α) (f : α → Task σ β) :
    runIn w (t >>= f) =
      match runIn w t with
      | (.ok a, w') => runIn w' (f a)
      | (.error e, w') => (.error e, w') := by
  simp only [runIn, ExceptT.run, bind, ExceptT.bind, ExceptT.mk, StateT.run, StateT.bind]
  rcases h : t w with ⟨r, w'⟩
  cases r <;> rfl

lemma runIn_bind_ok {w w' : World σ} {t : Task σ α} {a : α} (h : runIn w t = (.ok a, w'))
    (f : α → Task σ β) : runIn w (t >>= f) = runIn w' (f a) := by
  rw [runIn_bind, h]

lemma runIn_bind_error {w w' : World σ} {t : Task σ α} {e : Failure}
    (h : runIn w t = (.error e, w')) (f : α → Task σ β) : runIn w (t >>= f) = (.error e, w') := by
  rw [runIn_bind, h]

lemma runIn_attempt (w : World σ) (t : Task σ α) :
    runIn w (attempt t) =
      match runIn w t with
      | (.ok a, w') => (.ok (.ok a), w')
      | (.error (.refused e), w') => (.ok (.error e), w')
      | (.error (.escaped e), w') => (.error (.escaped e), w') := by
  unfold attempt
  rw [runIn_bind, runIn_observe]
  rcases runIn w t with ⟨(e | e) | a, w'⟩ <;> rfl

lemma runIn_ofExcept_bind_ok {w : World σ} {r : Except Failure α} {a : α} (h : r = .ok a)
    (f : α → Task σ β) : runIn w (ofExcept r >>= f) = runIn w (f a) := by
  rw [h]
  rfl

lemma runIn_check_bind_ok {w : World σ} {r : Except Error α} {a : α} (h : r = .ok a)
    (f : α → Task σ β) : runIn w (check r >>= f) = runIn w (f a) := by
  rw [h]
  rfl

lemma runIn_account_bind_ok {v : Service σ} {w : World σ} {id : String} {a : Account}
    (h : v.settings.account id = .ok a) (f : Account → Task σ β) :
    runIn w (v.account id >>= f) = runIn w (f a) :=
  runIn_check_bind_ok h f

lemma runIn_attempt_bind_ok {w w' : World σ} {t : Task σ α} {a : α} (h : runIn w t = (.ok a, w'))
    (f : Except Error α → Task σ β) : runIn w (attempt t >>= f) = runIn w' (f (.ok a)) := by
  rw [runIn_bind, runIn_attempt, h]

lemma runIn_bind_eq_ok {w w'' : World σ} {t : Task σ α} {f : α → Task σ β} {b : β} :
    runIn w (t >>= f) = (.ok b, w'') ↔
      ∃ a w', runIn w t = (.ok a, w') ∧ runIn w' (f a) = (.ok b, w'') := by
  rw [runIn_bind]
  rcases runIn w t with ⟨e | a, w'⟩
  · simp
  · constructor
    · exact fun h => ⟨a, w', rfl, h⟩
    · rintro ⟨_, _, ⟨⟩, h⟩
      exact h

lemma runIn_ofExcept_bind_eq_ok {w w' : World σ} {r : Except Failure α} {f : α → Task σ β}
    {b : β} : runIn w (ofExcept r >>= f) = (.ok b, w') ↔
      ∃ a, r = .ok a ∧ runIn w (f a) = (.ok b, w') := by
  rw [runIn_bind, runIn_ofExcept]
  cases r <;> simp

lemma runIn_check_bind_eq_ok {w w' : World σ} {r : Except Error α} {f : α → Task σ β} {b : β} :
    runIn w (check r >>= f) = (.ok b, w') ↔ ∃ a, r = .ok a ∧ runIn w (f a) = (.ok b, w') := by
  rw [runIn_bind, runIn_check]
  cases r with
  | ok a =>
    constructor
    · exact fun h => ⟨a, rfl, h⟩
    · rintro ⟨_, ⟨⟩, h⟩
      exact h
  | error e =>
    constructor
    · rintro ⟨⟩
    · rintro ⟨_, ⟨⟩, -⟩

lemma runIn_attempt_eq_ok {w w' : World σ} {t : Task σ α} {r : Except Error α} :
    runIn w (attempt t) = (.ok r, w') ↔ runIn w t = (r.mapError .refused, w') := by
  rw [runIn_attempt]
  rcases runIn w t with ⟨(e | e) | a, w'⟩ <;> cases r <;> constructor <;> rintro ⟨⟩ <;> rfl

/-- What a task makes of the worlds that satisfy a condition, with a result and without. -/
def Triple (P : World σ → Prop) (t : Task σ α) (Q : α → World σ → Prop)
    (E : Failure → World σ → Prop) : Prop :=
  ∀ w, P w →
    match runIn w t with
    | (.ok a, w') => Q a w'
    | (.error f, w') => E f w'

section Rules

variable {P P' : World σ → Prop} {Q : α → World σ → Prop} {E : Failure → World σ → Prop}
variable {t : Task σ α}

lemma Triple.ok {w w' : World σ} {a : α} (h : Triple P t Q E) (hw : P w)
    (hr : runIn w t = (.ok a, w')) : Q a w' := by
  have ht := h w hw
  rwa [hr] at ht

lemma Triple.error {w w' : World σ} {f : Failure} (h : Triple P t Q E) (hw : P w)
    (hr : runIn w t = (.error f, w')) : E f w' := by
  have ht := h w hw
  rwa [hr] at ht

/-- The world after a task that ends alike with and without a result. -/
lemma Triple.final {w : World σ} {I : World σ → Prop} (h : Triple P t (fun _ => I) fun _ => I)
    (hw : P w) : I (runIn w t).2 := by
  have ht := h w hw
  rcases hr : runIn w t with ⟨f | a, w'⟩ <;> rwa [hr] at ht

lemma Triple.of_cases (hok : ∀ w a w', P w → runIn w t = (.ok a, w') → Q a w')
    (herror : ∀ w f w', P w → runIn w t = (.error f, w') → E f w') : Triple P t Q E := by
  intro w hw
  rcases h : runIn w t with ⟨f | a, w'⟩
  · exact herror w f w' hw h
  · exact hok w a w' hw h

lemma Triple.imp {Q' : α → World σ → Prop} {E' : Failure → World σ → Prop}
    (h : Triple P' t Q' E') (hP : ∀ w, P w → P' w) (hQ : ∀ a w, Q' a w → Q a w)
    (hE : ∀ f w, E' f w → E f w) : Triple P t Q E :=
  .of_cases (fun w a w' hw hr => hQ a w' (h.ok (hP w hw) hr))
    (fun w f w' hw hr => hE f w' (h.error (hP w hw) hr))

lemma Triple.before (h : Triple P' t Q E) (hP : ∀ w, P w → P' w) : Triple P t Q E :=
  h.imp hP (fun _ _ hq => hq) (fun _ _ he => he)

lemma Triple.and {Q' : α → World σ → Prop} {E' : Failure → World σ → Prop}
    (h : Triple P t Q E) (h' : Triple P' t Q' E') :
    Triple (fun w => P w ∧ P' w) t (fun a w => Q a w ∧ Q' a w) (fun f w => E f w ∧ E' f w) :=
  .of_cases (fun _ _ _ hw hr => ⟨h.ok hw.1 hr, h'.ok hw.2 hr⟩)
    (fun _ _ _ hw hr => ⟨h.error hw.1 hr, h'.error hw.2 hr⟩)

protected lemma Triple.pure {a : α} (h : ∀ w, P w → Q a w) : Triple P (pure a) Q E := h

protected lemma Triple.refuse {e : Error} (h : ∀ w, P w → E (.refused e) w) :
    Triple P (Task.refuse e : Task σ α) Q E := h

protected lemma Triple.escape {e : Escape} (h : ∀ w, P w → E (.escaped e) w) :
    Triple P (Task.escape e : Task σ α) Q E := h

protected lemma Triple.throw {f : Failure} (h : ∀ w, P w → E f w) :
    Triple P (throw f : Task σ α) Q E := h

lemma Triple.bind {f : α → Task σ β} {R : β → World σ → Prop} (ht : Triple P t Q E)
    (hf : ∀ a, Triple (Q a) (f a) R E) : Triple P (t >>= f) R E := by
  intro w hw
  rw [runIn_bind]
  rcases hr : runIn w t with ⟨e | a, w'⟩
  · exact ht.error hw hr
  · exact hf a w' (ht.ok hw hr)

protected lemma Triple.ofExcept {r : Except Failure α} (hok : ∀ a, r = .ok a → ∀ w, P w → Q a w)
    (herror : ∀ f, r = .error f → ∀ w, P w → E f w) : Triple P (Task.ofExcept r) Q E := by
  intro w hw
  cases r with
  | ok a => exact hok a rfl w hw
  | error f => exact herror f rfl w hw

protected lemma Triple.check {r : Except Error α} (hok : ∀ a, r = .ok a → ∀ w, P w → Q a w)
    (herror : ∀ e, r = .error e → ∀ w, P w → E (.refused e) w) : Triple P (Task.check r) Q E := by
  intro w hw
  cases r with
  | ok a => exact hok a rfl w hw
  | error e => exact herror e rfl w hw

/-- What follows a check only runs with what the check gives. -/
lemma Triple.ofExcept_bind {r : Except Failure β} {f : β → Task σ α}
    (hf : ∀ x, r = .ok x → Triple P (f x) Q E) (herror : ∀ e, r = .error e → ∀ w, P w → E e w) :
    Triple P (Task.ofExcept r >>= f) Q E := by
  cases r with
  | ok x => exact hf x rfl
  | error e => exact herror e rfl

lemma Triple.check_bind {r : Except Error β} {f : β → Task σ α}
    (hf : ∀ x, r = .ok x → Triple P (f x) Q E)
    (herror : ∀ e, r = .error e → ∀ w, P w → E (.refused e) w) :
    Triple P (Task.check r >>= f) Q E := by
  cases r with
  | ok x => exact hf x rfl
  | error e => exact herror e rfl

protected lemma Triple.modify {f : World σ → World σ} {Q : Unit → World σ → Prop}
    (h : ∀ w, P w → Q () (f w)) : Triple P (modify f : Task σ Unit) Q E := h

protected lemma Triple.observe {R : Except Failure α → World σ → Prop}
    {E' : Failure → World σ → Prop}
    (h : Triple P t (fun a => R (.ok a)) (fun f => R (.error f))) :
    Triple P (Task.observe t) R E' := by
  intro w hw
  rw [runIn_observe]
  rcases hr : runIn w t with ⟨e | a, w'⟩
  · exact h.error hw hr
  · exact h.ok hw hr

protected lemma Triple.attempt {R : Except Error α → World σ → Prop} {E' : Failure → World σ → Prop}
    (h : Triple P t (fun a => R (.ok a)) E) (hrefused : ∀ e w, E (.refused e) w → R (.error e) w)
    (hescaped : ∀ e w, E (.escaped e) w → E' (.escaped e) w) :
    Triple P (Task.attempt t) R E' := by
  intro w hw
  rw [runIn_attempt]
  rcases hr : runIn w t with ⟨(e | e) | a, w'⟩
  · exact hrefused e w' (h.error hw hr)
  · exact hescaped e w' (h.error hw hr)
  · exact h.ok hw hr

lemma Triple.top : Triple P t (fun _ _ => True) (fun _ _ => True) :=
  .of_cases (fun _ _ _ _ _ => trivial) (fun _ _ _ _ _ => trivial)

end Rules

/-- A property that every result of a task has, whatever the world. -/
def Yields (t : Task σ α) (R : α → Prop) : Prop :=
  Triple (fun _ => True) t (fun a _ => R a) (fun _ _ => True)

section Yields

variable {t : Task σ α} {R : α → Prop}

protected lemma Yields.pure {a : α} (h : R a) : Yields (pure a : Task σ α) R :=
  Triple.pure fun _ _ => h

protected lemma Yields.refuse (e : Error) : Yields (Task.refuse e : Task σ α) R :=
  Triple.refuse fun _ _ => trivial

protected lemma Yields.bind {f : β → Task σ α} {t : Task σ β} (hf : ∀ b, Yields (f b) R) :
    Yields (t >>= f) R :=
  Triple.bind .top fun b => hf b

lemma Yields.bind_of {S : β → Prop} {f : β → Task σ α} {t : Task σ β} (ht : Yields t S)
    (hf : ∀ b, S b → Yields (f b) R) : Yields (t >>= f) R :=
  Triple.bind ht fun b w hb => hf b hb w trivial

protected lemma Yields.observe (ht : Yields t R) :
    Yields (Task.observe t) fun r => ∀ a, r = .ok a → R a := by
  refine Triple.observe (Triple.imp ht (fun _ h => h) ?_ ?_)
  · rintro a w ha b ⟨⟩
    exact ha
  · rintro f w - b ⟨⟩

protected lemma Yields.attempt (ht : Yields t R) :
    Yields (Task.attempt t) fun r => ∀ a, r = .ok a → R a := by
  refine Triple.attempt (Triple.imp ht (fun _ h => h) ?_ fun _ _ h => h) ?_ fun _ _ h => h
  · rintro a w ha b ⟨⟩
    exact ha
  · rintro e w - b ⟨⟩

protected lemma Yields.ofExcept {r : Except Failure α} (h : ∀ a, r = .ok a → R a) :
    Yields (Task.ofExcept r : Task σ α) R :=
  Triple.ofExcept (fun a ha _ _ => h a ha) fun _ _ _ _ => trivial

protected lemma Yields.check {r : Except Error α} (h : ∀ a, r = .ok a → R a) :
    Yields (Task.check r : Task σ α) R :=
  Triple.check (fun a ha _ _ => h a ha) fun _ _ _ _ => trivial

protected lemma Yields.mapM {f : β → Task σ α} {xs : List β} (hf : ∀ x, Yields (f x) R) :
    Yields (xs.mapM f) fun ys => ∀ y ∈ ys, R y := by
  induction xs with
  | nil => exact .pure (List.forall_mem_nil _)
  | cons x xs ih =>
    rw [List.mapM_cons]
    exact .bind_of (hf x) fun y hy => .bind_of ih fun ys hys =>
      .pure (List.forall_mem_cons.2 ⟨hy, hys⟩)

end Yields

end Mailroom.Task

namespace Mailroom.Imap.Session

variable {σ : Type}

open Mailroom.Task

/-- What issuing a command comes to: nothing on a session that was given up, else the outcome of the
call, which may give up the session. -/
lemma runIn_issue (w : World σ) (p : Peer σ) (s : Session) (verb : String) (c : Call) :
    runIn w (s.issue p verb c) =
      if w.abandoned.contains s.client then (.error (.refused (.verbNotIssued verb)), w)
      else
        match (p.answer s.client c w.remote).outcome with
        | .ok r => (.ok r, asked p s.client c w)
        | .error f => (.error (f.whileIssuing verb),
            if f.kind.isAbandoning then
              { asked p s.client c w with abandoned := s.client :: w.abandoned }
            else asked p s.client c w) := by
  have hgone : runIn w (s.isAbandoned : Task σ Bool) = (.ok (w.abandoned.contains s.client), w) :=
    rfl
  unfold issue
  rw [runIn_bind_ok hgone]
  cases w.abandoned.contains s.client with
  | true => rfl
  | false =>
    simp only [Bool.false_eq_true, if_false]
    rw [runIn_bind_ok (runIn_ask w p s.client c)]
    cases (p.answer s.client c w.remote).outcome with
    | ok r => rfl
    | error f => cases hf : f.kind.isAbandoning <;> simp only [hf] <;> rfl

end Mailroom.Imap.Session
