import Mathlib.Data.List.Forall2
import Mathlib.Data.List.Nodup
import Mathlib.Tactic.Lemma
import Mailroom.Check

/-!
# Checks that pass

A sequence of checks passes if each of them does, and otherwise refuses what the first that does
not refuses. What each check on a value alone lets through, what a search by key finds, and what a
sorted list of names is.
-/

namespace Mailroom

variable {ε α β : Type} {e e' : ε} {x : Except ε α}

lemma bind_eq_ok {f : α → Except ε β} {b : β} :
    (x >>= f) = .ok b ↔ ∃ a, x = .ok a ∧ f a = .ok b := by
  cases x with
  | error e =>
    constructor
    · rintro ⟨⟩
    · rintro ⟨_, ⟨⟩, -⟩
  | ok a =>
    constructor
    · exact fun h => ⟨a, rfl, h⟩
    · rintro ⟨_, ⟨⟩, h⟩
      exact h

lemma bind_eq_error {f : α → Except ε β} :
    (x >>= f) = .error e ↔ x = .error e ∨ ∃ a, x = .ok a ∧ f a = .error e := by
  cases x with
  | error e' =>
    constructor
    · rintro ⟨⟩
      exact .inl rfl
    · rintro (⟨⟨⟩⟩ | ⟨_, ⟨⟩, -⟩)
      rfl
  | ok a =>
    constructor
    · exact fun h => .inr ⟨a, rfl, h⟩
    · rintro (⟨⟨⟩⟩ | ⟨_, ⟨⟩, h⟩)
      exact h

lemma mapError_eq_ok {ε' : Type} {f : ε → ε'} {a : α} : x.mapError f = .ok a ↔ x = .ok a := by
  cases x with
  | error e => exact iff_of_false nofun nofun
  | ok b =>
    constructor <;>
      · intro h
        cases h
        rfl

lemma forM_eq_ok {xs : List α} {f : α → Except ε Unit} :
    xs.forM f = .ok () ↔ ∀ x ∈ xs, f x = .ok () := by
  induction xs with
  | nil => exact ⟨fun _ _ hx => absurd hx List.not_mem_nil, fun _ => rfl⟩
  | cons x xs ih =>
    constructor
    · intro h
      obtain ⟨_, hx, hxs⟩ := bind_eq_ok.1 h
      exact List.forall_mem_cons.2 ⟨hx, ih.1 hxs⟩
    · intro h
      obtain ⟨hx, hxs⟩ := List.forall_mem_cons.1 h
      exact bind_eq_ok.2 ⟨(), hx, ih.2 hxs⟩

/-- A list of checks refuses what the first of them refuses that does not pass. -/
lemma forM_eq_error {xs : List α} {f : α → Except ε Unit} : xs.forM f = .error e ↔
    ∃ before x after, xs = before ++ x :: after ∧ (∀ y ∈ before, f y = .ok ()) ∧
      f x = .error e := by
  induction xs with
  | nil => exact ⟨nofun, fun ⟨before, x, after, h, _⟩ => by simp at h⟩
  | cons x xs ih =>
    have hstep : (x :: xs).forM f = .error e ↔
        f x = .error e ∨ f x = .ok () ∧ xs.forM f = .error e :=
      bind_eq_error.trans (or_congr_right ⟨fun ⟨_, h⟩ => h, fun h => ⟨(), h⟩⟩)
    rw [hstep, ih]
    constructor
    · rintro (h | ⟨hx, before, y, after, rfl, hbefore, hy⟩)
      · exact ⟨[], x, xs, rfl, List.forall_mem_nil _, h⟩
      · exact ⟨x :: before, y, after, rfl, List.forall_mem_cons.2 ⟨hx, hbefore⟩, hy⟩
    · rintro ⟨before, y, after, hsplit, hbefore, hy⟩
      cases before with
      | nil =>
        cases hsplit
        exact .inl hy
      | cons z before =>
        cases hsplit
        obtain ⟨hx, hbefore⟩ := List.forall_mem_cons.1 hbefore
        exact .inr ⟨hx, before, y, after, rfl, hbefore, hy⟩

lemma mapM_cons_eq_ok {x : α} {xs : List α} {f : α → Except ε β} {zs : List β} :
    (x :: xs).mapM f = .ok zs ↔ ∃ y ys, f x = .ok y ∧ xs.mapM f = .ok ys ∧ zs = y :: ys := by
  rw [List.mapM_cons]
  constructor
  · intro h
    obtain ⟨y, hy, hrest⟩ := bind_eq_ok.1 h
    obtain ⟨ys, hys, hdone⟩ := bind_eq_ok.1 hrest
    exact ⟨y, ys, hy, hys, (Except.ok.inj hdone).symm⟩
  · rintro ⟨y, ys, hy, hys, rfl⟩
    exact bind_eq_ok.2 ⟨y, hy, bind_eq_ok.2 ⟨ys, hys, rfl⟩⟩

/-- A traversal succeeds with the results of its steps, in their order. -/
lemma mapM_eq_ok {xs : List α} {f : α → Except ε β} {ys : List β} :
    xs.mapM f = .ok ys ↔ List.Forall₂ (fun x y => f x = .ok y) xs ys := by
  induction xs generalizing ys with
  | nil =>
    rw [List.mapM_nil, List.forall₂_nil_left_iff]
    exact ⟨fun h => (Except.ok.inj h).symm, fun h => h ▸ rfl⟩
  | cons x xs ih =>
    rw [mapM_cons_eq_ok, List.forall₂_cons_left_iff]
    simp only [ih]

lemma exists_mapM_eq_ok {xs : List α} {f : α → Except ε β} :
    (∃ ys, xs.mapM f = .ok ys) ↔ ∀ x ∈ xs, ∃ y, f x = .ok y := by
  induction xs with
  | nil => exact ⟨fun _ _ hx => absurd hx List.not_mem_nil, fun _ => ⟨[], rfl⟩⟩
  | cons x xs ih =>
    simp only [mapM_cons_eq_ok, List.forall_mem_cons, ← ih]
    grind

/-- The results of a traversal that succeeds. -/
lemma mem_of_mapM_eq_ok {xs : List α} {f : α → Except ε β} {ys : List β} {y : β}
    (h : xs.mapM f = .ok ys) : y ∈ ys ↔ ∃ x ∈ xs, f x = .ok y := by
  induction xs generalizing ys with
  | nil =>
    obtain rfl : [] = ys := Except.ok.inj h
    simp
  | cons x xs ih =>
    obtain ⟨z, zs, hz, hzs, rfl⟩ := mapM_cons_eq_ok.1 h
    simp [ih hzs, hz, eq_comm (a := y)]

lemma option_mapM_eq_ok {v : Option α} {f : α → Except ε β} {o : Option β} :
    v.mapM f = .ok o ↔ Option.Rel (fun a b => f a = .ok b) v o := by
  cases v with
  | none =>
    constructor
    · rintro ⟨⟩
      exact .none
    · rintro ⟨⟩
      rfl
  | some a =>
    have hmap : (some a).mapM f = (f a).map some := rfl
    rw [hmap]
    constructor
    · intro h
      cases hf : f a with
      | error e => cases hf ▸ h
      | ok b =>
        rw [hf] at h
        obtain rfl := Except.ok.inj h
        exact .some hf
    · rintro (hf | _)
      rw [hf]
      rfl

/-- What comes after a condition that refuses is reached only without it. -/
lemma passed_eq_ok {c : Prop} [Decidable c] {f : α → Except ε β} {y : Except ε β} {b : β} :
    (if c then (throw e : Except ε α) >>= f else y) = .ok b ↔ ¬ c ∧ y = .ok b := by
  by_cases hc : c
  · rw [if_pos hc]
    exact ⟨nofun, fun h => absurd hc h.1⟩
  · rw [if_neg hc]
    exact ⟨fun h => ⟨hc, h⟩, And.right⟩

lemma passed_eq_error {c : Prop} [Decidable c] {f : α → Except ε β} {y : Except ε β} :
    (if c then (throw e' : Except ε α) >>= f else y) = .error e ↔
      c ∧ e' = e ∨ ¬ c ∧ y = .error e := by
  by_cases hc : c
  · rw [if_pos hc]
    exact ⟨fun h => .inl ⟨hc, Except.error.inj h⟩,
      fun h => h.elim (fun h => congrArg _ h.2) fun h => absurd hc h.1⟩
  · rw [if_neg hc]
    exact ⟨fun h => .inr ⟨hc, h⟩, fun h => h.elim (fun h => absurd h.1 hc) And.right⟩

lemma exists_unit_eq_ok {y : Except ε Unit} : (∃ u, y = .ok u) ↔ y = .ok () :=
  ⟨fun ⟨_, h⟩ => h, fun h => ⟨(), h⟩⟩

lemma ok_ne_error {a : α} : (.ok a : Except ε α) ≠ .error e := nofun

lemma bind_ne_error {f : α → Except ε β} (hx : x ≠ .error e)
    (hf : ∀ a, x = .ok a → f a ≠ .error e) : (x >>= f) ≠ .error e := by
  cases x with
  | ok a => exact hf a rfl
  | error e' => exact fun h => hx (congrArg _ (Except.error.inj h))

lemma map_ne_error {f : α → β} (hx : x ≠ .error e) : x.map f ≠ .error e := by
  cases x with
  | ok a => exact nofun
  | error e' => exact fun h => hx (congrArg _ (Except.error.inj h))

lemma refused_ne {f : α → Except ε β} (h : e' ≠ e) :
    ((throw e' : Except ε α) >>= f) ≠ .error e :=
  fun h' => h (Except.error.inj h')

/-- Where keys are distinct, the first value with a key is the only one. -/
lemma find?_key_eq_some {κ : Type} [BEq κ] [LawfulBEq κ] {xs : List α} {key : α → κ} {k : κ}
    {y : α} (h : (xs.map key).Nodup) :
    xs.find? (fun x => key x == k) = some y ↔ y ∈ xs ∧ key y = k := by
  constructor
  · intro hfind
    exact ⟨List.mem_of_find?_eq_some hfind, by simpa using List.find?_some hfind⟩
  · rintro ⟨hy, rfl⟩
    have hsome : (xs.find? fun x => key x == key y).isSome := List.find?_isSome.2 ⟨y, hy, BEq.rfl⟩
    obtain ⟨x, hx⟩ := Option.isSome_iff_exists.1 hsome
    have hkey : key x = key y := by simpa using List.find?_some hx
    rw [hx, List.inj_on_of_nodup_map h (List.mem_of_find?_eq_some hx) hy hkey]

lemma pairwise_sorted (names : List String) :
    (names.mergeSort fun a b => a ≤ b).Pairwise (· ≤ ·) := by
  refine List.Pairwise.imp of_decide_eq_true (List.pairwise_mergeSort (fun a b c => ?_)
    (fun a b => ?_) names)
  · simpa using String.le_trans
  · simpa using String.le_total a b

lemma eq_sorted {names names' : List String} (hsorted : names.Pairwise (· ≤ ·))
    (hperm : names.Perm names') : names = names'.mergeSort fun a b => a ≤ b :=
  List.Perm.eq_of_pairwise (fun _ _ _ _ => String.le_antisymm) hsorted (pairwise_sorted names')
    (hperm.trans (List.mergeSort_perm ..).symm)

namespace Check

lemma range_eq_ok {n low high : Int} {field : String} :
    range n low high field = .ok () ↔ low ≤ n ∧ n ≤ high := by
  unfold range
  split
  · next h =>
    simp only [Bool.or_eq_true, decide_eq_true_eq] at h
    constructor
    · rintro ⟨⟩
    · omega
  · next h =>
    simp only [Bool.or_eq_true, decide_eq_true_eq] at h
    exact ⟨fun _ => by omega, fun _ => rfl⟩

lemma writesEnabled_eq_ok {enabled : Bool} : writesEnabled enabled = .ok () ↔ enabled = true := by
  cases enabled <;> simp [writesEnabled]

lemma date_eq_ok {s field : String} {d : Date} : date s field = .ok d ↔ Date.ofIso? s = some d := by
  unfold date
  cases Date.ofIso? s <;> simp

lemma flags_eq_ok {fs : Option (List String)} {gs : List String} :
    flags fs = .ok gs ↔ gs = fs.getD [] ∧ ∀ f ∈ fs.getD [], flag f = .ok () := by
  unfold flags
  dsimp only
  rw [bind_eq_ok]
  constructor
  · rintro ⟨_, hflags, h⟩
    exact ⟨(Except.ok.inj h).symm, forM_eq_ok.1 hflags⟩
  · rintro ⟨rfl, hflags⟩
    exact ⟨(), forM_eq_ok.2 hflags, rfl⟩

end Check

end Mailroom
