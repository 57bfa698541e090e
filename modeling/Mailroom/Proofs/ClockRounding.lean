import Mathlib.Algebra.Group.Nat.Defs
import Mathlib.Data.Nat.Log
import Mathlib.Tactic.Lemma
import Mailroom.Clock

/-!
# Rounding of clock readings

Rounding keeps the order of readings, so a later clock never reads less and a renewed deadline never
lies before an older one. Up to clocks of `2 ^ 62` milliseconds a deadline lies ahead.
-/

namespace Mailroom.Instant

section Quotients

variable {a b d m : Nat}

/-- Rounding a quotient goes up beyond the middle, and in the middle if that makes it even. -/
lemma divRound_eq (a d : Nat) : divRound a d =
    if d < 2 * (a % d) ∨ (2 * (a % d) = d ∧ a / d % 2 = 1) then a / d + 1 else a / d := by
  unfold divRound
  dsimp only
  by_cases hlow : 2 * (a % d) < d
  · rw [if_pos hlow, if_neg (by omega)]
  rw [if_neg hlow]
  by_cases hhigh : d < 2 * (a % d)
  · rw [if_pos hhigh, if_pos (.inl hhigh)]
  rw [if_neg hhigh]
  by_cases heven : a / d % 2 = 0
  · rw [if_pos (beq_iff_eq.2 heven), if_neg (by omega)]
  · rw [if_neg (mt beq_iff_eq.1 heven), if_pos (by omega)]

lemma divRound_bounds (a d : Nat) : a / d ≤ divRound a d ∧ divRound a d ≤ a / d + 1 := by
  rw [divRound_eq]
  split <;> omega

lemma le_divRound (hd : 0 < d) (h : m * d ≤ a) : m ≤ divRound a d :=
  ((Nat.le_div_iff_mul_le hd).2 h).trans (divRound_bounds a d).1

lemma divRound_le (hd : 0 < d) (h : a ≤ m * d) : divRound a d ≤ m := by
  rcases h.lt_or_eq with h | rfl
  · have hdiv : a / d < m := (Nat.div_lt_iff_lt_mul hd).2 h
    exact (divRound_bounds a d).2.trans hdiv
  · rw [divRound_eq, Nat.mul_mod_left, Nat.mul_div_cancel m hd, if_neg (by omega)]

/-- Rounding moves a quotient by at most one half. -/
lemma le_two_mul_divRound (hd : 0 < d) (a : Nat) : 2 * a ≤ 2 * (divRound a d * d) + d := by
  have hsplit : a / d * d + a % d = a := by rw [Nat.mul_comm]; exact Nat.div_add_mod a d
  have hrest : a % d < d := Nat.mod_lt a hd
  have hup : (a / d + 1) * d = a / d * d + d := Nat.succ_mul _ _
  rw [divRound_eq]
  split <;> omega

lemma divRound_mono (h : a ≤ b) (d : Nat) : divRound a d ≤ divRound b d := by
  rcases (Nat.div_le_div_right (c := d) h).lt_or_eq with hlt | heq
  · exact (divRound_bounds a d).2.trans (hlt.trans_le (divRound_bounds b d).1)
  · have hmod : a % d ≤ b % d := by
      have ha := Nat.div_add_mod a d
      have hb := Nat.div_add_mod b d
      rw [heq] at ha
      omega
    rw [divRound_eq, divRound_eq, heq]
    split <;> split <;> omega

end Quotients

/-- Rounding to 53 significant bits keeps the order. -/
lemma roundQuotient_mono {x y d : Nat} (hd : 0 < d) (h : x ≤ y) :
    roundQuotient x d ≤ roundQuotient y d := by
  have hlog : (x / d).log2 ≤ (y / d).log2 := by
    rw [Nat.log2_eq_log_two, Nat.log2_eq_log_two]
    exact Nat.log_mono_right (Nat.div_le_div_right h)
  unfold roundQuotient
  dsimp only
  generalize hx : (x / d).log2 + 1 - 53 = ex
  generalize hy : (y / d).log2 + 1 - 53 = ey
  -- With unlike exponents a power of two lies between the two results.
  rcases (show ex ≤ ey by omega).lt_or_eq with hlt | rfl
  · have hsmall : x ≤ 2 ^ 53 * (d * 2 ^ ex) := by
      have hx : x / d < 2 ^ (53 + ex) := Nat.lt_log2_self.trans_le
        (Nat.pow_le_pow_right (by omega) (by omega))
      have := (Nat.div_lt_iff_lt_mul hd).1 hx
      rw [Nat.pow_add, Nat.mul_assoc, Nat.mul_comm (2 ^ ex)] at this
      exact this.le
    have hlarge : 2 ^ 52 * (d * 2 ^ ey) ≤ y := by
      have hy0 : y / d ≠ 0 := fun h0 => by
        rw [h0, Nat.log2_zero] at hy
        omega
      have hy' : 2 ^ (52 + ey) ≤ y / d := by
        rw [show 52 + ey = (y / d).log2 by omega]
        exact Nat.log2_self_le hy0
      have := (Nat.le_div_iff_mul_le hd).1 hy'
      rwa [Nat.pow_add, Nat.mul_assoc, Nat.mul_comm (2 ^ ey)] at this
    calc divRound x (d * 2 ^ ex) * 2 ^ ex
        ≤ 2 ^ 53 * 2 ^ ex :=
          Nat.mul_le_mul_right _ (divRound_le (Nat.mul_pos hd (Nat.two_pow_pos ex)) hsmall)
      _ = 2 ^ (53 + ex) := (Nat.pow_add 2 53 ex).symm
      _ ≤ 2 ^ (52 + ey) := Nat.pow_le_pow_right (by omega) (by omega)
      _ = 2 ^ 52 * 2 ^ ey := Nat.pow_add 2 52 ey
      _ ≤ divRound y (d * 2 ^ ey) * 2 ^ ey :=
          Nat.mul_le_mul_right _ (le_divRound (Nat.mul_pos hd (Nat.two_pow_pos ey)) hlarge)
  · exact Nat.mul_le_mul_right _ (divRound_mono h _)

lemma round_mono {x y : Int} (h : x ≤ y) : round x ≤ round y := by
  cases x with
  | ofNat m =>
    cases y with
    | ofNat n => exact Int.ofNat_le.2 (roundQuotient_mono Nat.one_pos (Int.ofNat_le.1 h))
    | negSucc n => exact absurd (h.trans_lt (Int.negSucc_lt_zero n)) (Int.natCast_nonneg m).not_gt
  | negSucc m =>
    cases y with
    | ofNat n =>
      exact (Int.neg_nonpos_of_nonneg (Int.natCast_nonneg _)).trans (Int.natCast_nonneg _)
    | negSucc n =>
      have hmn : n + 1 ≤ m + 1 := by
        rw [Int.negSucc_eq, Int.negSucc_eq] at h
        omega
      exact Int.neg_le_neg (Int.ofNat_le.2 (roundQuotient_mono Nat.one_pos hmn))

lemma ofMillis_mono {m n : Nat} (h : m ≤ n) : ofMillis m ≤ ofMillis n :=
  Int.ofNat_le.2 (roundQuotient_mono (by decide) (Nat.mul_le_mul_right _ h))

lemma after_mono (seconds : Nat) {t u : Instant} (h : t ≤ u) : after seconds t ≤ after seconds u :=
  round_mono (Int.add_le_add_right h _)

lemma after_mono_left {m n : Nat} (h : m ≤ n) (t : Instant) : after m t ≤ after n t := by
  have hspan : ((m : Int) * second) ≤ (n : Int) * second :=
    Int.mul_le_mul_of_nonneg_right (Int.ofNat_le.2 h) (Int.natCast_nonneg _)
  exact round_mono (Int.add_le_add_left (round_mono hspan) t)

/-- A reading below `2 ^ 115` units, rounded after a second more, lies ahead: there the distance of
two neighbours is at most a second. -/
lemma lt_round_add_second {t : Nat} (ht : t + second < 2 ^ 115) :
    (t : Int) < round ((t + second : Nat) : Int) := by
  have hsecond : second = 2 ^ 62 := rfl
  have hlog : (t + second).log2 < 115 := (Nat.log2_lt (by omega)).2 ht
  have hunit : 2 ^ ((t + second).log2 + 1 - 53) ≤ 2 ^ 62 :=
    Nat.pow_le_pow_right (by omega) (by omega)
  have hnear := le_two_mul_divRound (Nat.two_pow_pos ((t + second).log2 + 1 - 53)) (t + second)
  have hround : roundQuotient (t + second) 1 =
      divRound (t + second) (2 ^ ((t + second).log2 + 1 - 53)) *
        2 ^ ((t + second).log2 + 1 - 53) := by
    unfold roundQuotient
    simp only [Nat.div_one, Nat.one_mul]
    rfl
  refine Int.ofNat_lt.2 ?_
  rw [hround]
  generalize divRound (t + second) (2 ^ ((t + second).log2 + 1 - 53)) *
    2 ^ ((t + second).log2 + 1 - 53) = rounded at hnear ⊢
  omega

/-- A deadline lies ahead. -/
lemma lt_after {seconds ms : Nat} (hs : 1 ≤ seconds) (hms : ms < 2 ^ 62) :
    ofMillis ms < after seconds (ofMillis ms) := by
  have hread : roundQuotient (ms * second) 1000 ≤ roundQuotient (2 ^ 62 * second) 1000 :=
    roundQuotient_mono (by decide) (Nat.mul_le_mul_right _ hms.le)
  have hbound : roundQuotient (2 ^ 62 * second) 1000 + second < 2 ^ 115 := by decide
  have hone : after 1 (ofMillis ms) =
      round ((roundQuotient (ms * second) 1000 + second : Nat) : Int) := by
    have hspan : round ((1 : Nat) * (second : Nat) : Int) = second := by decide
    unfold after
    rw [hspan]
    rfl
  have hlt := lt_round_add_second (by omega : roundQuotient (ms * second) 1000 + second < 2 ^ 115)
  exact (hone ▸ hlt).trans_le (after_mono_left hs _)

end Mailroom.Instant
