import Mathlib.Order.Monotone.Basic
import Mathlib.Tactic.Lemma
import Mailroom.Calendar.Date

/-!
# Day numbers

The dates of the calendar and the numbers from 1 to `Date.maxOrdinal` correspond to each other, and
earlier dates have smaller numbers. Adding days to a date adds them to its number, and fails exactly
if that leaves the calendar.
-/

namespace Mailroom

def yearLength (year : Nat) : Nat :=
  if isLeap year then 366 else 365

namespace Date

/-- The last day of the calendar. -/
def last : Date :=
  ⟨9999, 12, 31, by decide⟩

lemma ordinal_last : last.ordinal = maxOrdinal := by decide

lemma daysBeforeYear_succ {year : Nat} (h : 1 ≤ year) :
    daysBeforeYear (year + 1) = daysBeforeYear year + yearLength year := by
  obtain ⟨y, rfl⟩ := Nat.exists_eq_add_of_le' h
  have hle : y / 100 ≤ y / 4 := Nat.div_le_div_left (by decide) (by decide)
  simp only [daysBeforeYear, Nat.add_sub_cancel, Nat.succ_div, Nat.dvd_iff_mod_eq_zero]
  by_cases hcentury : (y + 1) % 100 = 0
  · have hfourth : (y + 1) % 4 = 0 := by omega
    by_cases hleap : (y + 1) % 400 = 0 <;>
      simp [yearLength, isLeap, hcentury, hfourth, hleap] <;> omega
  · have hleap : (y + 1) % 400 ≠ 0 := by omega
    by_cases hfourth : (y + 1) % 4 = 0 <;>
      simp [yearLength, isLeap, hcentury, hfourth, hleap] <;> omega

lemma monotone_daysBeforeYear : Monotone daysBeforeYear := by
  apply monotone_nat_of_le_succ
  intro year
  by_cases h : 1 ≤ year
  · have := daysBeforeYear_succ h
    omega
  · obtain rfl : year = 0 := by omega
    decide

lemma monotone_daysBeforeMonth (year : Nat) : Monotone (daysBeforeMonth year) := by
  apply monotone_nat_of_le_succ
  intro month
  cases month with
  | zero => exact Nat.le_refl 0
  | succ month => exact Nat.le_add_right _ _

lemma daysBeforeMonth_succ (year : Nat) {month : Nat} (h : 1 ≤ month) :
    daysBeforeMonth year (month + 1) = daysBeforeMonth year month + monthLength year month := by
  cases month with
  | zero => omega
  | succ month => rfl

/-- The months make up the year. -/
lemma daysBeforeMonth_year (year : Nat) : daysBeforeMonth year 13 = yearLength year := by
  simp only [daysBeforeMonth, monthLength, yearLength]
  split <;> rfl

section Bounds

variable (d : Date)

lemma daysBeforeMonth_add_day_le :
    daysBeforeMonth d.year d.month + d.day ≤ daysBeforeMonth d.year (d.month + 1) := by
  have hday := d.valid.2.2.2
  rw [daysBeforeMonth_succ d.year d.valid.2.1.1]
  omega

lemma dayOfYear_le : daysBeforeMonth d.year d.month + d.day ≤ yearLength d.year := by
  have hmonth := d.valid.2.1.2
  have hyear := monotone_daysBeforeMonth d.year (show d.month + 1 ≤ 13 by omega)
  rw [daysBeforeMonth_year] at hyear
  exact (daysBeforeMonth_add_day_le d).trans hyear

lemma daysBeforeYear_lt_ordinal : daysBeforeYear d.year < d.ordinal := by
  have hday := d.valid.2.2.1
  unfold ordinal
  omega

lemma ordinal_le_daysBeforeYear_succ : d.ordinal ≤ daysBeforeYear (d.year + 1) := by
  have hle := dayOfYear_le d
  rw [daysBeforeYear_succ d.valid.1.1, ordinal]
  omega

lemma one_le_ordinal : 1 ≤ d.ordinal := by
  have := daysBeforeYear_lt_ordinal d
  omega

lemma ordinal_le_maxOrdinal : d.ordinal ≤ maxOrdinal := by
  have hyear := d.valid.1.2
  have hlast := monotone_daysBeforeYear (show d.year + 1 ≤ 10000 by omega)
  exact (ordinal_le_daysBeforeYear_succ d).trans hlast

end Bounds

/-! ## The order of dates -/

section Order

variable {a b : Date}

lemma ordinal_lt_of_before (h : a.before b) : a.ordinal < b.ordinal := by
  simp only [before, Bool.or_eq_true, Bool.and_eq_true, decide_eq_true_eq, beq_iff_eq] at h
  rcases h with hyear | ⟨hyear, hmonth | ⟨hmonth, hday⟩⟩
  · have ha := ordinal_le_daysBeforeYear_succ a
    have hb := daysBeforeYear_lt_ordinal b
    have hyears := monotone_daysBeforeYear (show a.year + 1 ≤ b.year from hyear)
    omega
  · have ha := daysBeforeMonth_add_day_le a
    have hb := b.valid.2.2.1
    have hmonths := monotone_daysBeforeMonth a.year (show a.month + 1 ≤ b.month from hmonth)
    simp only [ordinal, ← hyear]
    omega
  · simp only [ordinal, ← hyear, ← hmonth]
    omega

lemma before_or_eq_or_before (a b : Date) : a.before b ∨ a = b ∨ b.before a := by
  obtain ⟨ya, ma, da, ha⟩ := a
  obtain ⟨yb, mb, db, hb⟩ := b
  simp only [before, Date.mk.injEq, Bool.or_eq_true, Bool.and_eq_true, decide_eq_true_eq,
    beq_iff_eq]
  omega

lemma before_iff : a.before b ↔ a.ordinal < b.ordinal := by
  constructor
  · exact ordinal_lt_of_before
  · intro h
    rcases before_or_eq_or_before a b with hlt | rfl | hlt
    · exact hlt
    · omega
    · have := ordinal_lt_of_before hlt
      omega

lemma not_before_iff : a.before b = false ↔ b.ordinal ≤ a.ordinal := by
  rw [← Bool.not_eq_true, before_iff, Nat.not_lt]

end Order

/-! ## Dates by their numbers -/

/-- The first index from `i` on whose successor's bound is not before `n`. -/
def firstFrom (bound : Nat → Nat) : Nat → Nat → Nat → Nat
  | 0, i, _ => i
  | fuel + 1, i, n => if n ≤ bound (i + 1) then i else firstFrom bound fuel (i + 1) n

lemma yearFrom_eq (fuel year n : Nat) :
    yearFrom fuel year n = firstFrom daysBeforeYear fuel year n := by
  induction fuel generalizing year with
  | zero => rfl
  | succ fuel ih => simp only [yearFrom, firstFrom, ih]

lemma monthFrom_eq (year fuel month n : Nat) :
    monthFrom year fuel month n = firstFrom (daysBeforeMonth year) fuel month n := by
  induction fuel generalizing month with
  | zero => rfl
  | succ fuel ih => simp only [monthFrom, firstFrom, ih]

/-- The search ends at the index whose bounds enclose `n`, if it is within reach. -/
lemma firstFrom_eq {bound : Nat → Nat} (hbound : Monotone bound) {fuel i j n : Nat} (hi : i ≤ j)
    (hj : j ≤ i + fuel) (hlow : bound j < n) (hhigh : n ≤ bound (j + 1)) :
    firstFrom bound fuel i n = j := by
  induction fuel generalizing i with
  | zero =>
    rw [firstFrom]
    omega
  | succ fuel ih =>
    rw [firstFrom]
    by_cases hij : i = j
    · subst hij
      rw [if_pos hhigh]
    · have hnext := hbound (show i + 1 ≤ j by omega)
      rw [if_neg (by omega)]
      exact ih (by omega) (by omega)

lemma ofOrdinal?_ordinal (d : Date) : ofOrdinal? d.ordinal = some d := by
  obtain ⟨⟨hyear, hyear'⟩, ⟨hmonth, hmonth'⟩, hday, -⟩ := d.valid
  have hlow := daysBeforeYear_lt_ordinal d
  have hhigh := ordinal_le_daysBeforeYear_succ d
  have hof : yearFrom 40 ((d.ordinal - 1) / 366 + 1) d.ordinal = d.year := by
    rw [yearFrom_eq]
    apply firstFrom_eq monotone_daysBeforeYear ?_ ?_ hlow hhigh
    · simp only [daysBeforeYear] at hhigh
      omega
    · simp only [daysBeforeYear] at hlow
      omega
  have hrest : d.ordinal - daysBeforeYear d.year = daysBeforeMonth d.year d.month + d.day := by
    rw [ordinal]
    omega
  have hmonthOf : monthFrom d.year 11 1 (daysBeforeMonth d.year d.month + d.day) = d.month := by
    rw [monthFrom_eq]
    apply firstFrom_eq (monotone_daysBeforeMonth d.year) hmonth (by omega) (by omega)
    exact daysBeforeMonth_add_day_le d
  have hrange : (1 : Int) ≤ d.ordinal ∧ (d.ordinal : Int) ≤ maxOrdinal := by
    have := one_le_ordinal d
    have := ordinal_le_maxOrdinal d
    omega
  rw [ofOrdinal?, if_pos hrange]
  simp only [Int.toNat_natCast, hof, hrest, hmonthOf, Nat.add_sub_cancel_left]
  rw [of?, dif_pos d.valid]

/-- A date other than the last is followed by another: the next day of its month, the first of the
next month, or the first of the next year. -/
lemma exists_next {d : Date} (h : d ≠ last) : ∃ e : Date, e.ordinal = d.ordinal + 1 := by
  obtain ⟨year, month, day, hvalid⟩ := d
  obtain ⟨hyear, hmonth, hday⟩ := id hvalid
  by_cases hmonthEnd : day < monthLength year month
  · exact ⟨⟨year, month, day + 1, hyear, hmonth, by omega⟩, rfl⟩
  have hmonthDays := daysBeforeMonth_succ year hmonth.1
  by_cases hyearEnd : month < 12
  · have hfirst : 1 ≤ monthLength year (month + 1) := by
      unfold monthLength
      grind
    refine ⟨⟨year, month + 1, 1, hyear, by omega, le_rfl, hfirst⟩, ?_⟩
    simp only [ordinal]
    omega
  obtain rfl : month = 12 := by omega
  rw [daysBeforeMonth_year] at hmonthDays
  by_cases hcalendarEnd : year < 9999
  · refine ⟨⟨year + 1, 1, 1, by omega, by omega, le_rfl, by simp [monthLength]⟩, ?_⟩
    have hnewYear : daysBeforeMonth (year + 1) 1 = 0 := rfl
    simp only [ordinal, daysBeforeYear_succ hyear.1]
    omega
  · obtain rfl : year = 9999 := by omega
    obtain rfl : day = 31 := by
      have : monthLength 9999 12 = 31 := rfl
      omega
    exact absurd rfl h

lemma exists_ordinal_eq {n : Nat} (hlow : 1 ≤ n) (hhigh : n ≤ maxOrdinal) :
    ∃ d : Date, d.ordinal = n := by
  induction n, hlow using Nat.le_induction with
  | base => exact ⟨⟨1, 1, 1, by decide⟩, by decide⟩
  | succ n hlow ih =>
    obtain ⟨d, rfl⟩ := ih (by omega)
    apply exists_next
    rintro rfl
    rw [ordinal_last] at hhigh
    omega

lemma ofOrdinal?_eq_some_iff {n : Int} {d : Date} : ofOrdinal? n = some d ↔ d.ordinal = n := by
  constructor
  · intro h
    by_cases hrange : 1 ≤ n ∧ n ≤ maxOrdinal
    · obtain ⟨e, he⟩ := exists_ordinal_eq (n := n.toNat) (by omega) (by omega)
      have hn : (e.ordinal : Int) = n := by omega
      rw [← hn, ofOrdinal?_ordinal] at h
      obtain rfl := Option.some.inj h
      exact hn
    · rw [ofOrdinal?, if_neg hrange] at h
      cases h
  · rintro rfl
    exact ofOrdinal?_ordinal d

lemma addDays?_eq_some_iff {d e : Date} {n : Int} :
    d.addDays? n = some e ↔ (e.ordinal : Int) = d.ordinal + n :=
  ofOrdinal?_eq_some_iff

lemma exists_ordinal_iff {n : Int} :
    (∃ d : Date, (d.ordinal : Int) = n) ↔ 1 ≤ n ∧ n ≤ maxOrdinal := by
  constructor
  · rintro ⟨d, rfl⟩
    have := one_le_ordinal d
    have := ordinal_le_maxOrdinal d
    omega
  · rintro ⟨hlow, hhigh⟩
    obtain ⟨d, hd⟩ := exists_ordinal_eq (n := n.toNat) (by omega) (by omega)
    exact ⟨d, by omega⟩

/-- From the second year on, the calendar goes back a year. -/
lemma exists_daysBefore {d : Date} {n : Int} (hyear : 2 ≤ d.year) (hlow : 0 ≤ n)
    (hhigh : n ≤ 365) : ∃ e : Date, (e.ordinal : Int) = d.ordinal - n := by
  have hfirst : daysBeforeYear 2 = 365 := rfl
  have hyears := monotone_daysBeforeYear hyear
  have hordinal := daysBeforeYear_lt_ordinal d
  have hlast := ordinal_le_maxOrdinal d
  apply exists_ordinal_iff.2
  omega

lemma exists_dayAfter_iff {d : Date} : (∃ e : Date, e.ordinal = d.ordinal + 1) ↔ d ≠ last := by
  constructor
  · rintro ⟨e, he⟩ rfl
    have := ordinal_le_maxOrdinal e
    rw [he, ordinal_last] at this
    omega
  · exact exists_next

end Date

end Mailroom
