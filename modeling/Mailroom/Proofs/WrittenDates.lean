import Mathlib.Data.Nat.Digits.Defs
import Mailroom.Proofs.Checks
import Mailroom.Proofs.WrittenIds

/-!
# The written form of dates

A date is read back from its written form: four, two and two ASCII digits with hyphens between them.
More than that is read. The year may have digits of any script, and so may the last place of a day
that begins with 1 or 2. Of the texts in ASCII exactly the written forms are read, and whatever is
not read is refused.
-/

namespace Mailroom

namespace Text

variable {c : Char} {cs cs' : List Char} {d n width : Nat} {ds es : List Nat}

/-- The digits of a text, of any script, have some values. -/
abbrev HasDigits (cs : List Char) (ds : List Nat) : Prop :=
  List.Forall₂ (fun c d => digitValue? c = some d) cs ds

/-- As many digits as `width`, of any script, that are those of `n` in base ten. -/
structure Writes (cs : List Char) (width n : Nat) : Prop where
  length : cs.length = width
  digits : ∃ ds, HasDigits cs ds ∧ ofDigits ds = n

lemma ascii_of_isDigit (h : c.isDigit) : c.toNat < 0x80 := by
  simp only [Char.isDigit, Bool.and_eq_true, decide_eq_true_eq, UInt32.le_iff_toNat_le] at h
  exact Nat.lt_of_le_of_lt h.2 (by decide)

lemma digitValue?_of_isDigit (h : c.isDigit) : digitValue? c = some (c.toNat - 0x30) := by
  rw [digitValue?, if_pos (ascii_of_isDigit h), if_pos h]

lemma digitValue?_of_ascii (hc : c.toNat < 0x80) :
    digitValue? c = some d ↔ c.isDigit ∧ c.toNat - 0x30 = d := by
  rw [digitValue?, if_pos hc, Option.ite_none_right_eq_some, Option.some.injEq]

lemma digitValue?_lt (h : digitValue? c = some d) : d < 10 := by
  by_cases hc : c.toNat < 0x80
  · obtain ⟨hdigit, rfl⟩ := (digitValue?_of_ascii hc).1 h
    exact (digitChar_of_isDigit hdigit).1
  · rw [digitValue?, if_neg hc, Option.map_eq_some_iff] at h
    obtain ⟨z, hz, rfl⟩ := h
    have hrange := List.find?_some hz
    simp only [Bool.and_eq_true, decide_eq_true_eq] at hrange
    omega

lemma ofDigits_eq_reverse (ds : List Nat) : ofDigits ds = Nat.ofDigits 10 ds.reverse := by
  rw [Nat.ofDigits_eq_foldr, List.foldr_reverse, ofDigits]
  simp only [Nat.add_comm, Nat.cast_id]

/-- Equally many digits that make the same number are the same. -/
lemma ofDigits_inj (hlength : ds.length = es.length) (hds : ∀ d ∈ ds, d < 10)
    (hes : ∀ d ∈ es, d < 10) (h : ofDigits ds = ofDigits es) : ds = es := by
  rw [ofDigits_eq_reverse, ofDigits_eq_reverse] at h
  apply List.reverse_injective
  refine Nat.ofDigits_inj_of_len_eq (by decide) ?_ ?_ ?_ h
  · rw [List.length_reverse, List.length_reverse, hlength]
  · exact fun d hd => hds d (List.mem_reverse.1 hd)
  · exact fun d hd => hes d (List.mem_reverse.1 hd)

lemma HasDigits.lt (h : HasDigits cs ds) : ∀ d ∈ ds, d < 10 := by
  induction h with
  | nil => exact List.forall_mem_nil _
  | cons hc _ ih => exact List.forall_mem_cons.2 ⟨digitValue?_lt hc, ih⟩

lemma HasDigits.map_digitChar (h : HasDigits cs ds) (hascii : ∀ c ∈ cs, c.toNat < 0x80) :
    ds.map Nat.digitChar = cs := by
  induction h with
  | nil => rfl
  | cons hc _ ih =>
    obtain ⟨hhead, htail⟩ := List.forall_mem_cons.1 hascii
    obtain ⟨hdigit, rfl⟩ := (digitValue?_of_ascii hhead).1 hc
    rw [List.map_cons, (digitChar_of_isDigit hdigit).2, ih htail]

/-- In ASCII a number has one written form of a width. -/
lemma Writes.eq_of_ascii (h : Writes cs width n) (h' : Writes cs' width n)
    (hascii : ∀ c ∈ cs, c.toNat < 0x80) (hascii' : ∀ c ∈ cs', c.toNat < 0x80) : cs = cs' := by
  obtain ⟨ds, hds, hn⟩ := h.digits
  obtain ⟨es, hes, hn'⟩ := h'.digits
  have hlength : ds.length = es.length := by
    rw [← hds.length_eq, ← hes.length_eq, h.length, h'.length]
  obtain rfl := ofDigits_inj hlength hds.lt hes.lt (hn.trans hn'.symm)
  rw [← hds.map_digitChar hascii, ← hes.map_digitChar hascii']

lemma writes_of_isDigit (hdigits : ∀ c ∈ cs, c.isDigit) :
    Writes cs cs.length (Nat.ofDigitChars 10 cs 0) := by
  have hvalues : HasDigits cs (cs.map fun c => c.toNat - 0x30) := by
    rw [HasDigits, List.forall₂_map_right_iff, List.forall₂_same]
    exact fun c hc => digitValue?_of_isDigit (hdigits c hc)
  exact ⟨rfl, _, hvalues, ofDigits_eq cs⟩

lemma writes_pair_iff {a b : Char} : Writes [a, b] 2 n ↔
    ∃ x y, digitValue? a = some x ∧ digitValue? b = some y ∧ 10 * x + y = n := by
  constructor
  · rintro ⟨-, ds, hds, rfl⟩
    match ds, hds with
    | [x, y], .cons ha (.cons hb .nil) => exact ⟨x, y, ha, hb, by simp [ofDigits]⟩
  · rintro ⟨x, y, ha, hb, rfl⟩
    exact ⟨rfl, [x, y], .cons ha (.cons hb .nil), by simp [ofDigits]⟩

end Text

lemma monthLength_le (year month : Nat) : monthLength year month ≤ 31 := by
  unfold monthLength
  repeat' split
  all_goals decide

namespace Date

open Text

variable {d : Date} {s : String} {n width : Nat}

lemma isDigit_of_mem_padded {c : Char} (h : c ∈ padded width n) : c.isDigit := by
  rcases List.mem_append.1 h with hzero | hdigit
  · rw [(List.mem_replicate.1 hzero).2]
    rfl
  · exact Nat.isDigit_of_mem_toDigits (by decide) (by decide) hdigit

lemma ascii_of_mem_padded {c : Char} (h : c ∈ padded width n) : c.toNat < 0x80 :=
  ascii_of_isDigit (isDigit_of_mem_padded h)

/-- A number that a field has room for is written by all of the field. -/
lemma writes_padded (hwidth : 0 < width) (hn : n < 10 ^ width) :
    Writes (padded width n) width n := by
  have hle : (Nat.toDigits 10 n).length ≤ width :=
    (Nat.length_toDigits_le_iff (by decide) hwidth).2 hn
  have hlength : (padded width n).length = width := by
    rw [padded, List.length_append, List.length_replicate]
    omega
  have hvalue : Nat.ofDigitChars 10 (padded width n) 0 = n := by
    rw [padded, Nat.ofDigitChars_append, Nat.ofDigitChars_replicate_zero, Nat.mul_zero,
      Nat.ofDigitChars_ten_toDigits]
  have hdigits : ∀ c ∈ padded width n, c.isDigit := fun c => isDigit_of_mem_padded
  have hwrites := writes_of_isDigit hdigits
  rwa [hlength, hvalue] at hwrites

lemma month?_eq_some_iff {a b : Char} : month? a b = some n ↔
    Writes [a, b] 2 n ∧ a.toNat < 0x80 ∧ b.toNat < 0x80 := by
  rw [month?, Option.ite_none_right_eq_some, Bool.and_eq_true, writes_pair_iff]
  constructor
  · rintro ⟨⟨ha, hb⟩, h⟩
    exact ⟨⟨_, _, digitValue?_of_isDigit ha, digitValue?_of_isDigit hb, Option.some.inj h⟩,
      ascii_of_isDigit ha, ascii_of_isDigit hb⟩
  · rintro ⟨⟨x, y, hx, hy, rfl⟩, ha, hb⟩
    obtain ⟨hxdigit, rfl⟩ := (digitValue?_of_ascii ha).1 hx
    obtain ⟨hydigit, rfl⟩ := (digitValue?_of_ascii hb).1 hy
    exact ⟨⟨hxdigit, hydigit⟩, rfl⟩

lemma day?_eq_some_iff {a b : Char} : day? a b = some n ↔
    Writes [a, b] 2 n ∧ a.toNat < 0x80 ∧ (b.toNat < 0x80 ∨ a = '1' ∨ a = '2') := by
  rw [day?]
  by_cases ha : a = '1' ∨ a = '2'
  · have hdigit : a.isDigit ∧ a.toNat < 0x80 := by
      rcases ha with rfl | rfl <;> decide
    rw [if_pos (by simpa using ha), Option.map_eq_some_iff, writes_pair_iff,
      digitValue?_of_isDigit hdigit.1]
    simp [ha, hdigit.2]
  · rw [if_neg (by simpa using ha), month?_eq_some_iff]
    simp [ha]

lemma of?_eq_some_iff {year month day : Nat} : of? year month day = some d ↔
    d.year = year ∧ d.month = month ∧ d.day = day := by
  unfold of?
  constructor
  · intro h
    split at h
    · cases h
      exact ⟨rfl, rfl, rfl⟩
    · cases h
  · rintro ⟨rfl, rfl, rfl⟩
    exact dif_pos d.valid

/-- The fields of a text that is read as a date. The year may have digits of any script, and so may
the last place of a day that begins with 1 or 2. -/
structure SpelledBy (d : Date) (ys ms : List Char) (tens ones : Char) : Prop where
  year : Writes ys 4 d.year
  month : Writes ms 2 d.month
  day : Writes [tens, ones] 2 d.day
  ascii : ∀ c ∈ tens :: ms, c.toNat < 0x80
  lastPlace : ones.toNat < 0x80 ∨ tens = '1' ∨ tens = '2'

/-- A text consists of the fields of a date, with hyphens between them. -/
def Spelled (d : Date) (s : String) : Prop :=
  ∃ ys ms tens ones, s.toList = ys ++ '-' :: (ms ++ ['-', tens, ones]) ∧
    d.SpelledBy ys ms tens ones

lemma ofIso?_eq_some_iff : ofIso? s = some d ↔ d.Spelled s := by
  constructor
  · intro h
    unfold ofIso? at h
    split at h
    · next y₁ y₂ y₃ y₄ m₁ m₂ d₁ d₂ hs =>
      simp only [Option.bind_eq_bind, Option.bind_eq_some_iff] at h
      obtain ⟨v₁, h₁, v₂, h₂, v₃, h₃, v₄, h₄, month, hmonth, day, hday, h⟩ := h
      obtain ⟨hyear, rfl, rfl⟩ := of?_eq_some_iff.1 h
      obtain ⟨hms, hm₁, hm₂⟩ := month?_eq_some_iff.1 hmonth
      obtain ⟨hds, hd₁, hlast⟩ := day?_eq_some_iff.1 hday
      have hys : Writes [y₁, y₂, y₃, y₄] 4 d.year :=
        ⟨rfl, [v₁, v₂, v₃, v₄], .cons h₁ (.cons h₂ (.cons h₃ (.cons h₄ .nil))), hyear.symm⟩
      exact ⟨[y₁, y₂, y₃, y₄], [m₁, m₂], d₁, d₂, hs, hys, hms, hds, by simp [hd₁, hm₁, hm₂], hlast⟩
    · cases h
  · rintro ⟨ys, ms, tens, ones, hs, h⟩
    obtain ⟨vs, hvs, hyear⟩ := h.year.digits
    have hfour := h.year.length
    have htwo := h.month.length
    match ys, vs, hvs, hfour, ms, htwo with
    | [y₁, y₂, y₃, y₄], [v₁, v₂, v₃, v₄], .cons h₁ (.cons h₂ (.cons h₃ (.cons h₄ .nil))), _,
        [m₁, m₂], _ =>
      obtain ⟨htens, hm₁, hm₂⟩ : tens.toNat < 0x80 ∧ m₁.toNat < 0x80 ∧ m₂.toNat < 0x80 := by
        simpa using h.ascii
      have hmonth := month?_eq_some_iff.2 ⟨h.month, hm₁, hm₂⟩
      have hday := day?_eq_some_iff.2 ⟨h.day, htens, h.lastPlace⟩
      have hlist : s.toList = [y₁, y₂, y₃, y₄, '-', m₁, m₂, '-', tens, ones] := hs
      rw [ofIso?, hlist]
      simp only [h₁, h₂, h₃, h₄, hmonth, hday, Option.bind_eq_bind, Option.bind_some]
      exact of?_eq_some_iff.2 ⟨hyear.symm, rfl, rfl⟩

lemma toList_iso (d : Date) : d.iso.toList =
    padded 4 d.year ++ '-' :: (padded 2 d.month ++ '-' :: padded 2 d.day) := by
  rw [iso, String.toList_ofList, List.append_assoc, List.cons_append]

/-- Each number of a date has room in its field. -/
lemma spelled_iso (d : Date) : d.Spelled d.iso := by
  obtain ⟨⟨-, hyear⟩, ⟨-, hmonth⟩, -, hday⟩ := d.valid
  have hlength := monthLength_le d.year d.month
  have hys : Writes (padded 4 d.year) 4 d.year := writes_padded (by decide) (by omega)
  have hms : Writes (padded 2 d.month) 2 d.month := writes_padded (by decide) (by omega)
  have hds : Writes (padded 2 d.day) 2 d.day := writes_padded (by decide) (by omega)
  obtain ⟨tens, ones, hpair⟩ := List.length_eq_two.1 hds.length
  have hascii : ∀ c ∈ [tens, ones], c.toNat < 0x80 := hpair ▸ fun c => ascii_of_mem_padded
  obtain ⟨htens, hones⟩ : tens.toNat < 0x80 ∧ ones.toNat < 0x80 := by simpa using hascii
  exact ⟨_, _, tens, ones, hpair ▸ toList_iso d, hys, hms, hpair ▸ hds,
    List.forall_mem_cons.2 ⟨htens, fun c => ascii_of_mem_padded⟩, .inl hones⟩

lemma isAscii_iso (d : Date) : isAscii d.iso := by
  rw [isAscii, toList_iso, List.all_eq_true]
  simp only [decide_eq_true_eq, List.forall_mem_append, List.forall_mem_cons]
  exact ⟨fun c => ascii_of_mem_padded, by decide, fun c => ascii_of_mem_padded, by decide,
    fun c => ascii_of_mem_padded⟩

/-- In ASCII a date is spelled by its written form alone. -/
lemma eq_iso_iff : s = d.iso ↔ d.Spelled s ∧ isAscii s := by
  constructor
  · rintro rfl
    exact ⟨spelled_iso d, isAscii_iso d⟩
  · rintro ⟨⟨ys, ms, tens, ones, hs, h⟩, hascii⟩
    obtain ⟨ys', ms', tens', ones', hs', h'⟩ := spelled_iso d
    have hascii' := isAscii_iso d
    simp only [isAscii, hs, hs', List.all_eq_true, decide_eq_true_eq, List.forall_mem_append,
      List.forall_mem_cons] at hascii hascii'
    obtain ⟨hys, -, hms, -, htens, hones, -⟩ := hascii
    obtain ⟨hys', -, hms', -, htens', hones', -⟩ := hascii'
    have hyear := h.year.eq_of_ascii h'.year hys hys'
    have hmonth := h.month.eq_of_ascii h'.month hms hms'
    have hday := h.day.eq_of_ascii h'.day (by simp [htens, hones]) (by simp [htens', hones'])
    rw [← String.toList_inj, hs, hs', hyear, hmonth, hday]

end Date

namespace Check

variable {s field : String}

lemma date_eq_error_iff {e : Error} :
    date s field = .error e ↔ Date.ofIso? s = none ∧ e = .notDate field := by
  unfold date
  cases Date.ofIso? s <;> simp [eq_comm]

/-- The written form of a date is read as that date, and the texts that are read as a date are those
that spell it; all others are refused as no dates. A text that is read is the written form of what
it is read as exactly if it is in ASCII. -/
theorem date_written_iff (field : String) :
    (∀ d : Date, date d.iso field = .ok d) ∧
    (∀ s (d : Date), s = d.iso ↔ d.Spelled s ∧ Text.isAscii s) ∧
    (∀ s (d : Date), date s field = .ok d ↔ d.Spelled s) ∧
    (∀ s, (∀ d : Date, ¬ d.Spelled s) ↔ date s field = .error (.notDate field)) ∧
    (Error.notDate field).code = .invalidInput ∧
    ∀ s, (∀ d : Date, date s field = .ok d → s = d.iso) ↔
      Text.isAscii s ∨ date s field = .error (.notDate field) := by
  have hread : ∀ s (d : Date), date s field = .ok d ↔ d.Spelled s := fun s d =>
    date_eq_ok.trans Date.ofIso?_eq_some_iff
  have hrefused : ∀ s, (∀ d : Date, ¬ d.Spelled s) ↔ date s field = .error (.notDate field) := by
    intro s
    rw [date_eq_error_iff, Option.eq_none_iff_forall_ne_some]
    simp only [ne_eq, Date.ofIso?_eq_some_iff, and_true]
  refine ⟨fun d => (hread _ _).2 d.spelled_iso, fun s d => Date.eq_iso_iff, hread, hrefused, rfl,
    fun s => ⟨fun honly => ?_, ?_⟩⟩
  · by_cases hspelled : ∃ d : Date, d.Spelled s
    · obtain ⟨d, hd⟩ := hspelled
      rw [honly d ((hread s d).2 hd)]
      exact .inl d.isAscii_iso
    · exact .inr ((hrefused s).1 (not_exists.1 hspelled))
  · rintro (hascii | herror) d hd
    · exact Date.eq_iso_iff.2 ⟨(hread s d).1 hd, hascii⟩
    · cases hd.symm.trans herror

/-- A year in Arabic digits is read, and is no written form of a date. -/
theorem arabicYear_read :
    ¬ ∀ s (d : Date), date s "start_date" = .ok d → s = d.iso := by
  intro h
  have hread : date "\u0662\u0660\u0662\u0664-01-01" "start_date" = .ok ⟨2024, 1, 1, by decide⟩ :=
    rfl
  have hiso := h _ _ hread
  exact absurd hiso (by decide)

/-- Only the last place of a day may have a digit of another script, and only after 1 or 2. -/
example : Date.ofIso? "2024-01-1\u0663" = Date.of? 2024 1 13 ∧
    Date.ofIso? "2024-01-0\u0663" = none ∧ Date.ofIso? "2024-0\u0661-13" = none := by
  decide

end Check

end Mailroom
