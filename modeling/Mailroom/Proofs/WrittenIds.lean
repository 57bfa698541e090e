import Mathlib.Tactic.Lemma
import Mailroom.MessageId

/-!
# The written form of message ids

A message id is read back from its written form, and an id that is read is written as before but for
the leading zeros of its numbers. Which texts are ids is said by `WellFormed`, without reading them.
Reading decides it for all texts but those with a number of more digits than are ever read.
-/

namespace Mailroom

namespace Text

lemma fields_eq_splitOn (sep : Char) (s : List Char) : fields sep s = s.splitOn sep := by
  induction s with
  | nil => rfl
  | cons c r ih =>
    rw [List.splitOn_cons_eq_if_modifyHead, fields, ih]
    split
    · rfl
    · cases h : r.splitOn sep with
      | nil => exact absurd h (List.splitOn_ne_nil sep r)
      | cons f fs => rfl

lemma joined_eq_intercalate (sep : Char) (fs : List (List Char)) :
    joined sep fs = [sep].intercalate fs := by
  induction fs with
  | nil => rfl
  | cons f fs ih =>
    cases fs with
    | nil => simp [joined]
    | cons g gs =>
      rw [joined, ih, List.intercalate_cons_cons, List.append_assoc, List.singleton_append]
      exact List.cons_ne_nil g gs

lemma notMem_of_mem_splitOn {sep : Char} {s f : List Char} (h : f ∈ s.splitOn sep) : sep ∉ f := by
  induction s generalizing f with
  | nil =>
    rw [List.splitOn_nil, List.mem_singleton] at h
    exact h ▸ List.not_mem_nil
  | cons c r ih =>
    rw [List.splitOn_cons_eq_if_modifyHead] at h
    split at h
    · rcases List.mem_cons.1 h with rfl | h
      · exact List.not_mem_nil
      · exact ih h
    · next hc =>
      cases hr : r.splitOn sep with
      | nil => exact absurd hr (List.splitOn_ne_nil sep r)
      | cons g gs =>
        rw [hr] at h ih
        rcases List.mem_cons.1 h with rfl | h
        · have hne : sep ≠ c := fun hsep => hc (beq_iff_eq.2 hsep.symm)
          exact fun h => (List.mem_cons.1 h).elim hne (ih List.mem_cons_self)
        · exact ih (List.mem_cons_of_mem _ h)

lemma intercalate_append {sep : Char} {fs gs : List (List Char)} (hf : fs ≠ []) (hg : gs ≠ []) :
    [sep].intercalate (fs ++ gs) = [sep].intercalate fs ++ sep :: [sep].intercalate gs := by
  induction fs with
  | nil => exact absurd rfl hf
  | cons f fs ih =>
    cases fs with
    | nil => simp [List.intercalate_cons_of_ne_nil hg]
    | cons g fs =>
      rw [List.cons_append, List.intercalate_cons_of_ne_nil (by simp), ih (List.cons_ne_nil g fs),
        List.intercalate_cons_cons]
      simp

/-- Fields that stand between others may be joined by themselves first. -/
lemma intercalate_between {sep : Char} {fs : List (List Char)} (hf : fs ≠ [])
    (a b v u : List Char) : [sep].intercalate (a :: b :: (fs ++ [v, u])) =
      [sep].intercalate [a, b, [sep].intercalate fs, v, u] := by
  have hlast : [v, u] ≠ [] := List.cons_ne_nil v [u]
  have hrest : fs ++ [v, u] ≠ [] := List.append_ne_nil_of_right_ne_nil fs hlast
  rw [List.intercalate_cons_cons, List.intercalate_cons_of_ne_nil hrest,
    intercalate_append hf hlast]
  simp [List.intercalate_cons_cons]

lemma ofDigits_eq (s : List Char) :
    ofDigits (s.map fun c => c.toNat - 0x30) = Nat.ofDigitChars 10 s 0 := by
  rw [ofDigits, List.foldl_map, Nat.ofDigitChars_eq_foldl]
  rfl

/-- A decimal number without leading zeros. -/
def unpadded (s : List Char) : List Char :=
  match s.dropWhile (· == '0') with
  | [] => ['0']
  | r => r

lemma digitChar_of_isDigit {c : Char} (h : c.isDigit) :
    c.toNat - 48 < 10 ∧ (c.toNat - 48).digitChar = c := by
  have hc : 48 ≤ c.toNat ∧ c.toNat ≤ 57 := by
    simp only [Char.isDigit, Bool.and_eq_true, decide_eq_true_eq, ge_iff_le,
      UInt32.le_iff_toNat_le] at h
    exact h
  have hlt : c.toNat - 48 < 10 := by omega
  refine ⟨hlt, Char.toNat_inj.1 ?_⟩
  rw [Nat.toNat_digitChar_of_lt_ten hlt]
  omega

/-- Digits go on behind the number that they follow. -/
lemma toDigits_append {n : Nat} (hn : 0 < n) {s : List Char} (hs : ∀ c ∈ s, c.isDigit) :
    Nat.toDigits 10 n ++ s = Nat.toDigits 10 (Nat.ofDigitChars 10 s n) := by
  induction s generalizing n with
  | nil => rw [List.append_nil, Nat.ofDigitChars_nil]
  | cons c r ih =>
    obtain ⟨hlt, hchar⟩ := digitChar_of_isDigit (hs c List.mem_cons_self)
    have hone := Nat.toDigits_append_toDigits (b := 10) (by decide) hn hlt
    rw [Nat.toDigits_of_lt_base hlt, hchar] at hone
    calc Nat.toDigits 10 n ++ c :: r = (Nat.toDigits 10 n ++ [c]) ++ r := by simp
      _ = Nat.toDigits 10 (10 * n + (c.toNat - 48)) ++ r := by rw [hone]
      _ = Nat.toDigits 10 (Nat.ofDigitChars 10 r (10 * n + (c.toNat - 48))) :=
        ih (by omega) fun c hc => hs c (List.mem_cons_of_mem _ hc)
      _ = Nat.toDigits 10 (Nat.ofDigitChars 10 (c :: r) n) := by rw [Nat.ofDigitChars_cons]; rfl

/-- What a text of digits is written as that was read as a number. -/
lemma toDigits_ofDigitChars {s : List Char} (hs : ∀ c ∈ s, c.isDigit) :
    Nat.toDigits 10 (Nat.ofDigitChars 10 s 0) = unpadded s := by
  induction s with
  | nil => rfl
  | cons c r ih =>
    have hr : ∀ c ∈ r, c.isDigit := fun c hc => hs c (List.mem_cons_of_mem _ hc)
    rw [Nat.ofDigitChars_cons]
    by_cases hc : c = '0'
    · subst hc
      exact ih hr
    · obtain ⟨hlt, hchar⟩ := digitChar_of_isDigit (hs c List.mem_cons_self)
      have hpos : 0 < c.toNat - 48 := by
        refine Nat.pos_of_ne_zero fun hzero => hc ?_
        rw [← hchar, hzero]
        rfl
      have hunpadded : unpadded (c :: r) = c :: r := by
        rw [unpadded, List.dropWhile_cons_of_neg (by simpa using hc)]
      have happend := toDigits_append hpos hr
      rw [Nat.toDigits_of_lt_base hlt, hchar] at happend
      rw [hunpadded, ← List.singleton_append, happend, Nat.mul_zero, Nat.zero_add]
      rfl

end Text

namespace MessageId

/-- A whole number of 32 bits in decimal digits. Any number of zeros may stand in front. -/
structure IsNumeral (s : List Char) : Prop where
  ne_nil : s ≠ []
  digits : ∀ c ∈ s, c.isDigit
  le : Nat.ofDigitChars 10 s 0 ≤ maxNumber

/-- Digits, and more of them than are ever read. -/
def TooLong (s : List Char) : Prop :=
  (∀ c ∈ s, c.isDigit) ∧ Text.maxDigits < s.length

lemma number_numeral {s : List Char} (h : IsNumeral s) (hs : ¬ TooLong s) (part : String) :
    number part s = .ok (Nat.ofDigitChars 10 s 0) := by
  have hdigits : (s.isEmpty || !s.all Char.isDigit) = false := by
    simpa using ⟨h.ne_nil, h.digits⟩
  have hlength : ¬ Text.maxDigits < s.length := fun hlt => hs ⟨h.digits, hlt⟩
  rw [number, hdigits, if_neg Bool.false_ne_true, if_neg hlength, Text.ofDigits_eq]
  exact if_neg (Nat.not_lt.2 h.le)

lemma number_tooLong {s : List Char} (h : TooLong s) (part : String) :
    number part s = .error (.escaped .unreadableNumber) := by
  have hdigits : (s.isEmpty || !s.all Char.isDigit) = false := by
    have hne : s ≠ [] := by
      rintro rfl
      exact absurd h.2 (Nat.not_lt_zero _)
    simpa using ⟨hne, h.1⟩
  rw [number, hdigits, if_neg Bool.false_ne_true, if_pos h.2]

lemma number_other {s : List Char} (h : ¬ IsNumeral s) (hs : ¬ TooLong s) (part : String) :
    number part s = .error (.refused (.messageIdNumber part)) := by
  rw [number]
  split
  · rfl
  · next hdigits =>
    have hdigits : s ≠ [] ∧ ∀ c ∈ s, c.isDigit := by simpa using hdigits
    rw [if_neg fun hlt => hs ⟨hdigits.2, hlt⟩, Text.ofDigits_eq]
    exact if_pos (Nat.lt_of_not_le fun hle => h ⟨hdigits.1, hdigits.2, hle⟩)

/-- The segments of a text that starts as an id does: the account, those of the mailbox, of which
there is one at least, and the two numbers. -/
structure Cut (raw : String) (account : List Char) (mailbox : List (List Char))
    (uidvalidity uid : List Char) : Prop where
  segments : raw.toList.splitOn ':' =
    "imap".toList :: account :: (mailbox ++ [uidvalidity, uid])
  mailbox_ne_nil : mailbox ≠ []

section Reading

variable {raw : String} {account v u : List Char} {mailbox : List (List Char)}

lemma parse_of_cut (h : Cut raw account mailbox v u) :
    parse raw = do
      let n ← number "uidvalidity" v
      let m ← number "uid" u
      if ([':'].intercalate mailbox).isEmpty then
        throw (.refused .messageIdMailbox)
      return ⟨String.ofList account, String.ofList ([':'].intercalate mailbox), n, m⟩ := by
  have hreverse : (mailbox ++ [v, u]).reverse = u :: v :: mailbox.reverse := by simp
  rw [parse, Text.fields_eq_splitOn, h.segments]
  dsimp only
  rw [hreverse]
  dsimp only
  rw [if_pos (by simpa using h.mailbox_ne_nil), List.reverse_reverse, Text.joined_eq_intercalate]

/-- What cannot be cut is refused for its shape. -/
lemma parse_eq_of_no_cut (h : ∀ account mailbox v u, ¬ Cut raw account mailbox v u) :
    parse raw = .error (.refused .messageIdShape) := by
  rw [parse, Text.fields_eq_splitOn]
  split
  · next scheme account rest hsegments =>
    split
    · next u v mailbox hrest =>
      refine if_neg fun hc => ?_
      rw [Bool.and_eq_true, beq_iff_eq] at hc
      have hback : rest = mailbox.reverse ++ [v, u] := by
        rw [← List.reverse_reverse rest, hrest]
        simp
      exact h account mailbox.reverse v u
        ⟨by rw [hsegments, hc.1, hback], by simpa using hc.2⟩
    · rfl
  · rfl

/-- A text that is an id, said without reading it. -/
def WellFormed (raw : String) : Prop :=
  ∃ account mailbox v u, Cut raw account mailbox v u ∧ [':'].intercalate mailbox ≠ [] ∧
    IsNumeral v ∧ IsNumeral u

/-- A text with a number that is given up for its length, when it is read from the left. -/
def Overlong (raw : String) : Prop :=
  ∃ account mailbox v u, Cut raw account mailbox v u ∧ (TooLong v ∨ IsNumeral v ∧ TooLong u)

lemma Cut.unique {account' v' u' : List Char} {mailbox' : List (List Char)}
    (h : Cut raw account mailbox v u) (h' : Cut raw account' mailbox' v' u') :
    account' = account ∧ mailbox' = mailbox ∧ v' = v ∧ u' = u := by
  have hsegments := h'.segments.symm.trans h.segments
  simp only [List.cons.injEq, true_and] at hsegments
  obtain ⟨haccount, hrest⟩ := hsegments
  obtain ⟨hmailbox, hnumbers⟩ := List.append_inj' hrest rfl
  simp only [List.cons.injEq, and_true] at hnumbers
  exact ⟨haccount, hmailbox, hnumbers⟩

lemma parse_overlong (h : Overlong raw) : parse raw = .error (.escaped .unreadableNumber) := by
  obtain ⟨account, mailbox, v, u, hcut, hv | ⟨hv, hu⟩⟩ := h
  · rw [parse_of_cut hcut, number_tooLong hv]
    rfl
  · by_cases hv' : TooLong v
    · rw [parse_of_cut hcut, number_tooLong hv']
      rfl
    · rw [parse_of_cut hcut, number_numeral hv hv', number_tooLong hu]
      rfl

lemma parse_wellFormed (h : Cut raw account mailbox v u) (hm : [':'].intercalate mailbox ≠ [])
    (hv : IsNumeral v) (hu : IsNumeral u) (hshort : ¬ Overlong raw) :
    parse raw = .ok ⟨String.ofList account, String.ofList ([':'].intercalate mailbox),
      Nat.ofDigitChars 10 v 0, Nat.ofDigitChars 10 u 0⟩ := by
  have hv' : ¬ TooLong v := fun hlong => hshort ⟨account, mailbox, v, u, h, .inl hlong⟩
  have hu' : ¬ TooLong u := fun hlong => hshort ⟨account, mailbox, v, u, h, .inr ⟨hv, hlong⟩⟩
  have hsome : ([':'].intercalate mailbox).isEmpty = false := by simpa using hm
  rw [parse_of_cut h, number_numeral hv hv', number_numeral hu hu']
  simp only [hsome]
  rfl

lemma parse_malformed (h : ¬ WellFormed raw) (hshort : ¬ Overlong raw) :
    ∃ e, parse raw = .error (.refused e) ∧ e.code = .invalidInput := by
  by_cases hcut : ∃ account mailbox v u, Cut raw account mailbox v u
  · obtain ⟨account, mailbox, v, u, hcut⟩ := hcut
    rw [parse_of_cut hcut]
    have hv' : ¬ TooLong v := fun hlong => hshort ⟨account, mailbox, v, u, hcut, .inl hlong⟩
    by_cases hv : IsNumeral v
    · have hu' : ¬ TooLong u :=
        fun hlong => hshort ⟨account, mailbox, v, u, hcut, .inr ⟨hv, hlong⟩⟩
      rw [number_numeral hv hv']
      by_cases hu : IsNumeral u
      · have hm : [':'].intercalate mailbox = [] :=
          Classical.byContradiction fun hm => h ⟨account, mailbox, v, u, hcut, hm, hv, hu⟩
        rw [number_numeral hu hu', hm]
        exact ⟨_, rfl, rfl⟩
      · rw [number_other hu hu']
        exact ⟨_, rfl, rfl⟩
    · rw [number_other hv hv']
      exact ⟨_, rfl, rfl⟩
  · refine ⟨_, parse_eq_of_no_cut fun account mailbox v u h => hcut ?_, rfl⟩
    exact ⟨account, mailbox, v, u, h⟩

lemma parse_eq_ok {m : MessageId} (h : parse raw = .ok m) : ¬ Overlong raw ∧
    ∃ account mailbox v u, Cut raw account mailbox v u ∧ [':'].intercalate mailbox ≠ [] ∧
      IsNumeral v ∧ IsNumeral u ∧ m = ⟨String.ofList account,
        String.ofList ([':'].intercalate mailbox), Nat.ofDigitChars 10 v 0,
        Nat.ofDigitChars 10 u 0⟩ := by
  have hshort : ¬ Overlong raw := by
    intro hlong
    rw [parse_overlong hlong] at h
    cases h
  by_cases hraw : WellFormed raw
  · obtain ⟨account, mailbox, v, u, hcut, hm, hv, hu⟩ := hraw
    rw [parse_wellFormed hcut hm hv hu hshort] at h
    exact ⟨hshort, account, mailbox, v, u, hcut, hm, hv, hu, (Except.ok.inj h).symm⟩
  · obtain ⟨e, he, -⟩ := parse_malformed hraw hshort
    rw [he] at h
    cases h

/-- Reading a text tells whether it is an id, and refuses it as invalid input if it is none. -/
def Decided (raw : String) : Prop :=
  ((∃ m, parse raw = .ok m) ↔ WellFormed raw) ∧
    (¬ WellFormed raw → ∃ e, parse raw = .error (.refused e) ∧ e.code = .invalidInput)

/-- Reading decides which texts are ids exactly for those that are not overlong, with which it does
not end in a refusal. -/
theorem decided_iff_not_overlong (raw : String) :
    (Decided raw ↔ ¬ Overlong raw) ∧
      (Overlong raw → parse raw = .error (.escaped .unreadableNumber)) := by
  refine ⟨⟨fun h hlong => ?_, fun hshort => ⟨⟨?_, ?_⟩, fun hraw => ?_⟩⟩, parse_overlong⟩
  · have hparse := parse_overlong hlong
    by_cases hraw : WellFormed raw
    · obtain ⟨m, hm⟩ := h.1.2 hraw
      rw [hm] at hparse
      cases hparse
    · obtain ⟨e, he, -⟩ := h.2 hraw
      rw [he] at hparse
      cases hparse
  · rintro ⟨m, hm⟩
    obtain ⟨-, account, mailbox, v, u, hcut, hmailbox, hv, hu, -⟩ := parse_eq_ok hm
    exact ⟨account, mailbox, v, u, hcut, hmailbox, hv, hu⟩
  · rintro ⟨account, mailbox, v, u, hcut, hm, hv, hu⟩
    exact ⟨_, parse_wellFormed hcut hm hv hu hshort⟩
  · exact parse_malformed hraw hshort

/-- A mailbox of three segments, one of them empty, and a number behind zeros. -/
theorem decided_iff_not_overlong_of_zeros : ¬ Overlong "imap:a:b::c:0007:42" ∧
    WellFormed "imap:a:b::c:0007:42" ∧ ∃ m, parse "imap:a:b::c:0007:42" = .ok m := by
  have hcut : Cut "imap:a:b::c:0007:42" "a".toList ["b".toList, [], "c".toList] "0007".toList
      "42".toList := ⟨rfl, List.cons_ne_nil _ _⟩
  have hshort : ¬ Overlong "imap:a:b::c:0007:42" := by
    rintro ⟨account, mailbox, v, u, h, hlong⟩
    obtain ⟨-, -, rfl, rfl⟩ := hcut.unique h
    exact hlong.elim (fun hv => absurd hv.2 (by decide)) fun hu => absurd hu.2.2 (by decide)
  have hraw : WellFormed "imap:a:b::c:0007:42" :=
    ⟨_, _, _, _, hcut, by decide, ⟨by decide, List.all_eq_true.1 rfl, by decide⟩,
      ⟨by decide, List.all_eq_true.1 rfl, by decide⟩⟩
  exact ⟨hshort, hraw, ((decided_iff_not_overlong _).1.2 hshort).1.2 hraw⟩

lemma cut_inbox {u : List Char} (h : ':' ∉ u) :
    Cut (String.ofList ("imap:a:INBOX:7:".toList ++ u)) "a".toList ["INBOX".toList] "7".toList
      u := by
  refine ⟨?_, List.cons_ne_nil _ _⟩
  have hjoined : "imap:a:INBOX:7:".toList ++ u =
      [':'].intercalate ["imap".toList, "a".toList, "INBOX".toList, "7".toList, u] := by
    simp [List.intercalate_cons_cons]
  rw [String.toList_ofList, hjoined]
  refine List.splitOn_intercalate ':' (fun f hf => ?_) (List.cons_ne_nil _ _)
  simp only [List.mem_cons, List.not_mem_nil, or_false] at hf
  rcases hf with rfl | rfl | rfl | rfl | rfl
  · decide
  · decide
  · decide
  · decide
  · exact h

/-- An id with a uid of one digit more than are ever read. -/
def nines : String :=
  String.ofList ("imap:a:INBOX:7:".toList ++ List.replicate (Text.maxDigits + 1) '9')

lemma cut_nines : Cut nines "a".toList ["INBOX".toList] "7".toList
    (List.replicate (Text.maxDigits + 1) '9') := by
  refine cut_inbox fun hcolon => ?_
  have hnine : ':' = '9' := List.eq_of_mem_replicate hcolon
  exact absurd hnine (by decide)

/-- Such an id is no id, and reading it ends in a failure that is no refusal. -/
theorem nines_not_decided : ¬ WellFormed nines ∧ ¬ Decided nines ∧
    parse nines = .error (.escaped .unreadableNumber) := by
  have hdigits : ∀ c ∈ List.replicate (Text.maxDigits + 1) '9', c.isDigit := by
    intro c hc
    rw [List.eq_of_mem_replicate hc]
    rfl
  have hlong : TooLong (List.replicate (Text.maxDigits + 1) '9') :=
    ⟨hdigits, by rw [List.length_replicate]; exact Nat.lt_succ_self _⟩
  have hseven : IsNumeral "7".toList := ⟨by decide, List.all_eq_true.1 rfl, by decide⟩
  have hparse : parse nines = .error (.escaped .unreadableNumber) :=
    parse_overlong ⟨_, _, _, _, cut_nines, .inr ⟨hseven, hlong⟩⟩
  have hraw : ¬ WellFormed nines := by
    rintro ⟨account, mailbox, v, u, h, -, -, hu⟩
    obtain ⟨-, -, -, rfl⟩ := cut_nines.unique h
    -- The first ten nines are too much already.
    have hsplit : List.replicate (Text.maxDigits + 1) '9' =
        List.replicate 10 '9' ++ List.replicate 4291 '9' := by
      rw [List.replicate_append_replicate]
      rfl
    have hle := hu.le
    rw [hsplit, Nat.ofDigitChars_append, Nat.ofDigitChars_eq_ofDigitChars_zero] at hle
    have hten : maxNumber < Nat.ofDigitChars 10 (List.replicate 10 '9') 0 := by decide
    have hgrows := Nat.le_mul_of_pos_left (Nat.ofDigitChars 10 (List.replicate 10 '9') 0)
      (Nat.pow_pos (n := (List.replicate 4291 '9').length) (show 0 < 10 by decide))
    omega
  refine ⟨hraw, fun hdecided => ?_, hparse⟩
  obtain ⟨e, he, -⟩ := hdecided.2 hraw
  rw [hparse] at he
  cases he

end Reading

section Writing

variable {m : MessageId} {raw : String}

/-- An id whose parts can be told apart in its written form. -/
structure Writable (m : MessageId) : Prop where
  accountId : ':' ∉ m.accountId.toList
  mailbox : m.mailbox ≠ ""
  uidvalidity : 0 ≤ m.uidvalidity ∧ m.uidvalidity ≤ maxNumber
  uid : 0 ≤ m.uid ∧ m.uid ≤ maxNumber

lemma toList_encode (account mailbox : String) (v u : Nat) :
    (encode ⟨account, mailbox, v, u⟩).toList = [':'].intercalate ["imap".toList,
      account.toList, mailbox.toList, Nat.toDigits 10 v, Nat.toDigits 10 u] := by
  have hnat : ∀ n : Nat, (n : Int).repr.toList = Nat.toDigits 10 n := fun n => Nat.toList_repr
  simp [encode, hnat, List.intercalate_cons_cons]
  rfl

lemma cut_encode {account : String} (h : ':' ∉ account.toList) (mailbox : String) (v u : Nat) :
    Cut (encode ⟨account, mailbox, v, u⟩) account.toList (mailbox.toList.splitOn ':')
      (Nat.toDigits 10 v) (Nat.toDigits 10 u) := by
  have hsome := List.splitOn_ne_nil ':' mailbox.toList
  have hflat : (encode ⟨account, mailbox, v, u⟩).toList =
      [':'].intercalate ("imap".toList :: account.toList ::
        (mailbox.toList.splitOn ':' ++ [Nat.toDigits 10 v, Nat.toDigits 10 u])) := by
    rw [Text.intercalate_between hsome, List.intercalate_splitOn, toList_encode]
  refine ⟨?_, hsome⟩
  rw [hflat]
  refine List.splitOn_intercalate ':' (fun f hf => ?_) (by simp)
  simp only [List.mem_cons, List.mem_append, List.not_mem_nil, or_false] at hf
  rcases hf with rfl | rfl | hf | rfl | rfl
  · decide
  · exact h
  · exact Text.notMem_of_mem_splitOn hf
  · exact Text.notMem_toDigits rfl v
  · exact Text.notMem_toDigits rfl u

lemma isNumeral_toDigits {n : Nat} (h : n ≤ maxNumber) :
    IsNumeral (Nat.toDigits 10 n) ∧ ¬ TooLong (Nat.toDigits 10 n) := by
  refine ⟨⟨Nat.toDigits_ne_nil, fun c hc => ?_, ?_⟩, fun hlong => ?_⟩
  · exact Nat.isDigit_of_mem_toDigits (by decide) (by decide) hc
  · rwa [Nat.ofDigitChars_ten_toDigits]
  · have hlength : (Nat.toDigits 10 n).length ≤ 10 :=
      (Nat.length_toDigits_le_iff (by decide) (by decide)).2 (Nat.lt_of_le_of_lt h (by decide))
    exact absurd hlong.2 (Nat.not_lt.2 (Nat.le_trans hlength (by decide)))

lemma parse_encode (h : m.Writable) : parse m.encode = .ok m := by
  obtain ⟨account, mailbox, v, u⟩ := m
  obtain ⟨v, rfl⟩ := Int.eq_ofNat_of_zero_le h.uidvalidity.1
  obtain ⟨u, rfl⟩ := Int.eq_ofNat_of_zero_le h.uid.1
  have hcut := cut_encode h.accountId mailbox v u
  obtain ⟨hv, hv'⟩ := isNumeral_toDigits (Int.ofNat_le.1 h.uidvalidity.2)
  obtain ⟨hu, hu'⟩ := isNumeral_toDigits (Int.ofNat_le.1 h.uid.2)
  have hmailbox : [':'].intercalate (mailbox.toList.splitOn ':') ≠ [] := by
    rw [List.intercalate_splitOn]
    exact fun hnil => h.mailbox (String.toList_eq_nil_iff.1 hnil)
  have hshort : ¬ Overlong (encode ⟨account, mailbox, v, u⟩) := by
    rintro ⟨account', mailbox', v', u', hcut', hlong⟩
    obtain ⟨-, -, rfl, rfl⟩ := hcut.unique hcut'
    exact hlong.elim hv' fun hlong => hu' hlong.2
  rw [parse_wellFormed hcut hmailbox hv hu hshort, List.intercalate_splitOn,
    Nat.ofDigitChars_ten_toDigits, Nat.ofDigitChars_ten_toDigits, String.ofList_toList,
    String.ofList_toList]

lemma writable_of_parse (h : parse raw = .ok m) : m.Writable := by
  obtain ⟨-, account, mailbox, v, u, hcut, hm, hv, hu, rfl⟩ := parse_eq_ok h
  have haccount : account ∈ raw.toList.splitOn ':' := by
    rw [hcut.segments]
    exact List.mem_cons_of_mem _ List.mem_cons_self
  refine ⟨?_, fun hnil => hm ?_, ⟨Int.natCast_nonneg _, Int.ofNat_le.2 hv.le⟩,
    ⟨Int.natCast_nonneg _, Int.ofNat_le.2 hu.le⟩⟩
  · simpa using Text.notMem_of_mem_splitOn haccount
  · simpa using congrArg String.toList hnil

/-- A written id without the leading zeros of its last two segments. -/
def canonical (raw : String) : String :=
  let segments := raw.toList.splitOn ':'
  String.ofList ([':'].intercalate (segments.take (segments.length - 2) ++
    (segments.drop (segments.length - 2)).map Text.unpadded))

lemma encode_of_parse (h : parse raw = .ok m) : m.encode = canonical raw := by
  obtain ⟨-, account, mailbox, v, u, hcut, hm, hv, hu, rfl⟩ := parse_eq_ok h
  have hfront : raw.toList.splitOn ':' = ("imap".toList :: account :: mailbox) ++ [v, u] :=
    hcut.segments
  have hlength : (("imap".toList :: account :: mailbox) ++ [v, u]).length - 2 =
      ("imap".toList :: account :: mailbox).length := by simp
  have hcanonical : (canonical raw).toList = [':'].intercalate
      ("imap".toList :: account :: (mailbox ++ [Text.unpadded v, Text.unpadded u])) := by
    rw [canonical, hfront, hlength, List.take_left, List.drop_left, String.toList_ofList]
    rfl
  rw [← String.toList_inj, hcanonical, Text.intercalate_between hcut.mailbox_ne_nil, toList_encode,
    Text.toDigits_ofDigitChars hv.digits, Text.toDigits_ofDigitChars hu.digits]
  simp only [String.toList_ofList]

/-- An id is what is read from its written form, so that ids with the same written form are the
same; and what is read from a text is written as that text without the leading zeros of its
numbers, from which the same is read again. -/
theorem parse_encode_canonical : (∀ m, Writable m → parse m.encode = .ok m) ∧
    (∀ m m', Writable m → Writable m' → m.encode = m'.encode → m = m') ∧
    ∀ raw m, parse raw = .ok m → m.encode = canonical raw ∧ parse m.encode = parse raw := by
  refine ⟨fun m => parse_encode, fun m m' h h' hencode => ?_, fun raw m h => ?_⟩
  · have hparse := parse_encode h
    rw [hencode, parse_encode h'] at hparse
    exact (Except.ok.inj hparse).symm
  · exact ⟨encode_of_parse h, (parse_encode (writable_of_parse h)).trans h.symm⟩

/-- A mailbox with a colon at each end that holds a number of its own. -/
theorem parse_encode_canonical_of_colons :
    parse (encode ⟨"a", ":x:7:", 7, 4294967295⟩) = .ok ⟨"a", ":x:7:", 7, 4294967295⟩ ∧
    encode ⟨"a", ":x:7:", 7, 0⟩ = "imap:a::x:7::7:0" ∧
    canonical "imap:a::x:7::007:0000" = "imap:a::x:7::7:0" := by
  have hwritable : Writable ⟨"a", ":x:7:", 7, 4294967295⟩ :=
    ⟨by decide, by decide, by decide, by decide⟩
  have hparse : parse "imap:a::x:7::007:0000" = .ok ⟨"a", ":x:7:", 7, 0⟩ := rfl
  have hencode : encode ⟨"a", ":x:7:", 7, 0⟩ = "imap:a::x:7::7:0" := by decide
  refine ⟨parse_encode_canonical.1 _ hwritable, hencode, ?_⟩
  exact (parse_encode_canonical.2.2 _ _ hparse).1.symm.trans hencode

end Writing

end MessageId

end Mailroom
