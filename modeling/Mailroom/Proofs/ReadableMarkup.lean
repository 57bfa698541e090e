import Mathlib.Data.List.TakeWhile
import Mailroom.Html.Printer
import Mailroom.Proofs.ReadableFields

/-!
# Readable markup

Two things make markup unreadable: a decimal reference with more digits than are ever read, and a
marked section of an unknown kind. A value of an attribute is unreadable exactly if it has such a
reference. Whether a reference or a section counts elsewhere depends on what stands around it, but
markup without either is always read: the scanner goes on through what is left of a document, and
looks at nothing else.
-/

namespace Mailroom.Html

/-- A decimal reference that has, or begins with, too many digits. -/
def HasLongReference (s : List Char) : Prop :=
  ∃ ds, (∀ d ∈ ds, d.isDigit = true) ∧ Text.maxDigits < ds.length ∧ '&' :: '#' :: ds <:+: s

/-- A text gives a cause for what was raised over it. -/
def Causes (s : List Char) (e : Escape) : Prop :=
  e = .rejectedMarkup ∧ "<![".toList <:+: s ∨ e = .unreadableNumber ∧ HasLongReference s

namespace Reference

variable {p : Char → Bool} {s v name : List Char}

/-- Too many digits stand behind the sign of a number. -/
def StartsLong (s : List Char) : Prop :=
  ∃ ds, (∀ d ∈ ds, d.isDigit = true) ∧ Text.maxDigits < ds.length ∧ '#' :: ds <+: s

lemma hasLongReference_cons_iff {c : Char} :
    HasLongReference (c :: s) ↔ c = '&' ∧ StartsLong s ∨ HasLongReference s := by
  unfold HasLongReference StartsLong
  simp only [List.infix_cons_iff, List.cons_prefix_cons, and_or_left, exists_or]
  refine or_congr_left ⟨?_, ?_⟩
  · rintro ⟨ds, hdigits, hlong, rfl, hstart⟩
    exact ⟨rfl, ds, hdigits, hlong, hstart⟩
  · rintro ⟨rfl, ds, hdigits, hlong, hstart⟩
    exact ⟨ds, hdigits, hlong, rfl, hstart⟩

/-- Digits that a text begins with are among all that it begins with. -/
lemma length_le_takeWhile {ds : List Char} (hds : ∀ d ∈ ds, p d = true) (h : ds <+: s) :
    ds.length ≤ (s.takeWhile p).length := by
  obtain ⟨r, rfl⟩ := h
  rw [List.takeWhile_append_of_pos hds, List.length_append]
  exact Nat.le_add_right ..

lemma exists_decimal_iff {ds : List Char} :
    (∃ n, decimal ds = .ok n) ↔ ds.length ≤ Text.maxDigits := by
  unfold decimal
  by_cases hlong : Text.maxDigits < ds.length
  · rw [if_pos hlong]
    exact iff_of_false nofun (Nat.not_le.2 hlong)
  · rw [if_neg hlong]
    exact iff_of_true ⟨_, rfl⟩ (Nat.not_lt.1 hlong)

lemma startsLong_cons_iff : StartsLong ('#' :: s) ↔
    Text.maxDigits < (s.takeWhile Char.isDigit).length := by
  constructor
  · rintro ⟨ds, hdigits, hlong, hprefix⟩
    have hds := (List.cons_prefix_cons.1 hprefix).2
    exact Nat.lt_of_lt_of_le hlong (length_le_takeWhile hdigits hds)
  · intro hlong
    exact ⟨s.takeWhile Char.isDigit, fun d hd => List.mem_takeWhile_imp hd, hlong,
      List.cons_prefix_cons.2 ⟨rfl, List.takeWhile_prefix _⟩⟩

/-- A reference at the start of a text is read unless it is one of too many digits. -/
lemma exists_first?_iff : (∃ x, first? s = .ok x) ↔ ¬ StartsLong s := by
  unfold first?
  dsimp only
  split
  · rename_i x r
    rw [startsLong_cons_iff]
    by_cases hx : (x == 'x' || x == 'X') = true
    · have hnone : (x :: r).takeWhile Char.isDigit = [] := by
        rw [Bool.or_eq_true, beq_iff_eq, beq_iff_eq] at hx
        rcases hx with rfl | rfl <;> rfl
      rw [if_pos hx, hnone]
      refine iff_of_true ?_ (Nat.not_lt.2 (Nat.zero_le _))
      split
      · exact ⟨_, rfl⟩
      · exact ⟨_, rfl⟩
    · rw [if_neg hx]
      by_cases hempty : ((x :: r).takeWhile Char.isDigit).isEmpty = true
      · rw [if_pos hempty, List.isEmpty_iff.1 hempty]
        exact iff_of_true ⟨_, rfl⟩ (Nat.not_lt.2 (Nat.zero_le _))
      · rw [if_neg hempty, exists_bind_pure_iff, exists_decimal_iff, Nat.not_lt]
  · rename_i hshape
    refine iff_of_true ?_ ?_
    · split
      · exact ⟨_, rfl⟩
      · exact ⟨_, rfl⟩
    · rintro ⟨ds, -, hlong, r, hs⟩
      cases ds with
      | nil => exact absurd hlong (by decide)
      | cons d ds => exact hshape d (ds ++ r) hs.symm

/-- The name of a reference and the semicolon that closes it are free of ampersands. -/
lemma notMem_take (hname : name <+: s) (h : '&' ∉ name) : '&' ∉ s.take (name.length +
    if (s.drop name.length).head? == some ';' then 1 else 0) := by
  obtain ⟨r, rfl⟩ := hname
  rw [List.take_length_add_append, List.drop_left, List.mem_append, not_or]
  refine ⟨h, ?_⟩
  cases r with
  | nil => simp
  | cons c r =>
    by_cases hc : c = ';'
    · subst hc
      simp
    · simp [hc]

lemma notMem_takeWhile (h : p '&' = false) : '&' ∉ s.takeWhile p := by
  intro hmem
  rw [List.mem_takeWhile_imp hmem] at h
  cases h

/-- A reference ends before the next ampersand. -/
lemma notMem_of_first? {t : List Char} {n : Nat} (h : first? s = .ok (some (t, n))) :
    '&' ∉ s.take n := by
  unfold first? at h
  dsimp only at h
  split at h
  · rename_i x r
    split at h
    · rename_i hx
      split at h
      · cases h
      · obtain ⟨⟩ := h
        have hname : '#' :: x :: r.takeWhile isHexDigit <+: '#' :: x :: r :=
          List.cons_prefix_cons.2 ⟨rfl, List.cons_prefix_cons.2 ⟨rfl, List.takeWhile_prefix _⟩⟩
        have hfree : '&' ∉ '#' :: x :: r.takeWhile isHexDigit := by
          rw [Bool.or_eq_true, beq_iff_eq, beq_iff_eq] at hx
          have hdigits : '&' ∉ r.takeWhile isHexDigit := notMem_takeWhile rfl
          rcases hx with rfl | rfl <;> simpa using hdigits
        rw [Nat.add_comm 2]
        exact notMem_take hname hfree
    · split at h
      · cases h
      · obtain ⟨m, -, ⟨⟩⟩ := bind_eq_ok.1 h
        have hname : '#' :: (x :: r).takeWhile Char.isDigit <+: '#' :: x :: r :=
          List.cons_prefix_cons.2 ⟨rfl, List.takeWhile_prefix _⟩
        have hdigits : '&' ∉ (x :: r).takeWhile Char.isDigit := notMem_takeWhile rfl
        rw [Nat.add_comm 1]
        exact notMem_take hname (List.not_mem_cons_of_ne_of_not_mem (by decide) hdigits)
  · split at h
    · cases h
    · obtain ⟨⟩ := h
      exact notMem_take ((List.takeWhile_prefix _).trans (List.take_prefix ..))
        (notMem_takeWhile rfl)

/-- A value is read unless a decimal reference in it has too many digits. -/
lemma exists_expandOnto_iff : ∀ {done : List Char} {skip : Nat} {v : List Char},
    '&' ∉ v.take skip → ((∃ t, expandOnto done skip v = .ok t) ↔ ¬ HasLongReference v)
  | done, skip, [], _ => by
    have hlong : ¬ HasLongReference [] := by
      rintro ⟨ds, -, -, hin⟩
      cases List.infix_nil.1 hin
    rw [expandOnto]
    exact iff_of_true ⟨_, rfl⟩ hlong
  | done, skip + 1, c :: r, hskip => by
    rw [List.take_succ_cons, List.mem_cons, not_or] at hskip
    rw [expandOnto, hasLongReference_cons_iff, exists_expandOnto_iff hskip.2]
    simp [Ne.symm hskip.1]
  | done, 0, c :: r, _ => by
    rw [expandOnto, hasLongReference_cons_iff, not_or]
    have hplain : '&' ∉ r.take 0 := List.not_mem_nil
    by_cases hc : c = '&'
    · rw [if_pos (beq_iff_eq.2 hc), and_iff_right hc, ← exists_first?_iff]
      cases hfirst : first? r with
      | error e => exact iff_of_false nofun fun h => by obtain ⟨⟨_, ⟨⟩⟩, -⟩ := h
      | ok found =>
        rw [and_iff_right ⟨found, rfl⟩]
        obtain _ | ⟨t, n⟩ := found
        · exact exists_expandOnto_iff hplain
        · exact exists_expandOnto_iff (notMem_of_first? hfirst)
    · rw [if_neg (mt beq_iff_eq.1 hc), and_iff_right fun h => hc h.1]
      exact exists_expandOnto_iff hplain

lemma exists_expand_iff : (∃ t, expand v = .ok t) ↔ ¬ HasLongReference v :=
  exists_expandOnto_iff List.not_mem_nil

lemma eq_of_decimal {ds : List Char} {e : Escape} (h : decimal ds = .error e) :
    e = .unreadableNumber := by
  unfold decimal at h
  split at h
  · exact (Except.error.inj h).symm
  · cases h

lemma eq_of_first? {e : Escape} (h : first? s = .error e) : e = .unreadableNumber := by
  unfold first? at h
  dsimp only at h
  split at h
  · split at h
    · split at h <;> cases h
    · split at h
      · cases h
      · obtain hdecimal | ⟨n, -, ⟨⟩⟩ := bind_eq_error.1 h
        exact eq_of_decimal hdecimal
  · split at h <;> cases h

lemma eq_of_expandOnto {e : Escape} : ∀ {done : List Char} {skip : Nat} {v : List Char},
    expandOnto done skip v = .error e → e = .unreadableNumber
  | _, _, [], h => nomatch h
  | _, skip + 1, _ :: r, h => @eq_of_expandOnto e _ skip r h
  | done, 0, c :: r, h => by
    rw [expandOnto] at h
    split at h
    · split at h
      · exact eq_of_expandOnto h
      · exact eq_of_expandOnto h
      · rename_i hfirst
        obtain ⟨⟩ := h
        exact eq_of_first? hfirst
    · exact eq_of_expandOnto h

lemma causes_of_expand {e : Escape} (h : expand v = .error e) : Causes v e := by
  refine .inr ⟨eq_of_expandOnto h, not_not.1 fun hshort => ?_⟩
  obtain ⟨t, ht⟩ := exists_expand_iff.2 hshort
  rw [ht] at h
  cases h

end Reference

/-- What is raised over `t` has its cause in `s`. -/
def Covers (s t : List Char) : Prop :=
  ∀ e, Causes t e → Causes s e

section Covers

variable {s t u : List Char} {c : Char}

lemma Covers.trans (h : Covers s t) (h' : Covers t u) : Covers s u :=
  fun e hu => h e (h' e hu)

lemma covers_of_isInfix (h : t <:+: s) : Covers s t := by
  rintro e (⟨he, hin⟩ | ⟨he, ds, hdigits, hlong, hin⟩)
  · exact .inl ⟨he, hin.trans h⟩
  · exact .inr ⟨he, ds, hdigits, hlong, hin.trans h⟩

lemma covers_of_isSuffix (h : t <:+ s) : Covers s t :=
  covers_of_isInfix h.isInfix

lemma Covers.suffix (h : Covers s t) (hu : u <:+ t) : Covers s u :=
  h.trans (covers_of_isSuffix hu)

lemma Covers.tail (h : Covers s (c :: t)) : Covers s t :=
  h.suffix (List.suffix_cons ..)

lemma covers_nil : Covers s [] :=
  covers_of_isInfix (List.nil_infix ..)

lemma covers_self : Covers s s :=
  covers_of_isInfix List.infix_rfl

/-- A character that begins no reference and no section is of no account. -/
lemma Covers.cons (h : Covers s t) (hreference : c ≠ '&') (hsection : c ≠ '<') :
    Covers s (c :: t) := by
  refine Covers.trans h ?_
  rintro e (⟨he, hin⟩ | ⟨he, hlong⟩)
  · refine .inl ⟨he, (List.infix_cons_iff.1 hin).resolve_left fun hstart => ?_⟩
    exact hsection (List.cons_prefix_cons.1 hstart).1.symm
  · exact .inr ⟨he, (Reference.hasLongReference_cons_iff.1 hlong).resolve_left fun hstart =>
      hreference hstart.1⟩

end Covers

namespace Scanner

variable {s t : List Char} {c : Char}

lemma afterGap_suffix : ∀ {s : List Char}, afterGap s <:+ s
  | [] => List.suffix_rfl
  | c :: r => by
    rw [afterGap]
    split
    · exact afterGap_suffix.trans (List.suffix_cons ..)
    · exact List.suffix_rfl

lemma eq_of_cutAt? {inside rest : List Char} (h : cutAt? c s = some (inside, rest)) :
    ∃ d, inside ++ d :: rest = s := by
  unfold cutAt? at h
  split at h
  · cases h
  · rename_i d r hr
    obtain ⟨⟩ := h
    exact ⟨d, by rw [← hr, List.takeWhile_append_dropWhile]⟩

lemma covers_of_cutAt? {inside rest : List Char} (h : cutAt? c s = some (inside, rest)) :
    Covers s inside ∧ Covers s rest := by
  obtain ⟨d, rfl⟩ := eq_of_cutAt? h
  exact ⟨covers_of_isInfix (List.prefix_append ..).isInfix,
    covers_of_isSuffix ((List.suffix_cons ..).trans (List.suffix_append ..))⟩

lemma covers_bare (p : Char → Bool) (h : Covers s t) :
    Covers s (t.takeWhile p) ∧ Covers s (t.dropWhile p) :=
  ⟨h.trans (covers_of_isInfix (List.takeWhile_prefix _).isInfix),
    h.suffix (List.dropWhile_suffix _)⟩

lemma covers_of_value? {v rest : List Char} (h : value? s = some (v, rest)) :
    Covers s v ∧ Covers s rest := by
  unfold value? at h
  dsimp only at h
  split at h
  · have hgap : Covers s (((s.dropWhile Text.isSpace).dropWhile (· == '=')).dropWhile
        Text.isSpace) :=
      covers_of_isSuffix ((List.dropWhile_suffix _).trans
        ((List.dropWhile_suffix _).trans (List.dropWhile_suffix _)))
    split at h
    · obtain ⟨⟩ := h
      exact ⟨covers_nil, covers_nil⟩
    · rename_i q r hqr
      rw [hqr] at hgap
      have hr : Covers s r := hgap.tail
      split at h
      · obtain ⟨⟩ := h
        exact covers_bare _ hgap
      · split at h
        · rename_i found hfound
          obtain rfl := Option.some.inj h
          have hcut := covers_of_cutAt? hfound
          exact ⟨hr.trans hcut.1, hr.trans hcut.2⟩
        · split at h
          · obtain ⟨⟩ := h
            exact ⟨covers_nil, hgap.cons (by decide) (by decide)⟩
          · split at h
            · cases h
            · obtain ⟨⟩ := h
              exact covers_bare _ (hgap.cons (by decide) (by decide))
  · cases h

/-- The values of attributes and what follows them. -/
lemma covers_attributesOnto : ∀ {fuel : Nat} {done : List (List Char × List Char)} {before : Char}
    {t : List Char}, (∀ a ∈ done, Covers s a.2) → Covers s t →
      (∀ a ∈ (attributesOnto done fuel before t).1, Covers s a.2) ∧
        Covers s (attributesOnto done fuel before t).2
  | 0, _, _, _, hdone, ht => ⟨fun a ha => hdone a (List.mem_reverse.1 ha), ht⟩
  | fuel + 1, done, _, [], hdone, ht => ⟨fun a ha => hdone a (List.mem_reverse.1 ha), ht⟩
  | fuel + 1, done, before, c :: r, hdone, ht => by
    rw [attributesOnto]
    have hrest : Covers s (r.dropWhile isAttributeChar) :=
      ht.suffix ((List.dropWhile_suffix _).trans (List.suffix_cons ..))
    split
    · dsimp only
      split
      · exact covers_attributesOnto (List.forall_mem_cons.2 ⟨covers_nil, hdone⟩)
          (hrest.suffix afterGap_suffix)
      · rename_i v rest hvalue
        obtain ⟨hv, hafter⟩ := covers_of_value? hvalue
        exact covers_attributesOnto (List.forall_mem_cons.2 ⟨hrest.trans hv, hdone⟩)
          (hrest.trans (hafter.suffix afterGap_suffix))
    · exact ⟨fun a ha => hdone a (List.mem_reverse.1 ha), ht⟩

lemma causes_of_finished {attributes : List (List Char × List Char)} {e : Escape}
    (hvalues : ∀ a ∈ attributes, Covers s a.2) (h : finished attributes = .error e) :
    Causes s e := by
  unfold finished at h
  obtain ⟨a, ha, hvalue⟩ := mapM_eq_error h
  obtain hexpand | ⟨v, -, ⟨⟩⟩ := bind_eq_error.1 hvalue
  exact hvalues a ha e (Reference.causes_of_expand hexpand)

/-- What a step of the scanner comes to has to do with the text that it is given: the text covers
what is left of it, and has the cause of what is raised. -/
def Heeds {α : Type} (rest : α → List Char) (s : List Char) : Except Escape α → Prop
  | .ok found => Covers s (rest found)
  | .error e => Causes s e

def Found.rest : Found → List Char
  | token _ rest => rest
  | nothing rest => rest
  | incomplete => []

lemma Heeds.of_covers {α : Type} {rest : α → List Char} {r : Except Escape α}
    (h : Heeds rest s r) (hs : Covers t s) : Heeds rest t r := by
  cases r with
  | error e => exact hs e h
  | ok found => exact hs.trans h

lemma heeds_bind {α β : Type} {rest : α → List Char} {x : Except Escape β}
    {f : β → Except Escape α} (hx : ∀ e, x = .error e → Causes s e)
    (hf : ∀ b, Heeds rest s (f b)) : Heeds rest s (x >>= f) := by
  cases x with
  | error e => exact hx e rfl
  | ok b => exact hf b

lemma heeds_startTag {fuel : Nat} : Heeds Found.rest s (startTag fuel s) := by
  unfold startTag
  dsimp only
  generalize hread : attributesOnto _ _ _ _ = read
  obtain ⟨attributes, rest⟩ := read
  have hbody : Covers s (afterGap (s.dropWhile isTagNameChar)) :=
    covers_of_isSuffix (afterGap_suffix.trans (List.dropWhile_suffix _))
  obtain ⟨hvalues, hrest⟩ := covers_attributesOnto (List.forall_mem_nil _) hbody
  rw [hread] at hvalues hrest
  dsimp only at hvalues hrest ⊢
  have hcauses : ∀ e, finished attributes = .error e → Causes s e :=
    fun e => causes_of_finished hvalues
  split
  · exact covers_nil
  · exact heeds_bind hcauses fun _ => hrest.tail
  · exact heeds_bind hcauses fun _ => hrest.tail.tail
  · split
    · exact covers_nil
    · refine heeds_bind (fun e he => hcauses e ?_) fun _ => hrest
      cases hfinished : finished attributes with
      | error e' =>
        rw [hfinished] at he
        cases he
        rfl
      | ok as =>
        rw [hfinished] at he
        cases he

lemma heeds_endTag : Heeds Found.rest s (.ok (endTag s)) := by
  unfold endTag Heeds
  dsimp only
  split
  · exact covers_nil
  · rename_i inside rest hcut
    have hrest := (covers_of_cutAt? hcut).2
    split
    · exact hrest
    · split
      · exact hrest
      · split
        · exact hrest
        · exact hrest

lemma suffix_of_cutOnto? {close? : List Char → Option (List Char)}
    (hclose : ∀ s rest, close? s = some rest → rest <:+ s) :
    ∀ {s done inside rest : List Char}, cutOnto? close? done s = some (inside, rest) → rest <:+ s
  | [], _, _, _, h => nomatch h
  | c :: r, done, inside, rest, h => by
    rw [cutOnto?] at h
    split at h
    · rename_i found hfound
      obtain ⟨⟩ := h
      exact hclose _ _ hfound
    · exact (suffix_of_cutOnto? hclose h).trans (List.suffix_cons ..)

lemma suffix_of_closing? {rest : List Char} (h : closing? s = some rest) : rest <:+ s := by
  unfold closing? at h
  split at h
  · rename_i r hr
    obtain ⟨⟩ := h
    have hsuffix := List.dropWhile_suffix (l := s) Text.isSpace
    rw [hr] at hsuffix
    exact (List.suffix_cons ..).trans hsuffix
  · cases h

lemma suffix_of_commentEnd? {rest : List Char} (h : commentEnd? s = some rest) : rest <:+ s := by
  unfold commentEnd? at h
  split at h
  · exact (suffix_of_closing? h).trans ((List.suffix_cons ..).trans (List.suffix_cons ..))
  · cases h

lemma suffix_of_conditionEnd? {rest : List Char} (h : conditionEnd? s = some rest) :
    rest <:+ s := by
  unfold conditionEnd? at h
  split at h
  · exact (suffix_of_closing? h).trans (List.suffix_cons ..)
  · cases h

lemma suffix_of_sectionEnd? {rest : List Char} (h : sectionEnd? s = some rest) : rest <:+ s := by
  unfold sectionEnd? at h
  split at h
  · exact (suffix_of_conditionEnd? h).trans
      ((List.dropWhile_suffix _).trans (List.suffix_cons ..))
  · cases h

lemma suffix_of_rawEnd? {name rest : List Char} (h : rawEnd? name s = some rest) :
    rest <:+ s := by
  unfold rawEnd? at h
  split at h
  · dsimp only at h
    split at h
    · exact (suffix_of_closing? h).trans ((List.drop_suffix ..).trans
        ((List.dropWhile_suffix _).trans ((List.suffix_cons ..).trans (List.suffix_cons ..))))
    · cases h
  · cases h

/-- A marked section is refused only for what its name is not. -/
lemma heeds_markedSection (hs : "<![".toList <:+: t) (hcovers : Covers t s) :
    Heeds Found.rest t (markedSection s) := by
  unfold markedSection
  dsimp only
  have hrejected : Causes t .rejectedMarkup := .inl ⟨rfl, hs⟩
  split
  · exact covers_nil
  · split
    · exact hrejected
    · split
      · exact covers_nil
      · split
        · split
          · rename_i hcut
            exact hcovers.suffix (suffix_of_cutOnto? (fun _ _ => suffix_of_sectionEnd?) hcut)
          · exact covers_nil
        · split
          · split
            · rename_i hcut
              exact hcovers.suffix (suffix_of_cutOnto? (fun _ _ => suffix_of_conditionEnd?) hcut)
            · exact covers_nil
          · exact hrejected

/-- A declaration with the `<!` in front of it. -/
lemma heeds_declaration (hs : '<' :: '!' :: s <:+: t) : Heeds Found.rest t (declaration s) := by
  have hcovers : Covers t s := covers_of_isInfix
    (((List.suffix_cons ..).trans (List.suffix_cons ..)).isInfix.trans hs)
  unfold declaration
  dsimp only
  have hcut : ∀ inside rest, cutAt? '>' s = some (inside, rest) → Covers t rest :=
    fun inside rest h => hcovers.trans (covers_of_cutAt? h).2
  split
  · rename_i r
    split
    · rename_i hend
      exact hcovers.tail.tail.suffix (suffix_of_cutOnto? (fun _ _ => suffix_of_commentEnd?) hend)
    · exact covers_nil
  · rename_i r
    have hsection : "<![".toList <+: '<' :: '!' :: '[' :: r := ⟨r, rfl⟩
    exact heeds_markedSection (hsection.isInfix.trans hs) hcovers.tail
  · split
    · split
      · exact hcut _ _ ‹_›
      · exact covers_nil
    · split
      · exact hcut _ _ ‹_›
      · exact covers_nil

/-- A tag with the `<` in front of it. -/
lemma heeds_tag {fuel : Nat} (hs : '<' :: s <:+: t) : Heeds Found.rest t (tag fuel s) := by
  have hcovers : Covers t s := covers_of_isInfix ((List.suffix_cons ..).isInfix.trans hs)
  unfold tag
  split
  · exact covers_nil
  · exact heeds_endTag.of_covers hcovers.tail
  · exact heeds_declaration hs
  · rename_i r
    split
    · rename_i hcut
      exact hcovers.tail.trans (covers_of_cutAt? hcut).2
    · exact covers_nil
  · split
    · exact heeds_startTag.of_covers hcovers
    · exact hcovers

lemma suffix_brokenTag : (brokenTag s).2 <:+ s := by
  unfold brokenTag
  split
  · rename_i inside rest hcut
    obtain ⟨d, rfl⟩ := eq_of_cutAt? hcut
    exact (List.suffix_cons ..).trans (List.suffix_append ..)
  · split
    · exact List.dropWhile_suffix _
    · exact List.suffix_rfl

lemma suffix_afterSemicolon : afterSemicolon s <:+ s := by
  unfold afterSemicolon
  split
  · exact List.suffix_cons ..
  · exact List.suffix_rfl

/-- A numeric reference with the signs in front of it. -/
lemma heeds_numericReference? (hs : '&' :: '#' :: s <:+: t) :
    Heeds (fun found => (found.map Prod.snd).getD []) t (numericReference? s) := by
  have hcovers : Covers t s := covers_of_isInfix
    (((List.suffix_cons ..).trans (List.suffix_cons ..)).isInfix.trans hs)
  unfold numericReference?
  dsimp only
  split
  · exact covers_nil
  · rename_i x r
    split
    · split
      · exact covers_nil
      · exact hcovers.suffix (suffix_afterSemicolon.trans
          ((List.dropWhile_suffix _).trans (List.suffix_cons ..)))
    · split
      · exact covers_nil
      · refine heeds_bind (fun e he => ?_) fun n =>
          hcovers.suffix (suffix_afterSemicolon.trans (List.dropWhile_suffix _))
        have hlong := mt Nat.not_lt.1 <| mt Reference.exists_decimal_iff.2 <| by
          rw [he]
          exact nofun
        have hdigits : '&' :: '#' :: (x :: r).takeWhile Char.isDigit <+: '&' :: '#' :: x :: r :=
          List.cons_prefix_cons.2 ⟨rfl, List.cons_prefix_cons.2 ⟨rfl, List.takeWhile_prefix _⟩⟩
        exact .inr ⟨Reference.eq_of_decimal he, _, fun d hd => List.mem_takeWhile_imp hd,
          not_not.1 hlong, hdigits.isInfix.trans hs⟩

/-- What is left after a named reference. -/
lemma suffix_of_namedReference? {r rest : List Char} (h : namedReference? s = some (r, rest)) :
    rest <:+ s := by
  unfold namedReference? at h
  dsimp only at h
  split at h
  · cases h
  · split at h
    · rename_i c r hr
      obtain ⟨⟩ := h
      have hsuffix := List.dropWhile_suffix (l := s) isEntityChar
      rw [hr] at hsuffix
      exact suffix_afterSemicolon.trans hsuffix
    · rename_i hnone
      -- The name runs to the end of the text, so its last part is what is left.
      have hall : s.takeWhile isEntityChar = s := by
        have hparts := List.takeWhile_append_dropWhile (p := isEntityChar) (l := s)
        rwa [hnone, List.append_nil] at hparts
      rw [hall] at h
      split at h
      · cases h
      · rename_i c name hname
        obtain ⟨⟩ := h
        have hparts := List.takeWhile_append_dropWhile (p := fun c => c != '-' && c != '.')
          (l := s.reverse)
        rw [hname] at hparts
        have hreverse := congrArg List.reverse hparts
        rw [List.reverse_append, List.reverse_cons, List.append_assoc, List.reverse_reverse]
          at hreverse
        exact ⟨name.reverse, hreverse⟩

/-- A pass leaves what the text covers. -/
lemma heeds_pass {final : Bool} : ∀ {fuel : Nat} {done : List Token} {raw : Option String}
    {s : List Char}, Heeds Stopped.rest s (pass final done fuel raw s)
  | 0, _, _, _ => covers_self
  | fuel + 1, done, some name, s => by
    rw [pass]
    split
    · rename_i hcut
      exact heeds_pass.of_covers (covers_of_isSuffix
        (suffix_of_cutOnto? (fun _ _ => suffix_of_rawEnd?) hcut))
    · exact covers_self
  | fuel + 1, done, none, s => by
    have hsuffix := List.dropWhile_suffix (l := s) fun c => c != '&' && c != '<'
    rw [pass]
    split
    · exact covers_nil
    · rename_i r hr
      rw [hr] at hsuffix
      have htag : Heeds Found.rest s (tag fuel r) := heeds_tag hsuffix.isInfix
      split
      · rename_i e he
        rw [he] at htag
        exact htag
      · rename_i u rest hfound
        rw [hfound] at htag
        exact heeds_pass.of_covers htag
      · rename_i rest hfound
        rw [hfound] at htag
        exact heeds_pass.of_covers htag
      · split
        · exact heeds_pass.of_covers (covers_of_isSuffix
            (suffix_brokenTag.trans ((List.suffix_cons ..).trans hsuffix)))
        · exact covers_of_isSuffix hsuffix
    · rename_i a r hless hr
      rw [hr] at hsuffix
      obtain rfl : a = '&' := by
        have hstop := List.head?_dropWhile_not (fun c => c != '&' && c != '<') s
        rw [hr] at hstop
        by_contra hamp
        exact hless (by simpa [hamp] using hstop)
      have hnumeric := heeds_numericReference? hsuffix.isInfix
      split
      · rename_i e he
        rw [he] at hnumeric
        exact hnumeric
      · rename_i c rest hfound
        rw [hfound] at hnumeric
        exact heeds_pass.of_covers hnumeric
      · split
        · exact covers_of_isSuffix
            (((List.suffix_cons ..).trans (List.suffix_cons ..)).trans hsuffix)
        · exact covers_of_isSuffix hsuffix
    · rename_i a r _ _ hr
      rw [hr] at hsuffix
      have hcovers : Covers s r := covers_of_isSuffix ((List.suffix_cons ..).trans hsuffix)
      split
      · rename_i hnamed
        exact heeds_pass.of_covers (hcovers.suffix (suffix_of_namedReference? hnamed))
      · split
        · exact covers_of_isSuffix hsuffix
        · rename_i c _
          split
          · split
            · exact hcovers
            · exact covers_of_isSuffix hsuffix
          · exact heeds_pass.of_covers hcovers
        · split
          · exact covers_of_isSuffix hsuffix
          · exact heeds_pass.of_covers hcovers

lemma causes_of_tokens {e : Escape} (h : tokens s = .error e) : Causes s e := by
  unfold tokens at h
  have hfirst : Heeds Stopped.rest s (pass false [] (s.length + 1) none s) := heeds_pass
  obtain hfailed | ⟨first, hok, h⟩ := bind_eq_error.1 h
  · rwa [hfailed] at hfirst
  · rw [hok] at hfirst
    have hlast : Heeds Stopped.rest first.rest
        (pass true first.done (first.rest.length + 1) first.rawElement first.rest) := heeds_pass
    obtain hfailed | ⟨last, hok, h⟩ := bind_eq_error.1 h
    · rw [hfailed] at hlast
      exact hfirst e hlast
    · split at h <;> cases h

/-- Whether a character may stand in the name of a section after its first letter. -/
def isSectionChar (c : Char) : Bool :=
  c.toNat < 0x80 && (c.isAlphanum || c == '-' || c == '_' || c == '.')

/-- The kinds of sections that are known. -/
def sectionNames : List String :=
  ["temp", "cdata", "ignore", "include", "rcdata", "if", "else", "endif"]

/-- What follows `<![` names no section that is known: it does not begin with a letter, or it begins
with another name and goes on after that. -/
def IsUnknownSection : List Char → Prop
  | [] => False
  | c :: r => isLetter c = false ∨
      (r.dropWhile isSectionChar).dropWhile Text.isSpace ≠ [] ∧
        lowerName (c :: r.takeWhile isSectionChar) ∉ sectionNames

lemma markedSection_eq_error (h : IsUnknownSection s) :
    markedSection s = .error .rejectedMarkup := by
  cases s with
  | nil => exact h.elim
  | cons c r =>
    unfold markedSection
    dsimp only
    by_cases hletter : isLetter c = true
    · obtain ⟨hrest, hname⟩ := h.resolve_left (by simp [hletter])
      have hchars : isSectionChar = fun c : Char =>
        c.toNat < 0x80 && (c.isAlphanum || c == '-' || c == '_' || c == '.') := rfl
      have hlists : ["temp", "cdata", "ignore", "include", "rcdata"] ++ ["if", "else", "endif"] =
          sectionNames := rfl
      rw [← hlists, List.mem_append, not_or] at hname
      rw [hchars] at hrest hname
      rw [if_neg (by simp [hletter]), if_neg (mt List.isEmpty_iff.1 hrest),
        if_neg (mt List.contains_iff_mem.1 hname.1), if_neg (mt List.contains_iff_mem.1 hname.2)]
    · rw [if_pos (by simp [hletter])]

lemma numericReference?_eq_error {ds : List Char} (hdigits : ∀ d ∈ ds, d.isDigit = true)
    (hlong : Text.maxDigits < ds.length) (hc : Reference.isHexDigit c = false) :
    numericReference? (ds ++ c :: s) = .error .unreadableNumber := by
  obtain ⟨x, r, rfl⟩ : ∃ x r, ds = x :: r :=
    List.exists_cons_of_length_pos (Nat.lt_of_le_of_lt (Nat.zero_le _) hlong)
  have hx : ¬ (x == 'x' || x == 'X') = true := by
    have hdigit := hdigits x List.mem_cons_self
    rw [Bool.or_eq_true, beq_iff_eq, beq_iff_eq]
    rintro (rfl | rfl) <;> exact absurd hdigit (by decide)
  have hdecimal : c.isDigit = false := by
    by_contra hdigit
    simp [Reference.isHexDigit, hdigit] at hc
  have htake : (x :: r ++ c :: s).takeWhile Char.isDigit = x :: r := by
    rw [List.takeWhile_append_of_pos hdigits, List.takeWhile_cons_of_neg (by simp [hdecimal]),
      List.append_nil]
  have hdrop : (x :: r ++ c :: s).dropWhile Char.isDigit = c :: s := by
    rw [List.dropWhile_append_of_pos hdigits, List.dropWhile_cons_of_neg (by simp [hdecimal])]
  unfold numericReference?
  dsimp only [List.cons_append] at htake hdrop ⊢
  rw [if_neg hx, htake, hdrop, if_neg (by simp [hc])]
  refine bind_eq_error.2 (.inl ?_)
  rw [Reference.decimal, if_pos hlong]

section Plain

variable {before : List Char} {e : Escape} (hbefore : ∀ c ∈ before, (c != '&' && c != '<') = true)
include hbefore

lemma tokens_of_tag (h : ∀ fuel, tag fuel s = .error e) :
    tokens (before ++ '<' :: s) = .error e := by
  have hplain : (before ++ '<' :: s).dropWhile (fun c => c != '&' && c != '<') =
      ('<' :: s).dropWhile fun c => c != '&' && c != '<' := List.dropWhile_append_of_pos hbefore
  refine bind_eq_error.2 (.inl ?_)
  rw [pass, hplain, List.dropWhile_cons_of_neg (by decide)]
  simp only [h]

/-- A section of no known kind in plain text fails the document. -/
theorem tokens_of_isUnknownSection (h : IsUnknownSection s) :
    tokens (before ++ '<' :: '!' :: '[' :: s) = .error .rejectedMarkup :=
  tokens_of_tag hbefore fun _ => markedSection_eq_error h

/-- So does a decimal reference of too many digits, if no digit of a hexadecimal one follows. -/
theorem tokens_of_longReference {ds : List Char} (hdigits : ∀ d ∈ ds, d.isDigit = true)
    (hlong : Text.maxDigits < ds.length) (hc : Reference.isHexDigit c = false) :
    tokens (before ++ '&' :: '#' :: (ds ++ c :: s)) = .error .unreadableNumber := by
  have hplain : (before ++ '&' :: '#' :: (ds ++ c :: s)).dropWhile (fun c => c != '&' && c != '<') =
      ('&' :: '#' :: (ds ++ c :: s)).dropWhile fun c => c != '&' && c != '<' :=
    List.dropWhile_append_of_pos hbefore
  refine bind_eq_error.2 (.inl ?_)
  rw [pass, hplain, List.dropWhile_cons_of_neg (by decide)]
  simp [numericReference?_eq_error hdigits hlong hc]

end Plain

end Scanner

/-- Markup is reduced exactly if the scanner gets through it. -/
lemma exists_sanitize_iff {html : String} :
    (∃ t, sanitize html = .ok t) ↔ ∃ ts, Scanner.tokens html.toList = .ok ts := by
  unfold sanitize parse
  rw [exists_map_eq_ok, exists_bind_pure_iff]

/-- Markup without sections and without references of too many digits is reduced. -/
theorem exists_sanitize_of_free {html : String} (hsection : ¬ "<![".toList <:+: html.toList)
    (hreference : ¬ HasLongReference html.toList) : ∃ t, sanitize html = .ok t := by
  rw [exists_sanitize_iff]
  cases h : Scanner.tokens html.toList with
  | ok ts => exact ⟨ts, rfl⟩
  | error e =>
    obtain ⟨-, hin⟩ | ⟨-, hlong⟩ := Scanner.causes_of_tokens h
    · exact absurd hin hsection
    · exact absurd hlong hreference

end Mailroom.Html
