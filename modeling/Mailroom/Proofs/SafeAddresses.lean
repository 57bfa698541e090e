import Mathlib
import Mailroom.Proofs.AttributeNames

/-!
# Safe addresses

What a browser makes of an address that is kept. The program and a browser reduce an address to its
scheme in different ways: the program drops all blanks and controls, lowers the case of the rest by
Unicode's rules and looks no further than the first slash; a browser drops less, and knows only
ASCII. Where a browser sees a scheme, the program sees the same one.
-/

namespace Mailroom

namespace Text

lemma filter_dropWhile {p keep : Char → Bool} (h : ∀ c, p c = true → keep c = false)
    (s : List Char) : (s.dropWhile p).filter keep = s.filter keep := by
  induction s with
  | nil => rfl
  | cons c r ih =>
    by_cases hc : p c = true
    · rw [List.dropWhile_cons_of_pos hc, ih, List.filter_cons_of_neg]
      simp [h c hc]
    · rw [List.dropWhile_cons_of_neg hc]

/-- Trimming goes unnoticed where the trimmed characters are dropped anyway. -/
lemma filter_trimBy {p keep : Char → Bool} (h : ∀ c, p c = true → keep c = false)
    (s : List Char) : (trimBy p s).filter keep = s.filter keep := by
  rw [trimBy, List.filter_reverse, filter_dropWhile h, ← List.filter_reverse, List.reverse_reverse,
    filter_dropWhile h]

lemma lowerFrom_append_of_ascii (before : List Char) {s : List Char} (r : List Char)
    (hs : ∀ c ∈ s, c.toNat < 0x80) :
    lowerFrom before (s ++ r) = s.map Char.toLower ++ lowerFrom (s.reverse ++ before) r := by
  induction s generalizing before with
  | nil => rfl
  | cons c s ih =>
    rw [List.forall_mem_cons] at hs
    rw [List.cons_append, lowerFrom, lowerChar, if_pos hs.1, ih (c :: before) hs.2]
    simp

end Text

namespace Html

/-- The characters that a browser passes over inside an address. -/
def isTabOrLineEnd (c : Char) : Bool :=
  c == '\t' || c == '\n' || c == '\r'

/-- An address as a browser reads it. -/
def browsed (url : String) : List Char :=
  (Text.trimBy (fun c => c.toNat ≤ 0x20) url.toList).filter (!isTabOrLineEnd ·)

/-- Whether a character may stand in a scheme, after a letter. -/
def isSchemeChar (c : Char) : Bool :=
  c.isAlphanum || c == '+' || c == '-' || c == '.'

/-- The scheme that an address begins with, if a colon ends it. Only ASCII counts. -/
def scheme? : List Char → Option (List Char)
  | [] => none
  | c :: r =>
    if c.isAlpha && (r.dropWhile isSchemeChar).head? == some ':' then
      some (c :: r.takeWhile isSchemeChar)
    else
      none

/-- The schemes that do no harm. -/
def harmlessSchemes : List String :=
  ["http", "https", "mailto", "cid"]

lemma safeSchemes_eq : safeSchemes = harmlessSchemes.map (· ++ ":") := rfl

/-- What the program and a browser have to agree about, character by character. -/
lemma isSchemeChar_cases {c : Char} (h : isSchemeChar c = true) :
    c.toNat < 0x80 ∧ 0x20 < c.toNat ∧ c.toLower ≠ ':' ∧ c.toLower ≠ '/' := by
  have hsmall : c.toNat < 0x80 := by
    simp only [isSchemeChar, Char.isAlphanum, Char.isAlpha, Char.isUpper, Char.isLower,
      Char.isDigit, Bool.or_eq_true, Bool.and_eq_true, decide_eq_true_eq, beq_iff_eq] at h
    rcases h with (((((⟨-, h⟩ | ⟨-, h⟩) | ⟨-, h⟩) | rfl) | rfl) | rfl)
    any_goals decide
    all_goals exact Nat.lt_of_le_of_lt (UInt32.le_iff_toNat_le.1 h) (by decide)
  have hall : ∀ c : Char, c.toNat < 0x80 → isSchemeChar c = true →
      0x20 < c.toNat ∧ c.toLower ≠ ':' ∧ c.toLower ≠ '/' := Text.forall_ascii (by decide)
  exact ⟨hsmall, hall c hsmall h⟩

/-- A scheme is read off the beginning of an address, up to the first colon. -/
lemma of_scheme?_eq_some {s scheme : List Char} (h : scheme? s = some scheme) :
    ∃ rest, s = scheme ++ ':' :: rest ∧ ∀ c ∈ scheme, isSchemeChar c = true := by
  cases s with
  | nil => cases h
  | cons c r =>
    rw [scheme?] at h
    split at h
    · next hstart =>
      cases h
      rw [Bool.and_eq_true, beq_iff_eq] at hstart
      obtain ⟨rest, hrest⟩ := List.head?_eq_some_iff.1 hstart.2
      refine ⟨rest, ?_, List.forall_mem_cons.2 ⟨?_, fun d hd => ?_⟩⟩
      · rw [List.cons_append, ← hrest, List.takeWhile_append_dropWhile]
      · simp [isSchemeChar, Char.isAlphanum, hstart.1]
      · exact List.mem_takeWhile_imp hd
    · cases h

/-- The program keeps a character of an address unless it is a blank or a control. -/
def isKept (c : Char) : Bool :=
  !Text.isSpace c && 0x20 ≤ c.toNat

lemma filter_browsed (url : String) : (browsed url).filter isKept = url.toList.filter isKept := by
  have htrim : ∀ c : Char, decide (c.toNat ≤ 0x20) = true → isKept c = false := by
    intro c hc
    rw [decide_eq_true_eq] at hc
    simp only [isKept, Text.isSpace, Bool.and_eq_false_iff, Bool.not_eq_false',
      Bool.or_eq_true, Bool.and_eq_true, decide_eq_true_eq, decide_eq_false_iff_not]
    omega
  have hinside : ∀ c, (isKept c && !isTabOrLineEnd c) = isKept c := by
    intro c
    by_cases hc : isTabOrLineEnd c = true
    · rw [htrim c, Bool.false_and]
      simp only [isTabOrLineEnd, Bool.or_eq_true, beq_iff_eq] at hc
      rcases hc with (rfl | rfl) | rfl <;> decide
    · simp [hc]
  rw [browsed, List.filter_filter]
  simp only [hinside]
  exact Text.filter_trimBy htrim _

/-- Before the colon of a scheme that a browser sees, the program sees the scheme in lower case. -/
lemma compactUrl_of_scheme? {url : String} {scheme : List Char}
    (h : scheme? (browsed url) = some scheme) :
    ∃ rest, compactUrl url = scheme.map Char.toLower ++ ':' :: rest := by
  obtain ⟨rest, hbrowsed, hscheme⟩ := of_scheme?_eq_some h
  have hkept : scheme.filter isKept = scheme := by
    rw [List.filter_eq_self]
    intro c hc
    obtain ⟨hsmall, hlarge, -⟩ := isSchemeChar_cases (hscheme c hc)
    simp only [isKept, Text.isSpace, Bool.and_eq_true, Bool.not_eq_true', Bool.or_eq_false_iff,
      Bool.and_eq_false_iff, decide_eq_true_eq, decide_eq_false_iff_not, beq_eq_false_iff_ne]
    omega
  have hfilter : url.toList.filter isKept = scheme ++ ':' :: rest.filter isKept := by
    rw [← filter_browsed, hbrowsed, List.filter_append, hkept, List.filter_cons_of_pos rfl]
  refine ⟨Text.lowerFrom (':' :: (scheme.reverse ++ [])) (rest.filter isKept), ?_⟩
  change Text.lowerFrom [] (url.toList.filter isKept) = _
  rw [hfilter,
    Text.lowerFrom_append_of_ascii [] _ fun c hc => (isSchemeChar_cases (hscheme c hc)).1]
  rfl

/-- Two texts without colons are the same if a colon ends both at one place. -/
lemma eq_of_append_colon {s t r q : List Char} (hs : ':' ∉ s) (ht : ':' ∉ t)
    (h : s ++ ':' :: r = t ++ ':' :: q) : s = t := by
  have hstop : ∀ {s r : List Char}, ':' ∉ s → (s ++ ':' :: r).takeWhile (· != ':') = s := by
    intro s r hs
    rw [List.takeWhile_append_of_pos fun c hc => by
      rw [bne_iff_ne]; exact ne_of_mem_of_not_mem hc hs]
    simp
  rw [← hstop hs (r := r), h, hstop ht]

/-- The only schemes that a browser sees in addresses that are kept are harmless. -/
theorem harmless_of_isSafeUrl {url : String} (h : isSafeUrl url = true) {scheme : List Char}
    (hscheme : scheme? (browsed url) = some scheme) :
    String.ofList (scheme.map Char.toLower) ∈ harmlessSchemes := by
  obtain ⟨rest, hcompact⟩ := compactUrl_of_scheme? hscheme
  obtain ⟨-, -, hchars⟩ := of_scheme?_eq_some hscheme
  have hcolon : ':' ∉ scheme.map Char.toLower := by
    rintro hmem
    obtain ⟨c, hc, hlower⟩ := List.mem_map.1 hmem
    exact (isSchemeChar_cases (hchars c hc)).2.2.1 hlower
  have hslash : ∀ c ∈ scheme.map Char.toLower, (c != '/') = true := by
    intro c hc
    obtain ⟨d, hd, rfl⟩ := List.mem_map.1 hc
    exact bne_iff_ne.2 (isSchemeChar_cases (hchars d hd)).2.2.2
  -- The colon stands before any slash, so that the address is kept for its scheme.
  have hseen : ((compactUrl url).takeWhile (· != '/')).contains ':' = true := by
    rw [hcompact, List.takeWhile_append_of_pos hslash]
    simp
  rw [isSafeUrl, hseen, Bool.not_true, Bool.false_or, safeSchemes_eq, List.any_map,
    List.any_eq_true] at h
  obtain ⟨name, hname, hstart⟩ := h
  have hnamecolon : ':' ∉ name.toList := by
    have hall : harmlessSchemes.all (fun n => !n.toList.contains ':') = true := by decide
    simpa using List.all_eq_true.1 hall name hname
  rw [Function.comp, Text.startsWith, List.isPrefixOf_iff_prefix, hcompact] at hstart
  obtain ⟨after, hafter⟩ := hstart
  have heq : name.toList = scheme.map Char.toLower :=
    eq_of_append_colon hnamecolon hcolon (by simpa using hafter)
  rwa [← heq, String.ofList_toList]

/-- A tab and capitals hide a scheme from neither. -/
theorem harmless_of_isSafeUrl_of_tab :
    isSafeUrl " \x01MAI\tLTO:a@b " = true ∧
      scheme? (browsed " \x01MAI\tLTO:a@b ") = some "MAILTO".toList ∧
      String.ofList ("MAILTO".toList.map Char.toLower) ∈ harmlessSchemes := by
  have hsafe : isSafeUrl " \x01MAI\tLTO:a@b " = true := by decide +kernel
  have hscheme : scheme? (browsed " \x01MAI\tLTO:a@b ") = some "MAILTO".toList := by
    decide +kernel
  exact ⟨hsafe, hscheme, harmless_of_isSafeUrl hsafe hscheme⟩

end Html

end Mailroom
