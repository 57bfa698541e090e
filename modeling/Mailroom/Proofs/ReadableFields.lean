import Mathlib.Data.List.Nodup
import Mailroom.Mail.Digest
import Mailroom.Proofs.RefusedOctets

/-!
# Readable fields

What makes an encoded word, the parameters of a field, a file name or a text unreadable, told by
what is written there: base64 digits that make up no whole groups, a character set that refuses
octets or has a null character in its name, a number with too many digits, and sections of which
only some are numbered.
-/

namespace Mailroom

variable {ε ε' α β : Type}

lemma exists_bind_eq_ok {x : Except ε α} {f : α → Except ε β} :
    (∃ b, (x >>= f) = .ok b) ↔ (∃ a, x = .ok a) ∧ ∀ a, x = .ok a → ∃ b, f a = .ok b := by
  simp only [bind_eq_ok]
  constructor
  · rintro ⟨b, a, hx, hf⟩
    refine ⟨⟨a, hx⟩, fun a' hx' => ?_⟩
    obtain rfl := Except.ok.inj (hx.symm.trans hx')
    exact ⟨b, hf⟩
  · rintro ⟨⟨a, hx⟩, h⟩
    obtain ⟨b, hf⟩ := h a hx
    exact ⟨b, a, hx, hf⟩

/-- What follows a step and cannot fail is of no account. -/
lemma exists_bind_pure_iff {x : Except ε α} {f : α → β} :
    (∃ b, (x >>= fun a => pure (f a)) = .ok b) ↔ ∃ a, x = .ok a := by
  rw [exists_bind_eq_ok]
  exact and_iff_left fun _ _ => ⟨_, rfl⟩

/-- A step that succeeds or fails whatever it is given. -/
lemma exists_bind_iff {x : Except ε α} {f : α → Except ε β} {P : Prop}
    (hf : ∀ a, (∃ b, f a = .ok b) ↔ P) : (∃ b, (x >>= f) = .ok b) ↔ (∃ a, x = .ok a) ∧ P := by
  rw [exists_bind_eq_ok]
  simp only [hf]
  exact and_congr_right fun ⟨a, ha⟩ => ⟨fun h => h a ha, fun h _ _ => h⟩

/-- A step that has nothing to do without a value. -/
lemma exists_bind_option_iff {x : Except ε (Option α)} {f : Option α → Except ε β} {P : α → Prop}
    (hnone : ∃ b, f none = .ok b) (hsome : ∀ a, (∃ b, f (some a) = .ok b) ↔ P a) :
    (∃ b, (x >>= f) = .ok b) ↔ (∃ o, x = .ok o) ∧ ∀ a, x = .ok (some a) → P a := by
  rw [exists_bind_eq_ok]
  refine and_congr_right fun _ => ⟨fun h a hx => (hsome a).1 (h _ hx), fun h o hx => ?_⟩
  cases o with
  | none => exact hnone
  | some a => exact (hsome a).2 (h a hx)

lemma exists_mapError_eq_ok {x : Except ε α} {f : ε → ε'} :
    (∃ a, x.mapError f = .ok a) ↔ ∃ a, x = .ok a := by
  simp only [mapError_eq_ok]

lemma exists_map_eq_ok {x : Except ε α} {f : α → β} :
    (∃ b, x.map f = .ok b) ↔ ∃ a, x = .ok a := by
  cases x with
  | error e => exact iff_of_false nofun nofun
  | ok a => exact iff_of_true ⟨_, rfl⟩ ⟨_, rfl⟩

lemma mapM_eq_error {xs : List α} {f : α → Except ε β} {e : ε} (h : xs.mapM f = .error e) :
    ∃ x ∈ xs, f x = .error e := by
  induction xs with
  | nil => cases h
  | cons x xs ih =>
    rw [List.mapM_cons] at h
    obtain hx | ⟨y, -, hrest⟩ := bind_eq_error.1 h
    · exact ⟨x, List.mem_cons_self, hx⟩
    · obtain hxs | ⟨ys, -, ⟨⟩⟩ := bind_eq_error.1 hrest
      obtain ⟨x', hx', hf⟩ := ih hxs
      exact ⟨x', List.mem_cons_of_mem x hx', hf⟩

namespace Transfer.Base64

/-- How many octets are of the alphabet. -/
def digitCount (s : List UInt8) : Nat :=
  s.countP fun b => (value? b).isSome

lemma isSome_decodeOnto_replicate (done : List UInt8) : ∀ (k : Nat) {g : Group},
    g.read + g.pads < 4 →
      ((decodeOnto false done g (List.replicate k pad)).isSome ↔
        g.read = 0 ∨ 2 ≤ g.read ∧ 4 ≤ g.read + g.pads + k)
  | 0, g, hg => by
    rw [List.replicate_zero, decodeOnto]
    by_cases hread : g.read = 0
    · rw [if_pos (beq_iff_eq.2 hread)]
      exact iff_of_true rfl (.inl hread)
    · rw [if_neg (mt beq_iff_eq.1 hread)]
      exact iff_of_false nofun (by omega)
  | k + 1, g, hg => by
    rw [List.replicate_succ, decodeOnto, if_pos (beq_self_eq_true pad), Bool.false_and,
      if_neg Bool.false_ne_true]
    by_cases hfull : 2 ≤ g.read ∧ 4 ≤ g.read + g.pads + 1
    · rw [if_pos (by simpa using hfull), Bool.false_and, if_neg Bool.false_ne_true]
      exact iff_of_true rfl (by omega)
    · rw [if_neg (by simpa using hfull)]
      by_cases hread : 2 ≤ g.read
      · rw [if_pos hread, isSome_decodeOnto_replicate done k (by dsimp only; omega)]
        dsimp only
        omega
      · rw [if_neg hread, isSome_decodeOnto_replicate done k (by dsimp only; omega)]
        dsimp only
        omega

lemma isSome_decodeOnto_append (k : Nat) : ∀ (s : List UInt8), pad ∉ s →
    ∀ (done : List UInt8) {g : Group}, g.read < 4 → g.pads = 0 →
      ((decodeOnto false done g (s ++ List.replicate k pad)).isSome ↔
        (g.read + digitCount s) % 4 = 0 ∨
          2 ≤ (g.read + digitCount s) % 4 ∧ 4 ≤ (g.read + digitCount s) % 4 + k)
  | [], _, done, g, hread, hpads => by
    have hcount : digitCount [] = 0 := rfl
    rw [List.nil_append, isSome_decodeOnto_replicate done k (by omega), hpads, hcount,
      Nat.add_zero, Nat.mod_eq_of_lt hread]
  | b :: s, hs, done, g, hread, hpads => by
    rw [List.mem_cons, not_or] at hs
    obtain ⟨hb, hs⟩ := hs
    rw [List.cons_append, decodeOnto, if_neg (mt beq_iff_eq.1 (Ne.symm hb))]
    cases hv : value? b with
    | none =>
      have hcount : digitCount (b :: s) = digitCount s :=
        List.countP_cons_of_neg (by rw [hv]; exact Bool.false_ne_true)
      dsimp only
      rw [if_neg Bool.false_ne_true, hcount]
      exact isSome_decodeOnto_append k s hs done hread hpads
    | some v =>
      have hcount : digitCount (b :: s) = digitCount s + 1 :=
        List.countP_cons_of_pos (by rw [hv]; rfl)
      have hpush : ∃ g' o, g.push v = (g', o) ∧ g'.read = (g.read + 1) % 4 ∧ g'.pads = 0 := by
        unfold Group.push
        match hr : g.read with
        | 0 | 1 | 2 | 3 => exact ⟨_, _, rfl, rfl, rfl⟩
        | n + 4 => omega
      obtain ⟨g', o, hg', hread', hpads'⟩ := hpush
      dsimp only
      rw [Bool.false_and, if_neg Bool.false_ne_true, hg', hcount]
      have hrest : (g.read + (digitCount s + 1)) % 4 = (g'.read + digitCount s) % 4 := by
        rw [hread']
        omega
      rw [hrest]
      have hlt : g'.read < 4 := by
        rw [hread']
        exact Nat.mod_lt _ (by decide)
      cases o with
      | none => exact isSome_decodeOnto_append k s hs done hlt hpads'
      | some o => exact isSome_decodeOnto_append k s hs (o :: done) hlt hpads'

/-- A text without padding of its own is read if its digits make up whole groups, or if two or three
are left over and at least as much padding follows as is missing. -/
lemma isSome_decodeLenient?_iff {s : List UInt8} (hs : pad ∉ s) (k : Nat) :
    (decodeLenient? (s ++ List.replicate k pad)).isSome ↔
      digitCount s % 4 = 0 ∨ 2 ≤ digitCount s % 4 ∧ 4 ≤ digitCount s % 4 + k := by
  have hread := isSome_decodeOnto_append k s hs [] (g := ⟨0, 0, 0, false⟩) (by decide) rfl
  rwa [Nat.zero_add] at hread

end Transfer.Base64

namespace Mail

namespace EncodedWord

open Transfer

/-- The inside of a word in base64 with the padding that it is given to be read. -/
def paddedOctets (t : List Char) : List UInt8 :=
  octets t ++ List.replicate ((4 - t.length % 4) % 4) Base64.pad

/-- A word in base64 that cannot be decoded. -/
def Piece.IsBroken : Piece → Prop
  | word _ .b t => Base64.decodeLenient? (paddedOctets t) = none
  | _ => False

/-- A word in base64 without padding of its own is broken if one digit is left over behind whole
groups, or if more is missing from the last group than its length makes good. -/
theorem Piece.isBroken_iff {cs t : List Char} (ht : Base64.pad ∉ octets t) :
    (word cs .b t).IsBroken ↔ Base64.digitCount (octets t) % 4 = 1 ∨
      2 ≤ Base64.digitCount (octets t) % 4 ∧
        Base64.digitCount (octets t) % 4 + (4 - t.length % 4) % 4 < 4 := by
  have hsome := Base64.isSome_decodeLenient?_iff ht ((4 - t.length % 4) % 4)
  change Base64.decodeLenient? (paddedOctets t) = none ↔ _
  rw [← Option.isNone_iff_eq_none, ← Option.not_isSome, Bool.not_eq_true', ← Bool.not_eq_true]
  refine (not_congr hsome).trans ?_
  omega

/-- Octets can be read in the character set of a word, if it names one. -/
def RunReads (run : List UInt8 × Option (List Char)) : Prop :=
  ∀ c cs, run.2 = some (c :: cs) → ReadsIn (c :: cs) run.1

/-- The words of a value in joined lines can be decoded, and what they stand for can be read in
their character sets. -/
structure Legible (value : List Char) : Prop where
  words : ∀ p ∈ dropGaps false (pieces value), ¬ p.IsBroken
  runs : ∀ runs, (dropGaps false (pieces value)).mapM Piece.read = .ok runs →
    ∀ run ∈ merge runs, RunReads run

end EncodedWord

namespace Parameter

variable {name own : List Char} {s t : Section} {sections : List (List Char × List Section)}
variable {ps : List (List Char × List Char)} {plain : List (List Char × Value)}

/-- The names and texts of the parameters of a value. -/
def given (value : List Char) : List (List Char × List Char) :=
  ((pieces value).map fun p => ofPiece (strip p)).tail

/-- No number of a section has more digits than are ever read. -/
def Short (ps : List (List Char × List Char)) : Prop :=
  ∀ p ∈ ps, ∀ own digits, sectionName? p.1 = some (own, some digits) →
    digits.length ≤ Text.maxDigits

/-- Of the sections of one parameter all are numbered or none is. -/
def Uniform (ps : List (List Char × List Char)) : Prop :=
  ∀ p ∈ ps, ∀ q ∈ ps, ∀ own digits,
    ¬ (sectionName? p.1 = some (own, some digits) ∧ sectionName? q.1 = some (own, none))

/-- The sections in the parameters of a value can be put together. -/
structure WellFormed (value : List Char) : Prop where
  short : Short (given value)
  uniform : Uniform (given value)

/-- A list of sections by name holds a section under a name. -/
def Holds (sections : List (List Char × List Section)) (name : List Char) (s : Section) : Prop :=
  ∃ ss, (name, ss) ∈ sections ∧ s ∈ ss

lemma keys_addSection : (addSection name s sections).map Prod.fst = sections.map Prod.fst ∨
    (addSection name s sections).map Prod.fst = sections.map Prod.fst ++ [name] ∧
      name ∉ sections.map Prod.fst := by
  induction sections with
  | nil => exact .inr ⟨rfl, List.not_mem_nil⟩
  | cons x r ih =>
    obtain ⟨n, ss⟩ := x
    rw [addSection]
    by_cases hn : n = name
    · rw [if_pos (beq_iff_eq.2 hn)]
      exact .inl rfl
    · rw [if_neg (mt beq_iff_eq.1 hn)]
      simp only [List.map_cons, List.mem_cons, not_or]
      exact ih.imp (congrArg _) fun ⟨hkeys, hnew⟩ => ⟨congrArg _ hkeys, Ne.symm hn, hnew⟩

lemma nodup_addSection (h : (sections.map Prod.fst).Nodup) :
    ((addSection name s sections).map Prod.fst).Nodup := by
  obtain hkeys | ⟨hkeys, hnew⟩ := @keys_addSection name s sections
  · rwa [hkeys]
  · rw [hkeys]
    exact List.nodup_append.2 ⟨h, List.nodup_singleton _, by
      rintro a ha _ hb rfl
      exact hnew (List.mem_singleton.1 hb ▸ ha)⟩

lemma holds_addSection : Holds (addSection name s sections) own t ↔
    Holds sections own t ∨ own = name ∧ t = s := by
  unfold Holds
  induction sections with
  | nil => simp [addSection]
  | cons x r ih =>
    obtain ⟨n, ss⟩ := x
    rw [addSection]
    by_cases hn : n = name
    · subst hn
      rw [if_pos (beq_self_eq_true n)]
      simp only [List.mem_cons, Prod.mk.injEq, or_and_right, exists_or, and_assoc,
        exists_and_left, exists_eq_left, List.mem_append]
      grind
    · rw [if_neg (mt beq_iff_eq.1 hn)]
      simp only [List.mem_cons, or_and_right, exists_or, ih, or_assoc]

lemma exists_sectionNumber_iff {digits : List Char} :
    (∃ n, sectionNumber digits = .ok n) ↔ digits.length ≤ Text.maxDigits := by
  unfold sectionNumber
  by_cases hlong : Text.maxDigits < digits.length
  · rw [if_pos hlong]
    exact iff_of_false nofun (Nat.not_le.2 hlong)
  · rw [if_neg hlong]
    exact iff_of_true ⟨_, rfl⟩ (Nat.not_lt.1 hlong)

lemma exists_mapM_sectionNumber_iff {digits : Option (List Char)} :
    (∃ n, digits.mapM sectionNumber = .ok n) ↔
      ∀ ds, digits = some ds → ds.length ≤ Text.maxDigits := by
  cases digits with
  | none => exact iff_of_true ⟨none, rfl⟩ nofun
  | some ds =>
    have hmap : (some ds).mapM sectionNumber = (sectionNumber ds).map some := rfl
    rw [hmap, exists_map_eq_ok, exists_sectionNumber_iff]
    constructor
    · rintro h _ ⟨⟩
      exact h
    · exact fun h => h ds rfl

/-- Sections are put apart unless one of them has too long a number. -/
lemma exists_separate_iff {done : List (List Char × Value) × List (List Char × List Section)} :
    (∃ r, separate ps done = .ok r) ↔ Short ps := by
  induction ps generalizing done with
  | nil => exact iff_of_true ⟨done, rfl⟩ nofun
  | cons p r ih =>
    obtain ⟨name, value⟩ := p
    obtain ⟨plain, sections⟩ := done
    have hshort : Short ((name, value) :: r) ↔
        (∀ own digits, sectionName? name = some (own, some digits) →
          digits.length ≤ Text.maxDigits) ∧ Short r := List.forall_mem_cons
    rw [separate, hshort]
    cases hname : sectionName? name with
    | none =>
      dsimp only
      rw [ih]
      exact (and_iff_right nofun).symm
    | some x =>
      obtain ⟨own, digits⟩ := x
      dsimp only
      rw [exists_bind_eq_ok, exists_mapM_sectionNumber_iff]
      simp only [ih]
      constructor
      · rintro ⟨hdigits, hrest⟩
        obtain ⟨n, hn⟩ := exists_mapM_sectionNumber_iff.2 hdigits
        refine ⟨?_, hrest n hn⟩
        rintro _ ds ⟨⟩
        exact hdigits ds rfl
      · rintro ⟨hdigits, hrest⟩
        refine ⟨?_, fun _ _ => hrest⟩
        rintro ds rfl
        exact hdigits own ds rfl

lemma isSome_of_mapM_sectionNumber {digits : Option (List Char)} {n : Option Nat}
    (h : digits.mapM sectionNumber = .ok n) : n.isSome = digits.isSome := by
  cases option_mapM_eq_ok.1 h <;> rfl

lemma nodup_of_separate {plain' : List (List Char × Value)}
    {sections' : List (List Char × List Section)}
    (h : separate ps (plain, sections) = .ok (plain', sections'))
    (hkeys : (sections.map Prod.fst).Nodup) : (sections'.map Prod.fst).Nodup := by
  induction ps generalizing plain sections with
  | nil =>
    cases h
    exact hkeys
  | cons p r ih =>
    obtain ⟨name, value⟩ := p
    rw [separate] at h
    cases hname : sectionName? name with
    | none =>
      rw [hname] at h
      exact ih h hkeys
    | some x =>
      rw [hname] at h
      obtain ⟨number, -, hrest⟩ := bind_eq_ok.1 h
      exact ih hrest (nodup_addSection hkeys)

/-- What is put apart: under each name the sections that the parameters give it. -/
lemma holds_of_separate {plain' : List (List Char × Value)}
    {sections' : List (List Char × List Section)} {isNumbered : Bool}
    (h : separate ps (plain, sections) = .ok (plain', sections')) :
    (∃ s, Holds sections' own s ∧ s.number.isSome = isNumbered) ↔
      (∃ s, Holds sections own s ∧ s.number.isSome = isNumbered) ∨
        ∃ p ∈ ps, ∃ digits, sectionName? p.1 = some (own, digits) ∧
          digits.isSome = isNumbered := by
  induction ps generalizing plain sections with
  | nil =>
    cases h
    simp
  | cons p r ih =>
    obtain ⟨name, value⟩ := p
    rw [separate] at h
    simp only [List.exists_mem_cons_iff]
    cases hname : sectionName? name with
    | none =>
      rw [hname] at h
      simpa using ih h
    | some x =>
      obtain ⟨n, digits⟩ := x
      rw [hname] at h
      obtain ⟨number, hnumber, hrest⟩ := bind_eq_ok.1 h
      have hsome := isSome_of_mapM_sectionNumber hnumber
      rw [ih hrest]
      simp only [holds_addSection, Option.some.injEq, Prod.mk.injEq]
      grind

lemma exists_joinSections_iff {ss : List Section} :
    (∃ v, joinSections ss = .ok v) ↔
      ¬ ((∃ s ∈ ss, s.number.isSome = true) ∧ ∃ s ∈ ss, s.number.isSome = false) := by
  unfold joinSections
  split
  · rename_i hmixed
    refine iff_of_false nofun (not_not.2 ?_)
    simpa using hmixed
  · rename_i hmixed
    refine iff_of_true ⟨_, rfl⟩ ?_
    simpa using hmixed

/-- Nothing is told apart by a name that is there twice. -/
lemma holds_iff_of_nodup {ss : List Section} (hkeys : (sections.map Prod.fst).Nodup)
    (hmem : (own, ss) ∈ sections) : Holds sections own s ↔ s ∈ ss := by
  refine ⟨?_, fun hs => ⟨ss, hmem, hs⟩⟩
  rintro ⟨ss', hmem', hs⟩
  obtain ⟨⟩ := List.inj_on_of_nodup_map hkeys hmem' hmem rfl
  exact hs

lemma exists_join_iff {plain' : List (List Char × Value)}
    (h : separate ps ([], []) = .ok (plain', sections)) :
    (∃ vs, (sections.mapM fun x => do return (x.1, ← joinSections x.2) :
      Except Defect (List (List Char × Value))) = .ok vs) ↔ Uniform ps := by
  have hkeys : (sections.map Prod.fst).Nodup :=
    nodup_of_separate h List.nodup_nil
  have hholds : ∀ own isNumbered, (∃ s, Holds sections own s ∧ s.number.isSome = isNumbered) ↔
      ∃ p ∈ ps, ∃ digits, sectionName? p.1 = some (own, digits) ∧ digits.isSome = isNumbered :=
    fun own isNumbered => (holds_of_separate h).trans <| or_iff_right <| by
      rintro ⟨s, ⟨ss, hss, -⟩, -⟩
      cases hss
  rw [exists_mapM_eq_ok]
  constructor
  · rintro hjoin p hp q hq own digits ⟨hnumbered, hplain⟩
    obtain ⟨s, ⟨ss, hmem, hs⟩, hsome⟩ := (hholds own true).2 ⟨p, hp, _, hnumbered, rfl⟩
    obtain ⟨t, ht, hnone⟩ := (hholds own false).2 ⟨q, hq, _, hplain, rfl⟩
    obtain ⟨v, hv⟩ := hjoin _ hmem
    obtain ⟨v', hv', -⟩ := bind_eq_ok.1 hv
    exact exists_joinSections_iff.1 ⟨v', hv'⟩
      ⟨⟨s, hs, hsome⟩, t, (holds_iff_of_nodup hkeys hmem).1 ht, hnone⟩
  · rintro huniform ⟨own, ss⟩ hmem
    have hjoin : ∃ v, joinSections ss = .ok v := by
      refine exists_joinSections_iff.2 ?_
      rintro ⟨⟨s, hs, hsome⟩, t, ht, hnone⟩
      obtain ⟨p, hp, d, hd, hdsome⟩ := (hholds own true).1 ⟨s, ⟨ss, hmem, hs⟩, hsome⟩
      obtain ⟨q, hq, d', hd', hdnone⟩ := (hholds own false).1 ⟨t, ⟨ss, hmem, ht⟩, hnone⟩
      obtain ⟨ds, rfl⟩ := Option.isSome_iff_exists.1 hdsome
      obtain rfl := Option.not_isSome_iff_eq_none.1 (Bool.not_eq_true _ ▸ hdnone)
      exact huniform p hp q hq own ds ⟨hd, hd'⟩
    obtain ⟨v, hv⟩ := hjoin
    exact ⟨(own, v), bind_eq_ok.2 ⟨v, hv, rfl⟩⟩

/-- Parameters are read exactly if they are well formed. -/
lemma exists_parse_iff {value : List Char} :
    (∃ ps, parse value = .ok ps) ↔ WellFormed value := by
  have hwell : WellFormed value ↔ Short (given value) ∧ Uniform (given value) :=
    ⟨fun h => ⟨h.short, h.uniform⟩, fun h => ⟨h.1, h.2⟩⟩
  rw [hwell, parse, given]
  cases (pieces value).map fun p => ofPiece (strip p) with
  | nil => exact iff_of_true ⟨[], rfl⟩ ⟨nofun, nofun⟩
  | cons x r =>
    obtain ⟨name, v⟩ := x
    dsimp only [List.tail_cons]
    rw [exists_bind_eq_ok, exists_separate_iff]
    refine and_congr_right fun hshort => ?_
    obtain ⟨⟨plain, sections⟩, hseparate⟩ : ∃ apart, separate r ([], []) = .ok apart :=
      exists_separate_iff.2 hshort
    constructor
    · intro h
      obtain ⟨_, hjoin⟩ := h _ hseparate
      obtain ⟨vs, hvs, -⟩ := bind_eq_ok.1 hjoin
      exact (exists_join_iff hseparate).1 ⟨vs, hvs⟩
    · rintro huniform _ hseparate'
      obtain rfl := Except.ok.inj (hseparate.symm.trans hseparate')
      obtain ⟨vs, hvs⟩ := (exists_join_iff hseparate).2 huniform
      exact ⟨_, bind_eq_ok.2 ⟨vs, hvs, rfl⟩⟩

lemma exists_find?_iff {value : List Char} {name : String} :
    (∃ v, find? value name = .ok v) ↔ WellFormed value := by
  rw [← exists_parse_iff, find?, exists_bind_pure_iff]

/-- The octets of a value can be read in the character set that they name. -/
def Value.Reads : Value → Prop
  | .plain _ => True
  | .extended charset _ t => ReadsIn (charset.getD "us-ascii".toList) (EncodedWord.octets t)

lemma Value.exists_collapse_iff {v : Value} : (∃ t, v.collapse = .ok t) ↔ v.Reads := by
  cases v with
  | plain t => exact iff_of_true ⟨_, rfl⟩ trivial
  | extended charset language t =>
    unfold collapse
    change _ ↔ ReadsIn (charset.getD "us-ascii".toList) (EncodedWord.octets t)
    dsimp only
    generalize charset.getD "us-ascii".toList = name
    cases hname : charsetNamed name with
    | error d =>
      refine iff_of_false nofun fun h => ?_
      rw [charsetNamed_eq_ok.2 ⟨h.1, rfl⟩] at hname
      cases hname
    | ok cs =>
      obtain ⟨hnul, hcs⟩ := charsetNamed_eq_ok.1 hname
      unfold ReadsIn
      rw [hcs, and_iff_right hnul]
      cases cs with
      | none => exact iff_of_true ⟨_, rfl⟩ nofun
      | some cs =>
        dsimp only
        rw [exists_mapError_eq_ok, Charset.exists_decode_iff]
        constructor
        · rintro h _ ⟨⟩
          exact h
        · exact fun h => h cs rfl

end Parameter

namespace Head

variable {h : Head}

/-- The parameters of a field are well formed, if the field is there. -/
def IsWellFormed (h : Head) (field : String) : Prop :=
  ∀ v, h.value? field = some v → Parameter.WellFormed v

lemma exists_parameter?_iff {field name : String} :
    (∃ v, h.parameter? field name = .ok v) ↔ h.IsWellFormed field := by
  unfold parameter? IsWellFormed
  cases h.value? field with
  | none => exact iff_of_true ⟨none, rfl⟩ nofun
  | some v =>
    refine Parameter.exists_find?_iff.trans ⟨?_, fun hv => hv v rfl⟩
    rintro hv _ ⟨⟩
    exact hv

/-- The name of a file can be read: the parameters that may have it are well formed, its octets can
be read in their character set, and the words in it are legible. -/
structure NamesLegibly (h : Head) : Prop where
  disposition : h.IsWellFormed "content-disposition"
  type : h.parameter? "content-disposition" "filename" = .ok none → h.IsWellFormed "content-type"
  reads : ∀ v, h.fileParameter? = .ok (some v) → v.Reads
  words : ∀ name, h.fileName? = .ok (some name) →
    EncodedWord.hasWord (EncodedWord.unfoldLines name) = true →
      EncodedWord.Legible (EncodedWord.unfoldLines name)

/-- What spells the name of a character set can be read, whether it is then taken or not. -/
def Spells (charset : Option (List Char)) (text : List Char) : Prop :=
  '\x00' ∉ nameOr "us-ascii" charset ∧
    ∀ set, Charset.ofName? (nameOr "us-ascii" charset) = some (.stepped set) →
      set.read? (EncodedWord.octets text) ≠ none

/-- A text can be read: its character set can be told, and its octets can be read in it. -/
structure TellsLegibly (h : Head) (text : List UInt8) : Prop where
  type : h.IsWellFormed "content-type"
  charset : ∀ cs language t,
    h.parameter? "content-type" "charset" = .ok (some (.extended cs language t)) → Spells cs t
  text : ∀ name, h.charset? = .ok name → ReadsIn (nameOr "utf-8" name) (h.decodeTransfer text)

end Head

namespace Entity

/-- The text of an entity can be read. -/
def TellsLegibly : Entity → Prop
  | .leaf h text => h.TellsLegibly text
  | .container .. => True

end Entity

end Mail

end Mailroom
