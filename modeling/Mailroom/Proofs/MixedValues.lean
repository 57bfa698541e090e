import Mathlib.Data.List.Chain
import Mailroom.Proofs.EncodedWords

/-!
# Plain text beside encoded words

A value without encoded words is left as it is. As soon as there is one, the plain text of the value
is written as octets by one rule and read by another: ASCII comes through, and every other character
becomes something else. So a value of plain text and encoded words is decoded to what it stands for
exactly if one of the two is missing from it or its plain text is ASCII.
-/

namespace Mailroom.Mail.EncodedWord

open Charset Transfer

/-! ## Plain text that is read through octets -/

/-- Characters that are no control characters and do not separate lines. All that can be printed is
made of these. -/
def IsVisible (c : Char) : Prop :=
  0x20 ≤ c.toNat ∧ (c.toNat < 0x7f ∨ 0xa0 ≤ c.toNat) ∧ c.toNat ≠ 0x2028 ∧ c.toNat ≠ 0x2029

instance : DecidablePred IsVisible :=
  fun _ => inferInstanceAs (Decidable (_ ∧ _))

lemma IsVisible.isLineEnd {c : Char} (h : IsVisible c) : Text.isLineEnd c = false := by
  unfold IsVisible at h
  unfold Text.isLineEnd
  grind

/-- What becomes of plain text beside an encoded word. -/
def reread (s : List Char) : List Char :=
  Utf8.decode (octets s)

lemma octets_cons (c : Char) (s : List Char) : octets (c :: s) = charOctets c ++ octets s := rfl

lemma reread_cons_of_ascii {c : Char} (h : c.toNat < 0x80) (s : List Char) :
    reread (c :: s) = c :: reread s := by
  have ha : (UInt8.ofNat c.toNat).toNat = c.toNat := toNat_octet (by omega)
  unfold reread
  rw [octets_cons, charOctets_of_lt (by omega), List.singleton_append, Utf8.decode_cons,
    Utf8.first_one (by omega), ha, Char.ofNat_toNat]
  rfl

lemma toNat_ofNat_ne {n k : Nat} (hk : k ≠ 0) (hn : n ≠ k) : (Char.ofNat n).toNat ≠ k := by
  by_cases hvalid : n.isValidChar
  · rwa [Text.toNat_ofNat hvalid]
  · rw [Char.ofNat, dif_neg hvalid]
    exact hk.symm

/-- No octet beyond ASCII is read as the character of its number, unless the octet of a control
character follows: with such an octet, two of these make a character of the same number. -/
lemma first_ne {a : UInt8} {r : List UInt8} (ha : 0x80 ≤ a.toNat)
    (hr : ∀ b, r.head? = some b → b.toNat < 0x80 ∨ 0xa0 ≤ b.toNat) :
    (Utf8.first a r).1.toNat ≠ a.toNat := by
  have hlt := a.toNat_lt
  have hreplaced : replacement.toNat ≠ a.toNat := by
    have hnumber : replacement.toNat = 0xfffd := rfl
    omega
  fun_cases Utf8.first a r
  case case1 hone => exact absurd (UInt8.lt_iff_toNat_lt.1 hone) (by simpa using ha)
  case case3 htwo hthree b s htail =>
    dsimp only
    refine toNat_ofNat_ne (by omega) ?_
    have hb := Utf8.isTail_iff.1 htail
    have hsecond := hr b rfl
    simp only [UInt8.lt_iff_toNat_lt, UInt8.reduceToNat] at *
    unfold Utf8.tailBits
    omega
  case case8 htwo hthree hfour b c s hsecond htail =>
    dsimp only
    refine toNat_ofNat_ne (by omega) ?_
    simp only [Bool.not_eq_true, Bool.not_eq_false'] at hsecond
    obtain ⟨hb, hleast, -⟩ := Utf8.isSecondOfThree_iff.1 hsecond
    rw [Utf8.isTail_iff] at hb
    simp only [UInt8.lt_iff_toNat_lt, UInt8.reduceToNat] at *
    unfold Utf8.tailBits
    omega
  case case15 htwo hthree hfour hfive b c d s hsecond _ _ =>
    dsimp only
    refine toNat_ofNat_ne (by omega) ?_
    simp only [Bool.not_eq_true, Bool.not_eq_false'] at hsecond
    obtain ⟨hb, hleast, -⟩ := Utf8.isSecondOfFour_iff.1 hsecond
    rw [Utf8.isTail_iff] at hb
    simp only [UInt8.lt_iff_toNat_lt, UInt8.reduceToNat] at *
    unfold Utf8.tailBits
    omega
  all_goals exact hreplaced

lemma head?_octets {s : List Char} (hs : ∀ c ∈ s, IsVisible c) :
    ∀ b, (octets s).head? = some b → b.toNat < 0x80 ∨ 0xa0 ≤ b.toNat := by
  intro b hb
  cases s with
  | nil => cases hb
  | cons c s =>
    obtain ⟨-, hc, -⟩ := hs c List.mem_cons_self
    rw [octets_cons] at hb
    unfold charOctets at hb
    split at hb
    · next hnarrow =>
      cases hb
      rw [toNat_octet hnarrow]
      omega
    · split at hb <;>
        · cases hb
          exact .inl (by decide)

/-- Beyond ASCII, the first character of what is read is another one. -/
lemma reread_cons_of_wide {c : Char} {s : List Char} (hc : 0x80 ≤ c.toNat)
    (hs : ∀ d ∈ s, IsVisible d) : ∃ d t, reread (c :: s) = d :: t ∧ d ≠ c := by
  by_cases hnarrow : c.toNat < 0x100
  · have ha : (UInt8.ofNat c.toNat).toNat = c.toNat := toNat_octet hnarrow
    unfold reread
    rw [octets_cons, charOctets_of_lt hnarrow, List.singleton_append, Utf8.decode_cons]
    refine ⟨_, _, rfl, fun h => ?_⟩
    have hne := first_ne (a := .ofNat c.toNat) (by omega) (head?_octets hs)
    rw [h, ha] at hne
    exact hne rfl
  · -- An escape is read as it is spelled.
    have hescape : ∃ r, charOctets c = 0x5c :: r := by
      unfold charOctets
      rw [if_neg hnarrow]
      split <;> exact ⟨_, rfl⟩
    obtain ⟨r, hr⟩ := hescape
    unfold reread
    rw [octets_cons, hr, List.cons_append, Utf8.decode_cons, Utf8.first_one (a := 0x5c) (by decide)]
    refine ⟨'\\', _, rfl, ?_⟩
    rintro rfl
    exact absurd hc (by decide)

/-- Plain text is what was written if it is ASCII, and not otherwise, whatever follows it. -/
lemma reread_append_eq_iff {s x y : List Char} (hs : ∀ c ∈ s, IsVisible c) :
    reread s ++ x = s ++ y ↔ (∀ c ∈ s, c.toNat < 0x80) ∧ x = y := by
  induction s with
  | nil => simp [reread, octets]
  | cons c s ih =>
    obtain ⟨-, hs⟩ := List.forall_mem_cons.1 hs
    by_cases hc : c.toNat < 0x80
    · rw [reread_cons_of_ascii hc, List.cons_append, List.cons_append, List.cons.injEq,
        List.forall_mem_cons, ih hs]
      simp [hc]
    · obtain ⟨d, t, hd, hne⟩ := reread_cons_of_wide (Nat.le_of_not_lt hc) hs
      rw [hd, List.forall_mem_cons]
      simp [hne, hc]

/-! ## Values of plain text and encoded words -/

/-- A part of a value: plain text, or a text that is written as an encoded word. -/
inductive Part where
  | plain (text : List Char)
  | word (spelling : Spelling) (text : List Char)

namespace Part

def isWord : Part → Bool
  | plain _ => false
  | word .. => true

def write : Part → List Char
  | plain t => t
  | word sp t => sp.write (Utf8.encode t)

/-- What a part stands for. -/
def text : Part → List Char
  | plain t => t
  | word _ t => t

def piece : Part → Piece
  | plain t => .plain t
  | word sp t => sp.piece (Utf8.encode t)

/-- The octets of a part and their character set. -/
def run : Part → List UInt8 × Option (List Char)
  | plain t => (octets t, none)
  | word _ t => utf8Run (Utf8.encode t)

/-- What is read of a part. -/
def read : Part → List Char
  | plain t => reread t
  | word _ t => t

lemma read_piece (p : Part) : p.piece.read = .ok p.run := by
  cases p with
  | plain t => rfl
  | word sp t => exact EncodedWord.read_piece sp (Utf8.encode t)

lemma readOctets_run (p : Part) : readOctets p.run.1 p.run.2 = .ok p.read := by
  cases p with
  | plain t => rfl
  | word sp t =>
    unfold run utf8Run read
    rw [readOctets_utf8, Utf8.decode_encode]

/-- The character sets tell a plain part from a word. -/
lemma charset_run_ne {p q : Part} (h : p.isWord ≠ q.isWord) : (p.run.2 == q.run.2) = false := by
  cases p <;> cases q <;> first | exact absurd rfl h | rfl

end Part

/-- Plain text and words by turns. A plain text is not empty, is visible and has no `=?` in it; the
value does not begin with a blank, and what stands between two words is not blank as a whole. -/
structure Alternating (ps : List Part) : Prop where
  turns : ps.IsChain fun p q => p.isWord ≠ q.isWord
  full : ∀ t, .plain t ∈ ps → t ≠ []
  visible : ∀ t, .plain t ∈ ps → ∀ c ∈ t, IsVisible c
  unmarked : ∀ t, .plain t ∈ ps → ¬ "=?".toList <:+: t
  begins : ∀ c, (ps.flatMap Part.write).head? = some c → Text.isSpace c = false
  solid : ∀ t, .plain t ∈ ps.dropLast → ∃ c ∈ t, Text.isSpace c = false

section Stages

variable {ps : List Part}

lemma head?_write_of_isWord (h : ps.head?.all Part.isWord) :
    (ps.flatMap Part.write).head? ≠ some '?' := by
  match ps, h with
  | [], _ => exact nofun
  | .word sp t :: ps, _ =>
    rw [List.flatMap_cons]
    exact fun hq => absurd (Option.some.inj hq) (by decide)

lemma piecesFrom_parts (plain : List Char) (hturns : ps.IsChain fun p q => p.isWord ≠ q.isWord)
    (hplain : plain = [] ∨ ps.head?.all Part.isWord) (hfull : ∀ t, .plain t ∈ ps → t ≠ [])
    (hunmarked : ∀ t, .plain t ∈ ps → ¬ "=?".toList <:+: t) :
    piecesFrom plain 0 (ps.flatMap Part.write) = withPlain plain (ps.map Part.piece) := by
  induction ps generalizing plain with
  | nil => rfl
  | cons p ps ih =>
    obtain ⟨hnext, hrest⟩ := List.isChain_cons.1 hturns
    have hfull' : ∀ t, .plain t ∈ ps → t ≠ [] := fun t ht => hfull t (List.mem_cons_of_mem p ht)
    have hunmarked' : ∀ t, .plain t ∈ ps → ¬ "=?".toList <:+: t := fun t ht =>
      hunmarked t (List.mem_cons_of_mem p ht)
    rw [List.flatMap_cons, List.map_cons]
    cases p with
    | word sp t =>
      change piecesFrom plain 0 (sp.write _ ++ ps.flatMap Part.write) = _
      rw [piecesFrom_write, ih [] hrest (.inl rfl) hfull' hunmarked']
      rfl
    | plain t =>
      have hword : ps.head?.all Part.isWord := by
        rw [Option.all_eq_true]
        intro q hq
        simpa [Part.isWord] using hnext q hq
      have hempty : plain = [] := hplain.resolve_right nofun
      rw [hempty]
      have hp := piecesFrom_plain (r := ps.flatMap Part.write) [] (hunmarked t List.mem_cons_self)
        (head?_write_of_isWord hword)
      change piecesFrom [] 0 (t ++ ps.flatMap Part.write) = .plain t :: ps.map Part.piece
      rw [hp, List.append_nil, ih t.reverse hrest (.inr hword) hfull' hunmarked', withPlain,
        List.isEmpty_reverse, List.reverse_reverse, if_neg]
      simpa using hfull t List.mem_cons_self

lemma dropGaps_parts (afterWord : Bool)
    (hsolid : ∀ t, .plain t ∈ ps.dropLast → ∃ c ∈ t, Text.isSpace c = false) :
    dropGaps afterWord (ps.map Part.piece) = ps.map Part.piece := by
  induction ps generalizing afterWord with
  | nil => rfl
  | cons p ps ih =>
    cases ps with
    | nil => simp [dropGaps]
    | cons q ps =>
      have hp : p.piece.isBlank = false := by
        cases p with
        | word sp t => exact isBlank_piece sp _
        | plain t =>
          obtain ⟨c, hc, hspace⟩ := hsolid t List.mem_cons_self
          have hall : t.all Text.isSpace = false := List.all_eq_false.2 ⟨c, hc, by simp [hspace]⟩
          simp [Part.piece, Piece.isBlank, Piece.text, hall]
      rw [List.map_cons, dropGaps, hp, Bool.and_false, Bool.false_and, if_neg Bool.false_ne_true,
        ih _ fun t ht => hsolid t (List.mem_cons_of_mem p ht)]

lemma merge_parts (hturns : ps.IsChain fun p q => p.isWord ≠ q.isWord) :
    merge (ps.map Part.run) = ps.map Part.run := by
  induction ps with
  | nil => rfl
  | cons p ps ih =>
    obtain ⟨hnext, hturns⟩ := List.isChain_cons.1 hturns
    rw [List.map_cons, merge, ih hturns]
    cases ps with
    | nil => rfl
    | cons q ps => simp [Part.charset_run_ne (hnext q rfl)]

lemma flatMap_read_eq_iff (hvisible : ∀ t, .plain t ∈ ps → ∀ c ∈ t, IsVisible c) :
    ps.flatMap Part.read = ps.flatMap Part.text ↔
      ∀ t, .plain t ∈ ps → ∀ c ∈ t, c.toNat < 0x80 := by
  induction ps with
  | nil => simp
  | cons p ps ih =>
    have htail := ih fun t ht => hvisible t (List.mem_cons_of_mem p ht)
    rw [List.flatMap_cons, List.flatMap_cons]
    cases p with
    | word sp t => simpa [Part.read, Part.text] using htail
    | plain t =>
      have hhead := reread_append_eq_iff (x := ps.flatMap Part.read) (y := ps.flatMap Part.text)
        (hvisible t List.mem_cons_self)
      simp only [Part.read, Part.text] at hhead ⊢
      rw [hhead, htail]
      simp

lemma isLineEnd_of_mem_write (hvisible : ∀ t, .plain t ∈ ps → ∀ c ∈ t, IsVisible c) :
    ∀ c ∈ ps.flatMap Part.write, Text.isLineEnd c = false := by
  intro c hc
  obtain ⟨p, hp, hc⟩ := List.mem_flatMap.1 hc
  cases p with
  | plain t => exact (hvisible t hp c hc).isLineEnd
  | word sp t => exact isLineEnd_eq_false (Spelling.isSpace_of_mem_write c hc)

end Stages

/-- A value with a word in it is read part by part. -/
lemma decodeChars_of_word {ps : List Part} (h : Alternating ps) {p : Part} (hp : p ∈ ps)
    (hword : p.isWord = true) :
    decodeChars (ps.flatMap Part.write) = .ok (ps.flatMap Part.read) := by
  have hline := isLineEnd_of_mem_write h.visible
  have hhas : hasWord (ps.flatMap Part.write) = true := by
    obtain ⟨before, after, rfl⟩ := List.append_of_mem hp
    cases p with
    | plain t => cases hword
    | word sp t =>
      rw [List.flatMap_append, List.flatMap_cons]
      exact hasWord_append_write _ sp _ _
  have hhead : ∃ c r, ps.flatMap Part.write = c :: r ∧ Text.isSpace c = false := by
    cases hs : ps.flatMap Part.write with
    | nil =>
      rw [hs] at hhas
      cases hhas
    | cons c r => exact ⟨c, r, rfl, h.begins c (by rw [hs]; rfl)⟩
  have hpieces : dropGaps false (pieces (ps.flatMap Part.write)) = ps.map Part.piece := by
    rw [pieces_of_line hhead hline, piecesFrom_parts [] h.turns (.inl rfl) h.full h.unmarked]
    exact dropGaps_parts false h.solid
  have hruns : (ps.map Part.piece).mapM Piece.read = .ok (ps.map Part.run) := by
    rw [mapM_eq_ok, List.forall₂_map_left_iff, List.forall₂_map_right_iff, List.forall₂_same]
    exact fun q _ => q.read_piece
  have htexts : (merge (ps.map Part.run)).mapM (fun r => readOctets r.1 r.2) =
      .ok (ps.map Part.read) := by
    rw [merge_parts h.turns, mapM_eq_ok, List.forall₂_map_left_iff, List.forall₂_map_right_iff,
      List.forall₂_same]
    exact fun q _ => q.readOctets_run
  rw [decodeChars_eq_ok (unfoldLines_of_line hline) hhas (hpieces ▸ hruns) htexts,
    ← List.flatMap_def]

/-- A value without words is one plain text, or empty, and stays as it is. -/
lemma decodeChars_of_plain {ps : List Part} (h : Alternating ps)
    (hplain : ∀ p ∈ ps, p.isWord = false) :
    decodeChars (ps.flatMap Part.write) = .ok (ps.flatMap Part.text) := by
  have hline := isLineEnd_of_mem_write h.visible
  unfold decodeChars
  dsimp only
  rw [unfoldLines_of_line hline]
  match ps, hplain with
  | [], _ => rfl
  | [.plain t], _ =>
    have hhas : hasWord t = false := hasWord_eq_false (h.unmarked t List.mem_cons_self)
    simp [Part.write, Part.text, hhas]
  | p :: q :: ps, hplain =>
    obtain ⟨hp, hq, -⟩ : _ ∧ _ ∧ _ := by simpa using hplain
    exact absurd (hp.trans hq.symm) ((List.isChain_cons.1 h.turns).1 q rfl)
  | [.word sp t], hplain => cases hplain _ List.mem_cons_self

/-- A value of plain text and words is decoded to what it stands for exactly if there is no word in
it or its plain text is ASCII. -/
theorem decode_alternating_iff (ps : List Part) (h : Alternating ps) :
    decodeValue (String.ofList (ps.flatMap Part.write)) =
        .ok (String.ofList (ps.flatMap Part.text)) ↔
      (∀ p ∈ ps, p.isWord = false) ∨ ∀ t, .plain t ∈ ps → ∀ c ∈ t, c.toNat < 0x80 := by
  unfold decodeValue
  rw [String.toList_ofList]
  by_cases hplain : ∀ p ∈ ps, p.isWord = false
  · rw [decodeChars_of_plain h hplain]
    exact iff_of_true rfl (.inl hplain)
  · have hwords : ∃ p ∈ ps, p.isWord = true := by simpa using hplain
    obtain ⟨p, hp, hword⟩ := hwords
    rw [or_iff_right hplain, ← flatMap_read_eq_iff h.visible, decodeChars_of_word h hp hword]
    simp [Except.map, Except.mapError, String.ofList_inj]

/-- Accents in the encoded word only. -/
def asciiBeside : List Part :=
  [.plain "un ".toList, .word .small "été".toList, .plain " sec".toList]

theorem decode_alternating_iff_of_asciiBeside : Alternating asciiBeside ∧
    decodeValue "un =?utf-8?b?w6l0w6k=?= sec" = .ok "un été sec" := by
  have hplain : ∀ P : List Char → Prop, P "un ".toList → P " sec".toList →
      ∀ t, .plain t ∈ asciiBeside → P t := by simp +contextual [asciiBeside]
  have h : Alternating asciiBeside := by
    refine ⟨by decide, hplain _ (by decide) (by decide),
      hplain _ (List.forall_iff_forall_mem.1 ?_) (List.forall_iff_forall_mem.1 ?_),
      hplain _ (by decide) (by decide), ?_, ?_⟩
    · decide
    · decide
    · rintro c ⟨⟩
      rfl
    · have hsolid : ∃ c ∈ "un ".toList, Text.isSpace c = false := ⟨'u', by decide, rfl⟩
      simpa [asciiBeside] using hsolid
  have hascii : ∀ t, .plain t ∈ asciiBeside → ∀ c ∈ t, c.toNat < 0x80 :=
    hplain _ (List.forall_iff_forall_mem.1 (by decide)) (List.forall_iff_forall_mem.1 (by decide))
  have hwritten : String.ofList (asciiBeside.flatMap Part.write) =
      "un =?utf-8?b?w6l0w6k=?= sec" := by decide +kernel
  refine ⟨h, ?_⟩
  rw [← hwritten]
  exact (decode_alternating_iff asciiBeside h).2 (.inr hascii)

/-- Two characters that are no ASCII before a word that is. -/
def wideBeside : List Part :=
  [.plain "caf\ufffd\ufffd ".toList, .word .small "abc".toList]

theorem decode_wideBeside_ne : Alternating wideBeside ∧
    String.ofList (wideBeside.flatMap Part.write) = "caf\ufffd\ufffd =?utf-8?b?YWJj?=" ∧
    decodeValue "caf\ufffd\ufffd =?utf-8?b?YWJj?=" = .ok "caf\\ufffd\\ufffd abc" ∧
    "caf\\ufffd\\ufffd abc" ≠ String.ofList (wideBeside.flatMap Part.text) := by
  refine ⟨?_, by decide +kernel, by decide +kernel, by decide +kernel⟩
  have hplain : ∀ P : List Char → Prop, P "caf\ufffd\ufffd ".toList →
      ∀ t, .plain t ∈ wideBeside → P t := by simp [wideBeside]
  refine ⟨by decide, hplain _ (by decide), hplain _ (List.forall_iff_forall_mem.1 ?_),
    hplain _ (by decide +kernel), ?_, ?_⟩
  · decide
  · rintro c ⟨⟩
    rfl
  · have hsolid : ∃ c ∈ "caf\ufffd\ufffd ".toList, Text.isSpace c = false :=
      ⟨'c', by decide, rfl⟩
    simpa [wideBeside] using hsolid

end Mailroom.Mail.EncodedWord
