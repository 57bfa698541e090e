import Mailroom.Mail.EncodedWord
import Mailroom.Proofs.AccountVariables
import Mailroom.Proofs.AttributeNames
import Mailroom.Proofs.OctetText

/-!
# Texts in encoded words

A text can be cut into encoded words at any of its octets, also inside of a character, and the words
can stand on one line or on folded lines: decoding gives the text. What lies between two words is
dropped, and the octets of neighbours are joined before they are read.
-/

namespace Mailroom.Mail.EncodedWord

open Charset Transfer

/-! ## How words are spelled -/

/-- How a word says that its text is UTF-8 in base64: in letters of either case. -/
structure Spelling where
  charset : List Char
  coding : Char
  charset_lower : charset.map Char.toLower = "utf-8".toList
  coding_eq : coding = 'b' ∨ coding = 'B'

namespace Spelling

/-- The spelling in small letters. -/
def small : Spelling where
  charset := "utf-8".toList
  coding := 'b'
  charset_lower := rfl
  coding_eq := .inl rfl

/-- The word that spells octets. -/
def write (sp : Spelling) (o : List UInt8) : List Char :=
  '=' :: '?' :: (sp.charset ++ '?' :: sp.coding :: '?' :: ((Base64.encode o).toList ++ ['?', '=']))

/-- The word as a piece of a value. -/
def piece (sp : Spelling) (o : List UInt8) : Piece :=
  .word sp.charset .b (Base64.encode o).toList

/-- The letters of `utf-8` and their capitals. -/
def letters : List Char :=
  "utfUTF-8".toList

lemma mem_letters {c : Char} (h : c.toLower ∈ "utf-8".toList) : c ∈ letters := by
  have hascii : c.toNat < 0x80 := by
    by_contra hwide
    rw [Text.toLower_eq_self (by omega)] at h
    have hsmall : ∀ d ∈ "utf-8".toList, d.toNat < 0x80 := List.forall_iff_forall_mem.1 (by decide)
    exact hwide (hsmall c h)
  have hall : ∀ c : Char, c.toNat < 0x80 → c.toLower ∈ "utf-8".toList → c ∈ letters :=
    Text.forall_ascii (by decide)
  exact hall c hascii h

lemma subset_letters (sp : Spelling) : ∀ c ∈ sp.charset, c ∈ letters := by
  intro c hc
  apply mem_letters
  rw [← sp.charset_lower]
  exact List.mem_map_of_mem hc

lemma lowerChars_charset (sp : Spelling) : Text.lowerChars sp.charset = "utf-8".toList := by
  have hascii : ∀ c ∈ letters, c.toNat < 0x80 := List.forall_iff_forall_mem.1 (by decide)
  unfold Text.lowerChars
  rw [Text.lowerFrom_eq_map fun c hc => hascii c (sp.subset_letters c hc), sp.charset_lower]

lemma coding?_eq (sp : Spelling) : coding? sp.coding = some .b := by
  obtain h | h := sp.coding_eq <;> rw [h] <;> rfl

/-- What holds of the characters that words are made of holds of a word. -/
lemma forall_mem_write {P : Char → Prop} (sp : Spelling) (o : List UInt8)
    (hmarks : ∀ c ∈ "=?bB".toList, P c) (hletters : ∀ c ∈ letters, P c)
    (hdigits : ∀ n < 64, P (Base64.digit n)) : ∀ c ∈ sp.write o, P c := by
  have hq : P '?' := hmarks '?' (by decide)
  have he : P '=' := hmarks '=' (by decide)
  have hcoding : P sp.coding := by
    obtain h | h := sp.coding_eq <;> rw [h] <;> exact hmarks _ (by decide)
  have htext : ∀ c ∈ (Base64.encode o).toList, P c := Base64.forall_mem_encode hdigits he o
  simp only [write, List.forall_mem_cons, List.forall_mem_append]
  exact ⟨he, hq, fun c hc => hletters c (sp.subset_letters c hc), hq, hcoding, hq, htext, hq, he,
    List.forall_mem_nil _⟩

lemma isSpace_of_mem_write {sp : Spelling} {o : List UInt8} :
    ∀ c ∈ sp.write o, Text.isSpace c = false :=
  sp.forall_mem_write o (List.forall_iff_forall_mem.1 (by decide))
    (List.forall_iff_forall_mem.1 (by decide)) (by decide)

lemma write_ne_nil (sp : Spelling) (o : List UInt8) : sp.write o ≠ [] :=
  List.cons_ne_nil _ _

lemma write_eq_cons (sp : Spelling) (o : List UInt8) (r : List Char) :
    sp.write o ++ r = '=' :: ((sp.write o).tail ++ r) := rfl

end Spelling

/-! ## Cutting a line at its words -/

lemma textUntilEnd?_append {t : List Char} (h : ∀ c ∈ t, c ≠ '?' ∧ c ≠ '\n') (r : List Char) :
    textUntilEnd? (t ++ '?' :: '=' :: r) = some t := by
  induction t with
  | nil => rfl
  | cons c t ih =>
    obtain ⟨⟨hq, hfeed⟩, ht⟩ := List.forall_mem_cons.1 h
    rw [List.cons_append, textUntilEnd?, ih ht]
    simp [hq, hfeed]

/-- A word is found where it begins, whatever follows it. -/
lemma word?_write (sp : Spelling) (o : List UInt8) (r : List Char) :
    word? (sp.write o ++ r) = some (sp.piece o, (sp.write o).length) := by
  have hcharset : ∀ c ∈ sp.charset, (c != '?') = true := by
    have hletters : ∀ c ∈ Spelling.letters, (c != '?') = true :=
      List.forall_iff_forall_mem.1 (by decide)
    exact fun c hc => hletters c (sp.subset_letters c hc)
  have htext : ∀ c ∈ (Base64.encode o).toList, c ≠ '?' ∧ c ≠ '\n' :=
    Base64.forall_mem_encode (by decide) (by decide) o
  have hsplit : sp.write o ++ r = '=' :: '?' :: (sp.charset ++ '?' :: sp.coding :: '?' ::
      ((Base64.encode o).toList ++ '?' :: '=' :: r)) := by
    simp [Spelling.write]
  rw [hsplit, word?]
  simp only [List.takeWhile_append_of_pos hcharset, List.dropWhile_append_of_pos hcharset]
  simp [sp.coding?_eq, textUntilEnd?_append htext, Spelling.piece, Spelling.write]
  omega

/-- No word begins where no `=?` does. -/
lemma word?_eq_none {c : Char} {r : List Char} (h : ¬ (c = '=' ∧ r.head? = some '?')) :
    word? (c :: r) = none := by
  unfold word?
  split
  · next heq =>
    cases heq
    exact absurd ⟨rfl, rfl⟩ h
  · rfl

lemma piecesFrom_skip (plain t r : List Char) :
    piecesFrom plain t.length (t ++ r) = piecesFrom plain 0 r := by
  induction t with
  | nil => rfl
  | cons c t ih => exact ih

lemma piecesFrom_write (plain : List Char) (sp : Spelling) (o : List UInt8) (r : List Char) :
    piecesFrom plain 0 (sp.write o ++ r) =
      withPlain plain (sp.piece o :: piecesFrom [] 0 r) := by
  have hword := word?_write sp o r
  rw [sp.write_eq_cons] at hword ⊢
  rw [piecesFrom, hword]
  dsimp only
  have hlength : (sp.write o).length - 1 = (sp.write o).tail.length := List.length_tail.symm
  rw [hlength, piecesFrom_skip]

/-- No word begins in text without `=?`, also if something follows it that does not begin with a
question mark. -/
lemma word?_eq_none_of_unmarked {c : Char} {p r : List Char} (hp : ¬ "=?".toList <:+: c :: p)
    (hr : r.head? ≠ some '?') : word? (c :: (p ++ r)) = none := by
  apply word?_eq_none
  rintro ⟨rfl, hhead⟩
  cases p with
  | nil => exact hr hhead
  | cons d p =>
    cases hhead
    exact hp ⟨[], p, rfl⟩

lemma piecesFrom_plain {p r : List Char} (plain : List Char) (hp : ¬ "=?".toList <:+: p)
    (hr : r.head? ≠ some '?') :
    piecesFrom plain 0 (p ++ r) = piecesFrom (p.reverse ++ plain) 0 r := by
  induction p generalizing plain with
  | nil => rfl
  | cons c p ih =>
    rw [List.cons_append, piecesFrom, word?_eq_none_of_unmarked hp hr]
    dsimp only
    rw [ih (c :: plain) fun h => hp (h.trans (List.suffix_cons c p).isInfix)]
    simp

lemma hasWord_eq_false {p : List Char} (hp : ¬ "=?".toList <:+: p) : hasWord p = false := by
  induction p with
  | nil => rfl
  | cons c p ih =>
    have hnone := word?_eq_none_of_unmarked (r := []) hp nofun
    rw [List.append_nil] at hnone
    rw [hasWord, hnone, ih fun h => hp (h.trans (List.suffix_cons c p).isInfix)]
    rfl

lemma hasWord_append_write (p : List Char) (sp : Spelling) (o : List UInt8) (r : List Char) :
    hasWord (p ++ (sp.write o ++ r)) = true := by
  induction p with
  | nil =>
    have hword := word?_write sp o r
    rw [sp.write_eq_cons] at hword
    rw [List.nil_append, sp.write_eq_cons, hasWord, hword]
    rfl
  | cons c p ih => rw [List.cons_append, hasWord, ih, Bool.or_true]

lemma isLineEnd_eq_false {c : Char} (h : Text.isSpace c = false) : Text.isLineEnd c = false := by
  unfold Text.isSpace at h
  unfold Text.isLineEnd
  grind

/-- A text without separators of lines is one line. -/
lemma lines_eq_singleton {s : List Char} (hne : s ≠ []) (h : ∀ c ∈ s, Text.isLineEnd c = false) :
    Text.lines s = [s] := by
  have honto : ∀ line t : List Char, (∀ c ∈ t, Text.isLineEnd c = false) →
      (line.reverse ++ t ≠ []) → Text.linesOnto [] line t = [line.reverse ++ t] := by
    intro line t ht hline
    induction t generalizing line with
    | nil => simp_all [Text.linesOnto]
    | cons c t ih =>
      obtain ⟨hc, ht⟩ := List.forall_mem_cons.1 ht
      have hreturn : (c == '\r') = false := by
        by_contra hr
        simp only [Bool.not_eq_false, beq_iff_eq] at hr
        rw [hr] at hc
        cases hc
      rw [Text.linesOnto, hc, hreturn, ih (c :: line) ht (by simp)]
      simp
  exact honto [] s h hne

lemma pieces_of_line {s : List Char} (hhead : ∃ c r, s = c :: r ∧ Text.isSpace c = false)
    (h : ∀ c ∈ s, Text.isLineEnd c = false) : pieces s = piecesFrom [] 0 s := by
  obtain ⟨c, r, rfl, hc⟩ := hhead
  unfold pieces
  rw [lines_eq_singleton (List.cons_ne_nil c r) h, List.flatMap_singleton, List.dropWhile_cons, hc]
  rfl

/-! ## Reading the pieces -/

/-- The octets of a word and its character set. -/
def utf8Run (o : List UInt8) : List UInt8 × Option (List Char) :=
  (o, some "utf-8".toList)

lemma charOctets_of_lt {c : Char} (h : c.toNat < 0x100) : charOctets c = [.ofNat c.toNat] := by
  rw [charOctets, if_pos h]

lemma octets_eq_map {s : List Char} (h : ∀ c ∈ s, c.toNat < 0x100) :
    octets s = s.map Base64.octet := by
  induction s with
  | nil => rfl
  | cons c s ih =>
    obtain ⟨hc, hs⟩ := List.forall_mem_cons.1 h
    change charOctets c ++ octets s = _
    rw [charOctets_of_lt hc, ih hs]
    rfl

lemma read_piece (sp : Spelling) (o : List UInt8) : (sp.piece o).read = .ok (utf8Run o) := by
  have hascii : ∀ c ∈ (Base64.encode o).toList, c.toNat < 0x100 :=
    Base64.forall_mem_encode (by decide) (by decide) o
  have hlength : (4 - (Base64.encode o).toList.length % 4) % 4 = 0 := by
    obtain ⟨k, hk⟩ := Base64.four_dvd_length_encodeOnto o
    rw [Base64.encode, String.toList_ofList, hk]
    omega
  unfold Spelling.piece Piece.read
  dsimp only
  rw [hlength, octets_eq_map hascii, List.replicate_zero, List.append_nil,
    Base64.decodeLenient?_encode]
  dsimp only
  rw [sp.lowerChars_charset]
  rfl

lemma readOctets_utf8 (o : List UInt8) :
    readOctets o (some "utf-8".toList) = .ok (Utf8.decode o) := by
  have hname : ofName? "utf-8".toList = some .utf8 := by decide
  have hnul : "utf-8".toList.contains '\x00' = false := by decide
  change readNamed "utf-8".toList o = _
  rw [readNamed, charsetNamed, hnul, hname]
  rfl

/-- What a value with a word in it stands for, step by step. -/
lemma decodeChars_eq_ok {s value : List Char} {runs : List (List UInt8 × Option (List Char))}
    {texts : List (List Char)} (hvalue : unfoldLines s = value) (hword : hasWord value = true)
    (hruns : (dropGaps false (pieces value)).mapM Piece.read = .ok runs)
    (htexts : (merge runs).mapM (fun r => readOctets r.1 r.2) = .ok texts) :
    decodeChars s = .ok texts.flatten := by
  unfold decodeChars
  dsimp only
  rw [hvalue, if_pos hword]
  exact bind_eq_ok.2 ⟨runs, hruns, bind_eq_ok.2 ⟨texts, htexts, rfl⟩⟩

/-! ## Words behind each other -/

/-- What stands between two words: a blank, or the end of a line and the blanks and tabs with which
the next line begins. -/
def IsGap (g : List Char) : Prop :=
  g = [' '] ∨ ∃ ending blanks : List Char, (ending = [] ∨ ending = ['\r']) ∧ blanks ≠ [] ∧
    (∀ c ∈ blanks, c = ' ' ∨ c = '\t') ∧ g = ending ++ '\n' :: blanks

/-- Words that spell octets, each but the first with what stands before it. -/
def writeWords (sp : Spelling) (o : List UInt8) (rest : List (List Char × Spelling × List UInt8)) :
    List Char :=
  sp.write o ++ rest.flatMap fun x => x.1 ++ x.2.1.write x.2.2

/-- Joining lines copies what ends no line and is not passed over. -/
lemma unfoldFrom_cons {c : Char} {inFold : Bool} (hc : Text.isLineEnd c = false)
    (hkept : inFold = false ∨ Text.isSpace c = false) (r : List Char) :
    unfoldFrom inFold (c :: r) = c :: unfoldFrom false r := by
  have hreturn : c ≠ '\r' := by
    rintro rfl
    cases hc
  have hfeed : c ≠ '\n' := by
    rintro rfl
    cases hc
  rw [unfoldFrom]
  · refine if_neg ?_
    intro hblank
    simp only [Bool.and_eq_true, Bool.or_eq_true, beq_iff_eq] at hblank
    obtain ⟨rfl, rfl | rfl⟩ := hblank <;> exact absurd hkept (by decide)
  · exact fun _ h _ => hreturn h
  · exact hfeed

/-- A single line is left as it is when lines are joined. -/
lemma unfoldLines_of_line {s : List Char} (h : ∀ c ∈ s, Text.isLineEnd c = false) :
    unfoldLines s = s := by
  unfold unfoldLines
  induction s with
  | nil => rfl
  | cons c s ih =>
    obtain ⟨hc, hs⟩ := List.forall_mem_cons.1 h
    rw [unfoldFrom_cons hc (.inl rfl), ih hs]

/-- A text without blanks and line breaks is copied when lines are joined. -/
lemma unfoldFrom_append {t : List Char} (hne : t ≠ []) (ht : ∀ c ∈ t, Text.isSpace c = false)
    (inFold : Bool) (r : List Char) :
    unfoldFrom inFold (t ++ r) = t ++ unfoldFrom false r := by
  induction t generalizing inFold with
  | nil => exact absurd rfl hne
  | cons c t ih =>
    obtain ⟨hc, ht⟩ := List.forall_mem_cons.1 ht
    rw [List.cons_append, unfoldFrom_cons (isLineEnd_eq_false hc) (.inr hc)]
    cases t with
    | nil => rfl
    | cons d t => rw [ih (List.cons_ne_nil _ _) ht]; rfl

lemma unfoldFrom_blanks {blanks : List Char} (h : ∀ c ∈ blanks, c = ' ' ∨ c = '\t')
    (r : List Char) : unfoldFrom true (blanks ++ r) = unfoldFrom true r := by
  induction blanks with
  | nil => rfl
  | cons c blanks ih =>
    obtain ⟨hc, hblanks⟩ := List.forall_mem_cons.1 h
    rw [List.cons_append, ← ih hblanks]
    obtain rfl | rfl := hc <;> rfl

/-- All gaps become a blank. -/
lemma unfoldFrom_gap {g : List Char} (hg : IsGap g) (r : List Char) :
    ∃ inFold, unfoldFrom false (g ++ r) = ' ' :: unfoldFrom inFold r := by
  obtain rfl | ⟨ending, blanks, hending, hne, hblanks, rfl⟩ := hg
  · exact ⟨false, rfl⟩
  · refine ⟨true, ?_⟩
    obtain ⟨c, blanks, rfl⟩ := List.exists_cons_of_ne_nil hne
    obtain ⟨hc, hblanks⟩ := List.forall_mem_cons.1 hblanks
    rw [← unfoldFrom_blanks hblanks]
    obtain rfl | rfl := hending <;> obtain rfl | rfl := hc <;> rfl

section Words

variable {sp sp' : Spelling} {o o' : List UInt8} {g : List Char}
variable {rest : List (List Char × Spelling × List UInt8)}

/-- The same words with a blank before each. -/
def blankGaps (rest : List (List Char × Spelling × List UInt8)) :
    List (List Char × Spelling × List UInt8) :=
  rest.map fun x => ([' '], x.2)

lemma writeWords_cons : writeWords sp o ((g, sp', o') :: rest) =
    sp.write o ++ (g ++ writeWords sp' o' rest) := by
  simp [writeWords]

lemma unfoldFrom_writeWords (h : ∀ x ∈ rest, IsGap x.1) (inFold : Bool) :
    unfoldFrom inFold (writeWords sp o rest) = writeWords sp o (blankGaps rest) := by
  induction rest generalizing sp o inFold with
  | nil => exact unfoldFrom_append (sp.write_ne_nil o) Spelling.isSpace_of_mem_write inFold []
  | cons x rest ih =>
    obtain ⟨g, sp', o'⟩ := x
    obtain ⟨hg, hrest⟩ := List.forall_mem_cons.1 h
    obtain ⟨inFold', hgap⟩ := unfoldFrom_gap hg (writeWords sp' o' rest)
    rw [writeWords_cons, unfoldFrom_append (sp.write_ne_nil o) Spelling.isSpace_of_mem_write,
      hgap, ih hrest]
    exact (writeWords_cons (g := [' '])).symm

/-- The pieces of words, each but the first with a blank before it. -/
def wordPieces (sp : Spelling) (o : List UInt8) (rest : List (List Char × Spelling × List UInt8)) :
    List Piece :=
  sp.piece o :: rest.flatMap fun x => [.plain [' '], x.2.1.piece x.2.2]

lemma piecesFrom_writeWords (plain : List Char) :
    piecesFrom plain 0 (writeWords sp o (blankGaps rest)) =
      withPlain plain (wordPieces sp o rest) := by
  induction rest generalizing plain sp o with
  | nil => exact piecesFrom_write plain sp o []
  | cons x rest ih =>
    obtain ⟨g, sp', o'⟩ := x
    have hcons : blankGaps ((g, sp', o') :: rest) = ([' '], sp', o') :: blankGaps rest := rfl
    have hhead : (writeWords sp' o' (blankGaps rest)).head? ≠ some '?' := by
      simp [writeWords, Spelling.write]
    rw [hcons, writeWords_cons, piecesFrom_write, piecesFrom_plain [] (by decide) hhead, ih]
    rfl

lemma isBlank_piece (sp : Spelling) (o : List UInt8) : (sp.piece o).isBlank = false := by
  have hsolid : ∀ c ∈ (Base64.encode o).toList, Text.isSpace c = false :=
    Base64.forall_mem_encode (by decide) (by decide) o
  change (!(Base64.encode o).toList.isEmpty && (Base64.encode o).toList.all Text.isSpace) = false
  cases h : (Base64.encode o).toList with
  | nil => rfl
  | cons c t =>
    rw [h] at hsolid
    rw [List.all_cons, hsolid c List.mem_cons_self]
    rfl

lemma dropGaps_wordPieces (afterWord : Bool) :
    dropGaps afterWord (wordPieces sp o rest) =
      sp.piece o :: rest.map fun x => x.2.1.piece x.2.2 := by
  induction rest generalizing afterWord sp o with
  | nil => simp [wordPieces, dropGaps, isBlank_piece]
  | cons x rest ih =>
    obtain ⟨g, sp', o'⟩ := x
    have hsplit : wordPieces sp o ((g, sp', o') :: rest) =
        sp.piece o :: .plain [' '] :: wordPieces sp' o' rest := rfl
    rw [hsplit, dropGaps, isBlank_piece, Bool.and_false, Bool.false_and, if_neg Bool.false_ne_true]
    have hgap : dropGaps true (.plain [' '] :: wordPieces sp' o' rest) =
        dropGaps false (wordPieces sp' o' rest) := rfl
    rw [List.map_cons, ← ih false, ← hgap]
    rfl

lemma mapM_read_words : (sp.piece o :: rest.map fun x => x.2.1.piece x.2.2).mapM Piece.read =
    .ok (utf8Run o :: rest.map fun x => utf8Run x.2.2) := by
  induction rest generalizing sp o with
  | nil => exact mapM_cons_eq_ok.2 ⟨_, [], read_piece sp o, rfl, rfl⟩
  | cons x rest ih => exact mapM_cons_eq_ok.2 ⟨_, _, read_piece sp o, ih, rfl⟩

/-- The octets of neighbours are joined. -/
lemma merge_words : merge (utf8Run o :: rest.map fun x => utf8Run x.2.2) =
    [utf8Run (o ++ (rest.map fun x => x.2.2).flatten)] := by
  induction rest generalizing o with
  | nil => simp [merge, utf8Run]
  | cons x rest ih =>
    rw [List.map_cons, merge, ih]
    simp [utf8Run]

lemma isLineEnd_of_mem_writeWords :
    ∀ c ∈ writeWords sp o (blankGaps rest), Text.isLineEnd c = false := by
  intro c hc
  obtain hc | hc := List.mem_append.1 hc
  · exact isLineEnd_eq_false (Spelling.isSpace_of_mem_write c hc)
  · obtain ⟨x, hx, hc⟩ := List.mem_flatMap.1 hc
    obtain ⟨y, -, rfl⟩ := List.mem_map.1 hx
    obtain hc | hc := List.mem_append.1 hc
    · rw [List.mem_singleton.1 hc]
      rfl
    · exact isLineEnd_eq_false (Spelling.isSpace_of_mem_write c hc)

lemma decodeChars_writeWords (h : ∀ x ∈ rest, IsGap x.1) :
    decodeChars (writeWords sp o rest) =
      .ok (Utf8.decode (o ++ (rest.map fun x => x.2.2).flatten)) := by
  have hunfold : unfoldLines (writeWords sp o rest) = writeWords sp o (blankGaps rest) :=
    unfoldFrom_writeWords h false
  have hword : hasWord (writeWords sp o (blankGaps rest)) = true :=
    hasWord_append_write [] sp o _
  have hpieces : pieces (writeWords sp o (blankGaps rest)) = wordPieces sp o rest := by
    have hhead : ∃ c r, writeWords sp o (blankGaps rest) = c :: r ∧ Text.isSpace c = false :=
      ⟨'=', _, rfl, rfl⟩
    rw [pieces_of_line hhead isLineEnd_of_mem_writeWords, piecesFrom_writeWords]
    rfl
  have hruns : (sp.piece o :: rest.map fun x => x.2.1.piece x.2.2).mapM Piece.read =
      .ok (utf8Run o :: rest.map fun x => utf8Run x.2.2) := mapM_read_words
  rw [← dropGaps_wordPieces false, ← hpieces] at hruns
  have htexts : (merge (utf8Run o :: rest.map fun x => utf8Run x.2.2)).mapM
      (fun r => readOctets r.1 r.2) =
      .ok [Utf8.decode (o ++ (rest.map fun x => x.2.2).flatten)] := by
    rw [merge_words]
    exact mapM_cons_eq_ok.2 ⟨_, [], readOctets_utf8 _, rfl, rfl⟩
  rw [decodeChars_eq_ok hunfold hword hruns htexts, List.flatten_singleton]

end Words

/-- A text is read back from the words that spell its octets, wherever these are cut, and whatever
gaps are between the words. -/
theorem decode_words (s : String) (sp : Spelling) (o : List UInt8)
    (rest : List (List Char × Spelling × List UInt8)) (hgaps : ∀ x ∈ rest, IsGap x.1)
    (hcut : o ++ (rest.map fun x => x.2.2).flatten = Utf8.encode s.toList) :
    decodeValue (String.ofList (writeWords sp o rest)) = .ok s := by
  unfold decodeValue
  rw [String.toList_ofList, decodeChars_writeWords hgaps, hcut, Utf8.decode_encode]
  simp [Except.map, Except.mapError]

/-- Two characters in three words, both cut inside, on two lines. -/
def cutWords : List (List Char × Spelling × List UInt8) :=
  [("\r\n \t".toList, .small, [0xa9, 0xe2]), ([' '], .small, [0x82, 0xac])]

theorem decode_words_of_cutWords :
    (∀ x ∈ cutWords, IsGap x.1) ∧
      [0xc3] ++ (cutWords.map fun x => x.2.2).flatten = Utf8.encode "é€".toList ∧
      decodeValue "=?utf-8?b?ww==?=\r\n \t=?utf-8?b?qeI=?= =?utf-8?b?gqw=?=" = .ok "é€" := by
  have hgaps : ∀ x ∈ cutWords, IsGap x.1 := by
    simp only [cutWords, List.forall_mem_cons]
    exact ⟨.inr ⟨['\r'], [' ', '\t'], .inr rfl, by decide, by simp, rfl⟩, .inl rfl,
      List.forall_mem_nil _⟩
  have hcut : [0xc3] ++ (cutWords.map fun x => x.2.2).flatten = Utf8.encode "é€".toList := by
    decide +kernel
  have hwritten : String.ofList (writeWords .small [0xc3] cutWords) =
      "=?utf-8?b?ww==?=\r\n \t=?utf-8?b?qeI=?= =?utf-8?b?gqw=?=" := by decide +kernel
  refine ⟨hgaps, hcut, ?_⟩
  rw [← hwritten]
  exact decode_words "é€" .small [0xc3] cutWords hgaps hcut

end Mailroom.Mail.EncodedWord
