import Mailroom.Html.Printer
import Mailroom.Proofs.Checks

/-!
# Names of attributes

The names of the attributes of a parsed document are in lower case. A name that becomes an ASCII
word when it is lowered once more is that word, so no other name passes for an allowed one.
-/

namespace Mailroom

namespace Text

/-- A run of characters beyond ASCII whose lower case is beyond ASCII as well and is no KELVIN SIGN,
the only character beyond ASCII with a lower case in ASCII. -/
def IsPlainRun (r : Nat × Nat × Nat × Int) : Prop :=
  0x80 ≤ (r.1 : Int) + r.2.2.2 ∧
    ((r.2.1 : Int) + r.2.2.2 < 0x212a ∨ 0x212a < (r.1 : Int) + r.2.2.2) ∧
    ((r.2.1 : Int) + r.2.2.2 < 0xd800 ∨
      0xdfff < (r.1 : Int) + r.2.2.2 ∧ (r.2.1 : Int) + r.2.2.2 < 0x110000)

instance (r : Nat × Nat × Nat × Int) : Decidable (IsPlainRun r) := by
  unfold IsPlainRun
  infer_instance

lemma lowerRuns_cases : ∀ r ∈ lowerRuns,
    r.2.1 < 0x80 ∨ r = (0x212a, 0x212a, 1, -8383) ∨ IsPlainRun r := by
  decide +kernel

lemma applyRuns_lowerRuns {n : Nat} (hn : 0x80 ≤ n) (hvalid : n.isValidChar)
    (hkelvin : n ≠ 0x212a) :
    0x80 ≤ applyRuns lowerRuns n ∧ applyRuns lowerRuns n ≠ 0x212a ∧
      (applyRuns lowerRuns n).isValidChar := by
  unfold applyRuns
  cases hfind : lowerRuns.find? fun r => r.1 ≤ n && n ≤ r.2.1 && (n - r.1) % r.2.2.1 == 0 with
  | none => exact ⟨hn, hkelvin, hvalid⟩
  | some r =>
    have hin := List.find?_some hfind
    simp only [Bool.and_eq_true, decide_eq_true_eq] at hin
    obtain ⟨⟨hlow, hhigh⟩, -⟩ := hin
    dsimp only
    rcases lowerRuns_cases r (List.mem_of_find?_eq_some hfind) with hascii | rfl | hplain
    · omega
    · dsimp only at hlow hhigh
      omega
    · unfold IsPlainRun at hplain
      unfold Nat.isValidChar
      omega

lemma toNat_ofNat {n : Nat} (h : n.isValidChar) : (Char.ofNat n).toNat = n := by
  unfold Char.ofNat
  rw [dif_pos h]
  rfl

lemma toLower_toLower (c : Char) : c.toLower.toLower = c.toLower := by
  unfold Char.toLower
  grind

lemma toLower_eq_self {c : Char} (h : 0x80 ≤ c.toNat) : c.toLower = c := by
  unfold Char.toLower
  rw [dif_neg]
  rintro ⟨-, hz⟩
  have hlast : c.val.toNat ≤ 90 := UInt32.le_iff_toNat_le.1 hz
  unfold Char.toNat at h
  omega

lemma toNat_toLower_lt {c : Char} (h : c.toNat < 0x80) : c.toLower.toNat < 0x80 := by
  unfold Char.toLower
  split
  · next hcapital =>
    have hlast : c.val.toNat ≤ 90 := UInt32.le_iff_toNat_le.1 hcapital.2
    change (c.val + 32).toNat < 0x80
    have : (32 : UInt32).toNat = 32 := rfl
    rw [UInt32.toNat_add]
    omega
  · exact h

/-- Whether a character can stand in a text in lower case. -/
def IsLowered (d : Char) : Prop :=
  d.toLower = d ∧ d.toNat ≠ 0x212a

lemma isLowered_of_mem_lowerChar {before after : List Char} {c d : Char}
    (h : d ∈ lowerChar before c after) : IsLowered d := by
  unfold lowerChar at h
  split at h
  · next hascii =>
    rw [List.mem_singleton.1 h]
    have := toNat_toLower_lt hascii
    exact ⟨toLower_toLower c, by omega⟩
  · next hwide =>
    split at h
    · split at h <;> rw [List.mem_singleton.1 h] <;> exact ⟨by decide, by decide⟩
    · split at h
      · simp only [List.mem_cons, List.not_mem_nil, or_false] at h
        rcases h with rfl | rfl <;> exact ⟨by decide, by decide⟩
      · rw [List.mem_singleton.1 h]
        -- KELVIN SIGN becomes an ASCII letter, every other wide character stays beyond ASCII.
        by_cases hkelvin : c.toNat = 0x212a
        · rw [hkelvin]
          exact ⟨by decide, by decide⟩
        · have hvalid : c.toNat.isValidChar := c.valid
          obtain ⟨hbeyond, hne, hvalid⟩ := applyRuns_lowerRuns (by omega) hvalid hkelvin
          refine ⟨toLower_eq_self ?_, ?_⟩ <;> rw [toNat_ofNat hvalid] <;> assumption

lemma lowerChar_eq_self {before after : List Char} {d : Char} (hd : IsLowered d)
    (hascii : ∀ e ∈ lowerChar before d after, e.toNat < 0x80) :
    lowerChar before d after = [d] := by
  unfold lowerChar at hascii ⊢
  split at hascii
  · next h => rw [if_pos h, hd.1]
  · split at hascii
    · split at hascii <;> exact absurd (hascii _ (List.mem_singleton.2 rfl)) (by decide)
    · split at hascii
      · exact absurd (hascii (Char.ofNat 0x307) (by simp)) (by decide)
      · have hvalid : d.toNat.isValidChar := d.valid
        obtain ⟨hbeyond, -, hvalid⟩ := applyRuns_lowerRuns (by omega) hvalid hd.2
        have := hascii _ (List.mem_singleton.2 rfl)
        rw [toNat_ofNat hvalid] at this
        omega

lemma isLowered_of_mem_lowerFrom {before s : List Char} {d : Char} (h : d ∈ lowerFrom before s) :
    IsLowered d := by
  induction s generalizing before with
  | nil => simp [lowerFrom] at h
  | cons c r ih =>
    rcases List.mem_append.1 h with h | h
    · exact isLowered_of_mem_lowerChar h
    · exact ih h

lemma lowerFrom_eq_self {before s : List Char} (hs : ∀ d ∈ s, IsLowered d)
    (hascii : ∀ e ∈ lowerFrom before s, e.toNat < 0x80) : lowerFrom before s = s := by
  induction s generalizing before with
  | nil => rfl
  | cons c r ih =>
    rw [List.forall_mem_cons] at hs
    have hc := lowerChar_eq_self hs.1 fun e he => hascii e (List.mem_append_left _ he)
    have hr := ih hs.2 fun e he => hascii e (List.mem_append_right _ he)
    rw [lowerFrom, hc, hr]
    rfl

end Text

namespace Html

/-- A name as the scanner gives it. -/
def IsName (name : String) : Prop :=
  ∃ written, name = Scanner.lowerName written

/-- Lowering a name once more changes it only where the result is beyond ASCII. -/
lemma IsName.lower_eq {name : String} (h : IsName name)
    (hascii : ∀ c ∈ (Text.lower name).toList, c.toNat < 0x80) : Text.lower name = name := by
  obtain ⟨written, rfl⟩ := h
  unfold Scanner.lowerName Text.lower at *
  simp only [String.toList_ofList] at hascii ⊢
  congr 1
  exact Text.lowerFrom_eq_self (fun d => Text.isLowered_of_mem_lowerFrom) hascii

lemma allowedAttributes_ascii :
    ∀ name ∈ allowedAttributes, ∀ c ∈ name.toList, c.toNat < 0x80 := by
  have h : (allowedAttributes.all fun name => name.toList.all (·.toNat < 0x80)) = true := by
    decide
  simpa only [List.all_eq_true, decide_eq_true_eq] using h

lemma IsName.mem_allowedAttributes {a : String × String} (h : IsName a.1)
    (hkept : keepsAttribute a = true) : a.1 ∈ allowedAttributes := by
  simp only [keepsAttribute, Bool.and_eq_true, List.contains_iff_mem] at hkept
  rw [← h.lower_eq (allowedAttributes_ascii _ hkept.1)]
  exact hkept.1

/-! ## Scanning -/

/-- Whether the attributes of a start tag are named as the scanner names them. -/
def Token.Named : Token → Prop
  | .start _ attributes _ => ∀ a ∈ attributes, IsName a.1
  | _ => True

namespace Scanner

def Found.Named : Found → Prop
  | .token t _ => t.Named
  | _ => True

lemma named_finished {read : List (List Char × List Char)} {attributes : List (String × String)}
    (h : finished read = .ok attributes) : ∀ a ∈ attributes, IsName a.1 := by
  unfold finished at h
  induction read generalizing attributes with
  | nil =>
    cases h
    simp
  | cons one read ih =>
    obtain ⟨a, rest, ha, hrest, rfl⟩ := mapM_cons_eq_ok.1 h
    obtain ⟨value, -, ha⟩ := bind_eq_ok.1 ha
    cases ha
    exact List.forall_mem_cons.2 ⟨⟨one.1, rfl⟩, ih hrest⟩

lemma named_startTag {fuel : Nat} {s : List Char} {found : Found}
    (h : startTag fuel s = .ok found) : found.Named := by
  unfold startTag at h
  dsimp only at h
  split at h
  · cases h
    trivial
  · obtain ⟨attributes, hattributes, h⟩ := bind_eq_ok.1 h
    cases h
    exact named_finished hattributes
  · obtain ⟨attributes, hattributes, h⟩ := bind_eq_ok.1 h
    cases h
    exact named_finished hattributes
  · split at h
    · cases h
      trivial
    · obtain ⟨_, -, h⟩ := bind_eq_ok.1 h
      cases h
      trivial

lemma named_endTag (s : List Char) : (endTag s).Named := by
  unfold endTag
  split
  · trivial
  · dsimp only
    repeat' split
    all_goals trivial

lemma named_markedSection {s : List Char} {found : Found}
    (h : markedSection s = .ok found) : found.Named := by
  unfold markedSection at h
  dsimp only at h
  repeat' split at h
  all_goals cases h
  all_goals trivial

lemma named_declaration {s : List Char} {found : Found}
    (h : declaration s = .ok found) : found.Named := by
  unfold declaration at h
  dsimp only at h
  split at h
  · split at h <;> cases h <;> trivial
  · exact named_markedSection h
  · split at h <;> cases h <;> split <;> trivial

lemma named_tag {fuel : Nat} {s : List Char} {found : Found}
    (h : tag fuel s = .ok found) : found.Named := by
  unfold tag at h
  split at h
  · cases h
    trivial
  · cases h
    exact named_endTag _
  · exact named_declaration h
  · split at h <;> cases h <;> trivial
  · split at h
    · exact named_startTag h
    · cases h
      trivial

lemma named_withText {s : List Char} {ts : List Token} (h : ∀ t ∈ ts, t.Named) :
    ∀ t ∈ withText s ts, t.Named := by
  unfold withText
  split
  · exact h
  · exact List.forall_mem_cons.2 ⟨trivial, h⟩

lemma named_pass {final : Bool} {done : List Token} {fuel : Nat} {raw : Option String}
    {s : List Char} {stopped : Stopped} (hdone : ∀ t ∈ done, t.Named)
    (h : pass final done fuel raw s = .ok stopped) : ∀ t ∈ stopped.done, t.Named := by
  -- The pass stops with the tokens it has, fails, or goes on with at most one token more.
  fun_induction pass final done fuel raw s with
  | case1 | case3 =>
    cases h
    exact hdone
  | case5 | case10 => cases h
  | case6 =>
    rename_i htag ih
    exact ih (List.forall_mem_cons.2 ⟨named_tag htag, named_withText hdone⟩) h
  | case7 =>
    rename_i ih
    exact ih (named_withText hdone) h
  | case2 | case8 | case11 | case14 | case17 | case19 =>
    rename_i ih
    exact ih (List.forall_mem_cons.2 ⟨trivial, named_withText hdone⟩) h
  | case12 =>
    cases h
    exact List.forall_mem_cons.2 ⟨trivial, named_withText hdone⟩
  | case4 | case9 | case13 | case15 | case16 | case18 =>
    cases h
    exact named_withText hdone

lemma named_tokens {s : List Char} {ts : List Token} (h : tokens s = .ok ts) :
    ∀ t ∈ ts, t.Named := by
  unfold tokens at h
  obtain ⟨first, hfirst, h⟩ := bind_eq_ok.1 h
  obtain ⟨last, hlast, h⟩ := bind_eq_ok.1 h
  have hnamed := named_pass (named_pass (by simp) hfirst) hlast
  intro t ht
  split at h <;> cases h <;> rw [List.mem_reverse] at ht
  · exact List.forall_mem_cons.2 ⟨trivial, hnamed⟩ t ht
  · exact hnamed t ht

end Scanner

/-! ## Building the tree -/

/-- Trees in which all attributes are named as the scanner names them. -/
inductive Node.Named : Node → Prop
  | text (s : String) : (Node.text s).Named
  | comment (s : String) : (Node.comment s).Named
  | verbatim (kind : Verbatim) (s : String) : (Node.verbatim kind s).Named
  | element {name : String} {attributes : List (String × String)} {children : List Node}
      (hattributes : ∀ a ∈ attributes, IsName a.1) (hchildren : ∀ n ∈ children, n.Named) :
      (Node.element name attributes children).Named

/-- An open element that can become a part of such a tree. -/
structure Frame.Named (f : Frame) : Prop where
  attributes : ∀ a ∈ f.attributes, IsName a.1
  children : ∀ n ∈ f.children, n.Named

namespace Builder

structure Named (b : Builder) : Prop where
  frames : ∀ f ∈ b.frames, f.Named
  roots : ∀ n ∈ b.roots, n.Named

variable {b : Builder}

lemma named_empty : empty.Named := ⟨by simp [empty], by simp [empty]⟩

lemma Named.place (h : b.Named) {n : Node} (hn : n.Named) : (place n b).Named := by
  unfold Builder.place
  split
  · exact ⟨h.frames, List.forall_mem_cons.2 ⟨hn, h.roots⟩⟩
  · next f fs hb =>
    obtain ⟨hf, hfs⟩ := List.forall_mem_cons.1 (hb ▸ h.frames)
    exact ⟨List.forall_mem_cons.2
      ⟨⟨hf.attributes, List.forall_mem_cons.2 ⟨hn, hf.children⟩⟩, hfs⟩, h.roots⟩

lemma Named.pop (h : b.Named) : b.pop.Named := by
  unfold Builder.pop
  split
  · exact h
  · next f fs hb =>
    obtain ⟨hf, hfs⟩ := List.forall_mem_cons.1 (hb ▸ h.frames)
    have hrest : Named { b with frames := fs } := ⟨hfs, h.roots⟩
    exact hrest.place
      (.element hf.attributes fun n hn => hf.children n (List.mem_reverse.1 hn))

lemma Named.popMany (h : b.Named) (n : Nat) : (popMany n b).Named := by
  induction n generalizing b with
  | zero => exact h
  | succ n ih => exact ih h.pop

lemma Named.popTo (h : b.Named) (name : String) : (popTo name b).Named := by
  unfold Builder.popTo
  split
  · exact h
  · exact h.popMany _

lemma Named.flush (h : b.Named) : b.flush.Named := by
  unfold Builder.flush
  split
  · exact h
  · have hplaced : Named { b with pending := [] } := ⟨h.frames, h.roots⟩
    exact hplaced.place (.text _)

lemma Named.stop (h : b.Named) (name : String) : (stop name b).Named := by
  unfold Builder.stop
  split
  · exact ⟨h.frames, h.roots⟩
  · exact h.flush.popTo name

lemma mem_of_mem_distinct {attributes : List (String × String)} {a : String × String}
    (h : a ∈ distinct attributes) : a ∈ attributes := by
  induction attributes with
  | nil => exact h
  | cons first attributes ih =>
    unfold distinct at h
    split at h
    · exact List.mem_cons_of_mem _ (ih h)
    · exact List.mem_cons.2 ((List.mem_cons.1 h).imp_right ih)

lemma Named.add (h : b.Named) {t : Token} (ht : t.Named) : (b.add t).Named := by
  cases t with
  | text s => exact ⟨h.frames, h.roots⟩
  | start name attributes selfClosing =>
    have hopen : Named
        { b.flush with frames := ⟨name, distinct attributes, []⟩ :: b.flush.frames } :=
      ⟨List.forall_mem_cons.2 ⟨⟨fun a ha => ht a (mem_of_mem_distinct ha), by simp⟩,
        h.flush.frames⟩, h.flush.roots⟩
    unfold Builder.add
    dsimp only
    split
    · exact hopen.pop
    · split
      · exact ⟨hopen.pop.frames, hopen.pop.roots⟩
      · exact hopen
  | stop name => exact h.stop name
  | comment s => exact h.flush.place (.comment _)
  | instruction s => exact h.flush.place (.verbatim _ _)
  | doctype s => exact h.flush.place (.verbatim _ _)
  | marked s =>
    unfold Builder.add
    dsimp only
    split <;> exact h.flush.place (.verbatim _ _)

lemma Named.foldl_add (h : b.Named) {ts : List Token} (hts : ∀ t ∈ ts, t.Named) :
    (ts.foldl Builder.add b).Named := by
  induction ts generalizing b with
  | nil => exact h
  | cons t ts ih =>
    rw [List.forall_mem_cons] at hts
    exact ih (h.add hts.1) hts.2

lemma Named.nodes (h : b.Named) : ∀ n ∈ b.nodes, n.Named :=
  fun n hn => (h.flush.popMany _).roots n (List.mem_reverse.1 hn)

end Builder

/-- The attributes of a parsed document have names as the scanner gives them. -/
theorem named_parse {html : String} {ns : List Node} (h : parse html = .ok ns) :
    ∀ n ∈ ns, n.Named := by
  unfold parse at h
  obtain ⟨ts, hts, h⟩ := bind_eq_ok.1 h
  cases h
  exact (Builder.named_empty.foldl_add (Scanner.named_tokens hts)).nodes

end Html

end Mailroom
