import Mailroom.Mail.Defect
import Mailroom.Proofs.Checks

/-!
# Refused octets

Octets in a named character set can be read unless the name has a null character in it or the set
refuses them. Only four sets refuse anything, and what they refuse is told here. For the variant of
ISO 2022 among them this takes two escapes, one that designates a set to a place from which it
cannot be read and one that reads from there.
-/

namespace Mailroom

namespace Charset

section Reading

variable {σ : Type} {next : σ → UInt8 → List UInt8 → Step σ} {I : List UInt8 → σ → Prop}

/-- What a step preserves, given the octets behind it, holds after all octets. -/
lemma readOnto_invariant
    (hstep : ∀ before s b r, I before s →
      I (before ++ b :: r.take (next s b r).more) (next s b r).state) :
    ∀ (octets before : List UInt8) (skip : Nat) (done : List (Option Char)) (s : σ),
      I (before ++ octets.take skip) s → I (before ++ octets) (readOnto next done s skip octets).2
  | [], before, skip, done, s, h => by
    rw [List.take_nil] at h
    rw [readOnto]
    exact h
  | b :: r, before, skip + 1, done, s, h => by
    rw [readOnto]
    rw [List.take_succ_cons, List.append_cons] at h
    rw [List.append_cons]
    exact readOnto_invariant hstep r (before ++ [b]) skip done s h
  | b :: r, before, 0, done, s, h => by
    rw [List.take_zero, List.append_nil] at h
    have hnext := hstep before s b r h
    rw [List.append_cons] at hnext ⊢
    rw [readOnto]
    exact readOnto_invariant hstep r (before ++ [b]) _ _ _ hnext

lemma read_invariant
    (hstep : ∀ before s b r, I before s →
      I (before ++ b :: r.take (next s b r).more) (next s b r).state)
    {s : σ} (hstart : I [] s) (octets : List UInt8) : I octets (read next s octets).2 :=
  readOnto_invariant hstep octets [] 0 [] s hstart

end Reading

namespace Iso2022

variable {v : Variant} {s : State} {before : List UInt8}

/-- Among the octets is the escape that designates the set of a third place which cannot be read
from there. -/
def Designates (octets : List UInt8) : Prop :=
  [0x1b, 0x2e, 0x4a] <:+: octets

/-- Some octets designate such a set, and others after them call for a character of it. -/
def CallsMisplaced (octets : List UInt8) : Prop :=
  ∃ before after, octets = before ++ after ∧ Designates before ∧ [0x1b, 0x4e] <:+: after

/-- Which sets the third place can hold after some octets, and when it was called for in vain. -/
structure Sound (v : Variant) (before : List UInt8) (s : State) : Prop where
  third : s.third = .ascii ∨ v.hasThirdPlace = true ∧ (s.third = .latin1 ∨ s.third = .greek ∨
    s.third = .roman ∧ Designates before)
  broken : s.isBroken = true → v.hasThirdPlace = true ∧ CallsMisplaced before

lemma Designates.append (h : Designates before) (after : List UInt8) :
    Designates (before ++ after) :=
  h.trans (List.prefix_append _ _).isInfix

lemma CallsMisplaced.append (h : CallsMisplaced before) (after : List UInt8) :
    CallsMisplaced (before ++ after) := by
  obtain ⟨b, a, rfl, hdesignates, hcalls⟩ := h
  exact ⟨b, a ++ after, List.append_assoc .., hdesignates,
    hcalls.trans (List.prefix_append _ _).isInfix⟩

/-- More octets change nothing about what a state holds. -/
lemma Sound.append (h : Sound v before s) (after : List UInt8) : Sound v (before ++ after) s where
  third := h.third.imp_right fun ⟨hv, hthird⟩ =>
    ⟨hv, hthird.imp_right (Or.imp_right fun ⟨hroman, hdesignates⟩ =>
      ⟨hroman, hdesignates.append after⟩)⟩
  broken hb := ⟨(h.broken hb).1, (h.broken hb).2.append after⟩

/-- Nothing else in a state matters. -/
lemma Sound.of_eq {s' : State} (h : Sound v before s) (hthird : s'.third = s.third)
    (hbroken : s'.isBroken = s.isBroken) : Sound v before s' where
  third := by rw [hthird]; exact h.third
  broken := by rw [hbroken]; exact h.broken

/-- An escape designates to the third place only where there is one, and then one of four sets. -/
lemma designated?_cases {escape : List UInt8} {p : Part} {place : Nat}
    (h : designated? v escape = some (p, place)) :
    place = 0 ∨ place = 1 ∨ v.hasThirdPlace = true ∧ ∃ a c, escape = [a, 0x2e, c] ∧
      v.part? false c = some p := by
  unfold designated? at h
  split at h
  · obtain ⟨_, -, hp⟩ := Option.map_eq_some_iff.1 h
    cases hp
    exact .inl rfl
  · obtain ⟨_, -, hp⟩ := Option.map_eq_some_iff.1 h
    cases hp
    exact .inl rfl
  · obtain ⟨_, -, hp⟩ := Option.map_eq_some_iff.1 h
    cases hp
    exact .inr (.inl rfl)
  · split at h
    · obtain ⟨_, hpart, hp⟩ := Option.map_eq_some_iff.1 h
      cases hp
      exact .inr (.inr ⟨‹_›, _, _, rfl, hpart⟩)
    · cases h
  · obtain ⟨_, -, hp⟩ := Option.map_eq_some_iff.1 h
    cases hp
    exact .inl rfl
  · obtain ⟨_, -, hp⟩ := Option.map_eq_some_iff.1 h
    cases hp
    exact .inr (.inl rfl)
  · split at h
    · obtain ⟨_, -, hp⟩ := Option.map_eq_some_iff.1 h
      cases hp
      exact .inl rfl
    · cases h
  · cases h

lemma hasThirdPlace_iff : v.hasThirdPlace = true ↔ v = .jp2 := by
  cases v <;> decide

/-- The sets of one octet that the variant with a third place knows. -/
lemma part?_jp2_cases {c : UInt8} {p : Part} (h : Variant.part? .jp2 false c = some p) :
    p = .ascii ∨ p = .latin1 ∨ p = .greek ∨ p = .roman ∧ c = 0x4a := by
  unfold Variant.part? at h
  split at h <;> simp_all

lemma Sound.designate {p : Part} {place : Nat} {escape : List UInt8} (h : Sound v before s)
    (hp : designated? v (0x1b :: escape) = some (p, place)) :
    Sound v (before ++ 0x1b :: escape) (s.designate p place) := by
  have hkeeps := h.append (0x1b :: escape)
  obtain rfl | rfl | ⟨hv, a, c, hescape, hpart⟩ := designated?_cases hp
  · exact hkeeps.of_eq rfl rfl
  · exact hkeeps.of_eq rfl rfl
  obtain ⟨rfl, rfl⟩ := List.cons.inj hescape
  obtain rfl := hasThirdPlace_iff.1 hv
  rw [designated?, if_pos hv, hpart] at hp
  cases hp
  refine ⟨?_, hkeeps.broken⟩
  change p = _ ∨ _ ∧ (p = _ ∨ p = _ ∨ p = _ ∧ _)
  obtain hascii | hlatin | hgreek | ⟨hroman, rfl⟩ := part?_jp2_cases hpart
  · exact .inl hascii
  · exact .inr ⟨rfl, .inl hlatin⟩
  · exact .inr ⟨rfl, .inr (.inl hgreek)⟩
  · exact .inr ⟨rfl, .inr (.inr ⟨hroman, (List.suffix_append ..).isInfix⟩)⟩

/-- A character of the third place is called for. -/
lemma Sound.call {d : UInt8} {r : List UInt8} (h : Sound v before s)
    (hv : v.hasThirdPlace = true) :
    Sound v (before ++ 0x1b :: (0x4e :: d :: r).take (Iso2022.third s d).more)
      (Iso2022.third s d).state := by
  have hkeeps := h.append (0x1b :: (0x4e :: d :: r).take (Iso2022.third s d).more)
  have hfound : ∀ c : Option Char, ((c.map (Step.char s 2)).getD (.malformed s 2)).state = s := by
    rintro (_ | _) <;> rfl
  by_cases hset : s.third = .ascii ∨ s.third = .latin1 ∨ s.third = .greek
  · have hstate : (Iso2022.third s d).state = s := by
      unfold Iso2022.third
      rcases hset with hset | hset | hset <;> rw [hset] <;> exact hfound _
    rw [hstate]
    exact hkeeps
  · obtain hascii | ⟨-, hlatin | hgreek | ⟨hroman, hdesignates⟩⟩ := h.third
    · exact absurd (.inl hascii) hset
    · exact absurd (.inr (.inl hlatin)) hset
    · exact absurd (.inr (.inr hgreek)) hset
    have hstep : Iso2022.third s d = .silent { s with isBroken := true } 2 := by
      unfold Iso2022.third
      rw [hroman]
    rw [hstep] at hkeeps ⊢
    refine ⟨hkeeps.third, fun _ => ⟨hv, before, _, rfl, hdesignates, ?_⟩⟩
    exact ⟨[], [d], rfl⟩

lemma Sound.next {b : UInt8} {r : List UInt8} (h : Sound v before s) :
    Sound v (before ++ b :: r.take (next v s b r).more) (next v s b r).state := by
  have hsame : ∀ (n : Nat) (s' : State), s'.third = s.third → s'.isBroken = s.isBroken →
      Sound v (before ++ b :: r.take n) s' :=
    fun n s' hthird hbroken => (h.append _).of_eq hthird hbroken
  unfold Iso2022.next
  split
  · exact hsame _ _ rfl rfl
  split
  · exact hsame _ _ rfl rfl
  split
  · rename_i hescape
    obtain rfl : b = 0x1b := eq_of_beq hescape
    split
    · exact hsame _ _ rfl rfl
    · split
      · split
        · exact hsame _ _ rfl rfl
        · exact hsame _ _ rfl rfl
        · split
          · rename_i hp
            exact h.designate hp
          · exact hsame _ _ rfl rfl
      · split
        · rename_i hcall
          rw [Bool.and_eq_true, beq_iff_eq] at hcall
          obtain ⟨hv, rfl⟩ := hcall
          split
          · exact hsame _ _ rfl rfl
          · exact h.call hv
        · exact hsame _ _ rfl rfl
  split
  · exact hsame _ _ rfl rfl
  split
  · exact hsame _ _ rfl rfl
  split
  · exact hsame _ _ rfl rfl
  split
  · exact hsame _ _ rfl rfl
  · dsimp only
    generalize (if s.isShifted then s.second else s.first) = part
    split_ifs
    · exact hsame _ _ rfl rfl
    · exact hsame _ _ rfl rfl
    · exact hsame _ _ rfl rfl

/-- Octets are refused only by the variant with a third place, and only if they designate and call
for a set that cannot be read there. -/
lemma callsMisplaced_of_decode? {octets : List UInt8} (h : decode? v octets = none) :
    v = .jp2 ∧ CallsMisplaced octets := by
  have hsound : Sound v octets (read (next v) .start octets).2 :=
    read_invariant (I := Sound v) (fun _ _ _ _ h => h.next) ⟨.inl rfl, Bool.noConfusion⟩ octets
  have hbroken : (read (next v) .start octets).2.isBroken = true := by
    by_contra hwhole
    unfold decode? at h
    dsimp only at h
    rw [if_neg hwhole] at h
    cases h
  obtain ⟨hv, hcalls⟩ := hsound.broken hbroken
  exact ⟨hasThirdPlace_iff.1 hv, hcalls⟩

end Iso2022

/-- Octets that a set refuses although what is malformed is to be replaced. -/
def Refuses : Charset → List UInt8 → Prop
  | idna, s => s ≠ []
  | undefined, s => s ≠ []
  | punycode, s => ∃ b ∈ (Punycode.parts s).2, 0x80 ≤ b
  | stepped set, s => set.read? s = none
  | _, _ => False

variable {cs : Charset} {s : List UInt8}

/-- Of the sets that are read in steps one variant of ISO 2022 alone refuses anything. -/
theorem callsMisplaced_of_read? {set : Stepped} (h : set.read? s = none) :
    set = .iso2022 .jp2 ∧ Iso2022.CallsMisplaced s := by
  cases set with
  | iso2022 v =>
    obtain ⟨rfl, hcalls⟩ := Iso2022.callsMisplaced_of_decode? h
    exact ⟨rfl, hcalls⟩
  | _ => cases h

lemma Punycode.stray?_eq_none_iff :
    Punycode.stray? s = none ↔ ¬ ∃ b ∈ (Punycode.parts s).2, 0x80 ≤ b := by
  have hmem : ∀ b, b ∈ (Punycode.parts s).2 ↔ ∃ i, (b, i) ∈ (Punycode.parts s).2.zipIdx := by
    intro b
    rw [List.mem_iff_getElem?]
    simp only [List.mk_mem_zipIdx_iff_getElem?]
  unfold Punycode.stray?
  simp only [List.find?_eq_none, Prod.forall, decide_eq_true_eq, hmem]
  exact ⟨fun h ⟨b, ⟨i, hi⟩, hb⟩ => h b i hi hb, fun h b i hi hb => h ⟨b, ⟨i, hi⟩, hb⟩⟩

lemma exists_ite_eq_ok_iff {s : List UInt8} {r : Refusal} :
    (∃ t, (if s.isEmpty then .ok [] else .error r : Except Refusal (List Char)) = .ok t) ↔
      s = [] := by
  cases s with
  | nil => exact iff_of_true ⟨[], rfl⟩ rfl
  | cons b s => exact iff_of_false nofun nofun

/-- A set reads all that it does not refuse. -/
lemma exists_decode_iff : (∃ t, cs.decode s = .ok t) ↔ ¬ cs.Refuses s := by
  cases cs with
  | idna => exact exists_ite_eq_ok_iff.trans not_not.symm
  | undefined => exact exists_ite_eq_ok_iff.trans not_not.symm
  | punycode =>
    change _ ↔ ¬ ∃ b ∈ (Punycode.parts s).2, 0x80 ≤ b
    rw [← Punycode.stray?_eq_none_iff, decode]
    cases Punycode.stray? s with
    | none => exact iff_of_true ⟨_, rfl⟩ rfl
    | some p => exact iff_of_false nofun nofun
  | stepped set =>
    change _ ↔ ¬ set.read? s = none
    rw [decode]
    cases set.read? s with
    | none => exact iff_of_false nofun fun h => h rfl
    | some t => exact iff_of_true ⟨_, rfl⟩ nofun
  | utf16 o => cases o <;> exact iff_of_true ⟨_, rfl⟩ id
  | utf32 o => cases o <;> exact iff_of_true ⟨_, rfl⟩ id
  | _ => exact iff_of_true ⟨_, rfl⟩ id

end Charset

namespace Mail

/-- A name is that of no set that refuses octets, and has no null character in it. -/
def ReadsIn (name : List Char) (s : List UInt8) : Prop :=
  '\x00' ∉ name ∧ ∀ cs, Charset.ofName? name = some cs → ¬ cs.Refuses s

lemma charsetNamed_eq_ok {name : List Char} {cs : Option Charset} :
    charsetNamed name = .ok cs ↔ '\x00' ∉ name ∧ Charset.ofName? name = cs := by
  unfold charsetNamed
  rw [List.contains_eq_mem]
  by_cases hnul : '\x00' ∈ name
  · rw [if_pos (decide_eq_true hnul)]
    exact iff_of_false nofun fun h => h.1 hnul
  · rw [if_neg (mt of_decide_eq_true hnul), Except.ok.injEq]
    exact (and_iff_right hnul).symm

end Mail

end Mailroom
