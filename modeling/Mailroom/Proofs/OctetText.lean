import Mathlib.Tactic.Lemma
import Mailroom.Charset.Utf8
import Mailroom.Transfer.Base64

/-!
# Octets and texts that stand for each other

A text that is written as UTF-8 is read back as it was, and so are octets that are written in
base64, by a strict and by a lenient reader.
-/

namespace Mailroom

lemma toNat_octet {n : Nat} (h : n < 256) : (UInt8.ofNat n).toNat = n :=
  UInt8.toNat_ofNat_of_lt' h

namespace Charset.Utf8

lemma decodeOnto_eq (done : List Char) (skip : Nat) (s : List UInt8) :
    decodeOnto done skip s = done.reverse ++ decodeOnto [] skip s := by
  induction s generalizing done skip with
  | nil => simp [decodeOnto]
  | cons a r ih =>
    cases skip with
    | succ skip => exact ih done skip
    | zero =>
      unfold decodeOnto
      rw [ih, ih [(first a r).1], List.reverse_cons, List.reverse_singleton, List.append_assoc]

lemma decodeOnto_append (done : List Char) (t s : List UInt8) :
    decodeOnto done t.length (t ++ s) = decodeOnto done 0 s := by
  induction t with
  | nil => rfl
  | cons b t ih => exact ih

@[simp] lemma decode_nil : decode [] = [] := rfl

/-- The first character of some octets, and what is read of the octets behind it. -/
lemma decode_cons (a : UInt8) (r : List UInt8) :
    decode (a :: r) = (first a r).1 :: decodeOnto [] (first a r).2 r := by
  unfold decode
  rw [decodeOnto, decodeOnto_eq]
  rfl

lemma isTail_iff {b : UInt8} : isTail b = true ↔ 0x80 ≤ b.toNat ∧ b.toNat ≤ 0xbf := by
  simp [isTail, UInt8.le_iff_toNat_le]

lemma isSecondOfThree_iff {a b : UInt8} : isSecondOfThree a b = true ↔
    isTail b = true ∧ (a.toNat ≠ 0xe0 ∨ 0xa0 ≤ b.toNat) ∧ (a.toNat ≠ 0xed ∨ b.toNat ≤ 0x9f) := by
  simp [isSecondOfThree, UInt8.le_iff_toNat_le, ← UInt8.toNat_inj, and_assoc]

lemma isSecondOfFour_iff {a b : UInt8} : isSecondOfFour a b = true ↔
    isTail b = true ∧ (a.toNat ≠ 0xf0 ∨ 0x90 ≤ b.toNat) ∧ (a.toNat ≠ 0xf4 ∨ b.toNat ≤ 0x8f) := by
  simp [isSecondOfFour, UInt8.le_iff_toNat_le, ← UInt8.toNat_inj, and_assoc]

lemma first_one {a : UInt8} (ha : a.toNat < 0x80) (r : List UInt8) :
    first a r = (Char.ofNat a.toNat, 0) := by
  simp [first, UInt8.lt_iff_toNat_lt, ha]

lemma first_two {a b : UInt8} (ha : 0xc2 ≤ a.toNat ∧ a.toNat < 0xe0) (hb : isTail b = true)
    (r : List UInt8) :
    first a (b :: r) = (Char.ofNat ((a.toNat - 0xc0) * 0x40 + tailBits b), 1) := by
  have h₁ : ¬ a.toNat < 0x80 := by omega
  have h₂ : ¬ a.toNat < 0xc2 := by omega
  simp [first, UInt8.lt_iff_toNat_lt, h₁, h₂, ha.2, hb]

lemma first_three {a b c : UInt8} (ha : 0xe0 ≤ a.toNat ∧ a.toNat < 0xf0)
    (hb : isSecondOfThree a b = true) (hc : isTail c = true) (r : List UInt8) :
    first a (b :: c :: r) =
      (Char.ofNat ((a.toNat - 0xe0) * 0x1000 + tailBits b * 0x40 + tailBits c), 2) := by
  have h₁ : ¬ a.toNat < 0x80 := by omega
  have h₂ : ¬ a.toNat < 0xc2 := by omega
  have h₃ : ¬ a.toNat < 0xe0 := by omega
  simp [first, UInt8.lt_iff_toNat_lt, h₁, h₂, h₃, ha.2, hb, hc]

lemma first_four {a b c d : UInt8} (ha : 0xf0 ≤ a.toNat ∧ a.toNat < 0xf5)
    (hb : isSecondOfFour a b = true) (hc : isTail c = true) (hd : isTail d = true)
    (r : List UInt8) :
    first a (b :: c :: d :: r) = (Char.ofNat ((a.toNat - 0xf0) * 0x40000 + tailBits b * 0x1000 +
      tailBits c * 0x40 + tailBits d), 3) := by
  have h₁ : ¬ a.toNat < 0x80 := by omega
  have h₂ : ¬ a.toNat < 0xc2 := by omega
  have h₃ : ¬ a.toNat < 0xe0 := by omega
  have h₄ : ¬ a.toNat < 0xf0 := by omega
  simp [first, UInt8.lt_iff_toNat_lt, h₁, h₂, h₃, h₄, ha.2, hb, hc, hd]

/-- The octet of a tail that carries six bits. -/
lemma toNat_tail {n : Nat} (h : n < 0x40) : (UInt8.ofNat (0x80 + n)).toNat = 0x80 + n :=
  toNat_octet (by omega)

lemma isTail_ofNat {n : Nat} (h : n < 0x40) : isTail (.ofNat (0x80 + n)) = true := by
  rw [isTail_iff, toNat_tail h]
  omega

lemma tailBits_ofNat {n : Nat} (h : n < 0x40) : tailBits (.ofNat (0x80 + n)) = n := by
  unfold tailBits
  rw [toNat_tail h]
  omega

/-- Code points are no surrogates and not too large. -/
lemma toNat_valid (c : Char) : c.toNat < 0xd800 ∨ 0xdfff < c.toNat ∧ c.toNat < 0x110000 :=
  c.valid

/-- The octets of a character are read as this character, whatever follows them. -/
lemma first_encodeChar (c : Char) (r : List UInt8) :
    ∃ a tail, encodeChar c = a :: tail ∧ first a (tail ++ r) = (c, tail.length) := by
  have hvalid := toNat_valid c
  have hback : ∀ n, n = c.toNat → Char.ofNat n = c := fun n h => h ▸ Char.ofNat_toNat c
  have hbits : ∀ n, n % 0x40 < 0x40 := fun n => Nat.mod_lt n (by omega)
  unfold encodeChar
  dsimp only
  split
  · next h =>
    have ha : (UInt8.ofNat c.toNat).toNat = c.toNat := toNat_octet (by omega)
    refine ⟨_, _, rfl, ?_⟩
    rw [List.nil_append, first_one (by omega), hback _ ha]
    rfl
  · split
    · have ha : (UInt8.ofNat (0xc0 + c.toNat / 0x40)).toNat = 0xc0 + c.toNat / 0x40 :=
        toNat_octet (by omega)
      refine ⟨_, _, rfl, ?_⟩
      rw [List.singleton_append, first_two (by omega) (isTail_ofNat (hbits _)),
        tailBits_ofNat (hbits _), ha, hback _ (by omega)]
      rfl
    · split
      · have ha : (UInt8.ofNat (0xe0 + c.toNat / 0x1000)).toNat = 0xe0 + c.toNat / 0x1000 :=
          toNat_octet (by omega)
        have hb := toNat_tail (hbits (c.toNat / 0x40))
        have hsecond : isSecondOfThree (.ofNat (0xe0 + c.toNat / 0x1000))
            (.ofNat (0x80 + c.toNat / 0x40 % 0x40)) = true := by
          rw [isSecondOfThree_iff, ha, hb]
          exact ⟨isTail_ofNat (hbits _), by omega, by omega⟩
        refine ⟨_, _, rfl, ?_⟩
        rw [List.cons_append, List.singleton_append,
          first_three (by omega) hsecond (isTail_ofNat (hbits _)), tailBits_ofNat (hbits _),
          tailBits_ofNat (hbits _), ha, hback _ (by omega)]
        rfl
      · have ha : (UInt8.ofNat (0xf0 + c.toNat / 0x40000)).toNat = 0xf0 + c.toNat / 0x40000 :=
          toNat_octet (by omega)
        have hb := toNat_tail (hbits (c.toNat / 0x1000))
        have hsecond : isSecondOfFour (.ofNat (0xf0 + c.toNat / 0x40000))
            (.ofNat (0x80 + c.toNat / 0x1000 % 0x40)) = true := by
          rw [isSecondOfFour_iff, ha, hb]
          exact ⟨isTail_ofNat (hbits _), by omega, by omega⟩
        refine ⟨_, _, rfl, ?_⟩
        rw [List.cons_append, List.cons_append, List.singleton_append,
          first_four (by omega) hsecond (isTail_ofNat (hbits _)) (isTail_ofNat (hbits _)),
          tailBits_ofNat (hbits _), tailBits_ofNat (hbits _), tailBits_ofNat (hbits _), ha,
          hback _ (by omega)]
        rfl

lemma decode_encodeChar_append (c : Char) (r : List UInt8) :
    decode (encodeChar c ++ r) = c :: decode r := by
  obtain ⟨a, tail, hwritten, hfirst⟩ := first_encodeChar c r
  rw [hwritten, List.cons_append, decode_cons, hfirst, decodeOnto_append]
  rfl

/-- Reading gives back the text that was written. -/
theorem decode_encode (cs : List Char) : decode (encode cs) = cs := by
  induction cs with
  | nil => rfl
  | cons c cs ih =>
    change decode (encodeChar c ++ encode cs) = c :: cs
    rw [decode_encodeChar_append, ih]

end Charset.Utf8

namespace Transfer.Base64

/-- The octet that a character of the alphabet is sent as. -/
def octet (c : Char) : UInt8 :=
  .ofNat c.toNat

lemma value?_octet_digit : ∀ n < 64, value? (octet (digit n)) = some n := by
  decide

lemma octet_digit_ne_pad : ∀ n < 64, octet (digit n) ≠ pad := by
  decide

lemma encodeOnto_eq : ∀ (done : List Char) (s : List UInt8),
    encodeOnto done s = done.reverse ++ encodeOnto [] s
  | done, a :: b :: c :: r => by
    rw [encodeOnto, encodeOnto_eq _ r, encodeOnto, encodeOnto_eq [_, _, _, _] r]
    simp
  | done, [a, b] => by simp [encodeOnto]
  | done, [a] => by simp [encodeOnto]
  | done, [] => by simp [encodeOnto]

variable {strict : Bool} {done : List UInt8} {g : Group}

/-- A character of the alphabet is pushed onto the group that was begun. -/
lemma decodeOnto_digit {n : Nat} (hn : n < 64) (hg : g.padded = false) (r : List UInt8) :
    decodeOnto strict done g (octet (digit n) :: r) =
      decodeOnto strict ((g.push n).2.toList ++ done) (g.push n).1 r := by
  have hpad : (octet (digit n) == pad) = false := by
    simpa using octet_digit_ne_pad n hn
  rw [decodeOnto, hpad, value?_octet_digit n hn, hg]
  simp only [Bool.false_eq_true, if_false, Bool.and_false]
  rcases g.push n with ⟨g', _ | o⟩ <;> rfl

/-- Three octets are written as four characters. -/
lemma encodeOnto_cons (a b c : UInt8) (r : List UInt8) :
    let n := a.toNat * 0x10000 + b.toNat * 0x100 + c.toNat
    encodeOnto [] (a :: b :: c :: r) =
      digit (n / 262144) :: digit (n / 4096 % 64) :: digit (n / 64 % 64) :: digit (n % 64) ::
        encodeOnto [] r := by
  rw [encodeOnto, encodeOnto_eq]
  rfl

lemma ofNat_eq {a : UInt8} {n : Nat} (h : n = a.toNat) : UInt8.ofNat n = a := by
  rw [h, UInt8.ofNat_toNat]

/-- What was written is read back behind what was read so far, strictly or not. -/
lemma decodeOnto_encodeOnto (strict : Bool) : ∀ done s : List UInt8,
    decodeOnto strict done ⟨0, 0, 0, false⟩ ((encodeOnto [] s).map octet) = some (done.reverse ++ s)
  | done, a :: b :: c :: r => by
    have ha := a.toNat_lt
    have hb := b.toNat_lt
    have hc := c.toNat_lt
    rw [encodeOnto_cons]
    simp only [List.map_cons]
    rw [decodeOnto_digit (by omega) rfl, decodeOnto_digit (by omega) rfl,
      decodeOnto_digit (by omega) rfl, decodeOnto_digit (by omega) rfl]
    simp only [Group.push, Option.toList_none, Option.toList_some, List.nil_append,
      List.singleton_append]
    rw [decodeOnto_encodeOnto strict _ r, ofNat_eq (a := c) (by omega),
      ofNat_eq (a := b) (by omega), ofNat_eq (a := a) (by omega)]
    simp
  | done, [a, b] => by
    have ha := a.toNat_lt
    have hb := b.toNat_lt
    simp only [encodeOnto, List.reverse_cons, List.reverse_nil, List.nil_append, List.cons_append,
      List.map_cons, List.map_nil]
    rw [decodeOnto_digit (by omega) rfl, decodeOnto_digit (by omega) rfl,
      decodeOnto_digit (by omega) rfl]
    simp only [Group.push, Option.toList_none, Option.toList_some, List.nil_append,
      List.singleton_append]
    rw [ofNat_eq (a := b) (by omega), ofNat_eq (a := a) (by omega)]
    simp [decodeOnto, octet, pad]
  | done, [a] => by
    have ha := a.toNat_lt
    simp only [encodeOnto, List.reverse_cons, List.reverse_nil, List.nil_append, List.cons_append,
      List.map_cons, List.map_nil]
    rw [decodeOnto_digit (by omega) rfl, decodeOnto_digit (by omega) rfl]
    simp only [Group.push, Option.toList_none, Option.toList_some, List.nil_append,
      List.singleton_append]
    rw [ofNat_eq (a := a) (by omega)]
    simp [decodeOnto, octet, pad]
  | done, [] => by simp [encodeOnto, decodeOnto]

theorem decodeLenient?_encode (s : List UInt8) :
    decodeLenient? ((encode s).toList.map octet) = some s := by
  rw [encode, String.toList_ofList, decodeLenient?, decodeOnto_encodeOnto]
  rfl

theorem decodeStrict?_encode (s : List UInt8) :
    decodeStrict? ((encode s).toList.map octet) = some s := by
  rw [encode, String.toList_ofList, decodeStrict?, decodeOnto_encodeOnto]
  rfl

/-- What holds of the alphabet and of the padding holds of all that is written. -/
lemma forall_mem_encodeOnto {P : Char → Prop} (hdigit : ∀ n < 64, P (digit n)) (hpad : P '=') :
    ∀ s : List UInt8, ∀ c ∈ encodeOnto [] s, P c
  | a :: b :: c :: r => by
    have ha := a.toNat_lt
    have hb := b.toNat_lt
    have hc := c.toNat_lt
    rw [encodeOnto_cons]
    simp only [List.forall_mem_cons]
    exact ⟨hdigit _ (by omega), hdigit _ (by omega), hdigit _ (by omega), hdigit _ (by omega),
      forall_mem_encodeOnto hdigit hpad r⟩
  | [a, b] => by
    have ha := a.toNat_lt
    have hb := b.toNat_lt
    simp only [encodeOnto, List.mem_reverse, List.forall_mem_cons]
    exact ⟨hpad, hdigit _ (by omega), hdigit _ (by omega), hdigit _ (by omega),
      List.forall_mem_nil _⟩
  | [a] => by
    have ha := a.toNat_lt
    simp only [encodeOnto, List.mem_reverse, List.forall_mem_cons]
    exact ⟨hpad, hpad, hdigit _ (by omega), hdigit _ (by omega), List.forall_mem_nil _⟩
  | [] => List.forall_mem_nil _

lemma forall_mem_encode {P : Char → Prop} (hdigit : ∀ n < 64, P (digit n)) (hpad : P '=')
    (s : List UInt8) : ∀ c ∈ (encode s).toList, P c := by
  rw [encode, String.toList_ofList]
  exact forall_mem_encodeOnto hdigit hpad s

/-- The characters come in groups of four. -/
lemma four_dvd_length_encodeOnto : ∀ s : List UInt8, 4 ∣ (encodeOnto [] s).length
  | a :: b :: c :: r => by
    have h := four_dvd_length_encodeOnto r
    rw [encodeOnto_cons]
    simp only [List.length_cons]
    omega
  | [a, b] => by simp [encodeOnto]
  | [a] => by simp [encodeOnto]
  | [] => by simp [encodeOnto]

end Transfer.Base64

end Mailroom
