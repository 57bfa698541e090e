import Mathlib.Data.List.TakeWhile
import Mathlib.Tactic.Lemma
import Mailroom.Mail.EntityReader
import Mailroom.Proofs.Checks

/-!
# Parts of what was read

Reading a source never runs out of fuel, and so no entity that is read is a container without
parts. Each entity inside of another has consumed a line before it is read, but for the message
that an entry of a digest is by default; three units of fuel for each line pay for that.
-/

namespace Mailroom.Mail

/-- Entities in which all containers have parts. -/
inductive Entity.Populated : Entity → Prop
  | leaf (h : Head) (text : List UInt8) : (Entity.leaf h text).Populated
  | container (h : Head) (before after : Option (List UInt8)) {parts : List Entity}
      (hparts : parts ≠ []) (hall : ∀ e ∈ parts, e.Populated) :
      (Entity.container h before after parts).Populated

lemma trimmedLast_ne_nil {es : List Entity} (h : es ≠ []) : trimmedLast es ≠ [] := by
  cases es with
  | nil => exact absurd rfl h
  | cons e es => cases es <;> simp [trimmedLast]

mutual

lemma Entity.Populated.trimmed : ∀ {e : Entity}, e.Populated → e.trimmed.Populated
  | .leaf h text, _ => by
    unfold Entity.trimmed
    split <;> exact .leaf _ _
  | .container h before after parts, .container _ _ _ hparts hall => by
    unfold Entity.trimmed
    split
    · exact .container _ _ _ hparts hall
    · exact .container _ _ _ (trimmedLast_ne_nil hparts) (populated_trimmedLast hall)

lemma populated_trimmedLast : ∀ {es : List Entity}, (∀ e ∈ es, e.Populated) →
    ∀ e ∈ trimmedLast es, e.Populated
  | [], h => h
  | [e], h => by
    rw [List.forall_mem_singleton] at h
    exact List.forall_mem_singleton.2 h.trimmed
  | e :: e' :: es, h => by
    rw [List.forall_mem_cons] at h
    exact List.forall_mem_cons.2 ⟨h.1, populated_trimmedLast h.2⟩

end

/-! ## Lines that are consumed -/

/-- The line that is given back stands at the end, after another one if it is not the first. -/
lemma length_of_fieldsOnto {done : List Field} {begun : Option (Line × List Line)} {first : Bool}
    {ls : List Line} {line : Line} (h : (fieldsOnto done begun first ls).2 = some line) :
    (if first then 2 else 1) ≤ ls.length := by
  induction ls generalizing done begun first with
  | nil => cases h
  | cons l r ih =>
    have hlater : ∀ {done begun}, (fieldsOnto done begun false r).2 = some line →
        (if first then 2 else 1) ≤ (l :: r).length := by
      intro done begun h
      have := ih h
      rw [if_neg Bool.false_ne_true] at this
      rw [List.length_cons]
      split <;> omega
    unfold fieldsOnto at h
    split at h
    · split at h <;> exact hlater h
    · split at h
      · split at h
        · next hlast =>
          rw [Bool.and_eq_true, Bool.not_eq_true'] at hlast
          simp [hlast.2]
        · exact hlater h
      · split at h <;> exact hlater h

/-- The lines after a header: one that was given back, and the rest of the source but for a blank
line. -/
lemma readHeader_eq (stops : Line → Bool) (ls : List Line) :
    ∃ header rest, readHeader stops ls =
        ((fieldsOnto [] none true header).1, (fieldsOnto [] none true header).2.toList ++ rest) ∧
      header.length + rest.length ≤ ls.length := by
  unfold readHeader
  dsimp only
  generalize hbelongs : (fun line => !stops line && isHeaderLine line) = belongs
  have hsplit : (ls.takeWhile belongs).length + (ls.dropWhile belongs).length = ls.length := by
    rw [← List.length_append, List.takeWhile_append_dropWhile]
  refine ⟨ls.takeWhile belongs, _, rfl, ?_⟩
  split
  · next line r hbody =>
    rw [hbody, List.length_cons] at hsplit
    split
    · omega
    · rw [List.length_cons]
      omega
  · rw [List.length_nil]
    omega

/-- A header with a field consumes a line, and no header adds lines. -/
lemma length_readHeader {stops : Line → Bool} {ls rest : List Line} {fields : List Field}
    (h : readHeader stops ls = (fields, rest)) :
    rest.length ≤ ls.length ∧ (fields ≠ [] → rest.length < ls.length) := by
  obtain ⟨header, body, heq, hlength⟩ := readHeader_eq stops ls
  obtain ⟨rfl, rfl⟩ := Prod.mk.inj (h.symm.trans heq)
  rw [List.length_append]
  rcases hfields : fieldsOnto [] none true header with ⟨fields, _ | line⟩
  · rw [Option.toList_none, List.length_nil]
    refine ⟨by omega, fun hsome => ?_⟩
    cases header with
    | nil =>
      cases hfields
      exact absurd rfl hsome
    | cons line r =>
      rw [List.length_cons] at hlength
      omega
  · have hback := length_of_fieldsOnto (congrArg Prod.snd hfields)
    rw [if_pos rfl] at hback
    rw [Option.toList_some, List.length_singleton]
    exact ⟨by omega, fun _ => by omega⟩

/-- An entity has the type that it is given, if it has no fields. -/
lemma exists_field_of_contentType_ne {h : Head} (hne : h.contentType ≠ h.defaultType) :
    h.fields ≠ [] := by
  intro hnone
  apply hne
  rw [Head.contentType, Head.value?, hnone]
  rfl

/-! ## Fuel -/

/-- The types that entities have by default. -/
def IsDefaultType (t : List Char) : Prop :=
  t = Head.plainType ∨ t = "message/rfc822".toList

/-- The fuel that reading an entity takes apart from its lines: what is a message by default costs
one more, for the entity in it. -/
def spare (t : List Char) : Nat :=
  if t = Head.plainType then 1 else 2

/-- Whether reading has come to the end of the source or to a line that ends it. -/
def Halts (stops : List Stop) (rest : List Line) : Prop :=
  ∀ line r, rest = line :: r → isStopped stops line = true

/-- Entities were read from at most `n` lines, and at least one. -/
structure Collected (stops : List Stop) (n : Nat) (es : List Entity) (rest : List Line) : Prop where
  ne_nil : es ≠ []
  populated : ∀ e ∈ es, e.Populated
  length : rest.length ≤ n
  halts : Halts stops rest

/-- The fuel is enough to read an entity. -/
def EntityFed (fuel : Nat) : Prop :=
  ∀ {stops : List Stop} {t : List Char} {ls rest : List Line} {e : Entity},
    IsDefaultType t → 3 * ls.length + spare t ≤ fuel →
    readEntity fuel stops t ls = .ok (e, rest) → Collected stops ls.length [e] rest

/-- The fuel is enough to read parts from a boundary line on. -/
def PartsFed (fuel : Nat) : Prop :=
  ∀ {stops : List Stop} {t b : List Char} {line : Line} {r rest : List Line} {es : List Entity}
    {after : Option (List UInt8)},
    IsDefaultType t → isStopped stops line = false → (delimiter? b line).isSome = true →
    3 * (r.length + 1) ≤ fuel → readParts fuel stops t b (line :: r) = .ok (es, after, rest) →
    Collected stops r.length es rest

/-- The fuel is enough to read the blocks of a delivery report. -/
def BlocksFed (fuel : Nat) : Prop :=
  ∀ {stops : List Stop} {ls rest : List Line} {es : List Entity},
    3 * ls.length + 2 ≤ fuel → readBlocks fuel stops ls = .ok (es, rest) →
    Collected stops ls.length es rest

lemma spare_le (t : List Char) : spare t ≤ 2 := by
  unfold spare
  split <;> omega

lemma halts_nil (stops : List Stop) : Halts stops [] := nofun

lemma halts_cons {stops : List Stop} {line : Line} (h : isStopped stops line = true)
    (r : List Line) : Halts stops (line :: r) := by
  rintro _ _ ⟨⟩
  exact h

lemma halts_dropWhile (stops : List Stop) (ls : List Line) :
    Halts stops (ls.dropWhile fun line => !isStopped stops line) := by
  intro line r hrest
  have hline := List.head?_dropWhile_not (fun line => !isStopped stops line) ls
  rw [hrest] at hline
  simpa using hline

lemma Collected.single {stops : List Stop} {n : Nat} {e : Entity} {rest : List Line}
    (he : e.Populated) (hlength : rest.length ≤ n) (hhalts : Halts stops rest) :
    Collected stops n [e] rest :=
  ⟨List.cons_ne_nil _ _, List.forall_mem_singleton.2 he, hlength, hhalts⟩

lemma Collected.cons {stops : List Stop} {m n : Nat} {e : Entity} {es : List Entity}
    {rest : List Line} (he : e.Populated) (h : Collected stops m es rest) (hm : m ≤ n) :
    Collected stops n (e :: es) rest :=
  ⟨List.cons_ne_nil _ _, List.forall_mem_cons.2 ⟨he, h.populated⟩, Nat.le_trans h.length hm,
    h.halts⟩

lemma Collected.head {stops : List Stop} {n : Nat} {e : Entity} {rest : List Line}
    (h : Collected stops n [e] rest) : e.Populated :=
  h.populated e (List.mem_singleton.2 rfl)

lemma partsFed_succ {fuel : Nat} (hentity : EntityFed fuel) (hparts : PartsFed fuel) :
    PartsFed (fuel + 1) := by
  intro stops t b line r rest es after ht hrunning hdelimiter hfuel h
  rw [readParts] at h
  dsimp only at h
  -- The boundary line is consumed before the part is read.
  rw [List.dropWhile_cons_of_pos (by simp [hrunning, hdelimiter])] at h
  generalize hinside : r.dropWhile _ = inside at h
  have hshort : inside.length ≤ r.length := by
    rw [← hinside]
    exact List.length_dropWhile_le _ r
  obtain ⟨⟨e, ls⟩, he, h⟩ := bind_eq_ok.1 h
  have hspare := spare_le t
  have hread := hentity ht (by omega) he
  have htrimmed := hread.head.trimmed
  have hlength := hread.length
  dsimp only at h
  split at h
  · cases h
    exact .single htrimmed (Nat.zero_le _) (halts_nil stops)
  · next next r' =>
    rw [List.length_cons] at hlength
    have hends := hread.halts next r' rfl
    split at h
    · next hstopped =>
      cases h
      exact .single htrimmed (by rw [List.length_cons]; omega) (halts_cons hstopped r')
    · next hnext =>
      split at h
      · cases h
        have hrest := List.length_dropWhile_le (fun line => !isStopped stops line) r'
        exact .single htrimmed (by omega) (halts_dropWhile stops r')
      · obtain ⟨⟨es', after', rest'⟩, hes, h⟩ := bind_eq_ok.1 h
        cases h
        -- The part ended at a line that ends none of the entities around.
        have hopens : (delimiter? b next).isSome = true := by
          rw [isStopped, List.any_cons, Bool.or_eq_true] at hends
          exact hends.resolve_right hnext
        rw [Bool.not_eq_true] at hnext
        exact .cons htrimmed (hparts ht hnext hopens (by omega) hes) (by omega)

lemma blocksFed_succ {fuel : Nat} (hentity : EntityFed fuel) (hblocks : BlocksFed fuel) :
    BlocksFed (fuel + 1) := by
  intro stops ls rest es hfuel h
  rw [readBlocks] at h
  obtain ⟨⟨e, ls'⟩, he, h⟩ := bind_eq_ok.1 h
  have hread := hentity (.inl rfl) (by rw [spare, if_pos rfl]; omega) he
  have hlength := hread.length
  cases ls' with
  | nil =>
    cases h
    exact .single hread.head (Nat.zero_le _) (halts_nil stops)
  | cons blank r =>
    rw [List.length_cons] at hlength
    dsimp only at h
    by_cases hstopped : isStopped stops blank = true
    · rw [if_pos hstopped] at h
      dsimp only at h
      rw [if_pos hstopped] at h
      cases h
      exact .single hread.head (by rw [List.length_cons]; omega) (halts_cons hstopped r)
    · rw [if_neg hstopped] at h
      cases r with
      | nil =>
        cases h
        exact .single hread.head (Nat.zero_le _) (halts_nil stops)
      | cons next r =>
        rw [List.length_cons] at hlength
        dsimp only at h
        by_cases hnext : isStopped stops next = true
        · rw [if_pos hnext] at h
          cases h
          exact .single hread.head (by rw [List.length_cons]; omega) (halts_cons hnext r)
        · rw [if_neg hnext] at h
          obtain ⟨⟨es', rest'⟩, hes, h⟩ := bind_eq_ok.1 h
          cases h
          exact .cons hread.head (hblocks (by rw [List.length_cons]; omega) hes)
            (by rw [List.length_cons]; omega)

lemma IsDefaultType.mainType {t : List Char} (h : IsDefaultType t) :
    t.takeWhile (· != '/') = "text".toList ∧ spare t = 1 ∨
      t.takeWhile (· != '/') = "message".toList ∧ t = "message/rfc822".toList ∧ spare t = 2 := by
  rcases h with rfl | rfl
  · exact .inl (by decide)
  · exact .inr (by decide)

lemma contentType_ne_of_isMultipart {t : List Char} (ht : IsDefaultType t) {head : Head}
    (h : head.isMultipart = true) : head.contentType ≠ t := by
  rintro rfl
  rw [Head.isMultipart, beq_iff_eq, Head.mainType] at h
  rcases ht.mainType with ⟨htext, -⟩ | ⟨hmessage, -⟩
  · exact absurd (htext.symm.trans h) (by decide)
  · exact absurd (hmessage.symm.trans h) (by decide)

/-- What is a message costs a line or, by default, one more unit. -/
lemma fuel_of_message {t : List Char} (ht : IsDefaultType t) {head : Head} {m n fuel : Nat}
    (h : head.mainType = "message".toList) (hle : m ≤ n) (hlt : head.contentType ≠ t → m < n)
    (hfuel : 3 * n + spare t ≤ fuel + 1) : 3 * m + spare Head.plainType ≤ fuel := by
  rw [spare, if_pos rfl]
  by_cases hnamed : head.contentType = t
  · rw [Head.mainType, hnamed] at h
    rcases ht.mainType with ⟨htext, -⟩ | ⟨-, -, htwo⟩
    · exact absurd (htext.symm.trans h) (by decide)
    · omega
  · have hshort := hlt hnamed
    omega

/-- The line at which the text before the parts ends is a boundary line, if the entity goes on. -/
lemma isSome_delimiter?_of_dropWhile {stops : List Stop} {b : List Char} {ls r : List Line}
    {line : Line}
    (h : (ls.dropWhile fun line => !isStopped stops line && (delimiter? b line).isNone) = line :: r)
    (hrunning : isStopped stops line = false) : (delimiter? b line).isSome = true := by
  have hnot := List.head?_dropWhile_not
    (fun line => !isStopped stops line && (delimiter? b line).isNone) ls
  rw [h] at hnot
  simpa [hrunning, Option.isNone_iff_eq_none] using hnot

/-- Containers hold what was collected, if anything was. -/
lemma Collected.container {stops : List Stop} {m n : Nat} {es : List Entity} {rest : List Line}
    (h : Collected stops m es rest) (hm : m ≤ n) (head : Head)
    (before after : Option (List UInt8)) :
    Collected stops n [.container head before after es] rest :=
  .single (.container _ _ _ h.ne_nil h.populated) (Nat.le_trans h.length hm) h.halts

lemma entityFed_succ {fuel : Nat} (hentity : EntityFed fuel) (hparts : PartsFed fuel)
    (hblocks : BlocksFed fuel) : EntityFed (fuel + 1) := by
  intro stops t ls rest e ht hfuel h
  rw [readEntity] at h
  rcases hheader : readHeader (isStopped stops) ls with ⟨fields, body⟩
  rw [hheader] at h
  dsimp only at h
  obtain ⟨hlength, hfields⟩ := length_readHeader hheader
  -- Whatever the header says about the type costs a line.
  have hconsumed : (⟨fields, t⟩ : Head).contentType ≠ t → body.length < ls.length :=
    fun hne => hfields (exists_field_of_contentType_ne hne)
  generalize (⟨fields, t⟩ : Head) = head at h hconsumed
  have hleaf : ∀ rest : List Line, rest.length ≤ body.length → Halts stops rest →
      ∀ text, Collected stops ls.length [.leaf head text] rest :=
    fun rest hrest hhalts text => .single (.leaf _ _) (by omega) hhalts
  split at h
  · next hreport =>
    rw [beq_iff_eq] at hreport
    have hshort := hconsumed (by rw [hreport]; rcases ht with rfl | rfl <;> decide)
    obtain ⟨⟨es, rest'⟩, hes, h⟩ := bind_eq_ok.1 h
    cases h
    exact (hblocks (by omega) hes).container (by omega) head none none
  · split at h
    · next hmessage =>
      have hinnerFuel := fuel_of_message ht (eq_of_beq hmessage) hlength hconsumed hfuel
      obtain ⟨⟨inner, rest'⟩, hinner, h⟩ := bind_eq_ok.1 h
      cases h
      exact (hentity (.inl rfl) hinnerFuel hinner).container hlength head none none
    · split at h
      · next hmultipart =>
        have hshort := hconsumed (contentType_ne_of_isMultipart ht hmultipart)
        split at h
        · cases h
        · cases h
          exact hleaf _ (List.length_dropWhile_le _ _) (halts_dropWhile _ _) _
        · next b hb =>
          have hrest := List.length_dropWhile_le
            (fun line => !isStopped stops line && (delimiter? b line).isNone) body
          split at h
          · cases h
            exact hleaf [] (Nat.zero_le _) (halts_nil stops) _
          · next line r hline =>
            rw [hline, List.length_cons] at hrest
            split at h
            · next hstopped =>
              cases h
              exact hleaf _ (by rw [List.length_cons]; omega) (halts_cons hstopped r) _
            · next hrunning =>
              rw [Bool.not_eq_true] at hrunning
              split at h
              · cases h
                have hafter := List.length_dropWhile_le (fun line => !isStopped stops line) r
                exact hleaf _ (by omega) (halts_dropWhile stops r) _
              · obtain ⟨⟨es, after, rest'⟩, hes, h⟩ := bind_eq_ok.1 h
                cases h
                have hinner : IsDefaultType (if head.contentType == "multipart/digest".toList then
                    "message/rfc822".toList else Head.plainType) := by
                  split
                  · exact .inr rfl
                  · exact .inl rfl
                have hopens := isSome_delimiter?_of_dropWhile hline hrunning
                have hcollected := hparts hinner hrunning hopens (by omega) hes
                exact hcollected.container (by omega) head _ after
      · cases h
        exact hleaf _ (List.length_dropWhile_le _ _) (halts_dropWhile _ _) _

lemma fed (fuel : Nat) : EntityFed fuel ∧ PartsFed fuel ∧ BlocksFed fuel := by
  induction fuel with
  | zero =>
    refine ⟨fun {_ t _ _ _} _ hfuel => ?_, fun _ _ _ hfuel => ?_, fun hfuel => ?_⟩
    · rw [spare] at hfuel
      split at hfuel <;> omega
    · omega
    · omega
  | succ fuel ih =>
    obtain ⟨hentity, hparts, hblocks⟩ := ih
    exact ⟨entityFed_succ hentity hparts hblocks, partsFed_succ hentity hparts,
      blocksFed_succ hentity hblocks⟩

/-- Reading a source does not run out of fuel: what it reads consists of texts and of containers
with parts. -/
theorem populated_of_read {source : List UInt8} {e : Entity} (h : Entity.read source = .ok e) :
    e.Populated := by
  unfold Entity.read at h
  dsimp only at h
  cases hread : readEntity (3 * (lines source).length + 3) [] Head.plainType (lines source) with
  | error d =>
    rw [hread] at h
    cases h
  | ok read =>
    rw [hread] at h
    cases h
    have hfuel : 3 * (lines source).length + spare Head.plainType ≤
        3 * (lines source).length + 3 := by
      rw [spare, if_pos rfl]
      omega
    exact ((fed _).1 (.inl rfl) hfuel hread).head

end Mailroom.Mail
