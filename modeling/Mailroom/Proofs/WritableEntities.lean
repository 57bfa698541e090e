import Mailroom.Mail.Digest
import Mailroom.Proofs.ReadableFields

/-!
# Writable entities

A message within a message is told by a source that is written anew from what was read. Writing
fails for a field whose value goes on, behind one of its line breaks, with what reads as another
field, for a delivery status with a text of its own, for a multipart whose boundary cannot be read,
and for a multipart without parts whose text stands for characters beyond ASCII.
-/

namespace Mailroom.Mail

variable {limit : Nat}

/-- No line of a field, as it is folded, reads as a field of its own. Only ASCII is folded. -/
def Field.IsWritable (limit : Nat) (f : Field) : Prop :=
  f.octets.all (· < 0x80) = true →
    Folding.embedsField (Folding.fold limit f.name.length f.value) = false

lemma Field.exists_write_iff {f : Field} :
    (∃ s, f.write limit = .ok s) ↔ f.IsWritable limit := by
  unfold write IsWritable
  dsimp only
  by_cases hascii : f.octets.all (· < 0x80) = true
  · rw [if_pos hascii]
    cases Folding.embedsField (Folding.fold limit f.name.length f.value) with
    | true => exact iff_of_false nofun fun h => Bool.noConfusion (h hascii)
    | false => exact iff_of_true ⟨_, rfl⟩ fun _ => rfl
  · rw [if_neg hascii]
    exact iff_of_true ⟨_, rfl⟩ fun h => absurd h hascii

namespace Head

variable {h : Head} {text : List UInt8}

def IsWritable (limit : Nat) (h : Head) : Prop :=
  ∀ f ∈ h.fields, f.IsWritable limit

lemma exists_write_iff : (∃ s, h.write limit = .ok s) ↔ h.IsWritable limit := by
  unfold write
  rw [exists_bind_pure_iff, exists_mapM_eq_ok]
  exact forall₂_congr fun _ _ => Field.exists_write_iff

/-- The name of the character set in which a text is written; one that is told by octets is not
taken. -/
def writtenName? : Option Parameter.Value → Option (List Char)
  | none => some "ascii".toList
  | some (.plain t) => some t
  | some (.extended ..) => none

/-- The octets of a text stand for ASCII in the character set of a name, or under ASCII itself if
there is none of that name. -/
def SpellsAscii (text : List UInt8) (name : List Char) : Prop :=
  '\x00' ∉ name ∧ ∃ cs, ((Charset.ofName? name).getD .ascii).decode text = .ok cs ∧
    cs.all (fun c => c.toNat < 0x80) = true

/-- A text is ASCII, or its octets stand for ASCII in its character set. -/
def WritesText (h : Head) (text : List UInt8) : Prop :=
  text.all (· < 0x80) = true ∨ ∃ v name, h.parameter? "content-type" "charset" = .ok v ∧
    writtenName? v = some name ∧ SpellsAscii text name

lemma exists_spelledAscii_iff {name : List Char} : (∃ s, (do
      let charset := ((← (charsetNamed name).mapError Defect.escape).getD .ascii)
      let cs ← (charset.decode text).mapError fun r => (Defect.refused name r).escape
      if cs.all fun c => c.toNat < 0x80 then
        return Charset.Utf8.encode cs
      else
        throw .unwritableText) = Except.ok s) ↔ SpellsAscii text name := by
  unfold SpellsAscii
  simp only [bind_eq_ok, mapError_eq_ok, charsetNamed_eq_ok]
  constructor
  · rintro ⟨s, set, ⟨hnul, rfl⟩, cs, hcs, hs⟩
    split at hs
    · rename_i hall
      exact ⟨hnul, cs, hcs, hall⟩
    · cases hs
  · rintro ⟨hnul, cs, hcs, hall⟩
    exact ⟨_, _, ⟨hnul, rfl⟩, cs, hcs, if_pos hall⟩

lemma exists_writeText_iff : (∃ s, h.writeText text = .ok s) ↔ h.WritesText text := by
  unfold writeText WritesText
  by_cases hascii : text.all (· < 0x80) = true
  · rw [if_pos hascii]
    exact iff_of_true ⟨_, rfl⟩ (.inl hascii)
  · rw [if_neg hascii, or_iff_right hascii]
    constructor
    · rintro ⟨s, hs⟩
      obtain ⟨v, hv, hs⟩ := bind_eq_ok.1 hs
      rw [mapError_eq_ok] at hv
      obtain _ | t | ⟨cs, language, t⟩ := v
      · exact ⟨_, _, hv, rfl, exists_spelledAscii_iff.1 ⟨s, hs⟩⟩
      · exact ⟨_, _, hv, rfl, exists_spelledAscii_iff.1 ⟨s, hs⟩⟩
      · cases hs
    · rintro ⟨v, name, hv, hname, hspells⟩
      obtain ⟨s, hs⟩ := exists_spelledAscii_iff.2 hspells
      refine ⟨s, bind_eq_ok.2 ⟨v, mapError_eq_ok.2 hv, ?_⟩⟩
      obtain _ | t | ⟨cs, language, t⟩ := v
      · cases hname
        exact hs
      · cases hname
        exact hs
      · cases hname

/-- The boundary of a multipart can be read, and its header can be written, with a boundary put into
it if it has none. -/
structure WritesMultipart (limit : Nat) (h : Head) : Prop where
  type : h.IsWellFormed "content-type"
  boundary : ∀ v, h.parameter? "content-type" "boundary" = .ok (some v) → v.Reads
  given : ∀ c b, h.boundary? = .ok (some (c :: b)) → h.IsWritable limit
  made : h.boundary? = .ok none ∨ h.boundary? = .ok (some []) →
    ∀ h', h.withBoundary madeBoundary = .ok h' → h'.IsWritable limit

lemma exists_boundary?_iff : (∃ b, h.boundary? = .ok b) ↔ h.IsWellFormed "content-type" ∧
    ∀ v, h.parameter? "content-type" "boundary" = .ok (some v) → v.Reads := by
  unfold boundary?
  rw [← exists_parameter?_iff]
  refine exists_bind_option_iff ⟨_, rfl⟩ fun v => ?_
  dsimp only
  rw [exists_bind_pure_iff, Parameter.Value.exists_collapse_iff]

/-- A boundary can be put into a header if its parameters can be read. -/
lemma exists_withBoundary_iff {boundary : List Char} :
    (∃ h', h.withBoundary boundary = .ok h') ↔ h.IsWellFormed "content-type" := by
  unfold withBoundary IsWellFormed Parameter.withBoundary
  cases h.value? "content-type" with
  | none => exact iff_of_true ⟨_, rfl⟩ nofun
  | some v =>
    simp only [Option.some.injEq, forall_eq', ← Parameter.exists_parse_iff, exists_bind_eq_ok]
    exact ⟨fun hv => hv.1.1, fun hv => ⟨⟨hv, fun _ _ => ⟨_, rfl⟩⟩, fun _ _ => ⟨_, rfl⟩⟩⟩

end Head

mutual

/-- An entity can be written in lines of at most `limit` columns. -/
def Entity.IsWritable (limit : Nat) : Entity → Prop
  | .leaf h text => h.IsWritable limit ∧
      if h.isWrittenAs "message_delivery_status" = true then text = []
      else (h.isMultipart || h.isWrittenAs "multipart_signed") = true → h.WritesText text
  | .container h _ _ parts =>
      if h.isMultipart = true then
        h.WritesMultipart limit ∧
          AllWritable (if h.hasSubType "signed" then unlimited else limit) parts
      else
        h.IsWritable limit ∧ AllWritable limit parts

def AllWritable (limit : Nat) : List Entity → Prop
  | [] => True
  | e :: es => e.IsWritable limit ∧ AllWritable limit es

end

namespace Head

variable {h : Head} {text : List UInt8}

lemma exists_writeBefore_iff {body : List UInt8} : (∃ s, (do return (← h.write limit) ++ body :
    Except Escape (List UInt8)) = .ok s) ↔ h.IsWritable limit := by
  rw [exists_bind_pure_iff, exists_write_iff]

lemma exists_writeLeaf_iff : (∃ s, Entity.write limit (.leaf h text) = .ok s) ↔
    Entity.IsWritable limit (.leaf h text) := by
  rw [Entity.write, Entity.IsWritable, and_comm]
  by_cases hstatus : h.isWrittenAs "message_delivery_status" = true
  · rw [if_pos hstatus, if_pos hstatus]
    refine (exists_bind_iff fun _ => exists_writeBefore_iff).trans (and_congr_left fun _ => ?_)
    cases text with
    | nil => exact iff_of_true ⟨_, rfl⟩ rfl
    | cons b r => exact iff_of_false nofun nofun
  · rw [if_neg hstatus, if_neg hstatus]
    by_cases hsigned : (h.isMultipart || h.isWrittenAs "multipart_signed") = true
    · rw [if_pos hsigned, imp_iff_right hsigned, ← exists_writeText_iff]
      exact exists_bind_iff fun _ => exists_writeBefore_iff
    · rw [if_neg hsigned]
      exact exists_writeBefore_iff.trans (and_iff_right fun h => absurd h hsigned).symm

/-- How the header and the boundary of a multipart are written around its parts. -/
lemma exists_writeMultipart_iff {before after : Option (List UInt8)} {texts : List (List UInt8)} :
    (∃ s, (do
      match ← h.boundary?.mapError Defect.escape with
      | some (c :: b) =>
        let start ← h.write limit
        return start ++ joinParts (Charset.Utf8.encode (c :: b)) before after texts
      | _ =>
        let start ← (← (h.withBoundary madeBoundary).mapError Defect.escape).write limit
        return start ++ joinParts (Charset.Utf8.encode madeBoundary) before after texts :
      Except Escape (List UInt8)) = .ok s) ↔ h.WritesMultipart limit := by
  have hmultipart : h.WritesMultipart limit ↔ (∃ b, h.boundary? = .ok b) ∧
      (∀ c b, h.boundary? = .ok (some (c :: b)) → h.IsWritable limit) ∧
        (h.boundary? = .ok none ∨ h.boundary? = .ok (some []) →
          ∀ h', h.withBoundary madeBoundary = .ok h' → h'.IsWritable limit) := by
    rw [exists_boundary?_iff]
    exact ⟨fun hw => ⟨⟨hw.type, hw.boundary⟩, hw.given, hw.made⟩,
      fun hw => ⟨hw.1.1, hw.1.2, hw.2.1, hw.2.2⟩⟩
  rw [hmultipart, exists_bind_eq_ok, exists_mapError_eq_ok]
  refine and_congr_right fun hread => ?_
  have hmade : ∀ body : List UInt8, (∃ s, (do
      return (← (← (h.withBoundary madeBoundary).mapError Defect.escape).write limit) ++ body :
      Except Escape (List UInt8)) = .ok s) ↔
        ∀ h', h.withBoundary madeBoundary = .ok h' → h'.IsWritable limit := fun body => by
    rw [exists_bind_eq_ok, exists_mapError_eq_ok]
    simp only [mapError_eq_ok, exists_writeBefore_iff]
    exact and_iff_right (exists_withBoundary_iff.2 (exists_boundary?_iff.1 hread).1)
  simp only [mapError_eq_ok]
  constructor
  · intro hw
    refine ⟨fun c b hb => exists_writeBefore_iff.1 (hw _ hb), ?_⟩
    rintro (hb | hb)
    · exact (hmade _).1 (hw _ hb)
    · exact (hmade _).1 (hw _ hb)
  · rintro ⟨hgiven, hnone⟩ b hb
    obtain _ | _ | ⟨c, b⟩ := b
    · exact (hmade _).2 (hnone (.inl hb))
    · exact (hmade _).2 (hnone (.inr hb))
    · exact exists_writeBefore_iff.2 (hgiven c b hb)

end Head

mutual

lemma Entity.exists_write_iff {limit : Nat} : ∀ {e : Entity},
    (∃ s, e.write limit = .ok s) ↔ e.IsWritable limit
  | .leaf h text => Head.exists_writeLeaf_iff
  | .container h before after parts => by
    rw [Entity.write, Entity.IsWritable]
    by_cases hmultipart : h.isMultipart = true
    · rw [if_pos hmultipart, if_pos hmultipart, and_comm, ← exists_writeAll_iff]
      exact exists_bind_iff fun _ => Head.exists_writeMultipart_iff
    · rw [if_neg hmultipart, if_neg hmultipart, and_comm, ← exists_writeAll_iff]
      refine exists_bind_iff fun texts => ?_
      rw [exists_bind_eq_ok, Head.exists_write_iff]
      refine and_iff_left fun _ _ => ?_
      split
      · exact ⟨_, rfl⟩
      · exact ⟨_, rfl⟩

lemma exists_writeAll_iff {limit : Nat} : ∀ {es : List Entity},
    (∃ ss, writeAll limit es = .ok ss) ↔ AllWritable limit es
  | [] => by
    rw [writeAll, AllWritable]
    exact iff_of_true ⟨[], rfl⟩ trivial
  | e :: es => by
    rw [writeAll, AllWritable, ← e.exists_write_iff, ← exists_writeAll_iff]
    exact exists_bind_iff fun _ => exists_bind_pure_iff

end

namespace Entity

/-- What an attached entity holds can be told: its text, or the parts of which a source is
written. -/
def HoldsWritable : Entity → Prop
  | .leaf .. => True
  | .container _ _ _ parts => AllWritable columns parts

end Entity

end Mailroom.Mail
