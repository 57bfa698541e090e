import Mathlib
import Mailroom.Mail.Parameter
import Mailroom.Proofs.AttributeNames
import Mailroom.Proofs.OctetText
import Mailroom.Proofs.WrittenIds

/-!
# What URIs tell

The URIs of a message and of its source are read back. The mailbox is percent-encoded, so that no
slashes stand in a URI but those between its segments, and each part of the id is a segment of its
own. The URI of a source has one segment more.
-/

namespace Mailroom

namespace Text

open Mail.Parameter Mail.EncodedWord

/-- The text that percent-encoded UTF-8 stands for. -/
def percentRead (s : List Char) : String :=
  String.ofList (Charset.Utf8.decode ((percentDecode s).map fun c => .ofNat c.toNat))

lemma hexValue?_upperHex : ∀ n < 16, hexValue? (upperHex n) = some n := by
  decide

lemma percentDecode_cons {c : Char} (h : c ≠ '%') (r : List Char) :
    percentDecode (c :: r) = c :: percentDecode r := by
  rw [percentDecode]
  rintro a b s ⟨⟩
  exact absurd rfl h

/-- An octet is read back, whatever follows it. -/
lemma percentDecode_percentOctet (b : UInt8) (r : List Char) :
    percentDecode (percentOctet b ++ r) = Char.ofNat b.toNat :: percentDecode r := by
  have hb := b.toNat_lt
  unfold percentOctet
  dsimp only
  split
  · next h =>
    have hne : Char.ofNat b.toNat ≠ '%' := by
      intro hpercent
      rw [hpercent] at h
      simp [isUnreserved] at h
    exact percentDecode_cons hne r
  · rw [List.cons_append, List.cons_append, List.singleton_append, percentDecode,
      hexValue?_upperHex _ (by omega), hexValue?_upperHex _ (by omega)]
    dsimp only
    rw [Nat.div_add_mod]

lemma percentDecode_flatMap (s : List UInt8) :
    percentDecode (s.flatMap percentOctet) = s.map fun b => Char.ofNat b.toNat := by
  induction s with
  | nil => rfl
  | cons b s ih => rw [List.flatMap_cons, percentDecode_percentOctet, ih, List.map_cons]

lemma percentRead_percentEncode (s : String) : percentRead (percentEncode s).toList = s := by
  have hoctet : ∀ b : UInt8, UInt8.ofNat (Char.ofNat b.toNat).toNat = b := by
    intro b
    have hvalid : b.toNat.isValidChar := .inl (Nat.lt_trans b.toNat_lt (by decide))
    rw [toNat_ofNat hvalid, UInt8.ofNat_toNat]
  rw [percentRead, percentEncode, String.toList_ofList, percentDecode_flatMap, List.map_map]
  simp only [Function.comp_def, hoctet, List.map_id']
  rw [Charset.Utf8.decode_encode, String.ofList_toList]

lemma slash_notMem_percentEncode (s : String) : '/' ∉ (percentEncode s).toList := by
  rw [percentEncode, String.toList_ofList, List.mem_flatMap]
  rintro ⟨b, -, h⟩
  have hall : ∀ n < 256, '/' ∉ percentOctet (.ofNat n) := by decide +kernel
  exact hall b.toNat b.toNat_lt (by rwa [UInt8.ofNat_toNat])

end Text

namespace MessageId

/-- The segments of the URI of a message. -/
def segments (m : MessageId) : List (List Char) :=
  ["imap:".toList, [], m.accountId.toList, "mailbox".toList,
    (Text.percentEncode m.mailbox).toList, "message".toList, m.uidvalidity.repr.toList,
    m.uid.repr.toList]

lemma slash_notMem_repr (n : Int) : '/' ∉ n.repr.toList := by
  have hdigits : ∀ k : Nat, '/' ∉ k.repr.toList := by
    intro k
    rw [Nat.toList_repr]
    exact Text.notMem_toDigits rfl k
  rw [Int.repr_eq_if]
  split
  · exact hdigits _
  · rw [String.toList_append, List.mem_append]
    exact fun h => h.elim (by decide) (hdigits _)

lemma slash_notMem_segments {m : MessageId} (h : '/' ∉ m.accountId.toList) :
    ∀ s ∈ m.segments, '/' ∉ s := by
  simp only [segments, List.forall_mem_cons]
  exact ⟨by decide, by decide, h, by decide, Text.slash_notMem_percentEncode _, by decide,
    slash_notMem_repr _, slash_notMem_repr _, List.forall_mem_nil _⟩

lemma toList_uri (m : MessageId) : m.uri.toList = ['/'].intercalate m.segments := by
  simp [uri, segments, List.intercalate_cons_cons]

lemma splitOn_uri {m : MessageId} (h : '/' ∉ m.accountId.toList) :
    m.uri.toList.splitOn '/' = m.segments := by
  rw [toList_uri]
  exact List.splitOn_intercalate '/' (slash_notMem_segments h) (List.cons_ne_nil _ _)

lemma splitOn_rawUri {m : MessageId} (h : '/' ∉ m.accountId.toList) :
    m.rawUri.toList.splitOn '/' = m.segments ++ ["raw".toList] := by
  have hraw : m.rawUri.toList = ['/'].intercalate (m.segments ++ ["raw".toList]) := by
    have hsegments : m.segments ≠ [] := List.cons_ne_nil _ _
    rw [Text.intercalate_append hsegments (List.cons_ne_nil _ []), ← toList_uri, rawUri]
    simp
  rw [hraw]
  refine List.splitOn_intercalate '/' ?_ (by simp)
  simp only [List.forall_mem_append, List.forall_mem_singleton]
  exact ⟨slash_notMem_segments h, by decide⟩

/-- The id that the segments of a URI tell, and whether the URI is that of a source. -/
def ofSegments? : List (List Char) → Option (MessageId × Bool)
  | _ :: _ :: account :: _ :: mailbox :: _ :: uidvalidity :: uid :: rest => do
    return (⟨String.ofList account, Text.percentRead mailbox,
      ← (String.ofList uidvalidity).toInt?, ← (String.ofList uid).toInt?⟩, !rest.isEmpty)
  | _ => none

lemma ofSegments?_append (m : MessageId) (rest : List (List Char)) :
    ofSegments? (m.segments ++ rest) = some (m, !rest.isEmpty) := by
  simp only [segments, List.cons_append, List.nil_append, ofSegments?, String.ofList_toList,
    Text.percentRead_percentEncode, Int.toInt?_repr]
  rfl

lemma ofSegments?_uri {m : MessageId} (h : '/' ∉ m.accountId.toList) :
    ofSegments? (m.uri.toList.splitOn '/') = some (m, false) := by
  have hread := ofSegments?_append m []
  rwa [List.append_nil, ← splitOn_uri h] at hread

lemma ofSegments?_rawUri {m : MessageId} (h : '/' ∉ m.accountId.toList) :
    ofSegments? (m.rawUri.toList.splitOn '/') = some (m, true) := by
  rw [splitOn_rawUri h]
  exact ofSegments?_append m _

/-- The URIs of messages whose accounts stand in one segment tell the messages apart, as those of
their sources do, and none of them is the URI of a source. The mailbox is the fifth segment. -/
theorem uris_tell_messages (m m' : MessageId) (h : '/' ∉ m.accountId.toList)
    (h' : '/' ∉ m'.accountId.toList) :
    (m.uri = m'.uri → m = m') ∧
      (m.uri.toList.splitOn '/')[4]?.map Text.percentRead = some m.mailbox ∧
      (m.rawUri = m'.rawUri → m = m') ∧ m.uri ≠ m'.rawUri := by
  refine ⟨fun heq => ?_, ?_, fun heq => ?_, fun heq => ?_⟩
  · have hread := ofSegments?_uri h
    rw [heq, ofSegments?_uri h'] at hread
    cases hread
    rfl
  · rw [splitOn_uri h]
    exact congrArg some (Text.percentRead_percentEncode m.mailbox)
  · have hread := ofSegments?_rawUri h
    rw [heq, ofSegments?_rawUri h'] at hread
    cases hread
    rfl
  · have hread := ofSegments?_uri h
    rw [heq, ofSegments?_rawUri h'] at hread
    cases hread

/-- Two mailboxes of which one is named like the encoding of the other. -/
theorem uris_tell_messages_of_slash :
    '/' ∉ "a".toList ∧
      uri ⟨"a", "x/ü", 7, 1⟩ = "imap://a/mailbox/x%2F%C3%BC/message/7/1" ∧
      uri ⟨"a", "x/ü", 7, 1⟩ ≠ uri ⟨"a", "x%2Fü", 7, 1⟩ ∧
      ((uri ⟨"a", "x/ü", 7, 1⟩).toList.splitOn '/')[4]?.map Text.percentRead = some "x/ü" := by
  have hslash : '/' ∉ "a".toList := by decide
  obtain ⟨hinj, hmailbox, -⟩ :=
    uris_tell_messages ⟨"a", "x/ü", 7, 1⟩ ⟨"a", "x%2Fü", 7, 1⟩ hslash hslash
  exact ⟨hslash, by decide, fun h => absurd (hinj h) (by decide), hmailbox⟩

end MessageId

end Mailroom
