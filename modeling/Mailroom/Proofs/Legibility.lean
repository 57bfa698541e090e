import Mailroom.Proofs.MessageLeaves
import Mailroom.Proofs.ReadableMarkup
import Mailroom.Proofs.TraceGrowth
import Mailroom.Proofs.WritableEntities

/-!
# Legible messages

A message that cannot be parsed is to be refused as such, so that a reader is told that its parsing
failed. Only its structure and its header are read under this rule. What the walk through its leaves
cannot read escapes instead: a file name, what is attached, or the first body of a kind. Which
messages have such leaves is told by what is written in them. Entities may be nested to any depth
here.
-/

namespace Mailroom

namespace Mail

/-- Reading came to a digest, or to the refusal of the message as one that cannot be parsed. -/
def Settled (r : Except Failure Digest) : Prop :=
  (∃ d, r = .ok d) ∨ ∃ detail, r = .error (.refused (.unreadableMessage detail))

/-- The text of a leaf can be read, and the scanner gets through it as markup. -/
structure Leaf.MarksLegibly (l : Leaf) : Prop where
  text : l.entity.TellsLegibly
  markup : ∀ t, l.entity.chars = .ok t → ∃ ts, Html.Scanner.tokens t = .ok ts

/-- All that is looked at in leaves can be read: every file name, what is attached, and the first
body of either kind. -/
structure LegibleLeaves (ls : List Leaf) : Prop where
  fileName : ∀ l ∈ ls, l.entity.head.NamesLegibly
  attached : ∀ l ∈ ls, l.isAttached = true → l.entity.HoldsWritable
  text : ∀ l, ls.find? (Leaf.isBody Head.plainType) = some l → l.entity.TellsLegibly
  markup : ∀ l, ls.find? (Leaf.isBody htmlType) = some l → l.MarksLegibly

/-- If the header of a message can be read, its leaves can. -/
def Legible (source : List UInt8) : Prop :=
  ∀ e headers, Digest.readWithHeaders source = .ok (e, headers) → LegibleLeaves (e.leaves "1")

variable {o : DigestOptions} {source : List UInt8}

/-- Without a digest, the message is refused for its header or something in its leaves escapes. -/
lemma read_cases (o : DigestOptions) (source : List UInt8) :
    (∃ d, Digest.readWithHeaders source = .error d ∧
        Digest.read o source = .error (.refused (.unreadableMessage d.message))) ∨
      ∃ e headers, Digest.readWithHeaders source = .ok (e, headers) ∧
        ((∃ d, Digest.read o source = .ok d) ∨
          ∃ x, Digest.read o source = .error (.escaped x)) := by
  unfold Digest.read
  rcases Digest.readWithHeaders source with d | ⟨e, headers⟩
  · exact .inl ⟨d, rfl, rfl⟩
  · refine .inr ⟨e, headers, rfl, ?_⟩
    change (∃ d, ((e.collect o "1" ⟨headers, none, none, []⟩).mapError Failure.escaped >>= _) = _) ∨
      ∃ x, ((e.collect o "1" ⟨headers, none, none, []⟩).mapError Failure.escaped >>= _) = _
    cases e.collect o "1" ⟨headers, none, none, []⟩ with
    | error x => exact .inr ⟨x, rfl⟩
    | ok d => exact .inl ⟨_, rfl⟩

end Mail

namespace Service

open Imap

variable {σ : Type} {v : Service σ} {w : World σ} {accountId messageId : String} {o : ReadOptions}
variable {id : MessageId} {options : Mail.DigestOptions} {octets : List UInt8}

/-- The answer to a reader about a message that cannot be parsed. -/
def unparsed (accountId : String) (id : MessageId) (e : Error) : Answer.Message :=
  ⟨.failed, [Issue.ofError "parse_message" e (some id.uid) (some id.encode)], accountId, none⟩

/-- What a reader is told of a message, by what reading it came to. -/
def Tells (accountId : String) (id : MessageId) (r : Except Failure Answer.Message) :
    Except Failure Mail.Digest → Prop
  | .ok d => ∃ a detail, r = .ok a ∧ a.message = some detail ∧ detail.id = id ∧
      detail.digest = { d with attachments := d.attachments.take maxAttachments }
  | .error (.refused e) => r = .ok (unparsed accountId id e)
  | .error (.escaped x) => r = .error (.escaped x)

/-- The sample's service with clients that refuse no values. -/
def reader : Service Exchange :=
  { Sample.service false with peer := Exchange.peer.calmed }

/-- The sample's world with one message in the inbox. -/
def holding (source : List UInt8) : World Exchange :=
  .start ⟨[("mail", { Sample.host 0 with
    mailboxes := [{ Sample.inbox with messages := [⟨1, source, [], false, false⟩] }] })], []⟩ 0

def plainDigest : Mail.DigestOptions :=
  ⟨2000, false, false, 10000, fun _ => none⟩

end Service

end Mailroom
