import Mailroom.Proofs.Legibility
import Mailroom.Proofs.OctetText

/-!
# Sources as they are answered

The source of a message is answered whole or not at all. One that is no longer than it may be is
written in base64, so that its octets can be read back, and a longer one is refused. An answer that
says that fetching failed has no source in it.
-/

namespace Mailroom

open Imap Transfer

namespace Answer.Source

variable {a : Answer.Source} {octets : List UInt8}

/-- The octets can be read from an answer, by a strict and by a lenient reader of base64. -/
structure Shows (a : Answer.Source) (octets : List UInt8) : Prop where
  status : a.toJson.field? "status" = some (.string "ok")
  size : a.toJson.field? "size_bytes" = some (.integer octets.length)
  encoding : a.toJson.field? "raw_source_encoding" = some (.string "base64")
  source : ∃ s, a.toJson.field? "raw_source_base64" = some (.string s) ∧
    Base64.decodeStrict? (ascii s) = some octets ∧ Base64.decodeLenient? (ascii s) = some octets

structure ShowsNothing (a : Answer.Source) : Prop where
  status : a.toJson.field? "status" = some (.string "failed")
  size : a.toJson.field? "size_bytes" = some (.integer 0)
  encoding : a.toJson.field? "raw_source_encoding" = some .null
  source : a.toJson.field? "raw_source_base64" = some .null

/-- An answer that has a source and says that all went well, or that has none and says that it
failed. -/
def Whole (a : Answer.Source) : Prop :=
  (a.status = .ok ∧ a.source.isSome) ∨ (a.status = .failed ∧ a.source = none)

lemma shows_of_source (hstatus : a.status = .ok) (hsource : a.source = some octets) :
    a.Shows octets := by
  obtain ⟨status, issues, accountId, id, source⟩ := a
  obtain rfl : status = .ok := hstatus
  obtain rfl : source = some octets := hsource
  exact ⟨rfl, rfl, rfl, Base64.encode octets, rfl, Base64.decodeStrict?_encode octets,
    Base64.decodeLenient?_encode octets⟩

lemma showsNothing_of_whole (h : a.Whole) (hstatus : a.status ≠ .ok) : a.ShowsNothing := by
  obtain ⟨hfailed, hsource⟩ := h.resolve_left fun h => hstatus h.1
  obtain ⟨status, issues, accountId, id, source⟩ := a
  obtain rfl : status = .failed := hfailed
  obtain rfl : source = none := hsource
  exact ⟨rfl, rfl, rfl, rfl⟩

end Answer.Source

namespace Service

variable {σ : Type} {v : Service σ} {w : World σ} {accountId messageId : String} {maxSize : Int}
variable {id : MessageId} {octets : List UInt8}

section Wholeness

lemma whole_unreadSource (stage : String) (e : Error) (uid : Option Int) :
    Task.Yields (unreadSource accountId id stage e uid : Task σ Answer.Source)
      Answer.Source.Whole :=
  .bind fun _ => .pure (.inr ⟨rfl, rfl⟩)

lemma whole_fetchSource (s : Session) :
    Task.Yields (v.fetchSource s accountId id) fun x => ∀ a, x = .error a → a.Whole := by
  refine .bind fun _ => .bind fun fetched => ?_
  cases fetched with
  | ok source => exact .pure nofun
  | error e =>
    refine .bind_of (whole_unreadSource _ _ _) fun a ha => .pure ?_
    rintro _ ⟨⟩
    exact ha

/-- Whatever the other side does, an answer has a source exactly if it says so. -/
lemma whole_readSource : Task.Yields (v.readSource accountId messageId maxSize)
    Answer.Source.Whole := by
  refine .bind fun _ => .bind fun id => .bind fun account => .bind fun connected => ?_
  cases connected with
  | error e => exact whole_unreadSource _ _ _
  | ok s =>
    refine .bind_of (within_yields (whole_fetchSource s)) fun fetched hfetched => ?_
    cases fetched with
    | error a => exact .pure (hfetched a rfl)
    | ok source =>
      dsimp only
      split
      · exact Task.Triple.escape fun _ _ => trivial
      · split
        · exact .refuse _
        · exact .pure (.inl ⟨rfl, rfl⟩)

end Wholeness

/-- A call for a source comes as far as having fetched these octets: nothing is objected to the
names of the account and the message, and the session was opened and closed and gave the octets. -/
def FetchesSource (v : Service σ) (w : World σ) (accountId messageId : String) (id : MessageId)
    (octets : List UInt8) : Prop :=
  ∃ account s w₁ w₂ source,
    Check.accountId accountId = .ok () ∧
      MessageId.parseFor accountId messageId = .ok id ∧
      v.settings.account accountId = .ok account ∧
      Task.runIn w (v.connect account) = (.ok s, w₁) ∧
      Task.runIn w₁ (s.within v.peer (v.fetchSource s accountId id)) = (.ok (.ok source), w₂) ∧
      source.octets? = some octets

/-- With clients that refuse no values it is enough that the message was fetched. -/
lemma fetchesSource_of_orderly {account : Account} {s : Session} {w₁ w₂ w₃ : World σ}
    {source : Value} (hp : v.peer.Orderly) (haccountId : Check.accountId accountId = .ok ())
    (hid : MessageId.parseFor accountId messageId = .ok id)
    (haccount : v.settings.account accountId = .ok account)
    (hconnect : Task.runIn w (v.connect account) = (.ok s, w₁))
    (hepoch : Task.runIn w₁ (v.ensureEpoch s id true) = (.ok (), w₂))
    (hfetch : Task.runIn w₂ (s.fetchSource v.peer id.uid) = (.ok source, w₃))
    (hoctets : source.octets? = some octets) :
    v.FetchesSource w accountId messageId id octets := by
  have hbody : Task.runIn w₁ (v.fetchSource s accountId id) = (.ok (.ok source), w₃) := by
    unfold fetchSource
    rw [Task.runIn_bind_ok hepoch, Task.runIn_attempt_bind_ok hfetch]
    rfl
  rcases hwithin : Task.runIn w₁ (s.within v.peer (v.fetchSource s accountId id)) with ⟨x, w₄⟩
  obtain ⟨y, w₅, es, hrun, -, hx⟩ := within_cases hwithin
  obtain rfl : x = y := hx.resolve_right fun ⟨_, hunruly⟩ => hunruly hp
  rw [hbody] at hrun
  cases hrun
  exact ⟨account, s, w₁, w₄, source, haccountId, hid, haccount, hconnect, hwithin, hoctets⟩

/-- The length of the octets decides what the answer is. -/
lemma runIn_readSource (hmax : 1024 ≤ maxSize ∧ maxSize ≤ 1000000)
    (h : v.FetchesSource w accountId messageId id octets) :
    (Task.runIn w (v.readSource accountId messageId maxSize)).1 =
      if maxSize < octets.length then .error (.refused .sourceTooLong)
      else .ok ⟨.ok, [], accountId, id, some octets⟩ := by
  obtain ⟨account, s, w₁, w₂, source, haccountId, hid, haccount, hconnect, hwithin, hoctets⟩ := h
  have hcheck := Command.checkSource_eq_ok.2 ⟨haccountId, hmax⟩
  unfold readSource
  rw [Task.runIn_check_bind_ok hcheck, Task.runIn_ofExcept_bind_ok hid,
    Task.runIn_account_bind_ok haccount, Task.runIn_attempt_bind_ok hconnect]
  dsimp only
  rw [Task.runIn_bind_ok hwithin]
  dsimp only
  rw [hoctets]
  dsimp only
  split <;> rfl

/-- What a call for a source that was fetched comes to: an answer that shows all of it, or the
refusal of a source that is too long. -/
structure Bounded (maxSize : Int) (octets : List UInt8) (r : Except Failure Answer.Source) :
    Prop where
  answered : (∃ a, r = .ok a ∧ a.status = .ok) ↔ octets.length ≤ maxSize
  shown : ∀ a, r = .ok a → a.Shows octets
  refused : maxSize < octets.length → ∃ e, r = .error (.refused e) ∧ e.code = .invalidInput ∧
    e.message = "message exceeds max_bytes; increase max_bytes"

lemma bounded_readSource (hmax : 1024 ≤ maxSize ∧ maxSize ≤ 1000000)
    (h : v.FetchesSource w accountId messageId id octets) :
    Bounded maxSize octets (Task.runIn w (v.readSource accountId messageId maxSize)).1 := by
  rw [runIn_readSource hmax h]
  split
  · next hlong =>
    exact ⟨iff_of_false nofun (by omega), nofun, fun _ => ⟨_, rfl, rfl, rfl⟩⟩
  · next hfits =>
    refine ⟨iff_of_true ⟨_, rfl, rfl⟩ (by omega), ?_, fun hlong => absurd hlong hfits⟩
    rintro _ ⟨⟩
    exact Answer.Source.shows_of_source rfl rfl

/-- A call that fetches a source is answered with it if it is no longer than it may be, and refused
otherwise. In any world, an answer that is not such a success shows nothing of a source. -/
theorem source_answered_whole (v : Service σ) (w : World σ) (accountId messageId : String)
    (maxSize : Int) :
    (∀ id octets, 1024 ≤ maxSize → maxSize ≤ 1000000 →
      v.FetchesSource w accountId messageId id octets →
      Bounded maxSize octets (Task.runIn w (v.readSource accountId messageId maxSize)).1) ∧
    ∀ a w', Task.runIn w (v.readSource accountId messageId maxSize) = (.ok a, w') →
      a.status ≠ .ok → a.ShowsNothing := by
  refine ⟨fun id octets hlow hhigh h => bounded_readSource ⟨hlow, hhigh⟩ h, fun a w' hrun => ?_⟩
  exact Answer.Source.showsNothing_of_whole (whole_readSource.ok trivial hrun)

lemma fetchesSource_holding (source : List UInt8) :
    reader.FetchesSource (holding source) "a" "imap:a:INBOX:7:1" ⟨"a", "INBOX", 7, 1⟩ source := by
  have hid : MessageId.parseFor "a" "imap:a:INBOX:7:1" = .ok ⟨"a", "INBOX", 7, 1⟩ :=
    eq_ok_of_toOption (by decide)
  have haccount : reader.settings.account "a" = .ok Sample.account :=
    eq_ok_of_toOption (by decide)
  obtain ⟨w₁, hconnect⟩ : ∃ w₁, Task.runIn (holding source) (reader.connect Sample.account) =
      (.ok ⟨0⟩, w₁) := ⟨_, rfl⟩
  obtain ⟨w₂, hepoch⟩ : ∃ w₂, Task.runIn w₁ (reader.ensureEpoch ⟨0⟩ ⟨"a", "INBOX", 7, 1⟩ true) =
      (.ok (), w₂) := by
    cases hconnect
    exact ⟨_, rfl⟩
  obtain ⟨w₃, hfetch⟩ : ∃ w₃, Task.runIn w₂ (Session.fetchSource reader.peer ⟨0⟩ 1) =
      (.ok (.single (.octets source)), w₃) := by
    cases hconnect
    cases hepoch
    exact ⟨_, rfl⟩
  exact fetchesSource_of_orderly (Peer.orderly_calmed _) (by decide) hid haccount hconnect
    hepoch hfetch rfl

/-- As many octets as are always allowed, and one more. -/
theorem source_answered_whole_of_full :
    (∃ a, (Task.runIn (holding (.replicate 1024 0xff))
        (reader.readSource "a" "imap:a:INBOX:7:1" 1024)).1 = .ok a ∧ a.status = .ok ∧
      a.Shows (.replicate 1024 0xff)) ∧
    ∃ e, (Task.runIn (holding (.replicate 1025 0xff))
        (reader.readSource "a" "imap:a:INBOX:7:1" 1024)).1 = .error (.refused e) ∧
      e.code = .invalidInput := by
  have hfull := (source_answered_whole reader (holding (.replicate 1024 0xff)) "a"
    "imap:a:INBOX:7:1" 1024).1 _ _ (by decide) (by decide) (fetchesSource_holding _)
  have hlong := (source_answered_whole reader (holding (.replicate 1025 0xff)) "a"
    "imap:a:INBOX:7:1" 1024).1 _ _ (by decide) (by decide) (fetchesSource_holding _)
  constructor
  · obtain ⟨a, ha, hstatus⟩ := hfull.answered.2 (by rw [List.length_replicate]; decide)
    exact ⟨a, ha, hstatus, hfull.shown a ha⟩
  · obtain ⟨e, he, hcode, -⟩ := hlong.refused (by rw [List.length_replicate]; decide)
    exact ⟨e, he, hcode⟩

end Service

end Mailroom
