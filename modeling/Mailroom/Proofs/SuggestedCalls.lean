import Mailroom.Proofs.SearchRun
import Mailroom.Proofs.Serving
import Mailroom.Proofs.SoundCommands
import Mailroom.Proofs.WrittenIds

/-!
# What a search suggests

The answer of a search names its messages by their ids and says what to call next. Both are made
apart from where they are read: an id is read by the call that is given it, a suggestion by the
check of arguments and by the checks of the tool. They agree for every request that a search
accepts: what an answer names can be read and what it suggests can be called.
-/

namespace Mailroom

open Imap

section Ids

variable {s : String}

lemma Check.colon_notMem_of_accountId (h : Check.accountId s = .ok ()) : ':' ∉ s.toList := by
  intro hcolon
  unfold Check.accountId at h
  split at h
  · next hs =>
    simp only [Bool.and_eq_true, List.all_eq_true] at hs
    exact absurd (hs.2 ':' hcolon) (by decide)
  · cases h

lemma Check.ne_empty_of_mailbox (h : Check.mailbox s = .ok ()) : s ≠ "" := by
  rintro rfl
  cases h

/-- An id that a search gives is read by a call that names its account. -/
lemma MessageId.parseFor_encode {m : MessageId} (haccount : Check.accountId m.accountId = .ok ())
    (hmailbox : Check.mailbox m.mailbox = .ok ())
    (huidvalidity : 0 ≤ m.uidvalidity ∧ m.uidvalidity ≤ maxNumber)
    (huid : 0 ≤ m.uid ∧ m.uid ≤ maxNumber) : parseFor m.accountId m.encode = .ok m := by
  have hparse : parse m.encode = .ok m := parse_encode
    ⟨Check.colon_notMem_of_accountId haccount, Check.ne_empty_of_mailbox hmailbox, huidvalidity,
      huid⟩
  refine bind_eq_ok.2 ⟨m, hparse, bind_eq_ok.2 ⟨(), congrArg (Except.mapError _) hmailbox, ?_⟩⟩
  rw [bne_self_eq_false]
  rfl

end Ids

section Suggestions

/-- A search of a whole mailbox, or a page of one, without snippets. -/
def Search.Request.plain (accountId mailbox : String) (limit : Int) (cursor : Option String) :
    Search.Request where
  mailbox := mailbox
  accountId := accountId
  cursor := cursor
  query := none
  sender := none
  recipient := none
  subject := none
  unreadOnly := none
  lastDays := none
  startDate := none
  endDate := none
  limit := limit
  includeSnippet := false
  snippetMaxChars := none

/-- What a message is read with unless something else is asked for. -/
def ReadOptions.plain : ReadOptions :=
  ⟨2000, true, false, false, false, none⟩

/-- The command that a suggestion comes to. -/
def NextAction.command : NextAction → Command
  | verify a => .verifyAccount a
  | listMailboxes a => .listMailboxes a
  | search a m => .search (.plain a m Search.defaultLimit none)
  | searchOn a m limit cursor => .search (.plain a m limit (some cursor))
  | searchWider a m limit => .search (.plain a m limit none)
  | openMessage a id => .readMessage a id .plain

/-- Every suggestion gives its tool arguments that it knows and that it needs. -/
lemma NextAction.check_arguments (a : NextAction) :
    a.arguments.check a.tool.name = .ok a.arguments := by
  cases a <;> rfl

lemma NextAction.read_arguments (a : NextAction) :
    a.arguments.command a.tool.name = .ok a.command := by
  cases a <;> rfl

/-- The cursor that a command goes on with. -/
def Command.cursor? : Command → Option String
  | .search q => q.cursor
  | _ => none

/-- The checks of a command that a search suggests let it pass: a search, the reading of a message
or the verification of an account. -/
def Command.Passes (st : Settings) : Command → Prop
  | .search q => q.validate = .ok () ∧ ∃ a, st.account q.accountId = .ok a
  | .readMessage a m o => (∃ n, Service.checkReading a o = .ok n) ∧
      (∃ id, MessageId.parseFor a m = .ok id) ∧ ∃ account, st.account a = .ok account
  | .verifyAccount a => Check.accountId a = .ok () ∧ ∃ account, st.account a = .ok account
  | _ => False

variable {r : Search.Request} {st : Settings}

/-- What a valid request asks for without filters can be asked for, from the start or further on. -/
lemma Search.Request.Valid.plain (h : r.Valid) (cursor : Option String) :
    (Search.Request.plain r.accountId r.mailbox r.limit cursor).Valid where
  accountId := h.accountId
  mailbox := h.mailbox
  limit := h.limit
  lastDays := List.forall_mem_nil _
  snippet := List.forall_mem_nil _
  searchTexts := List.forall_mem_nil _
  dates := List.forall_mem_nil _
  coherent := by simp [Search.Request.plain, Search.Request.hasFilters]

/-- What is suggested after a search passes, if the messages that it names can be read. It goes on
with a cursor exactly if there is one. -/
lemma NextAction.passes_afterSearch (h : r.Valid)
    (hconfigured : ∃ a, st.account r.accountId = .ok a) (status : Status) (cursor : Option String)
    {ids : List String}
    (hids : ∀ raw ∈ ids, ∃ id, MessageId.parseFor r.accountId raw = .ok id) :
    let c := (afterSearch status r.accountId r.mailbox r.limit cursor ids).command
    c.Passes st ∧ c.accountIds = [r.accountId] ∧ c.cursor? = cursor := by
  have hsearch : ∀ cursor, (Search.Request.plain r.accountId r.mailbox r.limit cursor).validate =
      .ok () := fun cursor => Search.Request.validate_eq_ok.2 (h.plain cursor)
  have hreading : ∃ n, Service.checkReading r.accountId .plain = .ok n :=
    ⟨10000, Command.checkReading_eq_ok.2 ⟨h.accountId, by decide, nofun, by decide, rfl⟩⟩
  cases cursor with
  | some token => exact ⟨⟨hsearch _, hconfigured⟩, rfl, rfl⟩
  | none =>
    cases status with
    | failed => exact ⟨⟨h.accountId, hconfigured⟩, rfl, rfl⟩
    | ok | incomplete =>
      cases ids with
      | nil => exact ⟨⟨hsearch _, hconfigured⟩, rfl, rfl⟩
      | cons raw ids =>
        exact ⟨⟨hreading, hids raw List.mem_cons_self, hconfigured⟩, rfl, rfl⟩

end Suggestions

section Answers

variable {σ : Type} {v : Service σ} {r : Search.Request} {s : Session} {w w' : World σ}

/-- An answer is about a request: it tells the account and mailbox of the request, names messages in
it, and suggests what its status, cursor and messages call for. -/
structure Answer.Page.About (r : Search.Request) (page : Answer.Page) : Prop where
  accountId : page.accountId = r.accountId
  mailbox : page.mailbox = r.mailbox
  ids : ∀ m ∈ page.messages, m.id.accountId = r.accountId ∧ m.id.mailbox = r.mailbox
  next : page.next = NextAction.afterSearch page.status r.accountId r.mailbox r.limit
    page.nextCursor (page.messages.map fun m => m.id.encode)

/-- The messages of a sheet are of the account and mailbox of a request. -/
def Service.Sheet.About (r : Search.Request) (b : Service.Sheet) : Prop :=
  ∀ m ∈ b.messages, m.id.accountId = r.accountId ∧ m.id.mailbox = r.mailbox

lemma fetchRow_about (epoch : Int) (n : Snapshot) (uid : Int) :
    Task.Yields (v.fetchRow s r epoch n uid) fun x =>
      ∀ m, x.toOption = some m → m.id.accountId = r.accountId ∧ m.id.mailbox = r.mailbox := by
  refine .bind fun x => ?_
  cases x with
  | error e => exact .pure nofun
  | ok found =>
    dsimp only
    split
    · exact .pure nofun
    · refine .pure fun m hm => ?_
      cases hm
      exact ⟨rfl, rfl⟩

lemma failedSearch_about (stage : String) (e : Error) :
    Task.Yields (Service.failedSearch r stage e : Task σ Answer.Page) (Answer.Page.About r) :=
  .bind fun _ => .pure ⟨rfl, rfl, List.forall_mem_nil _, rfl⟩

lemma readSheet_about :
    Task.Yields (v.readSheet s r) fun x =>
      (∀ page, x = .error page → page.About r) ∧ ∀ b, x = .ok b → b.About r := by
  refine .bind fun x => ?_
  cases x with
  | error e =>
    refine .bind_of (failedSearch_about _ e) fun page hpage => .pure ⟨fun page' h => ?_, nofun⟩
    cases h
    exact hpage
  | ok epoch =>
    refine .bind_of (snapshot_failed_yields failedSearch_about epoch) fun x hx => ?_
    cases x with
    | error page => exact .pure ⟨fun page' h => hx page' (congrArg _ (Except.error.inj h)), nofun⟩
    | ok n =>
      dsimp only
      split
      · exact .refuse _
      · refine .bind_of (.mapM fun uid => fetchRow_about epoch n uid) fun rows hrows =>
          .pure ⟨nofun, fun b h m hm => ?_⟩
        cases h
        obtain ⟨x, hx, hm⟩ := List.mem_filterMap.1 hm
        exact hrows x hx m hm

lemma page_about {b : Service.Sheet} (hb : b.About r) :
    Task.Yields (v.page r b) (Answer.Page.About r) :=
  .bind fun _ => .bind fun _ => .bind fun _ => .pure ⟨rfl, rfl, hb, rfl⟩

/-- Whatever a search answers is about its request, which passed its checks. -/
lemma search_about {page : Answer.Page} (h : Task.runIn w (v.search r) = (.ok page, w')) :
    r.validate = .ok () ∧ (∃ a, v.settings.account r.accountId = .ok a) ∧ page.About r := by
  obtain ⟨u, hvalid, h⟩ := Task.runIn_check_bind_eq_ok.1 h
  obtain ⟨a, ha, h⟩ := Task.runIn_check_bind_eq_ok.1 h
  refine ⟨hvalid, ⟨a, ha⟩, ?_⟩
  obtain ⟨x, w₁, -, h⟩ := Task.runIn_bind_eq_ok.1 h
  cases x with
  | error e => exact (failedSearch_about _ e).ok trivial h
  | ok s =>
    obtain ⟨y, w₂, hwithin, h⟩ := Task.runIn_bind_eq_ok.1 h
    obtain ⟨hpage, hsheet⟩ := (within_yields readSheet_about).ok trivial hwithin
    cases y with
    | error page' =>
      cases h
      exact hpage page rfl
    | ok b => exact (page_about (hsheet b rfl)).ok trivial h

end Answers

/-- A written answer can be acted on. The id of each message that it lists is read, by a call that
names the account, as that of a message of the account and mailbox with the numbers that stand
beside it. The call that it suggests keeps its arguments as they are, and its command is one for the
account that passes its own checks and goes on with the cursor that the answer gives, or with
none. -/
structure Json.Actionable (st : Settings) (r : Search.Request) (answer : Json) : Prop where
  accountId : answer.field? "account_id" = some (.string r.accountId)
  mailbox : answer.field? "mailbox" = some (.string r.mailbox)
  messages : ∃ items, answer.field? "messages" = some (.array items) ∧ ∀ item ∈ items,
    ∃ raw uidvalidity uid, item.field? "message_id" = some (.string raw) ∧
      item.field? "mailbox" = some (.string r.mailbox) ∧
      item.field? "uidvalidity" = some (.integer uidvalidity) ∧
      item.field? "uid" = some (.integer uid) ∧
      MessageId.parseFor r.accountId raw = .ok ⟨r.accountId, r.mailbox, uidvalidity, uid⟩
  next : ∃ (next : Json) (tool : String) (as : Arguments) (c : Command),
    answer.field? "next_action" = some next ∧
    next.field? "tool" = some (.string tool) ∧ next.field? "arguments" = some (.object as) ∧
    as.check tool = .ok as ∧ as.command tool = .ok c ∧ c.Passes st ∧
    c.accountIds = [r.accountId] ∧
    answer.field? "next_cursor" = some (Json.optional .string c.cursor?)

namespace Service

variable {σ : Type}

/-- Every answer of a search, also one without a page, can be acted on, if the UIDVALIDITY and the
uids that it tells are of 32 bits. -/
theorem search_actionable (v : Service σ) (r : Search.Request) {w w' : World σ}
    {page : Answer.Page} (h : Task.runIn w (v.search r) = (.ok page, w'))
    (hnumbers : ∀ m ∈ page.messages,
      (0 ≤ m.id.uidvalidity ∧ m.id.uidvalidity ≤ MessageId.maxNumber) ∧
        0 ≤ m.id.uid ∧ m.id.uid ≤ MessageId.maxNumber) :
    page.toJson.Actionable v.settings r := by
  obtain ⟨hvalidate, hconfigured, habout⟩ := search_about h
  have hvalid := Search.Request.validate_eq_ok.1 hvalidate
  have hread : ∀ m ∈ page.messages, MessageId.parseFor r.accountId m.id.encode =
      .ok ⟨r.accountId, r.mailbox, m.id.uidvalidity, m.id.uid⟩ := by
    intro m hm
    obtain ⟨haccount, hmailbox⟩ := habout.ids m hm
    have hparsed : MessageId.parseFor m.id.accountId m.id.encode = .ok m.id :=
      MessageId.parseFor_encode (haccount ▸ hvalid.accountId) (hmailbox ▸ hvalid.mailbox)
        (hnumbers m hm).1 (hnumbers m hm).2
    rw [← haccount, ← hmailbox]
    exact hparsed
  have hids : ∀ raw ∈ page.messages.map fun m => m.id.encode,
      ∃ id, MessageId.parseFor r.accountId raw = .ok id := by
    intro raw hraw
    obtain ⟨m, hm, rfl⟩ := List.mem_map.1 hraw
    exact ⟨_, hread m hm⟩
  obtain ⟨hpasses, haccounts, hcursor⟩ :=
    NextAction.passes_afterSearch hvalid hconfigured page.status page.nextCursor hids
  rw [← habout.next] at hpasses haccounts hcursor
  refine ⟨congrArg (some ∘ Json.string) habout.accountId,
    congrArg (some ∘ Json.string) habout.mailbox, ⟨_, rfl, fun item hitem => ?_⟩, ?_⟩
  · obtain ⟨m, hm, rfl⟩ := List.mem_map.1 hitem
    exact ⟨m.id.encode, m.id.uidvalidity, m.id.uid, rfl,
      congrArg (some ∘ Json.string) (habout.ids m hm).2, rfl, rfl, hread m hm⟩
  · exact ⟨_, _, _, page.next.command, rfl, rfl, rfl, page.next.check_arguments,
      page.next.read_arguments, hpasses, haccounts, hcursor ▸ rfl⟩

/-- The first page of the sample's inbox, of one message of three, can be acted on. -/
theorem search_actionable_of_firstPage : ∃ page w',
    Task.runIn (Sample.world 0) ((Sample.service false).search (Sample.search 1 none)) =
      (.ok page, w') ∧
    page.messages.map (·.id.encode) = ["imap:a:INBOX:7:3"] ∧
    page.next = .searchOn "a" "INBOX" 1 "cursor-1" ∧
    page.toJson.Actionable (Sample.service false).settings (Sample.search 1 none) := by
  have hpage : (Task.runIn (Sample.world 0) ((Sample.service false).search
      (Sample.search 1 none))).1.toOption.map (fun page => (page.messages.map (·.id), page.next)) =
      some ([⟨"a", "INBOX", 7, 3⟩], .searchOn "a" "INBOX" 1 "cursor-1") := by
    unfold search readSheet snapshot start Session.search
    simp only [newestFirst_eq_insertionSort]
    decide +kernel
  rcases hrun : Task.runIn (Sample.world 0)
    ((Sample.service false).search (Sample.search 1 none)) with ⟨f | page, w'⟩
  · rw [hrun] at hpage
    cases hpage
  · rw [hrun] at hpage
    obtain ⟨hids, hnext⟩ := Prod.mk.inj (Option.some.inj hpage)
    have hnumbers : ∀ m ∈ page.messages,
        (0 ≤ m.id.uidvalidity ∧ m.id.uidvalidity ≤ MessageId.maxNumber) ∧
          0 ≤ m.id.uid ∧ m.id.uid ≤ MessageId.maxNumber := by
      intro m hm
      have hid : m.id ∈ page.messages.map (·.id) := List.mem_map_of_mem hm
      rw [hids, List.mem_singleton] at hid
      rw [hid]
      decide
    refine ⟨page, w', rfl, ?_, hnext, search_actionable (Sample.service false) _ hrun hnumbers⟩
    have hencoded : page.messages.map (·.id.encode) =
        (page.messages.map (·.id)).map MessageId.encode := by
      rw [List.map_map]
      rfl
    rw [hencoded, hids]
    decide

end Service

end Mailroom
