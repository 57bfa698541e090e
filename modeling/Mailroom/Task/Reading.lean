import Mailroom.Answer.Basic
import Mailroom.Task.Service
import Mailroom.Tool.Command

/-!
# Reading

The commands that look at accounts, mailboxes and messages. Mailboxes are selected for reading only,
and messages are fetched without marking them as seen.
-/

namespace Mailroom

open Imap

def maxMailboxes : Nat := 200

def maxCapabilities : Nat := 256

def maxAttachments : Nat := 50

namespace Service

variable {σ : Type}

def listAccounts (v : Service σ) : Answer.Accounts :=
  let accounts := v.settings.accounts.map Account.summary
  ⟨accounts, .listMailboxes ((accounts.head?.map (·.id)).getD "default")⟩

/-- The issue that a failed step without a message leaves. -/
def issueAt (stage : String) (e : Error) : Issue :=
  Issue.ofError stage e none none

/-- What a session tells of itself: its capabilities, and the steps that failed. -/
def probe (v : Service σ) (s : Session) : Task σ (List String × List Issue) := do
  let alive ← Task.attempt (s.noop v.peer)
  let capabilities ← Task.attempt (s.capabilities v.peer)
  let issues := match alive with
    | .ok _ => []
    | .error e => [issueAt "noop" e]
  match capabilities with
  | .ok cs => return (cs, issues)
  | .error e => return ([], issues ++ [issueAt "capabilities" e])

def verifyAccount (v : Service σ) (accountId : String) : Task σ Answer.Verification := do
  Task.check (Check.accountId accountId)
  let account ← v.account accountId
  let started ← Task.now
  match ← Task.attempt (v.connect account) with
  | .error e =>
    let issues := [issueAt "connect_authenticated" e]
    Task.logIssues Tool.verifyAccount .failed accountId none issues
    return ⟨.failed, issues, .verify accountId, account.summary,
      Instant.elapsedMillis started (← Task.now), []⟩
  | .ok session =>
    let (capabilities, issues) ← session.within v.peer (v.probe session)
    let status := Status.of issues.isEmpty true
    Task.logIssues Tool.verifyAccount status accountId none issues
    return ⟨status, issues, .listMailboxes accountId, account.summary,
      Instant.elapsedMillis started (← Task.now),
      (capabilities.mergeSort (· ≤ ·)).take maxCapabilities⟩

def listMailboxes (v : Service σ) (accountId : String) : Task σ Answer.Mailboxes := do
  Task.check (Check.accountId accountId)
  let account ← v.account accountId
  match ← Task.attempt (v.connect account) with
  | .error e =>
    let issues := [issueAt "connect_authenticated" e]
    Task.logIssues Tool.listMailboxes .failed accountId none issues
    return ⟨.failed, issues, .verify accountId, accountId, []⟩
  | .ok session =>
    let found ← session.within v.peer (Task.attempt (session.mailboxes v.peer))
    let (mailboxes, issues) := match found with
      | .ok bs => (bs.take maxMailboxes, [])
      | .error e => ([], [issueAt "list_mailboxes" e])
    let status := Status.of issues.isEmpty (!mailboxes.isEmpty)
    Task.logIssues Tool.listMailboxes status accountId none issues
    return ⟨status, issues, NextAction.afterMailboxes accountId (mailboxes.map (·.name)),
      accountId, mailboxes⟩

/-- The checks that opening a message needs no server for; the length to which the text of
attachments is cut. -/
def checkReading (accountId : String) (o : ReadOptions) : Except Error Int := do
  Check.accountId accountId
  Check.range o.bodyMaxChars 100 20000 "body_max_chars"
  if o.attachmentMaxChars.isSome && !o.extractText then
    throw .extractionLengthAlone
  let attachmentMaxChars := o.attachmentMaxChars.getD 10000
  Check.range attachmentMaxChars 100 50000 "attachment_text_max_chars"
  return attachmentMaxChars

/-- The answer about a message that could not be shown. -/
def unreadMessage (accountId : String) (id : MessageId) (i : Issue) :
    Task σ Answer.Message := do
  Task.logIssues Tool.getMessage .failed accountId (some id.mailbox) [i]
  return ⟨.failed, [i], accountId, none⟩

def digest (o : Mail.DigestOptions) (source : Value) : Except Failure Mail.Digest :=
  match source.octets? with
  | some octets => Mail.Digest.read o octets
  | none => .error (.refused (.unreadableMessage "the source does not consist of octets"))

/-- Fetches the source and the flags of a message within a session. If the message cannot be shown,
gives the answer that says so. -/
def fetchMessage (v : Service σ) (session : Session) (accountId : String) (id : MessageId)
    (o : Mail.DigestOptions) :
    Task σ (Except Answer.Message (Mail.Digest × Except Error (List String))) := do
  let failed (stage : String) (e : Error) :
      Task σ (Except Answer.Message (Mail.Digest × Except Error (List String))) := do
    return .error (← unreadMessage accountId id
      (Issue.ofError stage e (some id.uid) (some id.encode)))
  v.ensureEpoch session id true
  match ← Task.attempt (session.fetchSource v.peer id.uid) with
  | .error e => failed "fetch_raw_message" e
  | .ok source =>
    match ← Task.attempt (Task.ofExcept (digest o source)) with
    | .error e => failed "parse_message" e
    | .ok d => return .ok (d, ← Task.attempt (session.fetchFlags v.peer id.uid))

def shownHeaders (o : ReadOptions) (d : Mail.Digest) : Option (List (String × String)) :=
  if o.includeAllHeaders then some d.headers
  else if o.includeHeaders then some (Mail.curated d.headers)
  else none

def readMessage (v : Service σ) (accountId messageId : String) (o : ReadOptions) :
    Task σ Answer.Message := do
  let attachmentMaxChars ← Task.check (checkReading accountId o)
  let id ← Task.ofExcept (MessageId.parseFor accountId messageId)
  let account ← v.account accountId
  match ← Task.attempt (v.connect account) with
  | .error e =>
    unreadMessage accountId id (Issue.ofError "connect_authenticated" e none (some id.encode))
  | .ok session =>
    let options : Mail.DigestOptions :=
      ⟨o.bodyMaxChars, o.includeHtml, o.extractText, attachmentMaxChars, v.pdf⟩
    match ← session.within v.peer (v.fetchMessage session accountId id options) with
    | .error answer => return answer
    | .ok (d, flags) =>
      let issues := match flags with
        | .ok _ => []
        | .error e => [Issue.ofError "fetch_flags" e (some id.uid) (some id.encode)]
      let shown := { d with attachments := d.attachments.take maxAttachments }
      let status := Status.of issues.isEmpty true
      Task.logIssues Tool.getMessage status accountId (some id.mailbox) issues
      return ⟨status, issues, accountId, some ⟨id, shown, flags.toOption, shownHeaders o d⟩⟩

/-- The answer about a message whose source could not be fetched. -/
def unreadSource (accountId : String) (id : MessageId) (stage : String) (e : Error)
    (uid : Option Int) : Task σ Answer.Source := do
  let issues := [Issue.ofError stage e uid (some id.encode)]
  Task.logIssues Tool.getMessageRaw .failed accountId (some id.mailbox) issues
  return ⟨.failed, issues, accountId, id, none⟩

/-- Fetches the source of a message within a session, or gives the answer that says why not. -/
def fetchSource (v : Service σ) (session : Session) (accountId : String) (id : MessageId) :
    Task σ (Except Answer.Source Value) := do
  v.ensureEpoch session id true
  match ← Task.attempt (session.fetchSource v.peer id.uid) with
  | .error e => return .error (← unreadSource accountId id "fetch_raw_message" e (some id.uid))
  | .ok source => return .ok source

/-- The checks that fetching a source needs no server for. -/
def checkSource (accountId : String) (maxSize : Int) : Except Error Unit := do
  Check.accountId accountId
  Check.range maxSize 1024 1000000 "max_bytes"

def readSource (v : Service σ) (accountId messageId : String) (maxSize : Int) :
    Task σ Answer.Source := do
  Task.check (checkSource accountId maxSize)
  let id ← Task.ofExcept (MessageId.parseFor accountId messageId)
  let account ← v.account accountId
  match ← Task.attempt (v.connect account) with
  | .error e => unreadSource accountId id "connect_authenticated" e none
  | .ok session =>
    match ← session.within v.peer (v.fetchSource session accountId id) with
    | .error answer => return answer
    | .ok source =>
      match source.octets? with
      | none => Task.escape .unexpectedValue
      | some octets =>
        if maxSize < octets.length then
          Task.refuse .sourceTooLong
        else
          return ⟨.ok, [], accountId, id, some octets⟩

end Service

end Mailroom
