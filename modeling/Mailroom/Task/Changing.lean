import Mailroom.Answer.Basic
import Mailroom.Task.Service

/-!
# Changing

The commands that change mailboxes. Before the first change the mailbox is selected anew and its
UIDVALIDITY compared with the message's. Steps that fail are reported, never taken back.
-/

namespace Mailroom

open Imap

def deletedFlag : String := "\\Deleted"

namespace Service

variable {σ : Type}

def checkChange (v : Service σ) (accountId : String) : Except Error Unit := do
  Check.writesEnabled v.settings.writeEnabled
  Check.accountId accountId

/-- The flags to add and those to remove, of which there has to be one. -/
def checkFlags (add remove : Option (List String)) :
    Except Error (List String × List String) := do
  let add ← Check.flags add
  let remove ← Check.flags remove
  if add.isEmpty && remove.isEmpty then
    throw .noFlags
  return (add, remove)

/-- Runs a step if there is something to do. Tells whether it was done. -/
def stepUnless (nothing : Bool) (stage : String) (uid : Int) (l : Ledger) (t : Task σ Unit) :
    Task σ (Bool × Ledger) := do
  if nothing then
    return (false, l)
  else
    let (r, l) ← Task.step stage (some uid) l t
    return (r.isSome, l)

/-- Adds and removes flags within a session, and looks at the flags afterwards. -/
def storeFlags (v : Service σ) (session : Session) (accountId : String) (id : MessageId)
    (add remove : List String) : Task σ Answer.FlagChange := do
  v.ensureEpoch session id false
  let l := Ledger.start id.encode
  let (added, l) ← stepUnless add.isEmpty "uid_store_add_flags" id.uid l
    (session.addFlags v.peer id.uid add)
  let (removed, l) ← stepUnless remove.isEmpty "uid_store_remove_flags" id.uid l
    (session.removeFlags v.peer id.uid remove)
  match ← Task.attempt (session.fetchFlags v.peer id.uid) with
  | .ok flags =>
    return ⟨l.status, l.issues, accountId, id, some flags, add, remove, added, removed⟩
  | .error e =>
    let issue := Issue.ofError "fetch_flags" e (some id.uid) (some id.encode)
    return ⟨l.status, l.issues ++ [issue], accountId, id, none, add, remove, added, removed⟩

def updateFlags (v : Service σ) (accountId messageId : String)
    (add remove : Option (List String)) : Task σ Answer.FlagChange := do
  Task.check (v.checkChange accountId)
  let (add, remove) ← Task.check (checkFlags add remove)
  let id ← Task.ofExcept (MessageId.parseFor accountId messageId)
  let account ← v.account accountId
  match ← Task.attempt (v.connect account) with
  | .error e =>
    let issues := [Issue.ofError "connect_authenticated" e none (some id.encode)]
    Task.logIssues Tool.updateMessageFlags .failed accountId (some id.mailbox) issues
    return ⟨.failed, issues, accountId, id, none, add, remove, false, false⟩
  | .ok session =>
    let answer ← session.within v.peer (v.storeFlags session accountId id add remove)
    Task.logIssues Tool.updateMessageFlags answer.status accountId (some id.mailbox) answer.issues
    Task.log .info .mutations
      s!"Flag update on uid {id.uid} in {id.mailbox}: {answer.status.name}"
    return answer

/-- Copies a message to a mailbox of the same account, within a session. -/
def copyWithin (v : Service σ) (session : Session) (id : MessageId) (mailbox : String)
    (l : Ledger) : Task σ Ledger := do
  v.ensureEpoch session id false
  let (_, l) ← Task.step "uid_copy" (some id.uid) l (session.copy v.peer id.uid mailbox)
  return l

/-- Fetches the source of a message that is to be copied elsewhere, within a session. -/
def fetchForCopy (v : Service σ) (session : Session) (id : MessageId) (l : Ledger) :
    Task σ (Option Value × Ledger) := do
  v.ensureEpoch session id true
  Task.step "fetch_raw_message_source" (some id.uid) l (session.fetchSource v.peer id.uid)

def appendTo (v : Service σ) (destination : Account) (mailbox : String) (source : Value)
    (l : Ledger) : Task σ Ledger := do
  match ← Task.step "connect_authenticated_destination" none l (v.connect destination) with
  | (none, l) => return l
  | (some session, l) =>
    session.within v.peer do
      match source.octets? with
      | none => Task.escape .unexpectedValue
      | some octets =>
        let (_, l) ← Task.step "append_destination" none l
          (session.append v.peer mailbox octets)
        return l

def copySteps (v : Service σ) (source destination : Account) (same : Bool) (id : MessageId)
    (mailbox : String) : Task σ Ledger := do
  let l := Ledger.start id.encode
  match ← Task.step "connect_authenticated_source" none l (v.connect source) with
  | (none, l) => return l
  | (some session, l) =>
    if same then
      session.within v.peer (v.copyWithin session id mailbox l)
    else
      match ← session.within v.peer (v.fetchForCopy session id l) with
      | (none, l) => return l
      | (some octets, l) => v.appendTo destination mailbox octets l

/-- Copies a message to another mailbox, perhaps of another account. -/
def copyMessage (v : Service σ) (accountId messageId mailbox : String)
    (destinationId : Option String) : Task σ Answer.Copy := do
  Task.check (v.checkChange accountId)
  let id ← Task.ofExcept (MessageId.parseFor accountId messageId)
  Task.check (Check.mailbox mailbox)
  let destinationId := destinationId.getD accountId
  Task.check (Check.accountId destinationId)
  let source ← v.account accountId
  let destination ← v.account destinationId
  let l ← v.copySteps source destination (destinationId == accountId) id mailbox
  Task.logIssues Tool.copyMessage l.status accountId (some id.mailbox) l.issues
  Task.log .info .mutations
    s!"Copy of uid {id.uid} to {destinationId}/{mailbox}: {l.succeeded}/{l.attempted} steps"
  return ⟨l, accountId, destinationId, id, mailbox⟩

/-- Marks a message as deleted and removes it, the second only if the first succeeded. -/
def removeSteps (v : Service σ) (session : Session) (uid : Int) (l : Ledger) : Task σ Ledger := do
  match ← Task.step "uid_store_deleted" (some uid) l
    (session.addFlags v.peer uid [deletedFlag]) with
  | (none, l) => return l
  | (some _, l) =>
    let (_, l) ← Task.step "uid_expunge" (some uid) l (session.expunge v.peer uid)
    return l

/-- Moves a message in one of the ways, each step only if the one before succeeded. -/
def moveBy (v : Service σ) (strategy : MoveStrategy) (session : Session) (uid : Int)
    (mailbox : String) (l : Ledger) : Task σ Ledger := do
  match strategy with
  | .native =>
    let (_, l) ← Task.step "uid_move" (some uid) l (session.move v.peer uid mailbox)
    return l
  | .copyDeleteExpunge =>
    match ← Task.step "uid_copy" (some uid) l (session.copy v.peer uid mailbox) with
    | (none, l) => return l
    | (some _, l) => v.removeSteps session uid l

/-- Moves a message within a session, in the way that the server's capabilities allow. -/
def moveWithin (v : Service σ) (session : Session) (id : MessageId) (mailbox : String)
    (l : Ledger) : Task σ (Option MoveStrategy × Ledger) := do
  v.ensureEpoch session id false
  match ← Task.step "capabilities" (some id.uid) l (session.capabilities v.peer) with
  | (none, l) => return (none, l)
  | (some capabilities, l) =>
    let strategy := MoveStrategy.select capabilities
    return (some strategy, ← v.moveBy strategy session id.uid mailbox l)

def moveSteps (v : Service σ) (account : Account) (id : MessageId) (mailbox : String) :
    Task σ (Option MoveStrategy × Ledger) := do
  let l := Ledger.start id.encode
  match ← Task.step "connect_authenticated" none l (v.connect account) with
  | (none, l) => return (none, l)
  | (some session, l) => session.within v.peer (v.moveWithin session id mailbox l)

def moveMessage (v : Service σ) (accountId messageId mailbox : String) : Task σ Answer.Move := do
  Task.check (v.checkChange accountId)
  let id ← Task.ofExcept (MessageId.parseFor accountId messageId)
  Task.check (Check.mailbox mailbox)
  let account ← v.account accountId
  let (strategy, l) ← v.moveSteps account id mailbox
  Task.logIssues Tool.moveMessage l.status accountId (some id.mailbox) l.issues
  return ⟨l, accountId, id, mailbox, strategy⟩

def deleteWithin (v : Service σ) (session : Session) (id : MessageId) (l : Ledger) :
    Task σ Ledger := do
  v.ensureEpoch session id false
  v.removeSteps session id.uid l

def deleteSteps (v : Service σ) (account : Account) (id : MessageId) : Task σ Ledger := do
  let l := Ledger.start id.encode
  match ← Task.step "connect_authenticated" none l (v.connect account) with
  | (none, l) => return l
  | (some session, l) => session.within v.peer (v.deleteWithin session id l)

def deleteMessage (v : Service σ) (accountId messageId : String) (confirmed : Bool) :
    Task σ Answer.Deletion := do
  Task.check (v.checkChange accountId)
  if !confirmed then
    Task.refuse .notConfirmed
  let id ← Task.ofExcept (MessageId.parseFor accountId messageId)
  let account ← v.account accountId
  let l ← v.deleteSteps account id
  Task.logIssues Tool.deleteMessage l.status accountId (some id.mailbox) l.issues
  Task.log .info .mutations s!"Delete of uid {id.uid} in {id.mailbox}: {l.status.name}"
  return ⟨l, accountId, id⟩

end Service

end Mailroom
