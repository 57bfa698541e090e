import Mailroom.Calendar.Moment
import Mailroom.Imap.Session
import Mailroom.Mail.Digest
import Mailroom.MessageId
import Mailroom.Report.Ledger
import Mailroom.Tool.Basic

/-!
# The service

What all commands work with, and the steps that several of them share: connecting, checking that a
message id is not out of date, and reporting issues.
-/

namespace Mailroom

open Imap

/-- The other side of all calls, the settings, the time of day, and how documents are read. -/
structure Service (σ : Type) where
  peer : Peer σ
  settings : Settings
  today : Moment
  pdf : Mail.PdfReader

namespace Task

variable {σ α : Type}

def logIssues (tool : Tool) (status : Status) (accountId : String) (mailbox : Option String)
    (issues : List Issue) : Task σ Unit :=
  modify fun w =>
    { w with logs := w.logs ++ issues.map (Log.ofIssue tool.name status accountId mailbox) }

/-- Runs a step of a change and enters it into a ledger. What a failed step gave is absent. -/
def step (stage : String) (uid : Option Int) (l : Ledger) (t : Task σ α) :
    Task σ (Option α × Ledger) := do
  let outcome ← attempt t
  return (outcome.toOption, l.record stage uid outcome)

end Task

namespace Service

variable {σ α : Type}

def account (v : Service σ) (id : String) : Task σ Account :=
  Task.check (v.settings.account id)

def connect (v : Service σ) (a : Account) : Task σ Session :=
  Imap.connect v.peer v.settings a

/-- Selects the mailbox of a message and refuses if the message's UIDVALIDITY is out of date. -/
def ensureEpoch (v : Service σ) (s : Session) (id : MessageId) (readOnly : Bool) :
    Task σ Unit := do
  let epoch ← s.select v.peer id.mailbox readOnly
  if epoch ≠ id.uidvalidity then
    Task.refuse .messageEpoch

end Service

end Mailroom
