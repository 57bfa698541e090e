import Mailroom.Imap.Session
import Mailroom.Mail.Digest
import Mailroom.MessageId
import Mailroom.Report.Ledger
import Mailroom.Report.NextAction

/-!
# Answers

What each command answers when it is not refused as a whole. What follows from other fields, such as
the number of messages on a page, is left to the written form.
-/

namespace Mailroom

/-- What is told of an account: all but its credentials. -/
structure AccountSummary where
  id : String
  host : String
  port : Nat
  secure : Bool
deriving DecidableEq, Repr

def Account.summary (a : Account) : AccountSummary :=
  ⟨a.id, a.host, a.port, a.secure⟩

structure MessageRow where
  id : MessageId
  date : Option String
  sender : Option String
  subject : Option String
  flags : List String
  snippet : Option String
deriving DecidableEq, Repr

structure MessageDetail where
  id : MessageId
  digest : Mail.Digest
  flags : Option (List String)
  headers : Option (List (String × String))
deriving DecidableEq, Repr

namespace Answer

structure Accounts where
  accounts : List AccountSummary
  next : NextAction
deriving DecidableEq, Repr

/-- Whether an account can be used. The latency is in milliseconds. -/
structure Verification where
  status : Status
  issues : List Issue
  next : NextAction
  account : AccountSummary
  latency : Int
  capabilities : List String
deriving DecidableEq, Repr

structure Mailboxes where
  status : Status
  issues : List Issue
  next : NextAction
  accountId : String
  mailboxes : List Imap.Session.Mailbox
deriving DecidableEq, Repr

/-- A page of a search: how many messages matched, how many of them the page is about, and those of
which something can be told. -/
structure Page where
  status : Status
  issues : List Issue
  next : NextAction
  accountId : String
  mailbox : String
  total : Nat
  attempted : Nat
  messages : List MessageRow
  nextCursor : Option String
deriving DecidableEq, Repr

structure Message where
  status : Status
  issues : List Issue
  accountId : String
  message : Option MessageDetail
deriving DecidableEq, Repr

structure Source where
  status : Status
  issues : List Issue
  accountId : String
  id : MessageId
  source : Option (List UInt8)
deriving DecidableEq, Repr

/-- What became of two lists of flags, one to add and one to remove. -/
structure FlagChange where
  status : Status
  issues : List Issue
  accountId : String
  id : MessageId
  flags : Option (List String)
  add : List String
  remove : List String
  added : Bool
  removed : Bool
deriving DecidableEq, Repr

structure Copy where
  ledger : Ledger
  accountId : String
  destinationId : String
  id : MessageId
  mailbox : String
deriving DecidableEq, Repr

structure Move where
  ledger : Ledger
  accountId : String
  id : MessageId
  mailbox : String
  strategy : Option MoveStrategy
deriving DecidableEq, Repr

structure Deletion where
  ledger : Ledger
  accountId : String
  id : MessageId
deriving DecidableEq, Repr

end Answer

inductive Answer where
  | accounts (a : Answer.Accounts)
  | verification (a : Answer.Verification)
  | mailboxes (a : Answer.Mailboxes)
  | page (a : Answer.Page)
  | message (a : Answer.Message)
  | source (a : Answer.Source)
  | flagChange (a : Answer.FlagChange)
  | copy (a : Answer.Copy)
  | move (a : Answer.Move)
  | deletion (a : Answer.Deletion)
deriving DecidableEq, Repr

namespace Answer

def summary : Answer → String
  | accounts a => s!"{a.accounts.length} account(s) configured"
  | verification a =>
    if a.status = .failed then "Account verification failed" else "Account verification succeeded"
  | mailboxes a => s!"{a.mailboxes.length} mailbox(es)"
  | page a => s!"{a.messages.length} message(s) returned"
  | message _ => "Message retrieved"
  | source _ => "Raw message retrieved"
  | flagChange _ => "Flags updated"
  | copy _ => "Message copied"
  | move _ => "Message moved"
  | deletion _ => "Message deleted"

end Answer

end Mailroom
