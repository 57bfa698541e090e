import Mailroom.Report.Status
import Mailroom.Text.Case
import Mailroom.Tool.Arguments

/-!
# What to call next

The follow-up that an answer suggests: a tool, its arguments, and why.
-/

namespace Mailroom

inductive NextAction where
  | verify (accountId : String)
  | listMailboxes (accountId : String)
  | search (accountId mailbox : String)
  | searchOn (accountId mailbox : String) (limit : Int) (cursor : String)
  | searchWider (accountId mailbox : String) (limit : Int)
  | openMessage (accountId messageId : String)
deriving DecidableEq, Repr

namespace NextAction

def instruction : NextAction → String
  | verify _ => "Re-verify account connectivity before proceeding."
  | listMailboxes _ => "List mailboxes to choose a mailbox for message search."
  | search .. => "Search for messages in the selected mailbox."
  | searchOn .. => "Continue pagination to retrieve more messages."
  | searchWider .. => "Retry search with broader criteria."
  | openMessage .. => "Open a message to inspect full content and headers."

def tool : NextAction → Tool
  | verify _ => Tool.verifyAccount
  | listMailboxes _ => Tool.listMailboxes
  | search .. | searchOn .. | searchWider .. => Tool.searchMessages
  | openMessage .. => Tool.getMessage

def arguments : NextAction → Arguments
  | verify a | listMailboxes a => [("account_id", .string a)]
  | search a m =>
    [("account_id", .string a), ("mailbox", .string m), ("limit", .integer Search.defaultLimit),
      ("include_snippet", .bool false)]
  | searchOn a m limit cursor =>
    [("account_id", .string a), ("mailbox", .string m), ("cursor", .string cursor),
      ("limit", .integer limit), ("include_snippet", .bool false)]
  | searchWider a m limit =>
    [("account_id", .string a), ("mailbox", .string m), ("limit", .integer limit),
      ("include_snippet", .bool false)]
  | openMessage a id => [("account_id", .string a), ("message_id", .string id)]

/-- The mailbox to search first: the first that is the inbox in any case, else the first one. -/
def preferredMailbox (names : List String) : Option String :=
  (names.find? fun name => Text.upper name == "INBOX").or names.head?

/-- What to do after a search: go on if there is more, check the account if nothing worked, open
the first message, or ask for more. -/
def afterSearch (status : Status) (accountId mailbox : String) (limit : Int)
    (cursor : Option String) (messageIds : List String) : NextAction :=
  match cursor, status, messageIds with
  | some c, _, _ => searchOn accountId mailbox limit c
  | none, .failed, _ => verify accountId
  | none, _, id :: _ => openMessage accountId id
  | none, _, [] => searchWider accountId mailbox limit

def afterMailboxes (accountId : String) (names : List String) : NextAction :=
  match preferredMailbox names with
  | some name => search accountId name
  | none => verify accountId

end NextAction

end Mailroom
