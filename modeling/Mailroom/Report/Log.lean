import Mailroom.Report.Status
import Mailroom.Text.Case
import Mailroom.Text.Space

/-!
# Log records

Records with a level and the part of the program that writes them, and the records that issues
leave behind.
-/

namespace Mailroom

namespace Log

inductive Level where
  | debug
  | info
  | warning
  | error
deriving DecidableEq, Repr

def Level.name : Level → String
  | debug => "DEBUG"
  | info => "INFO"
  | warning => "WARNING"
  | error => "ERROR"

def Level.rank : Level → Nat
  | debug => 10
  | info => 20
  | warning => 30
  | error => 40

def ranks : List (String × Nat) :=
  [("NOTSET", 0), ("DEBUG", 10), ("INFO", 20), ("WARN", 30), ("WARNING", 30), ("ERROR", 40),
    ("CRITICAL", 50), ("FATAL", 50)]

/-- The least rank of the records to be written; that of information if the name is unknown. -/
def threshold (name : String) : Nat :=
  let name := Text.upper (Text.strip name)
  ((ranks.find? (·.1 == name)).map (·.2)).getD Level.info.rank

inductive Source where
  | server
  | imap
  | messages
  | mutations
  | search
deriving DecidableEq, Repr

def Source.name : Source → String
  | server => "mail-imap-mcp"
  | imap => "mail-imap-mcp.imap"
  | messages => "mail-imap-mcp.messages"
  | mutations => "mail-imap-mcp.mutations"
  | search => "mail-imap-mcp.search"

structure Record where
  level : Level
  source : Source
  message : String
deriving DecidableEq, Repr

def yesNo (b : Bool) : String :=
  if b then "True" else "False"

/-- A value as it is written in records, with a word for an absent one. -/
def orNone {α : Type} [ToString α] : Option α → String
  | none => "None"
  | some a => toString a

/-- The record of an issue: an error if the call failed or the cause is internal or a timeout,
else a warning. -/
def ofIssue (tool : String) (status : Status) (accountId : String) (mailbox : Option String)
    (i : Issue) : Record where
  level :=
    if status = .failed ∨ i.code = .internal ∨ i.code = .timeout then .error else .warning
  source := .server
  message :=
    s!"runtime imap issue tool={tool} stage={i.stage} code={i.code.name} " ++
    s!"retryable={yesNo i.retryable} account_id={accountId} mailbox={orNone mailbox} " ++
    s!"uid={orNone i.uid} message_id={orNone i.messageId} message={i.message}"

end Log

end Mailroom
