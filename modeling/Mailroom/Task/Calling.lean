import Mailroom.Answer.Printer
import Mailroom.Task.Changing
import Mailroom.Task.Reading
import Mailroom.Task.Searching

/-!
# Calling tools

Runs the command of a tool call and writes its answer. A refusal is an answer of its own; what
escapes is left to the caller.
-/

namespace Mailroom.Service

variable {σ : Type}

def announce (message : String) : Task σ Unit :=
  Task.log .info .server message

def run (v : Service σ) : Command → Task σ Answer
  | .listAccounts => return .accounts v.listAccounts
  | .verifyAccount a => do
    announce s!"Verifying account {a}"
    return .verification (← v.verifyAccount a)
  | .listMailboxes a => do
    announce s!"Listing mailboxes for {a}"
    return .mailboxes (← v.listMailboxes a)
  | .search r => do
    announce s!"Searching {r.accountId}/{r.mailbox} with limit={r.limit}"
    return .page (← v.search r)
  | .readMessage a m o => do
    announce s!"Fetching message {m}"
    return .message (← v.readMessage a m o)
  | .readSource a m n => do
    announce s!"Fetching raw message {m}"
    return .source (← v.readSource a m n)
  | .updateFlags a m add remove => return .flagChange (← v.updateFlags a m add remove)
  | .copy a m b d => return .copy (← v.copyMessage a m b d)
  | .move a m b => return .move (← v.moveMessage a m b)
  | .delete a m c => return .deletion (← v.deleteMessage a m c)

def answer (v : Service σ) (tool : String) (as : Arguments) : Task σ Answer := do
  v.run (← Task.check (as.command tool))

def call (v : Service σ) (tool : String) (as : Arguments) : Task σ Json := do
  let started ← Task.now
  match ← Task.attempt (v.answer tool as) with
  | .ok a => return a.envelope v.today (Instant.elapsedMillis started (← Task.now))
  | .error e =>
    Task.log .error .server s!"hard mcp error tool={tool} code={e.code.name} message={e.text}"
    return e.toJson

end Mailroom.Service
