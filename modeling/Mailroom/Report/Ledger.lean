import Mailroom.Report.Status

/-!
# The ledger of a change

Counts the steps of a change that were tried and that succeeded, and keeps an issue for each that
failed.
-/

namespace Mailroom

structure Ledger where
  messageId : String
  attempted : Nat
  succeeded : Nat
  issues : List Issue
deriving DecidableEq, Repr

namespace Ledger

def start (messageId : String) : Ledger :=
  ⟨messageId, 0, 0, []⟩

def record {α : Type} (stage : String) (uid : Option Int) (outcome : Except Error α)
    (l : Ledger) : Ledger :=
  match outcome with
  | .ok _ => { l with attempted := l.attempted + 1, succeeded := l.succeeded + 1 }
  | .error e =>
    { l with
      attempted := l.attempted + 1
      issues := l.issues ++ [Issue.ofError stage e uid (some l.messageId)] }

def status (l : Ledger) : Status :=
  Status.of l.issues.isEmpty (0 < l.succeeded)

end Ledger

inductive MoveStrategy where
  /-- With a command of its own. -/
  | native
  /-- By copying, marking as deleted and expunging. -/
  | copyDeleteExpunge
deriving DecidableEq, Repr

namespace MoveStrategy

def name : MoveStrategy → String
  | native => "move"
  | copyDeleteExpunge => "copy_delete_expunge"

/-- The way that a server's capabilities, in upper case, allow. -/
def select (capabilities : List String) : MoveStrategy :=
  if capabilities.contains "MOVE" then native else copyDeleteExpunge

end MoveStrategy

end Mailroom
