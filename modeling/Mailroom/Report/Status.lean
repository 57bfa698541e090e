import Mailroom.Error

/-!
# Status and issues

The outcome of a call and the record of each step that failed in it.
-/

namespace Mailroom

inductive Status where
  | ok
  | incomplete
  | failed
deriving DecidableEq, Repr

namespace Status

def name : Status → String
  | ok => "ok"
  | incomplete => "partial"
  | failed => "failed"

/-- Fine without issues; incomplete if something was still produced; failed otherwise. -/
def of (noIssues hasData : Bool) : Status :=
  if noIssues then ok else if hasData then incomplete else failed

end Status

structure Issue where
  code : Code
  stage : String
  message : String
  retryable : Bool
  uid : Option Int
  messageId : Option String
deriving DecidableEq, Repr

def Issue.ofError (stage : String) (e : Error) (uid : Option Int) (messageId : Option String) :
    Issue :=
  ⟨e.code, stage, e.text, e.retryable, uid, messageId⟩

end Mailroom
