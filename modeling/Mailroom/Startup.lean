import Mailroom.Report.Log
import Mailroom.Settings

/-!
# Starting up

What the environment decides when the program starts: which log records are written, and whether
there are settings to serve with.
-/

namespace Mailroom

structure Startup where
  /-- The least rank of the log records to be written. -/
  threshold : Nat
  settings : Except Error Settings

namespace Startup

def ofEnvironment (env : Environment) : Startup :=
  ⟨Log.threshold ((env.value? "MAIL_IMAP_LOG_LEVEL").getD Log.Level.info.name),
    Settings.ofEnvironment env⟩

def record (s : Startup) : Log.Record :=
  match s.settings with
  | .ok t =>
    ⟨.info, .server, s!"Starting mail-imap-mcp with {t.accounts.length} account(s), " ++
      s!"write_enabled={Log.yesNo t.writeEnabled}"⟩
  | .error e => ⟨.error, .server, s!"Invalid configuration: {e.text}"⟩

def serves (s : Startup) : Bool :=
  s.settings.toBool

/-- The exit code of a program that ends here or after serving. -/
def exitCode (s : Startup) : Nat :=
  if s.serves then 0 else 2

def writes (s : Startup) (r : Log.Record) : Bool :=
  s.threshold ≤ r.level.rank

end Startup

end Mailroom
