import Mailroom.Charset.Utf8
import Mailroom.Startup

/-!
# The program

Reads the environment, reports on the standard error whether there are settings to serve with, and
tells the same with its exit code.
-/

namespace Mailroom

namespace Environment

def entry (s : List UInt8) : String × String :=
  let cs := Charset.Utf8.decode s
  (String.ofList (cs.takeWhile (· != '=')), String.ofList ((cs.dropWhile (· != '=')).drop 1))

/-- The variables of a block in which each ends with a zero octet. -/
def ofBlock (block : List UInt8) : Environment :=
  ((block.splitOn 0).filter (!·.isEmpty)).map entry

end Environment

def Log.Record.line (r : Log.Record) : String :=
  s!"{r.source.name} - {r.level.name} - {r.message}"

end Mailroom

open Mailroom

def main : IO UInt32 := do
  let block ← IO.FS.readBinFile "/proc/self/environ"
  let startup := Startup.ofEnvironment (Environment.ofBlock block.toList)
  if startup.writes startup.record then
    (← IO.getStderr).putStrLn startup.record.line
  return startup.exitCode.toUInt32
