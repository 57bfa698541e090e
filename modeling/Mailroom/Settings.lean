import Mailroom.Error
import Mailroom.Text.Case
import Mailroom.Text.Digit
import Mailroom.Text.Fields

/-!
# Settings

The accounts and limits of a server, and reading them from environment variables. A variable
`MAIL_IMAP_<SEGMENT>_HOST` announces an account; without any there has to be one called `DEFAULT`.
-/

namespace Mailroom

/-- A mail account with its credentials. No printed form is derived, so that a password is never
written by accident. -/
structure Account where
  id : String
  host : String
  user : String
  password : String
  port : Nat
  secure : Bool
deriving DecidableEq

structure Settings where
  accounts : List Account
  writeEnabled : Bool
  connectTimeout : Nat
  greetingTimeout : Nat
  socketTimeout : Nat
  cursorTtl : Nat
  cursorCapacity : Nat
deriving DecidableEq

/-- Variables with their values, each name once. -/
abbrev Environment := List (String × String)

namespace Environment

def value? (env : Environment) (key : String) : Option String :=
  (env.find? (·.1 == key)).map (·.2)

/-- A variable that has to be set to something else than blanks. -/
def required (env : Environment) (key : String) : Except Error String :=
  match env.value? key with
  | none => .error (.missingVariable key)
  | some v => if Text.isBlank v then .error (.missingVariable key) else .ok v

/-- Reads one of the usual words for yes and no. Their letters are ASCII, and no other letter has
one of them as its lower case. -/
def readBool? (value : String) : Option Bool :=
  let word := Text.lower (Text.strip value)
  if ["1", "true", "yes", "y", "on"].contains word then some true
  else if ["0", "false", "no", "n", "off"].contains word then some false
  else none

def bool (env : Environment) (key : String) (default : Bool) : Except Error Bool :=
  match env.value? key with
  | none => .ok default
  | some v =>
    match readBool? v with
    | some b => .ok b
    | none => .error (.invalidBool key v)

def natural (env : Environment) (key : String) (default : Nat) : Except Error Nat :=
  match env.value? key with
  | none => .ok default
  | some v =>
    match Text.readInt? v with
    | some (.ofNat n) => .ok n
    | _ => .error (.invalidInteger key v)

def isSegmentChar (c : Char) : Bool :=
  ('A' ≤ c && c ≤ 'Z') || ('0' ≤ c && c ≤ '9') || c == '_'

def withoutLineEnd (s : List Char) : List Char :=
  match s.reverse with
  | '\n' :: r => r.reverse
  | _ => s

/-- The account segment that a variable's name announces. -/
def segment? (key : String) : Option String :=
  let start := "MAIL_IMAP_".toList
  let stop := "_HOST".toList
  let body := withoutLineEnd key.toList
  let middle := (body.drop start.length).take (body.length - start.length - stop.length)
  if start.isPrefixOf body && stop.isSuffixOf (body.drop start.length) && !middle.isEmpty &&
      middle.all isSegmentChar then
    some (String.ofList middle)
  else
    none

/-- The announced segments in ascending order, or the default one. -/
def segments (env : Environment) : List String :=
  match ((env.filterMap fun v => segment? v.1).mergeSort (· ≤ ·)).eraseDups with
  | [] => ["DEFAULT"]
  | ss => ss

/-- The common start of the names of an account's variables: underscores around the segment are
left out. -/
def accountStart (segment : String) : String :=
  "MAIL_IMAP_" ++ String.ofList (Text.trimBy (· == '_') segment.toList) ++ "_"

def account (env : Environment) (segment : String) : Except Error Account := do
  let start := accountStart segment
  let port ← env.natural (start ++ "PORT") 993
  if 65535 < port then
    throw (.invalidPort (start ++ "PORT") port)
  let host ← env.required (start ++ "HOST")
  let user ← env.required (start ++ "USER")
  let password ← env.required (start ++ "PASS")
  let secure ← env.bool (start ++ "SECURE") true
  return ⟨Text.lower segment, host, user, password, port, secure⟩

end Environment

namespace Settings

/-- Reads all settings; accounts come in the order of their ids. -/
def ofEnvironment (env : Environment) : Except Error Settings := do
  let accounts ← env.segments.mapM env.account
  return {
    accounts := accounts.mergeSort fun a b => a.id ≤ b.id
    writeEnabled := ← env.bool "MAIL_IMAP_WRITE_ENABLED" false
    connectTimeout := ← env.natural "MAIL_IMAP_CONNECT_TIMEOUT_MS" 30000
    greetingTimeout := ← env.natural "MAIL_IMAP_GREETING_TIMEOUT_MS" 15000
    socketTimeout := ← env.natural "MAIL_IMAP_SOCKET_TIMEOUT_MS" 300000
    cursorTtl := ← env.natural "MAIL_IMAP_CURSOR_TTL_SECONDS" 600
    cursorCapacity := ← env.natural "MAIL_IMAP_CURSOR_MAX_ENTRIES" 512
  }

def account (s : Settings) (id : String) : Except Error Account :=
  match s.accounts.find? (·.id == id) with
  | some a => .ok a
  | none => .error (.accountNotConfigured id)

end Settings

end Mailroom
