import Mailroom.Calendar.Date
import Mailroom.Error
import Mailroom.Json.Basic
import Mailroom.Text.HostName

/-!
# Checks on arguments

The checks that need nothing but the value itself. Each refuses with the cause of the first rule
that the value breaks.
-/

namespace Mailroom.Check

def isAccountIdChar (c : Char) : Bool :=
  (c.toNat < 0x80 && c.isAlphanum) || c == '_' || c == '-'

/-- An account id: 1 to 64 ASCII letters, digits, underscores and hyphens. -/
def accountId (s : String) : Except Error Unit :=
  if 1 ≤ s.length && s.length ≤ 64 && s.toList.all isAccountIdChar then
    .ok ()
  else
    .error .accountId

/-- A text within bounds on its length and without control characters. -/
def text (s : String) (low high : Int) (field : String) : Except Error Unit :=
  if s.length < low || high < s.length then
    .error (.textLength field low high)
  else if s.toList.any Text.isControl then
    .error (.controlCharacter field)
  else
    .ok ()

def mailbox (s : String) : Except Error Unit :=
  text s 1 256 "mailbox"

def searchText (s : String) (field : String) : Except Error Unit :=
  text s 1 256 field

def isFlagChar (c : Char) : Bool :=
  !(Text.isSpace c || Text.isControl c || c == '"' || c == '(' || c == ')' || c == '\x7b' ||
    c == '\x7d' || c == '\\')

/-- The atom of a flag: the flag without a leading backslash. -/
def flagAtom : List Char → List Char
  | '\\' :: r => r
  | s => s

/-- A flag: 1 to 64 characters, an optional backslash and then an atom that cannot end the list
it stands in. -/
def flag (s : String) : Except Error Unit :=
  if !(1 ≤ s.length && s.length ≤ 64) then
    .error .flagLength
  else
    let atom := flagAtom s.toList
    if !atom.isEmpty && atom.all isFlagChar then .ok () else .error (.flagShape s)

/-- A list of flags, absent meaning empty. -/
def flags (fs : Option (List String)) : Except Error (List String) := do
  let fs := fs.getD []
  fs.forM flag
  return fs

def range (n low high : Int) (field : String) : Except Error Unit :=
  if n < low || high < n then .error (.outOfRange field low high) else .ok ()

/-- A value that has to be a whole number between bounds. -/
def wholeInRange (j : Json) (low high : Int) (field : String) : Except Error Int :=
  match j with
  | .integer n => do
    range n low high field
    return n
  | _ => .error (.notInteger field)

def date (s field : String) : Except Error Date :=
  match Date.ofIso? s with
  | some d => .ok d
  | none => .error (.notDate field)

def writesEnabled (enabled : Bool) : Except Error Unit :=
  if enabled then .ok () else .error .writesDisabled

/-- A host that can be named when a secure connection is set up. -/
def host (s : String) : Except Error Unit :=
  if Text.isHostName s then .ok () else .error .unusableHost

end Mailroom.Check
