import Mailroom.Charset.Utf8
import Mailroom.Check
import Mailroom.Text.Fields

/-!
# Message ids

The identity of a message, its written form `imap:account:mailbox:uidvalidity:uid`, in which the
mailbox may contain colons, and its URIs, in which the mailbox is percent-encoded.
-/

namespace Mailroom

namespace Text

def isUnreserved (c : Char) : Bool :=
  c.isAlphanum || c == '_' || c == '.' || c == '-' || c == '~'

def upperHex (n : Nat) : Char :=
  if n < 10 then Char.ofNat (0x30 + n) else Char.ofNat (0x37 + n)

def percentOctet (b : UInt8) : List Char :=
  let c := Char.ofNat b.toNat
  if b < 0x80 && isUnreserved c then
    [c]
  else
    ['%', upperHex (b.toNat / 16), upperHex (b.toNat % 16)]

/-- Writes every octet of a text's UTF-8 form that is no letter, digit or one of `_.-~` as `%` and
two hexadecimal digits. -/
def percentEncode (s : String) : String :=
  String.ofList ((Charset.Utf8.encode s.toList).flatMap percentOctet)

end Text

structure MessageId where
  accountId : String
  mailbox : String
  uidvalidity : Int
  uid : Int
deriving DecidableEq, Repr

namespace MessageId

def maxNumber : Nat := Nat.pow 2 32 - 1

/-- Reads an unsigned number of 32 bits, written with ASCII digits only. -/
def number (part : String) (segment : List Char) : Except Failure Nat :=
  if segment.isEmpty || !segment.all Char.isDigit then
    .error (.refused (.messageIdNumber part))
  else if Text.maxDigits < segment.length then
    .error (.escaped .unreadableNumber)
  else
    let n := Text.ofDigits (segment.map fun c => c.toNat - 0x30)
    if maxNumber < n then .error (.refused (.messageIdNumber part)) else .ok n

/-- Reads the written form. The first two segments are the scheme and the account, the last two
the numbers, and all between them is the mailbox. -/
def parse (raw : String) : Except Failure MessageId :=
  match Text.fields ':' raw.toList with
  | scheme :: account :: rest =>
    match rest.reverse with
    | uid :: uidvalidity :: mailbox =>
      if scheme == "imap".toList && !mailbox.isEmpty then do
        let v ← number "uidvalidity" uidvalidity
        let u ← number "uid" uid
        let name := Text.joined ':' mailbox.reverse
        if name.isEmpty then
          throw (.refused .messageIdMailbox)
        return ⟨String.ofList account, String.ofList name, v, u⟩
      else
        .error (.refused .messageIdShape)
    | _ => .error (.refused .messageIdShape)
  | _ => .error (.refused .messageIdShape)

def encode (m : MessageId) : String :=
  s!"imap:{m.accountId}:{m.mailbox}:{m.uidvalidity}:{m.uid}"

def uri (m : MessageId) : String :=
  "imap://" ++ m.accountId ++ "/mailbox/" ++ Text.percentEncode m.mailbox ++ "/message/" ++
    toString m.uidvalidity ++ "/" ++ toString m.uid

def rawUri (m : MessageId) : String :=
  m.uri ++ "/raw"

/-- Reads the written form of a message of a given account. -/
def parseFor (accountId raw : String) : Except Failure MessageId := do
  let m ← parse raw
  (Check.mailbox m.mailbox).mapError .refused
  if m.accountId != accountId then
    throw (.refused .messageIdAccount)
  return m

end MessageId

end Mailroom
