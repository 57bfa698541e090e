import Mailroom.Mail.Entity
import Mailroom.Transfer.QuotedPrintable
import Mailroom.Transfer.Uuencode

/-!
# Bodies

The octets that a text stands for under its transfer coding, and the characters of them.
-/

namespace Mailroom.Mail

namespace Head

/-- The octets that a text stands for. Text that does not follow its coding stands for itself. -/
def decodeTransfer (h : Head) (text : List UInt8) : List UInt8 :=
  let coding := String.ofList h.transferCoding
  if coding == "quoted-printable" then
    Transfer.QuotedPrintable.decode text
  else if coding == "base64" then
    Transfer.Base64.decodeBody (Transfer.lines text).flatten
  else if ["x-uuencode", "uuencode", "uue", "x-uue"].contains coding then
    (Transfer.Uuencode.decode? text).getD text
  else
    text

def decodeText (h : Head) (text : List UInt8) : Except Defect (List Char) := do
  readNamed (nameOr "utf-8" (← h.charset?)) (h.decodeTransfer text)

end Head

end Mailroom.Mail
