import Mailroom.Answer.Basic
import Mailroom.Calendar.Moment
import Mailroom.Transfer.Base64

/-!
# Writing answers

The JSON objects that answers and errors are sent as.
-/

namespace Mailroom

def Issue.toJson (i : Issue) : Json :=
  .object [("code", .string i.code.name), ("stage", .string i.stage),
    ("message", .string i.message), ("retryable", .bool i.retryable),
    ("uid", Json.optional .integer i.uid), ("message_id", Json.optional .string i.messageId)]

def NextAction.toJson (a : NextAction) : Json :=
  .object [("instruction", .string a.instruction), ("tool", .string a.tool.name),
    ("arguments", .object a.arguments)]

def AccountSummary.toJson (a : AccountSummary) : Json :=
  .object [("account_id", .string a.id), ("host", .string a.host), ("port", Json.nat a.port),
    ("secure", .bool a.secure)]

def Imap.Session.Mailbox.toJson (b : Imap.Session.Mailbox) : Json :=
  .object [("name", .string b.name), ("delimiter", Json.optional .string b.delimiter)]

def MessageId.jsonNames (m : MessageId) : List (String × Json) :=
  [("message_id", .string m.encode), ("message_uri", .string m.uri),
    ("message_raw_uri", .string m.rawUri)]

def MessageId.jsonFields (m : MessageId) : List (String × Json) :=
  m.jsonNames ++ [("mailbox", .string m.mailbox), ("uidvalidity", .integer m.uidvalidity),
    ("uid", .integer m.uid)]

def MessageRow.toJson (m : MessageRow) : Json :=
  .object <| m.id.jsonFields ++ [("date", Json.optional .string m.date),
    ("from_addr", Json.optional .string m.sender), ("subject", Json.optional .string m.subject),
    ("flags", Json.strings m.flags), ("snippet", Json.optional .string m.snippet)]

def Mail.Attachment.toJson (a : Mail.Attachment) : Json :=
  .object [("filename", Json.optional .string a.fileName), ("content_type", .string a.contentType),
    ("size_bytes", Json.nat a.size), ("part_id", .string a.partId),
    ("extracted_text", Json.optional .string a.text)]

def Mail.headersJson (pairs : List (String × String)) : Json :=
  .array (pairs.map fun p => Json.strings [p.1, p.2])

def MessageDetail.toJson (m : MessageDetail) : Json :=
  .object <| m.id.jsonFields ++ [("date", Json.optional .string m.digest.date),
    ("from_addr", Json.optional .string m.digest.sender),
    ("to_addr", Json.optional .string m.digest.recipient),
    ("cc_addr", Json.optional .string m.digest.copied),
    ("subject", Json.optional .string m.digest.subject),
    ("flags", Json.optional Json.strings m.flags),
    ("headers", Json.optional Mail.headersJson m.headers),
    ("body_text", Json.optional .string m.digest.bodyText),
    ("body_html", Json.optional .string m.digest.bodyHtml),
    ("attachments", .array (m.digest.attachments.map Mail.Attachment.toJson))]

namespace Answer

def statusFields (status : Status) (issues : List Issue) : List (String × Json) :=
  [("status", .string status.name), ("issues", .array (issues.map Issue.toJson))]

def stepFields (l : Ledger) : List (String × Json) :=
  [("steps_attempted", Json.nat l.attempted), ("steps_succeeded", Json.nat l.succeeded)]

def Accounts.toJson (a : Accounts) : Json :=
  .object [("accounts", .array (a.accounts.map AccountSummary.toJson)),
    ("next_action", a.next.toJson)]

def Verification.toJson (a : Verification) : Json :=
  .object <| statusFields a.status a.issues ++ [("next_action", a.next.toJson),
    ("account_id", .string a.account.id), ("ok", .bool (a.status != .failed)),
    ("latency_ms", .integer a.latency),
    ("server", .object [("host", .string a.account.host), ("port", Json.nat a.account.port),
      ("secure", .bool a.account.secure)]),
    ("capabilities", Json.strings a.capabilities)]

def Mailboxes.toJson (a : Mailboxes) : Json :=
  .object <| statusFields a.status a.issues ++ [("next_action", a.next.toJson),
    ("account_id", .string a.accountId),
    ("mailboxes", .array (a.mailboxes.map Imap.Session.Mailbox.toJson))]

def Page.toJson (a : Page) : Json :=
  .object <| statusFields a.status a.issues ++ [("next_action", a.next.toJson),
    ("account_id", .string a.accountId), ("mailbox", .string a.mailbox),
    ("total", Json.nat a.total), ("attempted", Json.nat a.attempted),
    ("returned", Json.nat a.messages.length),
    ("failed", Json.nat (a.attempted - a.messages.length)),
    ("messages", .array (a.messages.map MessageRow.toJson)),
    ("next_cursor", Json.optional .string a.nextCursor),
    ("has_more", .bool a.nextCursor.isSome)]

def Message.toJson (a : Message) : Json :=
  .object <| statusFields a.status a.issues ++ [("account_id", .string a.accountId),
    ("message", Json.optional MessageDetail.toJson a.message)]

def Source.toJson (a : Source) : Json :=
  .object <| statusFields a.status a.issues ++ [("account_id", .string a.accountId)] ++
    a.id.jsonNames ++ [("size_bytes", Json.nat (a.source.getD []).length),
    ("raw_source_base64", Json.optional (fun s => .string (Transfer.Base64.encode s)) a.source),
    ("raw_source_encoding", Json.optional (fun _ => .string "base64") a.source)]

def FlagChange.toJson (a : FlagChange) : Json :=
  .object <| statusFields a.status a.issues ++ [("account_id", .string a.accountId),
    ("message_id", .string a.id.encode), ("flags", Json.optional Json.strings a.flags),
    ("requested_add_flags", Json.strings a.add), ("requested_remove_flags", Json.strings a.remove),
    ("applied_add_flags", .bool a.added), ("applied_remove_flags", .bool a.removed)]

/-- Servers are not asked for the id of a copy, so that it is never known. -/
def Copy.toJson (a : Copy) : Json :=
  .object <| statusFields a.ledger.status a.ledger.issues ++
    [("source_account_id", .string a.accountId),
      ("destination_account_id", .string a.destinationId),
      ("source_mailbox", .string a.id.mailbox), ("destination_mailbox", .string a.mailbox),
      ("message_id", .string a.id.encode)] ++
    stepFields a.ledger ++ [("new_message_id", .null)]

def Move.toJson (a : Move) : Json :=
  .object <| statusFields a.ledger.status a.ledger.issues ++ [("account_id", .string a.accountId),
      ("source_mailbox", .string a.id.mailbox), ("destination_mailbox", .string a.mailbox),
      ("message_id", .string a.id.encode)] ++
    stepFields a.ledger ++
    [("strategy", Json.optional (fun s => .string (MoveStrategy.name s)) a.strategy),
      ("new_message_id", .null)]

def Deletion.toJson (a : Deletion) : Json :=
  .object <| statusFields a.ledger.status a.ledger.issues ++ [("account_id", .string a.accountId),
      ("mailbox", .string a.id.mailbox), ("message_id", .string a.id.encode)] ++
    stepFields a.ledger

def toJson : Answer → Json
  | accounts a => a.toJson
  | verification a => a.toJson
  | mailboxes a => a.toJson
  | page a => a.toJson
  | message a => a.toJson
  | source a => a.toJson
  | flagChange a => a.toJson
  | copy a => a.toJson
  | move a => a.toJson
  | deletion a => a.toJson

/-- An answer with its summary, when it was given, and how many milliseconds it took. -/
def envelope (a : Answer) (now : Moment) (duration : Int) : Json :=
  .object [("summary", .string a.summary), ("data", a.toJson),
    ("meta", .object [("now_utc", .string now.stamp), ("duration_ms", .integer duration)])]

end Answer

def Error.toJson (e : Error) : Json :=
  .object [("error", .object [("code", .string e.code.name), ("message", .string e.text),
    ("retryable", .bool e.retryable)])]

end Mailroom
