import Mailroom.Tool.Arguments

/-!
# Commands

What a caller asks for, read from the name of a tool and its arguments.
-/

namespace Mailroom

structure ReadOptions where
  bodyMaxChars : Int
  includeHeaders : Bool
  includeAllHeaders : Bool
  includeHtml : Bool
  extractText : Bool
  attachmentMaxChars : Option Int
deriving DecidableEq, Repr

inductive Command where
  | listAccounts
  | verifyAccount (accountId : String)
  | listMailboxes (accountId : String)
  | search (r : Search.Request)
  | readMessage (accountId messageId : String) (o : ReadOptions)
  | readSource (accountId messageId : String) (maxSize : Int)
  | updateFlags (accountId messageId : String) (add remove : Option (List String))
  | copy (accountId messageId mailbox : String) (destinationId : Option String)
  | move (accountId messageId mailbox : String)
  | delete (accountId messageId : String) (confirmed : Bool)
deriving DecidableEq, Repr

namespace Arguments

def messageId (as : Arguments) : String :=
  (as.string? "message_id").getD ""

def destinationMailbox (as : Arguments) : String :=
  (as.string? "destination_mailbox").getD ""

def readOptions (as : Arguments) : ReadOptions where
  bodyMaxChars := (as.int? "body_max_chars").getD 2000
  includeHeaders := (as.bool? "include_headers").getD true
  includeAllHeaders := (as.bool? "include_all_headers").getD false
  includeHtml := (as.bool? "include_html").getD false
  extractText := (as.bool? "extract_attachment_text").getD false
  attachmentMaxChars := as.int? "attachment_text_max_chars"

/-- The command of a known tool whose arguments were checked. -/
def checkedCommand (tool : String) (as : Arguments) : Except Error Command :=
  if tool = Tool.listAccounts.name then .ok .listAccounts
  else if tool = Tool.verifyAccount.name then .ok (.verifyAccount as.accountId)
  else if tool = Tool.listMailboxes.name then .ok (.listMailboxes as.accountId)
  else if tool = Tool.searchMessages.name then .ok (.search as.searchRequest)
  else if tool = Tool.getMessage.name then
    .ok (.readMessage as.accountId as.messageId as.readOptions)
  else if tool = Tool.getMessageRaw.name then
    .ok (.readSource as.accountId as.messageId ((as.int? "max_bytes").getD 200000))
  else if tool = Tool.updateMessageFlags.name then
    .ok (.updateFlags as.accountId as.messageId (as.strings? "add_flags")
      (as.strings? "remove_flags"))
  else if tool = Tool.copyMessage.name then
    .ok (.copy as.accountId as.messageId as.destinationMailbox
      (as.string? "destination_account_id"))
  else if tool = Tool.moveMessage.name then
    .ok (.move as.accountId as.messageId as.destinationMailbox)
  else if tool = Tool.deleteMessage.name then
    .ok (.delete as.accountId as.messageId ((as.bool? "confirm").getD false))
  else
    .error (.unknownTool tool)

/-- Checks the arguments of a call and reads its command. -/
def command (tool : String) (as : Arguments) : Except Error Command := do
  checkedCommand tool (← as.check tool)

end Arguments

end Mailroom
