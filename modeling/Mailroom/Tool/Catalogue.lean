import Mailroom.Tool.Basic

/-!
# The catalogue of tools

The tools in the order in which they are listed.
-/

namespace Mailroom.Tool

def accountParameter : Parameter where
  name := "account_id"
  kind := .string
  description := some "Account identifier (default: 'default')"
  default := some (.string "default")

def messageParameter : Parameter where
  name := "message_id"
  kind := .string
  description :=
    some ("Stable message id: " ++
      "imap:\x7baccount_id\x7d:\x7bmailbox\x7d:\x7buidvalidity\x7d:\x7buid\x7d")

def listAccounts : Tool where
  name := "imap_list_accounts"
  description := "List configured IMAP accounts"
  parameters := []
  required := []

def verifyAccount : Tool where
  name := "imap_verify_account"
  description := "Verify account connectivity and capabilities"
  parameters := [accountParameter]
  required := []

def listMailboxes : Tool where
  name := "imap_list_mailboxes"
  description := "List mailboxes for an account"
  parameters := [accountParameter]
  required := []

def searchMessages : Tool where
  name := "imap_search_messages"
  description := "Search messages with cursor pagination"
  parameters := [
    accountParameter,
    { name := "mailbox", kind := .string, description := some "Mailbox to search, e.g. INBOX" },
    { name := "cursor", kind := .string, description :=
        some "Continuation token from a previous page; cannot be combined with filters" },
    { name := "query", kind := .string, description := some "Full-text search (IMAP TEXT)" },
    { name := "from", kind := .string, description := some "Sender substring" },
    { name := "to", kind := .string, description := some "Recipient substring" },
    { name := "subject", kind := .string, description := some "Subject substring" },
    { name := "unread_only", kind := .boolean, description := some "Only unseen messages" },
    { name := "last_days", kind := .integer
      description := some "Messages from the last N days (1-365)", bounds := some (1, 365) },
    { name := "start_date", kind := .string
      description := some "Inclusive start date YYYY-MM-DD" },
    { name := "end_date", kind := .string, description := some "Inclusive end date YYYY-MM-DD" },
    { name := "limit", kind := .integer
      description := some "Maximum messages per page (1-50, default 10)"
      bounds := some (1, 50), default := some (.integer 10) },
    { name := "include_snippet", kind := .boolean
      description := some "Include a short snippet per message", default := some (.bool false) },
    { name := "snippet_max_chars", kind := .integer
      description := some "Snippet length (50-500, default 200); requires include_snippet"
      bounds := some (50, 500) }]
  required := ["mailbox"]

def getMessage : Tool where
  name := "imap_get_message"
  description := "Get parsed message details"
  parameters := [
    accountParameter,
    messageParameter,
    { name := "body_max_chars", kind := .integer
      description := some "Maximum body characters (100-20000, default 2000)"
      bounds := some (100, 20000), default := some (.integer 2000) },
    { name := "include_headers", kind := .boolean, default := some (.bool true) },
    { name := "include_all_headers", kind := .boolean, default := some (.bool false) },
    { name := "include_html", kind := .boolean, default := some (.bool false) },
    { name := "extract_attachment_text", kind := .boolean, default := some (.bool false) },
    { name := "attachment_text_max_chars", kind := .integer
      description := some "Maximum extracted PDF text (100-50000, default 10000)"
      bounds := some (100, 50000) }]
  required := ["message_id"]

def getMessageRaw : Tool where
  name := "imap_get_message_raw"
  description := "Get bounded RFC822 source"
  parameters := [
    accountParameter,
    messageParameter,
    { name := "max_bytes", kind := .integer
      description := some "Maximum message size (1024-1000000, default 200000)"
      bounds := some (1024, 1000000), default := some (.integer 200000) }]
  required := ["message_id"]

def updateMessageFlags : Tool where
  name := "imap_update_message_flags"
  description := "Add or remove IMAP flags (requires MAIL_IMAP_WRITE_ENABLED=true)"
  parameters := [
    accountParameter,
    messageParameter,
    { name := "add_flags", kind := .strings },
    { name := "remove_flags", kind := .strings }]
  required := ["message_id"]

def copyMessage : Tool where
  name := "imap_copy_message"
  description := "Copy a message to a mailbox, optionally in another account " ++
    "(requires MAIL_IMAP_WRITE_ENABLED=true)"
  parameters := [
    accountParameter,
    messageParameter,
    { name := "destination_mailbox", kind := .string },
    { name := "destination_account_id", kind := .string }]
  required := ["message_id", "destination_mailbox"]

def moveMessage : Tool where
  name := "imap_move_message"
  description := "Move a message to a mailbox (requires MAIL_IMAP_WRITE_ENABLED=true)"
  parameters := [
    accountParameter,
    messageParameter,
    { name := "destination_mailbox", kind := .string }]
  required := ["message_id", "destination_mailbox"]

def deleteMessage : Tool where
  name := "imap_delete_message"
  description := "Delete a message; requires confirm=true (requires MAIL_IMAP_WRITE_ENABLED=true)"
  parameters := [
    accountParameter,
    messageParameter,
    { name := "confirm", kind := .boolean, description := some "Must be true" }]
  required := ["message_id", "confirm"]

def catalogue : List Tool :=
  [listAccounts, verifyAccount, listMailboxes, searchMessages, getMessage, getMessageRaw,
    updateMessageFlags, copyMessage, moveMessage, deleteMessage]

def ofName? (name : String) : Option Tool :=
  catalogue.find? (·.name == name)

end Mailroom.Tool
