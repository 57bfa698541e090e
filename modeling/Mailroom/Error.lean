/-!
# What can go wrong

Every refusal is a cause. Its code says how a caller should react, its message says what happened,
and `Error.text` is the message under its label. `Escape` lists the conditions that no layer turns
into a refusal.
-/

namespace Mailroom

/-- How a caller should react. -/
inductive Code where
  | invalidInput
  | notFound
  | authFailed
  | timeout
  | conflict
  | internal
deriving DecidableEq, Repr

namespace Code

def name : Code → String
  | invalidInput => "invalid_input"
  | notFound => "not_found"
  | authFailed => "auth_failed"
  | timeout => "timeout"
  | conflict => "conflict"
  | internal => "internal"

def label : Code → String
  | invalidInput => "invalid input"
  | notFound => "not found"
  | authFailed => "authentication failed"
  | timeout => "operation timed out"
  | conflict => "conflict"
  | internal => "internal error"

def retryable : Code → Bool
  | timeout | internal => true
  | _ => false

end Code

inductive Error where
  | accountId
  | textLength (field : String) (low high : Int)
  | controlCharacter (field : String)
  | flagLength
  | flagShape (flag : String)
  | notInteger (field : String)
  | outOfRange (field : String) (low high : Int)
  | notDate (field : String)
  | writesDisabled
  | messageIdShape
  | messageIdNumber (part : String)
  | messageIdMailbox
  | messageIdAccount
  | missingVariable (key : String)
  | invalidBool (key value : String)
  | invalidInteger (key value : String)
  | invalidPort (key : String) (port : Int)
  | insecureAccount
  | unusableHost
  | snippetLengthAlone
  | cursorWithFilters
  | daysWithDates
  | datesReversed
  | unknownCursor
  | foreignCursor
  | cursorOutOfRange
  | tooManyMatches (count limit : Nat)
  | extractionLengthAlone
  | sourceTooLong
  | noFlags
  | notConfirmed
  | unknownTool (name : String)
  | unknownArguments (names : List String)
  | missingArguments (names : List String)
  | argumentType (key expected : String)
  | argumentItems (key : String)
  | accountNotConfigured (id : String)
  | mailboxUnavailable (action mailbox detail : String)
  | messageMissing (uid : Int)
  | credentialsRejected (detail : String)
  | connectTimeout
  | loginTimeout
  | verbTimeout (verb : String)
  | messageEpoch
  | snapshotEpoch
  | handshakeFailed (detail : String)
  | connectFailed (detail : String)
  | loginFailed (detail : String)
  | verbNotIssued (verb : String)
  | verbFailed (verb detail : String)
  | noUidValidity
  | noHeaders
  | noBody
  | unreadableMessage (detail : String)
  | unreadableHeaders (detail : String)
  | stated (code : Code) (message : String)
deriving DecidableEq, Repr

namespace Error

def code : Error → Code
  | accountNotConfigured _ | mailboxUnavailable .. | messageMissing _ => .notFound
  | credentialsRejected _ => .authFailed
  | connectTimeout | loginTimeout | verbTimeout _ => .timeout
  | messageEpoch | snapshotEpoch => .conflict
  | handshakeFailed _ | connectFailed _ | loginFailed _ | verbNotIssued _ | verbFailed ..
  | noUidValidity | noHeaders | noBody | unreadableMessage _ | unreadableHeaders _ => .internal
  | stated c _ => c
  | _ => .invalidInput

def message : Error → String
  | accountId => "account_id must be 1..64 characters of letters, digits, '_' or '-'"
  | textLength field low high => s!"{field} must be {low}..{high} characters"
  | controlCharacter field => s!"{field} must not contain control characters"
  | flagLength => "flag must be 1..64 characters"
  | flagShape flag => s!"invalid flag '{flag}'"
  | notInteger field => s!"{field} must be an integer"
  | outOfRange field low high => s!"{field} must be between {low} and {high}"
  | notDate field => s!"{field} must be YYYY-MM-DD"
  | writesDisabled => "write tools are disabled; set MAIL_IMAP_WRITE_ENABLED=true to enable"
  | messageIdShape =>
    "message_id must be imap:\x7baccount_id\x7d:\x7bmailbox\x7d:\x7buidvalidity\x7d:\x7buid\x7d"
  | messageIdNumber part => s!"message_id {part} must be an unsigned 32-bit integer"
  | messageIdMailbox => "message_id mailbox cannot be empty"
  | messageIdAccount => "message_id account does not match account_id"
  | missingVariable key => s!"missing required environment variable {key}"
  | invalidBool key value => s!"invalid boolean environment variable {key}: '{value}'"
  | invalidInteger key value => s!"invalid integer environment variable {key}: '{value}'"
  | invalidPort key port => s!"invalid port in environment variable {key}: '{port}'"
  | insecureAccount => "insecure IMAP is not supported; set MAIL_IMAP_<ACCOUNT>_SECURE=true"
  | unusableHost => "invalid IMAP host for TLS SNI"
  | snippetLengthAlone => "snippet_max_chars requires include_snippet=true"
  | cursorWithFilters => "cursor cannot be combined with search criteria"
  | daysWithDates => "last_days cannot be combined with start_date/end_date"
  | datesReversed => "start_date must be <= end_date"
  | unknownCursor => "cursor is invalid or expired"
  | foreignCursor => "cursor does not match account/mailbox"
  | cursorOutOfRange => "cursor offset is out of range"
  | tooManyMatches count limit =>
    s!"search matched {count} messages; narrow filters to at most {limit} results"
  | extractionLengthAlone => "attachment_text_max_chars requires extract_attachment_text=true"
  | sourceTooLong => "message exceeds max_bytes; increase max_bytes"
  | noFlags => "at least one of add_flags/remove_flags is required"
  | notConfirmed => "delete requires confirm=true"
  | unknownTool name => s!"unknown tool '{name}'"
  | unknownArguments names => "unknown argument(s): " ++ ", ".intercalate names
  | missingArguments names => "missing required argument(s): " ++ ", ".intercalate names
  | argumentType key expected => s!"{key} must be of type {expected}"
  | argumentItems key => s!"{key} must be an array of strings"
  | accountNotConfigured id => s!"account '{id}' is not configured"
  | mailboxUnavailable action mailbox detail => s!"cannot {action} mailbox '{mailbox}': {detail}"
  | messageMissing uid => s!"message uid {uid} not found"
  | credentialsRejected detail => detail
  | connectTimeout => "IMAP connect timeout"
  | loginTimeout => "IMAP login timeout"
  | verbTimeout verb => s!"{verb} timed out"
  | messageEpoch => "message uidvalidity no longer matches mailbox"
  | snapshotEpoch => "mailbox snapshot changed; rerun search"
  | handshakeFailed detail => s!"IMAP TLS handshake failed: {detail}"
  | connectFailed detail => s!"IMAP connect failed: {detail}"
  | loginFailed detail => detail
  | verbNotIssued verb => s!"{verb} not issued: session abandoned after timeout"
  | verbFailed verb detail => s!"{verb} failed: {detail}"
  | noUidValidity => "mailbox missing UIDVALIDITY"
  | noHeaders => "message headers not available"
  | noBody => "message has no RFC822 body"
  | unreadableMessage detail => s!"failed to parse RFC822 message: {detail}"
  | unreadableHeaders detail => s!"failed to parse message headers: {detail}"
  | stated _ message => message

def text (e : Error) : String :=
  e.code.label ++ ": " ++ e.message

def retryable (e : Error) : Bool :=
  e.code.retryable

end Error

/-- A condition that no layer turns into a refusal. -/
inductive Escape where
  /-- A whole number of more digits than are ever read, or a text that is none. -/
  | unreadableNumber
  /-- A date before the year 1 or after the year 9999. -/
  | dateOutOfRange
  /-- An encoded word whose base64 text cannot be decoded. -/
  | badEncodedWord
  /-- A header field whose written form would contain another field. -/
  | embeddedField
  /-- Markup with a declaration that cannot be read. -/
  | rejectedMarkup
  /-- A value of a kind that its place, in a server's answer or in a message, does not allow. -/
  | unexpectedValue
  /-- Octets in a character set that nothing is read in, or in which nothing can be replaced. -/
  | unreadableText
  /-- An octet that is not ASCII where a character set has to have ASCII. -/
  | strayOctet
  /-- Octets in ISO 2022 that call for a set in a place where it cannot be. -/
  | misplacedSet
  /-- Characters that are not ASCII where a text is written as ASCII. -/
  | unwritableText
  /-- A name with a null character in it, or arguments that the mail client refused. -/
  | clientValue (message : String)
deriving DecidableEq, Repr

/-- Why a call gave no result: it was refused, or something escaped. -/
inductive Failure where
  | refused (e : Error)
  | escaped (e : Escape)
deriving DecidableEq, Repr

end Mailroom
