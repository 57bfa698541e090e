import Mailroom.Text.Space
import Mailroom.Text.Digit
import Mailroom.Text.Case
import Mailroom.Json.Printer
import Mailroom.Json.Reader
import Mailroom.Calendar.Moment
import Mailroom.Clock
import Mailroom.Report.Status
import Mailroom.Charset.Basic
import Mailroom.Text.Fields
import Mailroom.MessageId
import Mailroom.Settings
import Mailroom.Cursor.Store
import Mailroom.Search.Request
import Mailroom.Mail.Defect
import Mailroom.Mail.EncodedWord
import Mailroom.Transfer.QuotedPrintable
import Mailroom.Transfer.Uuencode
import Mailroom.Html.Reference
import Mailroom.Html.Scanner
import Mailroom.Html.Builder
import Mailroom.Html.Printer
import Mailroom.Tool.Arguments
import Mailroom.Report.Ledger
import Mailroom.Report.Log
import Mailroom.Report.NextAction
import Mailroom.Mail.Header
import Mailroom.Mail.Parameter
import Mailroom.Mail.Entity
import Mailroom.Mail.EntityReader
import Mailroom.Mail.Body
import Mailroom.Mail.Folding
import Mailroom.Mail.Digest
import Mailroom.Imap.Client
import Mailroom.Imap.Session
import Mailroom.Imap.Script
import Mailroom.Imap.Socket
import Mailroom.Imap.Exchange
import Mailroom.Answer.Basic
import Mailroom.Answer.Printer
import Mailroom.Tool.Command
import Mailroom.Task.Calling
import Mailroom.Main
import Mailroom.Proofs.TaskTriple
import Mailroom.Proofs.Footprint
import Mailroom.Proofs.CommandFootprint
import Mailroom.Proofs.Serving
import Mailroom.Proofs.ReadOnly
import Mailroom.Proofs.EpochGuard
import Mailroom.Proofs.ClockRounding
import Mailroom.Proofs.CursorStore
import Mailroom.Proofs.CursorLife
import Mailroom.Proofs.SearchRun
import Mailroom.Proofs.CursorUse
import Mailroom.Proofs.Paging
import Mailroom.Proofs.SessionLife
import Mailroom.Proofs.CursorHistory
import Mailroom.Proofs.Overlap
import Mailroom.Proofs.OverlapStep
import Mailroom.Proofs.Coverage
import Mailroom.Proofs.SinglePass
import Mailroom.Proofs.Itinerary
import Mailroom.Proofs.SessionTrace
import Mailroom.Proofs.Credentials
import Mailroom.Proofs.CursorBounds
import Mailroom.Proofs.AttributeNames
import Mailroom.Proofs.CleanMarkup
import Mailroom.Proofs.Checks
import Mailroom.Proofs.SoundCommands
import Mailroom.Proofs.Refusals
import Mailroom.Proofs.WrittenIds
import Mailroom.Proofs.GatedSteps
import Mailroom.Proofs.Moves
import Mailroom.Proofs.TraceGrowth
import Mailroom.Proofs.LedgerTruth
import Mailroom.Proofs.FlagChanges
import Mailroom.Proofs.Crossings
import Mailroom.Proofs.CursorFrame
import Mailroom.Proofs.CursorTurnover
import Mailroom.Proofs.SuggestedCalls
import Mailroom.Proofs.CursorOrigins
import Mailroom.Proofs.PageReports
import Mailroom.Proofs.Attempts
import Mailroom.Proofs.DayNumbers
import Mailroom.Proofs.SearchCriteria
import Mailroom.Proofs.Connecting
import Mailroom.Proofs.AccountVariables
import Mailroom.Proofs.SafeAddresses
import Mailroom.Proofs.TreeEdits
import Mailroom.Proofs.SanitizedTree
import Mailroom.Proofs.EntityParts
import Mailroom.Proofs.MessageLeaves
import Mailroom.Proofs.Legibility
import Mailroom.Proofs.FetchedItems
import Mailroom.Proofs.HeaderSection
import Mailroom.Proofs.OctetText
import Mailroom.Proofs.EncodedWords
import Mailroom.Proofs.MixedValues
import Mailroom.Proofs.MessageUris
import Mailroom.Proofs.FlagLists
import Mailroom.Proofs.ArgumentChecks
import Mailroom.Proofs.RawSources
import Mailroom.Proofs.WrittenDates
import Mailroom.Proofs.LoadedSettings
import Mailroom.Proofs.ListedAccounts
