import GridAdmin.Attribute
import GridAdmin.Calendar
import GridAdmin.Command.Basic
import GridAdmin.Command.TypedLine
import GridAdmin.CommandLine.Basic
import GridAdmin.CommandLine.Options
import GridAdmin.CommandLine.Program
import GridAdmin.CommandLine.Switch
import GridAdmin.CommandLine.Usage
import GridAdmin.Diagnostic
import GridAdmin.DomainName.Basic
import GridAdmin.DomainName.Label
import GridAdmin.DomainName.Mapping
import GridAdmin.DomainName.Punycode
import GridAdmin.Environment
import GridAdmin.Gateway.Connector
import GridAdmin.Gateway.Envelope
import GridAdmin.Gateway.Framing
import GridAdmin.Gateway.Message
import GridAdmin.Gateway.Session
import GridAdmin.Help
import GridAdmin.Json.Basic
import GridAdmin.Json.Decode
import GridAdmin.Json.Printer
import GridAdmin.Json.Reader
import GridAdmin.Listing.Page
import GridAdmin.LocalTime
import GridAdmin.Main
import GridAdmin.Proc
import GridAdmin.Proofs.Shell.Effect
import GridAdmin.Proofs.Shell.Ensures
import GridAdmin.Proofs.StatusName
import GridAdmin.Proofs.StatusPacking
import GridAdmin.Proofs.Trace
import GridAdmin.Rehearsal
import GridAdmin.Replica.Path
import GridAdmin.Replica.Selector
import GridAdmin.Scramble.Password
import GridAdmin.Scramble.Sha256
import GridAdmin.Scramble.Wheel
import GridAdmin.Service.Call
import GridAdmin.Service.Request
import GridAdmin.Shell.Admin
import GridAdmin.Shell.Basic
import GridAdmin.Shell.Catalog
import GridAdmin.Shell.Change
import GridAdmin.Shell.Dispatch
import GridAdmin.Shell.Line
import GridAdmin.Shell.Listing
import GridAdmin.Shell.Loop
import GridAdmin.Shell.Offline
import GridAdmin.Shell.Replica
import GridAdmin.ShellError
import GridAdmin.Slots
import GridAdmin.Status
import GridAdmin.Text.Basic
import GridAdmin.Text.Blank
import GridAdmin.Text.Chart
import GridAdmin.Text.CombiningClass
import GridAdmin.Text.Decimal
import GridAdmin.Text.Decomposition
import GridAdmin.Text.Direction
import GridAdmin.Text.Joining
import GridAdmin.Text.Mark
import GridAdmin.Text.NormalForm
import GridAdmin.Url.Basic
import GridAdmin.Url.Host
import GridAdmin.Url.Percent
import GridAdmin.Url.Reader
import GridAdmin.UserName
import GridAdmin.Verb
import GridAdmin.Wire.Codec
import GridAdmin.Wire.Service
import GridAdmin.Proofs.Shell.Uses
import GridAdmin.Proofs.Shell.Phases
import GridAdmin.Proofs.Shell.Requests
import GridAdmin.Proofs.Shell.Handlers
import GridAdmin.Proofs.Shell.Dispatched
import GridAdmin.Proofs.Shell.Gates
import GridAdmin.Proofs.Shell.Refusal
import GridAdmin.Proofs.Shell.Downgrade
import GridAdmin.Proofs.Shell.ZoneRename
import GridAdmin.Proofs.Shell.CommandLoop
import GridAdmin.Proofs.Shell.Conservation
import GridAdmin.Proofs.Shell.Unread
import GridAdmin.Proofs.Shell.SingleRequest
import GridAdmin.Proofs.Shell.ExitCode
import GridAdmin.Proofs.Shell.InputLines
import GridAdmin.Proofs.Shell.Rounds
import GridAdmin.Proofs.Shell.ReplicaIdentity
import GridAdmin.Proofs.Shell.Statements
import GridAdmin.Proofs.Shell.Pages
import GridAdmin.Proofs.Shell.RodsadminCheck
import GridAdmin.Proofs.ReplicaQuery
import GridAdmin.Proofs.Scrambling
import GridAdmin.Proofs.ScriptedReplies
import GridAdmin.Proofs.TypedWords
import GridAdmin.Proofs.Dates
import GridAdmin.Proofs.LocalTimes
import GridAdmin.Proofs.JsonText
import GridAdmin.Proofs.WireForms
import GridAdmin.Proofs.Gateway.Exchanges
import GridAdmin.Proofs.Gateway.ErrorStack
import GridAdmin.Proofs.CommandLine.Traffic
import GridAdmin.Proofs.CommandLine.Opening
import GridAdmin.Proofs.CommandLine.SessionLife
import GridAdmin.Proofs.CommandLine.Separator
import GridAdmin.Proofs.CommandLine.SwitchPlaces
import GridAdmin.Proofs.CommandLine.OfflineVerbs
import GridAdmin.Proofs.CommandLine.PasswordVerbs
import GridAdmin.Proofs.NormalForm
import GridAdmin.Proofs.Url.HostText
import GridAdmin.Proofs.Url.WrittenPort
import GridAdmin.Proofs.Endpoint
import GridAdmin.Proofs.TextCuts
import GridAdmin.Proofs.LogicalPaths
import GridAdmin.Proofs.LineItems
import GridAdmin.Proofs.Shell.Verbosity
import GridAdmin.Proofs.Shell.PageCuts
import GridAdmin.Proofs.Shell.Sending
import GridAdmin.Proofs.Shell.ReplicaListing
import GridAdmin.Proofs.Shell.BoundNames
import GridAdmin.Proofs.Shell.QuotaReports
import GridAdmin.Proofs.Shell.PasswordChange
import GridAdmin.Proofs.ListedLines
import GridAdmin.Proofs.Shell.CheckQueries
import GridAdmin.Proofs.Shell.Wording
