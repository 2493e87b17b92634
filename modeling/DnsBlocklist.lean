import DnsBlocklist.Address.Ipv4
import DnsBlocklist.Address.Ipv6
import DnsBlocklist.Address.Socket
import DnsBlocklist.CommandLine.Basic
import DnsBlocklist.CommandLine.Reader
import DnsBlocklist.Config.Basic
import DnsBlocklist.Config.File
import DnsBlocklist.Disk
import DnsBlocklist.Event.Basic
import DnsBlocklist.Event.Pending
import DnsBlocklist.Event.Timer
import DnsBlocklist.Failure
import DnsBlocklist.Files
import DnsBlocklist.IpSet.Basic
import DnsBlocklist.IpSet.Line
import DnsBlocklist.IpSet.Load
import DnsBlocklist.Log.QueryLog
import DnsBlocklist.Log.Writer
import DnsBlocklist.Machine
import DnsBlocklist.Main
import DnsBlocklist.Message.Basic
import DnsBlocklist.Message.CharacterString
import DnsBlocklist.Message.Code
import DnsBlocklist.Message.Data
import DnsBlocklist.Message.Reader
import DnsBlocklist.Message.Service
import DnsBlocklist.Message.TypeSet
import DnsBlocklist.Message.Word
import DnsBlocklist.Name.Basic
import DnsBlocklist.Name.Display
import DnsBlocklist.Name.Idna.Basic
import DnsBlocklist.Name.Idna.Bidi
import DnsBlocklist.Name.Idna.Joiner
import DnsBlocklist.Name.Idna.Replacement
import DnsBlocklist.Name.Idna.Status
import DnsBlocklist.Name.Idna.Table
import DnsBlocklist.Name.Punycode
import DnsBlocklist.Name.Reader
import DnsBlocklist.Name.Wire
import DnsBlocklist.Netlist.Basic
import DnsBlocklist.Netlist.Token
import DnsBlocklist.OsError
import DnsBlocklist.Program
import DnsBlocklist.Range
import DnsBlocklist.Reply.Basic
import DnsBlocklist.Reply.Respond
import DnsBlocklist.Server.Basic
import DnsBlocklist.Server.Loop
import DnsBlocklist.Server.Prepare
import DnsBlocklist.Server.Report
import DnsBlocklist.Statistics
import DnsBlocklist.Text.Basic
import DnsBlocklist.Text.Canonical.Basic
import DnsBlocklist.Text.Canonical.Order
import DnsBlocklist.Text.Canonical.Pair
import DnsBlocklist.Text.Decimal
import DnsBlocklist.Text.Direction
import DnsBlocklist.Text.Joining
import DnsBlocklist.Text.Mark
import DnsBlocklist.Text.Numeric
import DnsBlocklist.Text.Runs
import DnsBlocklist.Text.Utf8
import DnsBlocklist.Toml.Document
import DnsBlocklist.Toml.Quoted
import DnsBlocklist.Toml.Scalar
import DnsBlocklist.Toml.Value
import DnsBlocklist.Usage
import DnsBlocklist.Zone.Declaration
import DnsBlocklist.Zone.Refresh
import DnsBlocklist.Zone.Reload
import DnsBlocklist.Zone.Snapshot
import DnsBlocklist.Proofs.Trace
import DnsBlocklist.Proofs.Event.Raising
import DnsBlocklist.Proofs.Range.Written
import DnsBlocklist.Proofs.IpSet.Lookup
import DnsBlocklist.Proofs.IpSet.Written
import DnsBlocklist.Proofs.IpSet.History
import DnsBlocklist.Proofs.Name.Labels
import DnsBlocklist.Proofs.Netlist.Written
import DnsBlocklist.Proofs.Netlist.Verdict
import DnsBlocklist.Proofs.Zone.Deepest
import DnsBlocklist.Proofs.Zone.Attempt
import DnsBlocklist.Proofs.Zone.AllOrNothing
import DnsBlocklist.Proofs.Zone.Freshness
import DnsBlocklist.Proofs.Zone.Shadow
import DnsBlocklist.Proofs.Message.RoundTrip
import DnsBlocklist.Proofs.Text.Cut
import DnsBlocklist.Proofs.Reply.Decision
import DnsBlocklist.Proofs.Reply.ByLabels
import DnsBlocklist.Proofs.Reply.WellFormed
import DnsBlocklist.Proofs.Reply.Classified
import DnsBlocklist.Proofs.Server.Run
import DnsBlocklist.Proofs.Server.Attention
import DnsBlocklist.Proofs.Server.Handling
import DnsBlocklist.Proofs.Server.Exchange
import DnsBlocklist.Proofs.Server.Accounting
import DnsBlocklist.Proofs.Server.Refusal
import DnsBlocklist.Proofs.Log.Writer
import DnsBlocklist.Proofs.Log.Lines
import DnsBlocklist.Proofs.Server.Tasks
import DnsBlocklist.Proofs.Zone.Alike
import DnsBlocklist.Proofs.Server.Batch
import DnsBlocklist.Proofs.Server.Unlogged
import DnsBlocklist.Proofs.Name.Spelling
import DnsBlocklist.Proofs.Reply.Asked
import DnsBlocklist.Proofs.Text.LetterCase
import DnsBlocklist.Proofs.Name.Respelled
import DnsBlocklist.Proofs.Reply.LetterCase
import DnsBlocklist.Proofs.Text.Fields
import DnsBlocklist.Proofs.Log.Fields
import DnsBlocklist.Proofs.Zone.Unchanging
import DnsBlocklist.Proofs.Server.Answering
import DnsBlocklist.Proofs.Server.Awaiting
import DnsBlocklist.Proofs.Server.Quickstart
import DnsBlocklist.Proofs.Netlist.Text
import DnsBlocklist.Proofs.Range.Grammar
import DnsBlocklist.Proofs.Netlist.Asking
import DnsBlocklist.Proofs.Log.Torn
import DnsBlocklist.Proofs.Utf8.Characters
import DnsBlocklist.Proofs.Utf8.Reading
import DnsBlocklist.Proofs.IpSet.Skipped
import DnsBlocklist.Proofs.IpSet.Joined
import DnsBlocklist.Proofs.Numbers
import DnsBlocklist.Proofs.Name.Reversal
import DnsBlocklist.Proofs.IpSet.Representation
import DnsBlocklist.Proofs.Server.Agreement
import DnsBlocklist.Proofs.Zone.Merged
import DnsBlocklist.Proofs.Utf8.Boundary
import DnsBlocklist.Proofs.Reply.Strings
