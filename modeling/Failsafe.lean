import Failsafe.Audit
import Failsafe.Breaker
import Failsafe.Buffer
import Failsafe.Bus
import Failsafe.Clock
import Failsafe.CommandLine.Command
import Failsafe.CommandLine.Complaint
import Failsafe.CommandLine.Invocation
import Failsafe.ControlPlane
import Failsafe.Database.Address
import Failsafe.Database.Domain
import Failsafe.Database.Host
import Failsafe.Database.Passwords
import Failsafe.Database.Percent
import Failsafe.Database.Punycode
import Failsafe.Database.Socket
import Failsafe.Database.Url
import Failsafe.Decimal.Nearest
import Failsafe.Decimal.Shortest
import Failsafe.Decimal.Whole
import Failsafe.Dispatch
import Failsafe.Entry
import Failsafe.Error
import Failsafe.Event
import Failsafe.Files
import Failsafe.Gate
import Failsafe.Json.Fault
import Failsafe.Json.Plain
import Failsafe.Json.Printer
import Failsafe.Json.Reader
import Failsafe.Json.Record
import Failsafe.Json.Skipping
import Failsafe.Json.Value
import Failsafe.Log
import Failsafe.Log.Console
import Failsafe.Log.Filter
import Failsafe.Log.Pattern
import Failsafe.Log.Pattern.Class
import Failsafe.Log.Pattern.Escape
import Failsafe.Log.Pattern.Modes
import Failsafe.Mode
import Failsafe.Path
import Failsafe.Program
import Failsafe.Reason
import Failsafe.Recovery
import Failsafe.Report
import Failsafe.Service
import Failsafe.Settings.Basic
import Failsafe.Settings.Layers
import Failsafe.Settings.Loading
import Failsafe.Settings.Tree
import Failsafe.Signal
import Failsafe.Surroundings
import Failsafe.Text.Blank
import Failsafe.Text.Case
import Failsafe.Text.Cased
import Failsafe.Text.Composition
import Failsafe.Text.Direction
import Failsafe.Text.Folding
import Failsafe.Text.Joining
import Failsafe.Text.Letter
import Failsafe.Text.Mark
import Failsafe.Text.Printable
import Failsafe.Text.Quoted
import Failsafe.Text.Similarity
import Failsafe.Text.Terminal
import Failsafe.Text.Utf8
import Failsafe.Timestamp
import Failsafe.Toml.Document
import Failsafe.Toml.Fault
import Failsafe.Toml.Grammar
import Failsafe.Toml.Key
import Failsafe.Toml.Moment
import Failsafe.Toml.Number
import Failsafe.Toml.Reader
import Failsafe.Toml.Table
import Failsafe.Toml.Text
import Failsafe.Toml.Value
import Failsafe.Transition
import Failsafe.Wal
import Failsafe.Width
import Failsafe.Main
import Failsafe.Proofs.Text.Lines
import Failsafe.Proofs.Text.Cuts
import Failsafe.Proofs.Json.Numbers
import Failsafe.Proofs.Json.Strings
import Failsafe.Proofs.Json.Whole
import Failsafe.Proofs.Json.Rereading
import Failsafe.Proofs.Json.Legible
import Failsafe.Proofs.Json.Records
import Failsafe.Proofs.Timestamp
import Failsafe.Proofs.Entry
import Failsafe.Proofs.Upsert
import Failsafe.Proofs.Wal
import Failsafe.Proofs.Wal.Replaying
import Failsafe.Proofs.Wal.Cutting
import Failsafe.Proofs.Buffer.Calls
import Failsafe.Proofs.Buffer.Rebuilding
import Failsafe.Proofs.Buffer.Bounds
import Failsafe.Proofs.Service.Calls
import Failsafe.Proofs.Service.Overrides
import Failsafe.Proofs.Service.Postures
import Failsafe.Proofs.Recovery.Steps
import Failsafe.Proofs.Recovery.Races
import Failsafe.Proofs.Recovery.Advances
import Failsafe.Proofs.Recovery.Completion
import Failsafe.Proofs.Breaker
import Failsafe.Proofs.Hysteresis
import Failsafe.Proofs.ControlPlane.Calls
import Failsafe.Proofs.ControlPlane.Coverage
import Failsafe.Proofs.Files
import Failsafe.Proofs.ControlPlane.Reach
import Failsafe.Proofs.ControlPlane.Overrides
import Failsafe.Proofs.Table
import Failsafe.Proofs.Buffer.Relaying
import Failsafe.Proofs.Event
import Failsafe.Proofs.Outline.Basic
import Failsafe.Proofs.Outline.ControlPlane
import Failsafe.Proofs.Bus.Turns
import Failsafe.Proofs.Bus.Deliveries
import Failsafe.Proofs.Service.History
import Failsafe.Proofs.ControlPlane.Descents
import Failsafe.Proofs.Surroundings
import Failsafe.Proofs.Recovery.Agreement
import Failsafe.Proofs.ControlPlane.Progress
import Failsafe.Proofs.Recovery.Refusals
import Failsafe.Proofs.ControlPlane.Masking
import Failsafe.Proofs.Json.Structure
import Failsafe.Proofs.Json.Scans
import Failsafe.Proofs.Json.Skipping
import Failsafe.Proofs.Json.Balance
import Failsafe.Proofs.Buffer.Tearing
import Failsafe.Proofs.Path
import Failsafe.Proofs.Tree
import Failsafe.Proofs.Making
import Failsafe.Proofs.Buffer.Serving
import Failsafe.Proofs.ControlPlane.Doubles
import Failsafe.Proofs.Pressure
import Failsafe.Proofs.Buffer.Numbering
import Failsafe.Proofs.ControlPlane.Interleaving
import Failsafe.Proofs.ControlPlane.Surveys
import Failsafe.Proofs.ControlPlane.Drifts
import Failsafe.Proofs.ControlPlane.Aborts
import Failsafe.Proofs.Service.Escalations
import Failsafe.Proofs.Service.Expiry
import Failsafe.Proofs.Buffer.Failures
import Failsafe.Proofs.ControlPlane.Writes
import Failsafe.Proofs.Appending
import Failsafe.Proofs.Bus.Drops
import Failsafe.Proofs.Json.Nesting
import Failsafe.Proofs.Buffer.Acceptance
import Failsafe.Proofs.Report
import Failsafe.Proofs.Buffer.Identity
import Failsafe.Proofs.Wal.Writing
import Failsafe.Proofs.Buffer.Stamping
import Failsafe.Proofs.Stored
