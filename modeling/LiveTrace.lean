import LiveTrace.Channel
import LiveTrace.CommandLine
import LiveTrace.Config.Basic
import LiveTrace.Config.File
import LiveTrace.Console.Color
import LiveTrace.Console.Span
import LiveTrace.Console.View
import LiveTrace.Daemon
import LiveTrace.Decimal.Double
import LiveTrace.Decimal.Layout
import LiveTrace.Decimal.Shortest
import LiveTrace.Dotenv
import LiveTrace.Failure
import LiveTrace.Json.Basic
import LiveTrace.Json.Printer
import LiveTrace.Json.Reader
import LiveTrace.Json.Record
import LiveTrace.Line
import LiveTrace.Line.Scheduled
import LiveTrace.Log.Caller
import LiveTrace.Log.Feed
import LiveTrace.Main
import LiveTrace.Monitor
import LiveTrace.Program.Commands
import LiveTrace.Program.Invocation
import LiveTrace.Program.Run
import LiveTrace.Proofs.Config.RoundTrip
import LiveTrace.Proofs.Console.Colors
import LiveTrace.Proofs.Console.Columns
import LiveTrace.Proofs.Console.Indentation
import LiveTrace.Proofs.Daemon.Consistency
import LiveTrace.Proofs.Daemon.Levels
import LiveTrace.Proofs.Daemon.Trace
import LiveTrace.Proofs.Daemon.Verbs
import LiveTrace.Proofs.Json.Acceptance
import LiveTrace.Proofs.Json.Controls
import LiveTrace.Proofs.Json.Grammar
import LiveTrace.Proofs.Json.Lexis
import LiveTrace.Proofs.Json.Reader
import LiveTrace.Proofs.Json.RoundTrip
import LiveTrace.Proofs.Json.Structure
import LiveTrace.Proofs.Monitor.Channels
import LiveTrace.Proofs.Monitor.Disconnect
import LiveTrace.Proofs.Program.Operands
import LiveTrace.Proofs.Program.Stream
import LiveTrace.Proofs.Program.Trace
import LiveTrace.Proofs.Registry.Discovery
import LiveTrace.Proofs.Registry.Lenient
import LiveTrace.Proofs.Registry.Report
import LiveTrace.Proofs.Session.Action
import LiveTrace.Proofs.Session.Calls
import LiveTrace.Proofs.Session.Closing
import LiveTrace.Proofs.Session.Commands
import LiveTrace.Proofs.Session.Connection
import LiveTrace.Proofs.Session.Control
import LiveTrace.Proofs.Session.Events
import LiveTrace.Proofs.Session.Exclusivity
import LiveTrace.Proofs.Session.Failure
import LiveTrace.Proofs.Session.Frame
import LiveTrace.Proofs.Session.Held
import LiveTrace.Proofs.Session.History
import LiveTrace.Proofs.Session.Intent
import LiveTrace.Proofs.Session.Levels
import LiveTrace.Proofs.Session.Log
import LiveTrace.Proofs.Session.ReadBack
import LiveTrace.Proofs.Session.Repair
import LiveTrace.Proofs.Session.Replacement
import LiveTrace.Proofs.Session.Setting
import LiveTrace.Proofs.Session.Subscriptions
import LiveTrace.Proofs.Socket.Correlation
import LiveTrace.Proofs.Socket.Reader
import LiveTrace.Proofs.Socket.Settlement
import LiveTrace.Proofs.Text.Trim
import LiveTrace.Proofs.Toml.Document
import LiveTrace.Proofs.Toml.Lines
import LiveTrace.Proofs.Trace.Agreement
import LiveTrace.Proofs.Trace.Classification
import LiveTrace.Proofs.Trace.Plan
import LiveTrace.Proofs.Trace.Reading
import LiveTrace.Proofs.Trace.Texts
import LiveTrace.Proofs.Trace.Tree
import LiveTrace.Proofs.Verbosity.Guards
import LiveTrace.Proofs.Wire.Acceptance
import LiveTrace.Proofs.Wire.Reply
import LiveTrace.Proofs.Wire.RoundTrip
import LiveTrace.Recent
import LiveTrace.Registry.Document
import LiveTrace.Registry.Merge
import LiveTrace.Session.Basic
import LiveTrace.Session.Events
import LiveTrace.Session.Operations
import LiveTrace.Table
import LiveTrace.Text.Alphanumeric
import LiveTrace.Text.Basic
import LiveTrace.Text.Visible
import LiveTrace.Toml.Document
import LiveTrace.Toml.Reader
import LiveTrace.Toml.Scalar
import LiveTrace.Toml.Text
import LiveTrace.Toml.Value
import LiveTrace.Toml.Writer
import LiveTrace.Trace.Event
import LiveTrace.Trace.Subscriptions
import LiveTrace.Trace.Tag
import LiveTrace.Trace.Tree
import LiveTrace.Verbosity.Level
import LiveTrace.Verbosity.State
import LiveTrace.Verbosity.Target
import LiveTrace.Wire.Frame
import LiveTrace.Wire.Reply
import LiveTrace.Wire.Socket
