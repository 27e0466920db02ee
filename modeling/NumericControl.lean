import NumericControl.Arc.Center
import NumericControl.Arc.Sweep
import NumericControl.Axis
import NumericControl.Block
import NumericControl.Check
import NumericControl.Code
import NumericControl.Command
import NumericControl.CommandLine.Options
import NumericControl.CommandLine.Run
import NumericControl.Config
import NumericControl.Digest.Lines
import NumericControl.Digest.Sha256
import NumericControl.Execution
import NumericControl.Extent
import NumericControl.Failure
import NumericControl.Files.Access
import NumericControl.Files.Fault
import NumericControl.Files.Path
import NumericControl.Files.Tree
import NumericControl.Front
import NumericControl.Interpretation
import NumericControl.Job.Basic
import NumericControl.Job.Load
import NumericControl.Json.Arithmetic
import NumericControl.Json.Basic
import NumericControl.Json.Display
import NumericControl.Json.Reader
import NumericControl.Json.Writer
import NumericControl.Line.Basic
import NumericControl.Line.Removal
import NumericControl.Line.Scan
import NumericControl.Loader.Basic
import NumericControl.Loader.Settle
import NumericControl.Main
import NumericControl.Modal
import NumericControl.Number.Binary
import NumericControl.Number.Length
import NumericControl.Number.Numeral
import NumericControl.Number.Rounded
import NumericControl.Number.Shortest
import NumericControl.Program
import NumericControl.Proofs.Arc.Center
import NumericControl.Proofs.Arc.Exact
import NumericControl.Proofs.Arc.Sweep
import NumericControl.Proofs.Block.Acceptance
import NumericControl.Proofs.Block.Kept
import NumericControl.Proofs.Block.Revalued
import NumericControl.Proofs.Block.Roles
import NumericControl.Proofs.Block.Table
import NumericControl.Proofs.Block.WordOrder
import NumericControl.Proofs.CommandLine.SettingsFile
import NumericControl.Proofs.Digest.Framing
import NumericControl.Proofs.Execution.Borrowed
import NumericControl.Proofs.Execution.Emission
import NumericControl.Proofs.Execution.Gating
import NumericControl.Proofs.Execution.Origin
import NumericControl.Proofs.Execution.Relocation
import NumericControl.Proofs.Execution.Restatement
import NumericControl.Proofs.Execution.Route
import NumericControl.Proofs.Execution.Stages
import NumericControl.Proofs.Execution.Units
import NumericControl.Proofs.Extent.Exact
import NumericControl.Proofs.Extent.Points
import NumericControl.Proofs.Extent.Tracking
import NumericControl.Proofs.Files.Atomicity
import NumericControl.Proofs.Files.Disk
import NumericControl.Proofs.Files.Journal
import NumericControl.Proofs.Files.Place
import NumericControl.Proofs.Files.Programs
import NumericControl.Proofs.Files.Replacement
import NumericControl.Proofs.Files.Undisturbed
import NumericControl.Proofs.Job.Events
import NumericControl.Proofs.Job.Feeds
import NumericControl.Proofs.Job.History
import NumericControl.Proofs.Job.Load
import NumericControl.Proofs.Job.Rows
import NumericControl.Proofs.Job.Skipping
import NumericControl.Proofs.Job.Snapshot
import NumericControl.Proofs.Job.StoredRows
import NumericControl.Proofs.Json.Keys
import NumericControl.Proofs.Json.Plain
import NumericControl.Proofs.Json.Reading
import NumericControl.Proofs.Json.Stored
import NumericControl.Proofs.Line.Grammar
import NumericControl.Proofs.Line.Lossless
import NumericControl.Proofs.Line.Removal
import NumericControl.Proofs.Line.Rewriting
import NumericControl.Proofs.Line.Stripped
import NumericControl.Proofs.Line.Values
import NumericControl.Proofs.Loader.Protocol
import NumericControl.Proofs.Loader.Run
import NumericControl.Proofs.Loader.Settle
import NumericControl.Proofs.Loader.Worker
import NumericControl.Proofs.Modes.Follower
import NumericControl.Proofs.Modes.Stream
import NumericControl.Proofs.Number.Numeral
import NumericControl.Proofs.Number.Order
import NumericControl.Proofs.Number.Rounding
import NumericControl.Proofs.Outcome
import NumericControl.Proofs.Program.MissingAxes
import NumericControl.Proofs.Program.Order
import NumericControl.Proofs.Program.Readings
import NumericControl.Proofs.Program.Run
import NumericControl.Proofs.Program.Storage
import NumericControl.Proofs.Program.WellFormed
import NumericControl.Proofs.Refusal.Execution
import NumericControl.Proofs.Refusal.Kind
import NumericControl.Proofs.Refusal.Program
import NumericControl.Proofs.Report.Accounts
import NumericControl.Proofs.Report.Hazards
import NumericControl.Proofs.Report.Prediction
import NumericControl.Proofs.Settings.Checked
import NumericControl.Proofs.Settings.Dotted
import NumericControl.Proofs.Settings.Loading
import NumericControl.Proofs.Settings.Merging
import NumericControl.Proofs.Settings.RecentFiles
import NumericControl.Proofs.Settings.Saving
import NumericControl.Proofs.Text.Spacing
import NumericControl.Proofs.Text.Splitting
import NumericControl.Proofs.Text.Utf8
import NumericControl.Proofs.Token.Reading
import NumericControl.Proofs.Token.Replay
import NumericControl.Proofs.Token.RoundTrip
import NumericControl.Proofs.Token.Typed
import NumericControl.Proofs.Toolpath.Drawings
import NumericControl.Proofs.Toolpath.Feeds
import NumericControl.Proofs.Toolpath.Moves
import NumericControl.Report.Basic
import NumericControl.Report.Text
import NumericControl.Settings.Basic
import NumericControl.Settings.Checked
import NumericControl.Settings.File
import NumericControl.Settings.Recent
import NumericControl.Text.Blank
import NumericControl.Text.CaseContext
import NumericControl.Text.DecimalDigit
import NumericControl.Text.Encoding
import NumericControl.Text.LetterCase
import NumericControl.Text.Printable
import NumericControl.Text.Quoted
import NumericControl.Text.Ranges
import NumericControl.Text.Utf8
import NumericControl.Token.Basic
import NumericControl.Token.Document
import NumericControl.Token.File
import NumericControl.Token.Record
import NumericControl.Token.Replay
import NumericControl.Toolpath
