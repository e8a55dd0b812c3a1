import VehicleTelemetry.Capture.Event
import VehicleTelemetry.Capture.File
import VehicleTelemetry.Clock
import VehicleTelemetry.CommandLine
import VehicleTelemetry.Decimal.Basic
import VehicleTelemetry.Decimal.Binary64
import VehicleTelemetry.Decimal.Layout
import VehicleTelemetry.Decimal.Shortest
import VehicleTelemetry.Directory
import VehicleTelemetry.Energy.Meter
import VehicleTelemetry.Energy.Sampling
import VehicleTelemetry.Ini.Document
import VehicleTelemetry.Json.Basic
import VehicleTelemetry.Json.Parser
import VehicleTelemetry.Json.Printer
import VehicleTelemetry.Json5.Parser
import VehicleTelemetry.Log.Event
import VehicleTelemetry.Log.Logged
import VehicleTelemetry.Main
import VehicleTelemetry.Metric.Describe
import VehicleTelemetry.Metric.Signal
import VehicleTelemetry.Metric.Store
import VehicleTelemetry.Metric.Text
import VehicleTelemetry.Metric.Value
import VehicleTelemetry.Numeral
import VehicleTelemetry.Payload.Decode
import VehicleTelemetry.Payload.Error
import VehicleTelemetry.Payload.Reader
import VehicleTelemetry.Payload.Statistics
import VehicleTelemetry.Payload.Values
import VehicleTelemetry.Poll.Ecu
import VehicleTelemetry.Poll.Pid
import VehicleTelemetry.Poll.Poller
import VehicleTelemetry.Poll.Query
import VehicleTelemetry.Poll.Reassembly
import VehicleTelemetry.Poll.Schedule
import VehicleTelemetry.Recorder
import VehicleTelemetry.Replay.Basic
import VehicleTelemetry.Replay.Summary
import VehicleTelemetry.Reply.Table
import VehicleTelemetry.Ron.Parser
import VehicleTelemetry.Ron.Value
import VehicleTelemetry.Scalar
import VehicleTelemetry.Session.Machine
import VehicleTelemetry.Session.State
import VehicleTelemetry.Settings.Basic
import VehicleTelemetry.Settings.Document
import VehicleTelemetry.Settings.Environment
import VehicleTelemetry.Settings.Load
import VehicleTelemetry.Settings.Table
import VehicleTelemetry.Settings.Value
import VehicleTelemetry.Text.Blank
import VehicleTelemetry.Text.Digit
import VehicleTelemetry.Text.Hex
import VehicleTelemetry.Text.Items
import VehicleTelemetry.Text.Quoted
import VehicleTelemetry.Text.Unprintable
import VehicleTelemetry.Toml.Document
import VehicleTelemetry.Toml.Lexical
import VehicleTelemetry.Toml.Moment
import VehicleTelemetry.Toml.Number
import VehicleTelemetry.Toml.Tree
import VehicleTelemetry.Toml.Value
import VehicleTelemetry.Vehicle.Basic
import VehicleTelemetry.Vehicle.Config
import VehicleTelemetry.Vehicle.Replies
import VehicleTelemetry.Word
import VehicleTelemetry.Yaml.Document
import VehicleTelemetry.Yaml.Scalar
import VehicleTelemetry.Yaml.Source
import VehicleTelemetry.Yaml.Value
import VehicleTelemetry.Proofs.Metric.Frame
import VehicleTelemetry.Proofs.Recorder.Alike
import VehicleTelemetry.Proofs.Recorder.Effects
import VehicleTelemetry.Proofs.Recorder.Energy
import VehicleTelemetry.Proofs.Recorder.Frame
import VehicleTelemetry.Proofs.Recorder.Reconcile
import VehicleTelemetry.Proofs.Recorder.Tracking
import VehicleTelemetry.Proofs.Energy.History
import VehicleTelemetry.Proofs.Poll.Reassembly
import VehicleTelemetry.Proofs.Session.Charging
import VehicleTelemetry.Proofs.Session.Evaluation
import VehicleTelemetry.Proofs.Session.Moves
import VehicleTelemetry.Proofs.Reply.Actions
import VehicleTelemetry.Proofs.Reply.Alike
import VehicleTelemetry.Proofs.Reply.Energy
import VehicleTelemetry.Proofs.Reply.Lookup
import VehicleTelemetry.Proofs.Reply.Report
import VehicleTelemetry.Proofs.Vehicle.Answers
import VehicleTelemetry.Proofs.Vehicle.Charging
import VehicleTelemetry.Proofs.Vehicle.Energy
import VehicleTelemetry.Proofs.Vehicle.Fragmentation
import VehicleTelemetry.Proofs.Vehicle.Frame
import VehicleTelemetry.Proofs.Vehicle.Refusal
import VehicleTelemetry.Proofs.Vehicle.Reports
import VehicleTelemetry.Proofs.Vehicle.Run
import VehicleTelemetry.Proofs.Vehicle.Session
import VehicleTelemetry.Proofs.Vehicle.Staleness
import VehicleTelemetry.Proofs.Binary64.Arithmetic
import VehicleTelemetry.Proofs.Recorder.Trip
import VehicleTelemetry.Proofs.Vehicle.Trip
import VehicleTelemetry.Proofs.Vehicle.Drives
import VehicleTelemetry.Proofs.Poll.Burst
import VehicleTelemetry.Proofs.Vehicle.Queries
import VehicleTelemetry.Proofs.Payload.Vin
import VehicleTelemetry.Proofs.Vehicle.Vin
import VehicleTelemetry.Proofs.Metric.Writes
import VehicleTelemetry.Proofs.Reply.Effect
import VehicleTelemetry.Proofs.Vehicle.Effects
import VehicleTelemetry.Proofs.Energy.Repeated
import VehicleTelemetry.Proofs.Reply.Beginnings
import VehicleTelemetry.Proofs.Reply.Repeated
import VehicleTelemetry.Proofs.Vehicle.Duplicates
import VehicleTelemetry.Proofs.Reply.Independent
import VehicleTelemetry.Proofs.Vehicle.Commute
import VehicleTelemetry.Proofs.Replay.Range
import VehicleTelemetry.Proofs.Replay.Run
import VehicleTelemetry.Proofs.Poll.Exchange
import VehicleTelemetry.Proofs.Poll.Run
import VehicleTelemetry.Proofs.Metric.History
import VehicleTelemetry.Proofs.Recorder.Settled
import VehicleTelemetry.Proofs.Decimal.Nearest
import VehicleTelemetry.Proofs.Decimal.Shortest
import VehicleTelemetry.Proofs.Binary64.Finite
import VehicleTelemetry.Proofs.Json.Number
import VehicleTelemetry.Proofs.Json.Sequence
import VehicleTelemetry.Proofs.Json.Value
import VehicleTelemetry.Proofs.Metric.RoundTrip
import VehicleTelemetry.Proofs.Session.Settling
import VehicleTelemetry.Proofs.Binary64.Order
import VehicleTelemetry.Proofs.Vehicle.Frozen
import VehicleTelemetry.Proofs.Energy.Credit
import VehicleTelemetry.Proofs.Energy.Totals
import VehicleTelemetry.Proofs.Capture.Lines
import VehicleTelemetry.Proofs.Capture.Order
import VehicleTelemetry.Proofs.Payload.Format
import VehicleTelemetry.Proofs.Payload.Padding
import VehicleTelemetry.Proofs.Payload.Reading
import VehicleTelemetry.Proofs.Payload.Statistics
import VehicleTelemetry.Proofs.Poll.Script
import VehicleTelemetry.Proofs.Poll.Ledger
import VehicleTelemetry.Proofs.Reply.Registration
