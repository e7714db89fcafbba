import GatewayProbe.Check.Command
import GatewayProbe.Check.Listing
import GatewayProbe.Check.Run
import GatewayProbe.Check.Workspace
import GatewayProbe.Clock
import GatewayProbe.CommandLine.Description
import GatewayProbe.CommandLine.Invocation
import GatewayProbe.CommandLine.Keys
import GatewayProbe.CommandLine.Level
import GatewayProbe.CommandLine.Option
import GatewayProbe.Data
import GatewayProbe.Decimal.Binary
import GatewayProbe.Decimal.Layout
import GatewayProbe.Decimal.Nearest
import GatewayProbe.Decimal.Reading
import GatewayProbe.Decimal.Shortest
import GatewayProbe.Duration
import GatewayProbe.Duration.Reading
import GatewayProbe.Failure
import GatewayProbe.FileTree
import GatewayProbe.Gateway.Body
import GatewayProbe.Gateway.Call
import GatewayProbe.Gateway.Conversation
import GatewayProbe.Gateway.Poll
import GatewayProbe.Gateway.Routes
import GatewayProbe.Gateway.Script
import GatewayProbe.Gateway.Task
import GatewayProbe.Gateway.Web
import GatewayProbe.Json.Document
import GatewayProbe.Json.Field
import GatewayProbe.Json.Token
import GatewayProbe.Json.Value
import GatewayProbe.Load.Command
import GatewayProbe.Load.Enforce
import GatewayProbe.Load.Export
import GatewayProbe.Load.Mix
import GatewayProbe.Load.Outcome
import GatewayProbe.Load.Pacing
import GatewayProbe.Load.Plan
import GatewayProbe.Load.Preflight
import GatewayProbe.Load.Report
import GatewayProbe.Load.Run
import GatewayProbe.Load.Schedule
import GatewayProbe.Load.Summary
import GatewayProbe.Load.User
import GatewayProbe.Log
import GatewayProbe.Log.Filter
import GatewayProbe.Main
import GatewayProbe.Metrics.Aggregator
import GatewayProbe.Metrics.Histogram
import GatewayProbe.Metrics.Tally
import GatewayProbe.Program
import GatewayProbe.Random.Choice
import GatewayProbe.Random.Stream
import GatewayProbe.Server.Bracket
import GatewayProbe.Server.Fault
import GatewayProbe.Server.Output
import GatewayProbe.Server.Process
import GatewayProbe.Server.Shell.Run
import GatewayProbe.Server.Shell.Statement
import GatewayProbe.Server.Shell.Token
import GatewayProbe.Server.Spec
import GatewayProbe.Settings.Check
import GatewayProbe.Settings.CommandText
import GatewayProbe.Settings.Entry
import GatewayProbe.Settings.File
import GatewayProbe.Settings.Gateway
import GatewayProbe.Settings.Keyed
import GatewayProbe.Settings.Load
import GatewayProbe.Slo.Outcome
import GatewayProbe.Slo.Threshold
import GatewayProbe.SystemError
import GatewayProbe.Text.Ascii
import GatewayProbe.Text.Blank
import GatewayProbe.Text.Column
import GatewayProbe.Text.Integer
import GatewayProbe.Text.Utf8
import GatewayProbe.Toml.Document
import GatewayProbe.Toml.Scalar
import GatewayProbe.Toml.Text
import GatewayProbe.Toml.Tree
import GatewayProbe.Url.Address
import GatewayProbe.Url.Composition
import GatewayProbe.Url.Domain
import GatewayProbe.Url.DomainTable
import GatewayProbe.Url.Host
import GatewayProbe.Url.Percent
import GatewayProbe.Url.Punycode
import GatewayProbe.Url.Script
import GatewayProbe.Url.ScriptTable
import GatewayProbe.World
import GatewayProbe.Proofs.Metrics.Buckets
import GatewayProbe.Proofs.Metrics.Recording
import GatewayProbe.Proofs.Load.Step
import GatewayProbe.Proofs.Load.Replay
import GatewayProbe.Proofs.Gateway.Faults
import GatewayProbe.Proofs.Load.Ledger
import GatewayProbe.Proofs.Load.Audit
import GatewayProbe.Proofs.Gateway.Names
import GatewayProbe.Proofs.Load.Closing
import GatewayProbe.Proofs.Load.Conservation
import GatewayProbe.Proofs.Load.FailureAccounting
import GatewayProbe.Proofs.Gateway.Polling
import GatewayProbe.Proofs.Load.Schedule
import GatewayProbe.Proofs.Decimal.Nearest
import GatewayProbe.Proofs.Decimal.Packing
import GatewayProbe.Proofs.Decimal.Arithmetic
import GatewayProbe.Proofs.Metrics.Quantiles
import GatewayProbe.Proofs.Metrics.Observation
import GatewayProbe.Proofs.Slo.Soundness
import GatewayProbe.Proofs.Load.Release
import GatewayProbe.Proofs.Load.Chronicle
import GatewayProbe.Proofs.Load.Pacing
import GatewayProbe.Proofs.Load.TaskIds
import GatewayProbe.Proofs.Load.Punctuality
import GatewayProbe.Proofs.Load.Shutdown
import GatewayProbe.Proofs.Metrics.Percentiles
import GatewayProbe.Proofs.Metrics.Recorder
import GatewayProbe.Proofs.Load.Choices
import GatewayProbe.Proofs.Gateway.Conversing
import GatewayProbe.Proofs.Gateway.Exchanges
import GatewayProbe.Proofs.Check.Course
import GatewayProbe.Proofs.Server.Enclosure
import GatewayProbe.Proofs.Metrics.Reordering
import GatewayProbe.Proofs.Settings.Merging
import GatewayProbe.Proofs.Settings.Precedence
import GatewayProbe.Proofs.Text.Joining
import GatewayProbe.Proofs.Decimal.Characters
import GatewayProbe.Proofs.Settings.WeightTables
import GatewayProbe.Proofs.Settings.Spelling
import GatewayProbe.Proofs.CommandLine.Commands
import GatewayProbe.Proofs.CommandLine.Reading
import GatewayProbe.Proofs.Settings.Allowed
import GatewayProbe.Proofs.Load.Planning
import GatewayProbe.Proofs.Gateway.Budget
import GatewayProbe.Proofs.Load.Totals
import GatewayProbe.Proofs.Text.Utf8
import GatewayProbe.Proofs.Text.Words
import GatewayProbe.Proofs.Url.Segments
import GatewayProbe.Proofs.Gateway.Addressing
import GatewayProbe.Proofs.Server.Lines
import GatewayProbe.Proofs.Server.Reader
import GatewayProbe.Proofs.Server.Watch
import GatewayProbe.Proofs.Server.Readiness
import GatewayProbe.Proofs.Metrics.Accuracy
import GatewayProbe.Proofs.Metrics.Freezing
import GatewayProbe.Proofs.Json.Lexing
import GatewayProbe.Proofs.Json.Numbers
import GatewayProbe.Proofs.Json.Parsing
import GatewayProbe.Proofs.Json.Fields
import GatewayProbe.Proofs.Json.Rearranging
import GatewayProbe.Proofs.Gateway.StatusBodies
import GatewayProbe.Proofs.Random.Fairness
import GatewayProbe.Proofs.Load.Apportioning
import GatewayProbe.Proofs.Json.Writing
import GatewayProbe.Proofs.Gateway.Requests
import GatewayProbe.Proofs.Gateway.NewTasks
import GatewayProbe.Proofs.Slo.Naming
import GatewayProbe.Proofs.Load.Recorded
import GatewayProbe.Proofs.Load.Interleaving
import GatewayProbe.Proofs.Load.Judging
import GatewayProbe.Proofs.Duration.Grammar
import GatewayProbe.Proofs.Load.WeightTexts
import GatewayProbe.Proofs.Load.Enforcing
import GatewayProbe.Proofs.Url.Paths
import GatewayProbe.Proofs.Gateway.Rooting
import GatewayProbe.Proofs.Gateway.Vocabulary
import GatewayProbe.Proofs.Decimal.Layout
import GatewayProbe.Proofs.Load.Renderings
import GatewayProbe.Proofs.Decimal.Shortest
import GatewayProbe.Proofs.Decimal.RoundTrip
import GatewayProbe.Proofs.Slo.Labels
