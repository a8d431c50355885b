import LinkGauge.CommandLine.Arguments
import LinkGauge.CommandLine.Grammar
import LinkGauge.Daemon.Identity
import LinkGauge.Daemon.Machine
import LinkGauge.Daemon.Rehearsal
import LinkGauge.Decimal.Reading
import LinkGauge.Decimal.Shortest
import LinkGauge.Decimal.Written
import LinkGauge.Delivery.Basic
import LinkGauge.Delivery.Direct
import LinkGauge.Delivery.Place
import LinkGauge.Delivery.Remote
import LinkGauge.Document.Decoder
import LinkGauge.Document.Failure
import LinkGauge.Document.Fault
import LinkGauge.Document.Layout
import LinkGauge.Document.Node
import LinkGauge.Document.Tree
import LinkGauge.Environment.Basic
import LinkGauge.Environment.Value
import LinkGauge.Host.Administration
import LinkGauge.Host.Basic
import LinkGauge.Host.Category
import LinkGauge.Host.Selection
import LinkGauge.Json.Reading
import LinkGauge.Json.Scan
import LinkGauge.Json.Value
import LinkGauge.Measurement.Bandwidth
import LinkGauge.Measurement.Bench
import LinkGauge.Measurement.Rules
import LinkGauge.Measurement.Transport
import LinkGauge.Plan
import LinkGauge.Problem
import LinkGauge.Script.Basic
import LinkGauge.Script.Play
import LinkGauge.Script.Program
import LinkGauge.Script.Reading
import LinkGauge.Script.Token
import LinkGauge.Service.Dashboard
import LinkGauge.Service.Query
import LinkGauge.Service.Respond
import LinkGauge.Service.Route
import LinkGauge.Settings.Basic
import LinkGauge.Settings.Decoding
import LinkGauge.Settings.Load
import LinkGauge.Speed.Reading
import LinkGauge.Speed.Run
import LinkGauge.Speed.Submission
import LinkGauge.Startup
import LinkGauge.Store.Access
import LinkGauge.Store.Migration
import LinkGauge.Store.Opening
import LinkGauge.Store.Problem
import LinkGauge.Store.Statement
import LinkGauge.Store.Value
import LinkGauge.Text.Blank
import LinkGauge.Text.Charset
import LinkGauge.Text.Digit
import LinkGauge.Text.Hidden
import LinkGauge.Text.Percent
import LinkGauge.Text.Quoted
import LinkGauge.Text.Utf16
import LinkGauge.Text.Utf8
import LinkGauge.Throughput.Reading
import LinkGauge.Throughput.Round
import LinkGauge.Throughput.Run
import LinkGauge.Throughput.Submission
import LinkGauge.Time.Date
import LinkGauge.Time.Instant
import LinkGauge.Time.Json
import LinkGauge.Time.Span
import LinkGauge.Time.Spelled
import LinkGauge.Time.Timestamp
import LinkGauge.Tool.Rehearsal
import LinkGauge.Tool.Status
import LinkGauge.Tool.Watch
import LinkGauge.Tracing
import LinkGauge.Trial.Basic
import LinkGauge.Trial.Session
import LinkGauge.Url.Basic
import LinkGauge.Url.Domain
import LinkGauge.Url.Host
import LinkGauge.Url.Parse
import LinkGauge.Url.Punycode
import LinkGauge.Url.Setters
import LinkGauge.Web.Content
import LinkGauge.Web.Exchange
import LinkGauge.Web.MediaType
import LinkGauge.Web.Message
import LinkGauge.Word
import LinkGauge.Yaml.Fault
import LinkGauge.Yaml.Plain
import LinkGauge.Yaml.Reading
import LinkGauge.Yaml.Scalar
import LinkGauge.Yaml.Token
import LinkGauge.Main
import LinkGauge.Proofs.Text.Utf8
import LinkGauge.Proofs.Text.Utf16
import LinkGauge.Service.Exchange
import LinkGauge.Proofs.Answers
import LinkGauge.Proofs.Text.Percent
import LinkGauge.Proofs.Url.Segments
import LinkGauge.Proofs.Url.Slashes
import LinkGauge.Proofs.Delivery.Addresses
import LinkGauge.Proofs.Decimal.Shortest
import LinkGauge.Proofs.Decimal.Doubles
import LinkGauge.Proofs.Json.Numbers
import LinkGauge.Proofs.Json.Strings
import LinkGauge.Proofs.Document.Layouts
import LinkGauge.Proofs.Document.Parts
import LinkGauge.Proofs.Json.Rendering
import LinkGauge.Proofs.Json.Texts
import LinkGauge.Proofs.Document.Shapes
import LinkGauge.Proofs.Document.Acceptance
import LinkGauge.Proofs.Document.Paths
import LinkGauge.Proofs.Time.Calendar
import LinkGauge.Proofs.Time.Timestamps
import LinkGauge.Proofs.Measurement.Questions
import LinkGauge.Proofs.Throughput.Rounds
import LinkGauge.Proofs.Daemon.Records
import LinkGauge.Proofs.Delivery.Documents
import LinkGauge.Proofs.Delivery.Replies
import LinkGauge.Proofs.Delivery.Simulation
import LinkGauge.Proofs.Service.Admission
import LinkGauge.Proofs.Throughput.Coherence
import LinkGauge.Proofs.Service.Writes
import LinkGauge.Proofs.Daemon.Shutdown
import LinkGauge.Proofs.Web.Contents
import LinkGauge.Proofs.Web.Pursuits
import LinkGauge.Proofs.Delivery.Posts
import LinkGauge.Proofs.Delivery.StoredTests
import LinkGauge.Proofs.Service.Replays
import LinkGauge.Proofs.Settings.Acceptance
import LinkGauge.Proofs.Measurement.Occasions
import LinkGauge.Proofs.Throughput.Lengths
import LinkGauge.Proofs.Measurement.Aborts
import LinkGauge.Proofs.Throughput.SingleHosts
import LinkGauge.Proofs.Tool.Watches
import LinkGauge.Proofs.Throughput.Outputs
import LinkGauge.Proofs.Speed.Outputs
import LinkGauge.Proofs.Json.FiniteNumbers
import LinkGauge.Proofs.Document.Replacements
import LinkGauge.Proofs.Speed.Storable
import LinkGauge.Proofs.Speed.Servers
import LinkGauge.Proofs.Text.Blanks
import LinkGauge.Proofs.Service.HostBodies
import LinkGauge.Proofs.Document.Trees
import LinkGauge.Proofs.Environment.Places
import LinkGauge.Proofs.Settings.Decoding
import LinkGauge.Proofs.Settings.Sources
import LinkGauge.Proofs.Speed.Runs
import LinkGauge.Proofs.Host.Selection
import LinkGauge.Proofs.Trial.Verdicts
import LinkGauge.Proofs.Time.Spans
import LinkGauge.Proofs.Settings.Documents
import LinkGauge.Proofs.Service.Discretion
