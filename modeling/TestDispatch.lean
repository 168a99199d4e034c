import TestDispatch.ApiError
import TestDispatch.Classify.Options
import TestDispatch.Classify.TagIndex
import TestDispatch.Cli.Command
import TestDispatch.Cli.Flag
import TestDispatch.Cli.Output
import TestDispatch.Cli.Run
import TestDispatch.Dispatch.Consumer
import TestDispatch.Dispatch.Publisher
import TestDispatch.Config
import TestDispatch.Coordinator.Dispatch
import TestDispatch.Coordinator.Session
import TestDispatch.Executor.Command
import TestDispatch.Executor.Workspace
import TestDispatch.Http.Message
import TestDispatch.Json.Decode
import TestDispatch.Json.Member
import TestDispatch.Json.Reader
import TestDispatch.Json.Value
import TestDispatch.Json.Writer
import TestDispatch.Lock.Backend
import TestDispatch.Lock.Http
import TestDispatch.Lock.Redis
import TestDispatch.Lock.Service
import TestDispatch.Lock.Session
import TestDispatch.LockServer.Handler
import TestDispatch.LockServer.Requests
import TestDispatch.Logging.Handler
import TestDispatch.Logging.Level
import TestDispatch.Main
import TestDispatch.Metrics.Counter
import TestDispatch.Network
import TestDispatch.Plan
import TestDispatch.Report.Database
import TestDispatch.Reporting.Recorder
import TestDispatch.Reporting.Rpc
import TestDispatch.Reporting.Server
import TestDispatch.Reporting.Client
import TestDispatch.Shell.Arith
import TestDispatch.Shell.Builtins
import TestDispatch.Shell.Fields
import TestDispatch.Shell.Lexer
import TestDispatch.Shell.Parser
import TestDispatch.Shell.Run
import TestDispatch.Shell.State
import TestDispatch.Shell.Syntax
import TestDispatch.Store
import TestDispatch.Table
import TestDispatch.Target
import TestDispatch.TestRecord
import TestDispatch.TestResult
import TestDispatch.Text.Base64
import TestDispatch.Text.Binary64
import TestDispatch.Text.ByteOrder
import TestDispatch.Text.Csv
import TestDispatch.Text.Decimal
import TestDispatch.Text.Duration
import TestDispatch.Text.Integer
import TestDispatch.Text.Quoted
import TestDispatch.Text.Utf8
import TestDispatch.Text.Width
import TestDispatch.Text.Wrap
import TestDispatch.Ticket.Codec
import TestDispatch.Ticket.Schema
import TestDispatch.Time.Instant
import TestDispatch.Time.Layout
import TestDispatch.Tracker.Client
import TestDispatch.Universe
import TestDispatch.Universe.Snapshot
import TestDispatch.WorkItem
import TestDispatch.WorkQueue
import TestDispatch.Worker.Handle
import TestDispatch.Yaml.Decode
import TestDispatch.Yaml.Node
import TestDispatch.Yaml.Parse
import TestDispatch.Yaml.Resolve
import TestDispatch.Yaml.Token
import TestDispatch.Yaml.Token.Lexer
import TestDispatch.Yaml.Token.Scalar
import TestDispatch.Yaml.Token.Scan
import TestDispatch.Proofs.Text.ByteOrder
import TestDispatch.Proofs.Classify.Index
import TestDispatch.Proofs.Classify.PrimaryTag
import TestDispatch.Proofs.Lock.Program
import TestDispatch.Proofs.Lock.Table
import TestDispatch.Proofs.Lock.Calls
import TestDispatch.Proofs.Lock.Exclusion
import TestDispatch.Proofs.Plan.Build
import TestDispatch.Proofs.Plan.WorkItems
import TestDispatch.Proofs.Text.Utf8
import TestDispatch.Proofs.Json.Roundtrip
import TestDispatch.Proofs.Ticket.Roundtrip
import TestDispatch.Proofs.Lock.Backends
import TestDispatch.Proofs.Lock.Redis
import TestDispatch.Proofs.Lock.Http
import TestDispatch.Proofs.Lock.Agreement
import TestDispatch.Proofs.Plan.Stop
import TestDispatch.Proofs.Plan.Layout
import TestDispatch.Proofs.Plan.Attribution
import TestDispatch.Proofs.LockServer.Access
import TestDispatch.Proofs.Dispatch.Consumer
import TestDispatch.Proofs.Coordinator.Dispatch
import TestDispatch.Proofs.Dispatch.Publisher
import TestDispatch.Proofs.Json.Integers
import TestDispatch.Proofs.Time.Format
import TestDispatch.Proofs.Reporting.Recorder
import TestDispatch.Proofs.Reporting.Call
import TestDispatch.Proofs.WorkQueue.Calls
import TestDispatch.Proofs.Text.OctetOrder
import TestDispatch.Proofs.Store.Statement
import TestDispatch.Proofs.Store.Refinement
import TestDispatch.Proofs.Lock.Sequential
import TestDispatch.Proofs.Reporting.Notifier
import TestDispatch.Proofs.Worker.Handling
import TestDispatch.Proofs.Lock.Sweep
import TestDispatch.Proofs.Json.Literals
import TestDispatch.Proofs.Reporting.Endpoint
import TestDispatch.Proofs.Time.Order
import TestDispatch.Proofs.Report.StoredTime
import TestDispatch.Proofs.Report.Listing
import TestDispatch.Proofs.Ticket.Decode
import TestDispatch.Proofs.Universe.Build
import TestDispatch.Proofs.Executor.Run
import TestDispatch.Proofs.Executor.Paths
import TestDispatch.Worker.RunLoop
import TestDispatch.Proofs.Worker.Shutdown
import TestDispatch.Dispatch.Topic
import TestDispatch.Proofs.Dispatch.Topic
