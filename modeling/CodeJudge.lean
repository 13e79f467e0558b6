import CodeJudge.Bytes
import CodeJudge.Clock
import CodeJudge.CommandLine
import CodeJudge.Config
import CodeJudge.Config.Decode
import CodeJudge.Coordinator.Run
import CodeJudge.Coordinator.Server
import CodeJudge.Coordinator.Stage
import CodeJudge.Coordinator.Submit
import CodeJudge.Directories
import CodeJudge.Dispatch.Remote
import CodeJudge.Dispatch.Rotation
import CodeJudge.Dispatch.Run
import CodeJudge.Files.Fault
import CodeJudge.Files.Path
import CodeJudge.Files.Tree
import CodeJudge.Http.Message
import CodeJudge.Http.Network
import CodeJudge.Http.Percent
import CodeJudge.Http.Url
import CodeJudge.Job
import CodeJudge.Job.Wire
import CodeJudge.Json.Decoder
import CodeJudge.Json.Token
import CodeJudge.Json.Tree
import CodeJudge.Json.Value
import CodeJudge.Language
import CodeJudge.Launch.Serve
import CodeJudge.Launch.Start
import CodeJudge.Launch.World
import CodeJudge.Main
import CodeJudge.Process.Machine
import CodeJudge.Process.Program
import CodeJudge.Proofs.Actions
import CodeJudge.Proofs.Boundary
import CodeJudge.Proofs.Coordinator.Credit
import CodeJudge.Proofs.Coordinator.Effect
import CodeJudge.Proofs.Coordinator.Failure
import CodeJudge.Proofs.Coordinator.Integrity
import CodeJudge.Proofs.Coordinator.Keys
import CodeJudge.Proofs.Coordinator.Restart
import CodeJudge.Proofs.Coordinator.Server
import CodeJudge.Proofs.Coordinator.Solved
import CodeJudge.Proofs.Coordinator.Submit
import CodeJudge.Proofs.Dispatch.Alone
import CodeJudge.Proofs.Dispatch.Balance
import CodeJudge.Proofs.Dispatch.Failover
import CodeJudge.Proofs.Dispatch.Run
import CodeJudge.Proofs.Dispatch.Trace
import CodeJudge.Proofs.Files.Tree
import CodeJudge.Proofs.Http.Percent
import CodeJudge.Proofs.Http.Route
import CodeJudge.Proofs.Pipeline
import CodeJudge.Proofs.Registry.Accounting
import CodeJudge.Proofs.Registry.History
import CodeJudge.Proofs.Registry.Leaving
import CodeJudge.Proofs.Registry.Names
import CodeJudge.Proofs.Registry.Pruning
import CodeJudge.Proofs.Registry.Renewal
import CodeJudge.Proofs.Resolver.Clock
import CodeJudge.Proofs.Resolver.Comparison
import CodeJudge.Proofs.Resolver.Ending
import CodeJudge.Proofs.Resolver.Order
import CodeJudge.Proofs.Resolver.Reference
import CodeJudge.Proofs.Resolver.Settling
import CodeJudge.Proofs.Sandbox.Compile
import CodeJudge.Proofs.Sandbox.Excerpt
import CodeJudge.Proofs.Sandbox.Head
import CodeJudge.Proofs.Sandbox.Marks
import CodeJudge.Proofs.Sandbox.Outcome
import CodeJudge.Proofs.Sandbox.Source
import CodeJudge.Proofs.Sandbox.Toolchains
import CodeJudge.Proofs.Sandbox.Workplace
import CodeJudge.Proofs.Store.Transaction
import CodeJudge.Proofs.Text.Substitution
import CodeJudge.Proofs.Worker.Answer
import CodeJudge.Registry.Announcer
import CodeJudge.Registry.Client
import CodeJudge.Registry.Instance
import CodeJudge.Registry.Lease
import CodeJudge.Registry.Server
import CodeJudge.Resolver.Machine
import CodeJudge.Resolver.Timed
import CodeJudge.Sandbox.Case
import CodeJudge.Sandbox.Compile
import CodeJudge.Sandbox.Execute
import CodeJudge.Sandbox.Host
import CodeJudge.Sandbox.Memory
import CodeJudge.Sandbox.Toolchain
import CodeJudge.Shell.Arithmetic
import CodeJudge.Shell.Builtin
import CodeJudge.Shell.Child
import CodeJudge.Shell.Command
import CodeJudge.Shell.Condition
import CodeJudge.Shell.Extent
import CodeJudge.Shell.Format
import CodeJudge.Shell.Host
import CodeJudge.Shell.Interpreter
import CodeJudge.Shell.Octets
import CodeJudge.Shell.Parser
import CodeJudge.Shell.Pattern
import CodeJudge.Shell.Real
import CodeJudge.Shell.Regex
import CodeJudge.Shell.Search
import CodeJudge.Shell.State
import CodeJudge.Shell.Token
import CodeJudge.Shell.Tool
import CodeJudge.Shell.Tool.Edit
import CodeJudge.Shell.Tool.Expression
import CodeJudge.Shell.Tool.Files
import CodeJudge.Shell.Tool.Lines
import CodeJudge.Shell.Tool.Passage
import CodeJudge.Shell.Tool.Small
import CodeJudge.Shell.Tool.Table
import CodeJudge.Store.Database
import CodeJudge.Store.Fault
import CodeJudge.Store.Seed
import CodeJudge.Store.Table
import CodeJudge.Submission
import CodeJudge.Text.Blank
import CodeJudge.Text.Cut
import CodeJudge.Text.Decimal
import CodeJudge.Text.Substitution
import CodeJudge.Text.Utf8
import CodeJudge.Timestamp
import CodeJudge.Verdict
import CodeJudge.Worker.Bench
import CodeJudge.Worker.Judge
import CodeJudge.Worker.Server
