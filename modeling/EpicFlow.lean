import EpicFlow.Text.Blank
import EpicFlow.Text.Basic
import EpicFlow.Text.Path
import EpicFlow.Text.Printable
import EpicFlow.Text.Letters
import EpicFlow.Text.Similarity
import EpicFlow.Decimal.Shortest
import EpicFlow.Decimal.Notation
import EpicFlow.Json.Value
import EpicFlow.Json.Shape
import EpicFlow.Json.Read
import EpicFlow.Json.Typed
import EpicFlow.Rationale
import EpicFlow.Error
import EpicFlow.Stage.Name
import EpicFlow.Run.Signal
import EpicFlow.Stage.Target
import EpicFlow.Stage.Descriptor
import EpicFlow.Stage.Registry
import EpicFlow.Run.Status
import EpicFlow.Run.Record
import EpicFlow.Route
import EpicFlow.Yaml.Token
import EpicFlow.Yaml.Lexer
import EpicFlow.Yaml.Node
import EpicFlow.Yaml.Compose
import EpicFlow.Card.Matter
import EpicFlow.Card.Basic
import EpicFlow.Card.Location
import EpicFlow.Text.Redact
import EpicFlow.Text.Shell
import EpicFlow.Session.Name
import EpicFlow.Worker.Command
import EpicFlow.Stage.Prompt
import EpicFlow.Escalation
import EpicFlow.Settings
import EpicFlow.Settings.File
import EpicFlow.Monitor.Config
import EpicFlow.Pattern
import EpicFlow.Epic.Basic
import EpicFlow.Store
import EpicFlow.Epic.Lifecycle
import EpicFlow.Flow
import EpicFlow.Scripted.Script
import EpicFlow.Worker.Backend
import EpicFlow.Card.Edit
import EpicFlow.Card.Book
import EpicFlow.Scripted.World
import EpicFlow.Session.Book
import EpicFlow.Text.Integer
import EpicFlow.Machine.Files
import EpicFlow.Machine.Basic
import EpicFlow.Machine.Tmux
import EpicFlow.Machine.Tools
import EpicFlow.Tool.Tmux
import EpicFlow.Tool.Container
import EpicFlow.Tool.Worktree
import EpicFlow.Tool.Doctor
import EpicFlow.Conductor.State
import EpicFlow.Card.Reading
import EpicFlow.Card.Transport
import EpicFlow.Monitor.Watch
import EpicFlow.Worker.Replies
import EpicFlow.Worker.Scripted
import EpicFlow.Session.Lifecycle
import EpicFlow.Conductor.Drive
import EpicFlow.Worker.Tmux
import EpicFlow.Epic.Founding
import EpicFlow.Cli.Grammar
import EpicFlow.Cli.Help
import EpicFlow.Cli.Parse
import EpicFlow.Cli.Commands
import EpicFlow.Conductor.Report
import EpicFlow.Conductor.Commands
import EpicFlow.Console.Basic
import EpicFlow.Console.Vocabulary
import EpicFlow.Console.Stages
import EpicFlow.Console.Cards
import EpicFlow.Console.Epics
import EpicFlow.Console.Watch
import EpicFlow.Console.Sessions
import EpicFlow.Console.Rehearsal
import EpicFlow.Console.Aliases
import EpicFlow.Console.Host
import EpicFlow.Console.CommandLine
import EpicFlow.Console.Dispatch
import EpicFlow.Main
import EpicFlow.Proofs.JobLogic
import EpicFlow.Proofs.Runs
import EpicFlow.Proofs.Rows
import EpicFlow.Proofs.Operations
import EpicFlow.Proofs.Conduct
import EpicFlow.Proofs.Reachable
import EpicFlow.Proofs.Quota
import EpicFlow.Proofs.Attempts
import EpicFlow.Proofs.CardReading
import EpicFlow.Proofs.TextLines
import EpicFlow.Proofs.CardText
import EpicFlow.Proofs.FreshCard
import EpicFlow.Proofs.TornCopy
import EpicFlow.Proofs.StageTable
import EpicFlow.Proofs.Leases
import EpicFlow.Proofs.Escalations
import EpicFlow.Proofs.DecisionLog
import EpicFlow.Proofs.Cleanup
import EpicFlow.Proofs.Routing
import EpicFlow.Proofs.Moves
import EpicFlow.Proofs.Polling
import EpicFlow.Proofs.TurnCounts
import EpicFlow.Proofs.ExitUsage
import EpicFlow.Proofs.Answers
import EpicFlow.Proofs.SessionNumbers
import EpicFlow.Proofs.Teardown
import EpicFlow.Proofs.Resumes
import EpicFlow.Proofs.Codecs
import EpicFlow.Proofs.Redaction
import EpicFlow.Proofs.ShellTokens
import EpicFlow.Proofs.Recovery
import EpicFlow.Proofs.FloatOrder
import EpicFlow.Proofs.Ranking
import EpicFlow.Proofs.PatternSearch
import EpicFlow.Proofs.PatternLibrary
import EpicFlow.Proofs.WriteErrors
import EpicFlow.Proofs.TakeOver
import EpicFlow.Proofs.QuietMachine
import EpicFlow.Proofs.AgentStart
