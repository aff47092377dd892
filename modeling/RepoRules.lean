import RepoRules.CommandLine.Command
import RepoRules.CommandLine.Report
import RepoRules.Decimal.Layout
import RepoRules.Decimal.Shortest
import RepoRules.Decode.Fault
import RepoRules.Decode.Record
import RepoRules.Digest.Base64
import RepoRules.Digest.Hex
import RepoRules.Digest.Sha256
import RepoRules.Failure
import RepoRules.Files.Access
import RepoRules.Files.Path
import RepoRules.Files.Tree
import RepoRules.Json.Reader
import RepoRules.Json.Value
import RepoRules.Json.Writer
import RepoRules.Key.Frame
import RepoRules.Key.Item
import RepoRules.Key.Signing
import RepoRules.Log.Console
import RepoRules.Log.Directive
import RepoRules.Log.Location
import RepoRules.Log.Settings
import RepoRules.Log.Start
import RepoRules.Main
import RepoRules.Metadata.Extract
import RepoRules.Metadata.Headers
import RepoRules.Metadata.Markup
import RepoRules.Net.Domain
import RepoRules.Net.DomainTable
import RepoRules.Net.Host
import RepoRules.Net.Percent
import RepoRules.Net.Punycode
import RepoRules.Net.SocketAddress
import RepoRules.Net.Url
import RepoRules.OrderedMap
import RepoRules.Pattern.CharSet
import RepoRules.Pattern.Parser
import RepoRules.Pattern.Program
import RepoRules.Pattern.Property
import RepoRules.Pattern.Search
import RepoRules.Pattern.Size
import RepoRules.Pattern.Syntax
import RepoRules.Pattern.Utf8
import RepoRules.Proofs.CommandLine.ChangedFiles
import RepoRules.Proofs.Decimal.NearestDouble
import RepoRules.Proofs.Decode.Records
import RepoRules.Proofs.Digest.Hex
import RepoRules.Proofs.Files.Places
import RepoRules.Proofs.Json.Names
import RepoRules.Proofs.Log.Location
import RepoRules.Proofs.Metadata.Blocks
import RepoRules.Proofs.Metadata.Extraction
import RepoRules.Proofs.Metadata.LineEnds
import RepoRules.Proofs.Metadata.Precedence
import RepoRules.Proofs.Net.Percent
import RepoRules.Proofs.Net.PlainPath
import RepoRules.Proofs.Net.Segments
import RepoRules.Proofs.Query.Snapshots
import RepoRules.Proofs.Repository.Repetition
import RepoRules.Proofs.Repository.Replay
import RepoRules.Proofs.Repository.Seeding
import RepoRules.Proofs.Rest.Bases
import RepoRules.Proofs.Rest.FileListing
import RepoRules.Proofs.Rest.LabelRemoval
import RepoRules.Proofs.Rest.MilestoneLookup
import RepoRules.Proofs.Rest.Pages
import RepoRules.Proofs.Rest.TokenHistory
import RepoRules.Proofs.Rules.Acceptance
import RepoRules.Proofs.Rules.Aliases
import RepoRules.Proofs.Rules.Grammar
import RepoRules.Proofs.Rules.Groups
import RepoRules.Proofs.Rules.OwnNames
import RepoRules.Proofs.Rules.Queries
import RepoRules.Proofs.Rules.Reading
import RepoRules.Proofs.Rules.Results
import RepoRules.Proofs.Rules.Substitution
import RepoRules.Proofs.Rules.TableHistory
import RepoRules.Proofs.Rules.Validation
import RepoRules.Proofs.Rules.Variables
import RepoRules.Proofs.Run.Agreement
import RepoRules.Proofs.Run.Batches
import RepoRules.Proofs.Run.Beginning
import RepoRules.Proofs.Run.Clearing
import RepoRules.Proofs.Run.Course
import RepoRules.Proofs.Run.DryRun
import RepoRules.Proofs.Run.EndState
import RepoRules.Proofs.Run.Failures
import RepoRules.Proofs.Run.FilesSteps
import RepoRules.Proofs.Run.Gates
import RepoRules.Proofs.Run.Interpreter
import RepoRules.Proofs.Run.Judgement
import RepoRules.Proofs.Run.Listing
import RepoRules.Proofs.Run.Mending
import RepoRules.Proofs.Run.Milestone
import RepoRules.Proofs.Run.Operations
import RepoRules.Proofs.Run.Planning
import RepoRules.Proofs.Run.PoolHistory
import RepoRules.Proofs.Run.Queries
import RepoRules.Proofs.Run.Replay
import RepoRules.Proofs.Run.Rereading
import RepoRules.Proofs.Run.Rerun
import RepoRules.Proofs.Run.RerunLabel
import RepoRules.Proofs.Run.SetSteps
import RepoRules.Proofs.Run.Spelling
import RepoRules.Proofs.Run.Stages
import RepoRules.Proofs.Run.Standing
import RepoRules.Proofs.Run.Steps
import RepoRules.Proofs.Run.WalkEvents
import RepoRules.Proofs.Settings.File
import RepoRules.Proofs.Settings.Layers
import RepoRules.Proofs.Settings.Variables
import RepoRules.Proofs.Text.Ascii
import RepoRules.Proofs.Text.Case
import RepoRules.Proofs.Text.Folding
import RepoRules.Proofs.Tree.Composition
import RepoRules.Proofs.Tree.Cycles
import RepoRules.Proofs.Tree.Expansion
import RepoRules.Proofs.Tree.Memo
import RepoRules.Proofs.Tree.References
import RepoRules.Proofs.Tree.Tangle
import RepoRules.Proofs.Tree.Visits
import RepoRules.Proofs.Webhook.Deployment
import RepoRules.Proofs.Webhook.Rejection
import RepoRules.Proofs.Webhook.Signature
import RepoRules.Proofs.Webhook.TokenMargin
import RepoRules.Proofs.Yaml.Keys
import RepoRules.Query.Builtin
import RepoRules.Query.Error
import RepoRules.Query.Eval
import RepoRules.Query.Memory
import RepoRules.Query.Operator
import RepoRules.Query.Parser
import RepoRules.Query.Syntax
import RepoRules.Query.Token
import RepoRules.Query.Value
import RepoRules.Repository.Call
import RepoRules.Repository.Item
import RepoRules.Repository.Offline
import RepoRules.Repository.Ref
import RepoRules.Rest.Api
import RepoRules.Rest.App
import RepoRules.Rest.AppKey
import RepoRules.Rest.Exchange
import RepoRules.Rest.Token
import RepoRules.Rules.Condition
import RepoRules.Rules.Document
import RepoRules.Rules.Error
import RepoRules.Rules.EventKind
import RepoRules.Rules.Resolution
import RepoRules.Rules.Step
import RepoRules.Rules.Tree
import RepoRules.Rules.Variables
import RepoRules.Run.Context
import RepoRules.Run.Delivery
import RepoRules.Run.Effect
import RepoRules.Run.Judgement
import RepoRules.Run.Operation
import RepoRules.Run.Pool
import RepoRules.Run.Rerun
import RepoRules.Run.Walk
import RepoRules.Settings.Basic
import RepoRules.Settings.Check
import RepoRules.Settings.Load
import RepoRules.Text.Age
import RepoRules.Text.Ascii
import RepoRules.Text.Blank
import RepoRules.Text.Break
import RepoRules.Text.Category
import RepoRules.Text.Digit
import RepoRules.Text.Fold
import RepoRules.Text.Heading
import RepoRules.Text.Joining
import RepoRules.Text.LineEnds
import RepoRules.Text.Lower
import RepoRules.Text.Normal
import RepoRules.Text.Pieces
import RepoRules.Text.Property
import RepoRules.Text.Quoted
import RepoRules.Text.Script
import RepoRules.Text.Shift
import RepoRules.Text.Spans
import RepoRules.Text.Upper
import RepoRules.Time.Instant
import RepoRules.Toml.Document
import RepoRules.Toml.Scalar
import RepoRules.Toml.Value
import RepoRules.Webhook.Deployment
import RepoRules.Webhook.Rejection
import RepoRules.Webhook.Request
import RepoRules.Webhook.Service
import RepoRules.Webhook.Signature
import RepoRules.Yaml.Cursor
import RepoRules.Yaml.Decode
import RepoRules.Yaml.Node
import RepoRules.Yaml.Plain
import RepoRules.Yaml.Scalar
import RepoRules.Yaml.Token
