import TableIndex.Cache
import TableIndex.Cluster.Basic
import TableIndex.Cluster.Perform
import TableIndex.Collection.Config
import TableIndex.Collection.Provision
import TableIndex.CommandLine.Arguments
import TableIndex.CommandLine.Command
import TableIndex.CommandLine.Run
import TableIndex.Document.Basic
import TableIndex.Document.Reader
import TableIndex.Document.Write
import TableIndex.ErrorCode
import TableIndex.Field
import TableIndex.Field.Properties
import TableIndex.Gateway.Call
import TableIndex.Gateway.Error
import TableIndex.Gateway.Response
import TableIndex.Http.Answer
import TableIndex.Http.Client
import TableIndex.Http.Options
import TableIndex.Http.Web
import TableIndex.Json.Basic
import TableIndex.Json.Form
import TableIndex.Json.Printer
import TableIndex.Json.Reader
import TableIndex.Json.Record
import TableIndex.Log.Directive
import TableIndex.Log.Filter
import TableIndex.Log.Level
import TableIndex.Log.Pattern
import TableIndex.Main
import TableIndex.Map.Keyed
import TableIndex.Map.Sorted
import TableIndex.Naming
import TableIndex.Number.Binary64
import TableIndex.Number.Decimal
import TableIndex.Number.Shortest
import TableIndex.Proofs.Cluster.Consistent
import TableIndex.Proofs.Cluster.Documents
import TableIndex.Proofs.Cluster.Handles
import TableIndex.Proofs.Cluster.Isolation
import TableIndex.Proofs.Cluster.Perform
import TableIndex.Proofs.Cluster.Programs
import TableIndex.Proofs.Cluster.Provision
import TableIndex.Proofs.Cluster.Recovery
import TableIndex.Proofs.Cluster.Repetition
import TableIndex.Proofs.Cluster.Tidy
import TableIndex.Proofs.Cluster.Whole
import TableIndex.Proofs.Effect
import TableIndex.Proofs.Field.Properties
import TableIndex.Proofs.Field.Reading
import TableIndex.Proofs.Gateway.FailStop
import TableIndex.Proofs.Gateway.Failure
import TableIndex.Proofs.Gateway.Programs
import TableIndex.Proofs.Gateway.Trace
import TableIndex.Proofs.Map.Keyed
import TableIndex.Proofs.Map.Sorted
import TableIndex.Proofs.Schema.Atomic
import TableIndex.Proofs.Schema.Declaration
import TableIndex.Proofs.Schema.Entries
import TableIndex.Proofs.Schema.Exchange
import TableIndex.Proofs.Schema.Plan
import TableIndex.Proofs.Schema.Read
import TableIndex.Proofs.Schema.Reconcile
import TableIndex.Proofs.Schema.Text
import TableIndex.Proofs.Service.Calls
import TableIndex.Proofs.Service.Coherence
import TableIndex.Proofs.Service.Connected
import TableIndex.Proofs.Service.Deletion
import TableIndex.Proofs.Service.Documents
import TableIndex.Proofs.Service.Drift
import TableIndex.Proofs.Service.Existence
import TableIndex.Proofs.Service.FailStop
import TableIndex.Proofs.Service.Failure
import TableIndex.Proofs.Service.Handle
import TableIndex.Proofs.Service.Isolation
import TableIndex.Proofs.Service.Memory
import TableIndex.Proofs.Service.Partial
import TableIndex.Proofs.Service.Protection
import TableIndex.Proofs.Service.Recorded
import TableIndex.Proofs.Service.Repetition
import TableIndex.Proofs.Service.Retry
import TableIndex.Proofs.Service.Run
import TableIndex.Proofs.Service.Transparency
import TableIndex.Proofs.Service.View
import TableIndex.Proofs.Settings.Load
import TableIndex.Proofs.Settings.Variable
import TableIndex.Proofs.Text.Cutting
import TableIndex.Schema.Basic
import TableIndex.Schema.Reconcile
import TableIndex.Schema.Text
import TableIndex.Schema.Update
import TableIndex.Service.Basic
import TableIndex.Service.Http
import TableIndex.Service.Watched
import TableIndex.Settings.Config
import TableIndex.Settings.Extract
import TableIndex.Settings.Load
import TableIndex.Settings.Plain
import TableIndex.Settings.Value
import TableIndex.Settings.Variable
import TableIndex.Settings.Written
import TableIndex.Text.Alphanumeric
import TableIndex.Text.Blank
import TableIndex.Text.CombiningClass
import TableIndex.Text.Composition
import TableIndex.Text.Direction
import TableIndex.Text.Hex
import TableIndex.Text.Joining
import TableIndex.Text.Lowercase
import TableIndex.Text.Mark
import TableIndex.Text.Normal
import TableIndex.Text.Ranges
import TableIndex.Text.Uppercase
import TableIndex.Text.Utf8
import TableIndex.Url.Address
import TableIndex.Url.Basic
import TableIndex.Url.Domain
import TableIndex.Url.Domain.Label
import TableIndex.Url.Domain.Mapping
import TableIndex.Url.Encoding
import TableIndex.Url.Parser
import TableIndex.Url.Path
import TableIndex.Url.Punycode
import TableIndex.Url.Relative
import TableIndex.Yaml.Lexer
import TableIndex.Yaml.Node
import TableIndex.Yaml.Reader
import TableIndex.Yaml.Scalar
import TableIndex.Yaml.Source
import TableIndex.Yaml.Tag
import TableIndex.Yaml.Token
import TableIndex.Proofs.Naming
import TableIndex.Proofs.Number.Digits
import TableIndex.Proofs.Schema.Written
import TableIndex.Proofs.Number.Rounding
import TableIndex.Proofs.Number.Shortest
import TableIndex.Proofs.Json.Number
import TableIndex.Proofs.Json.Printed
import TableIndex.Proofs.Schema.Body
import TableIndex.Proofs.Service.Codes
import TableIndex.Proofs.Http.Calls
import TableIndex.Proofs.Http.Failure
import TableIndex.Proofs.Text.Utf8
import TableIndex.Proofs.Url.Encoding
import TableIndex.Proofs.Url.Path
import TableIndex.Proofs.Url.Relative
import TableIndex.Proofs.Url.Parser
import TableIndex.Proofs.Http.Endpoint
import TableIndex.Proofs.Http.Table
