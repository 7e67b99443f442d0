import NeighborBench.Text.Utf8
import NeighborBench.Text.Blank
import NeighborBench.Text.Integer
import NeighborBench.Text.Pictured
import NeighborBench.Text.Quoted
import NeighborBench.Text.Percent
import NeighborBench.Decimal.Shortest
import NeighborBench.Decimal.Literal
import NeighborBench.Single
import NeighborBench.Double
import NeighborBench.Keyed
import NeighborBench.Json.Basic
import NeighborBench.Json.Printer
import NeighborBench.Json.Numeral
import NeighborBench.Json.Tree
import NeighborBench.Sha256
import NeighborBench.Fingerprint
import NeighborBench.Files
import NeighborBench.Dataset.Basic
import NeighborBench.Dataset.Memory
import NeighborBench.Dataset.BigAnn
import NeighborBench.Dataset.Source
import NeighborBench.Search.Basic
import NeighborBench.Step.Status
import NeighborBench.Step.Error
import NeighborBench.Step.Config
import NeighborBench.Measure
import NeighborBench.Step.Lifecycle
import NeighborBench.Registry
import NeighborBench.Engine
import NeighborBench.Recall
import NeighborBench.Query.Parameters
import NeighborBench.Query.Step
import NeighborBench.Report.Statistics
import NeighborBench.Report.Summary
import NeighborBench.Report.Basic
import NeighborBench.Yaml.Fault
import NeighborBench.Yaml.Glyph
import NeighborBench.Yaml.Plain
import NeighborBench.Yaml.Quoted
import NeighborBench.Yaml.Block
import NeighborBench.Yaml.Property
import NeighborBench.Yaml.Directive
import NeighborBench.Yaml.Token
import NeighborBench.Yaml.Lexer
import NeighborBench.Decimal.Written
import NeighborBench.Yaml.Node
import NeighborBench.Yaml.Document
import NeighborBench.Yaml.Scalar
import NeighborBench.Yaml.Value
import NeighborBench.Environment
import NeighborBench.Plan.Error
import NeighborBench.Plan.Basic
import NeighborBench.Plan.File
import NeighborBench.Plan.Run
import NeighborBench.Search.Host
import NeighborBench.Search.Url
import NeighborBench.Search.Reply
import NeighborBench.Search.HttpClient
import NeighborBench.EnvFile
import NeighborBench.CommandLine
import NeighborBench.Search.HttpMessage
import NeighborBench.Report.Stamp
import NeighborBench.Main
import NeighborBench.Proofs.Config.Effective
import NeighborBench.Proofs.Dataset.BigAnn
import NeighborBench.Proofs.Query.Action
import NeighborBench.Proofs.Query.Independence
import NeighborBench.Proofs.Recall.Definition
import NeighborBench.Proofs.Plan.Whole
import NeighborBench.Proofs.Plan.Configuration
import NeighborBench.Proofs.Step.Lifecycle
import NeighborBench.Proofs.Dataset.Watched
import NeighborBench.Proofs.Dataset.Cursor
import NeighborBench.Proofs.Dataset.Limit
import NeighborBench.Proofs.Query.Effects
import NeighborBench.Proofs.Config.Fingerprint
import NeighborBench.Proofs.Report.Aggregation
import NeighborBench.Proofs.Report.Order
import NeighborBench.Proofs.Text.Integer
import NeighborBench.Proofs.Plan.Connection
import NeighborBench.Proofs.Dataset.Format
import NeighborBench.Proofs.Dataset.Kinds
import NeighborBench.Proofs.Query.RowKinds
import NeighborBench.Proofs.Query.Measures
import NeighborBench.Proofs.Query.Construction
import NeighborBench.Proofs.Recall.Blocks
import NeighborBench.Proofs.Recall.Repeats
import NeighborBench.Proofs.Report.Percentile
import NeighborBench.Proofs.Engine.Registrations
import NeighborBench.Proofs.Json.Reader
import NeighborBench.Proofs.Json.Record
import NeighborBench.Proofs.Search.Replies
import NeighborBench.Proofs.Step.ResultText
import NeighborBench.Proofs.Search.Endpoint
