import TraceText.Calendar
import TraceText.CommandLine.Buffered
import TraceText.CommandLine.Options
import TraceText.CommandLine.Run
import TraceText.Configuration
import TraceText.DatePattern.Basic
import TraceText.DatePattern.Field
import TraceText.Decimal.Basic
import TraceText.Decimal.Binary64
import TraceText.Decimal.Shortest
import TraceText.Duration
import TraceText.FileTree
import TraceText.Instant.Basic
import TraceText.Instant.Freeform
import TraceText.Instant.Layout
import TraceText.Instant.Rfc2822
import TraceText.Instant.Rfc3339
import TraceText.IoError
import TraceText.Json.Reader
import TraceText.Json.Value
import TraceText.Main
import TraceText.Pipeline.Arrival
import TraceText.Pipeline.Basic
import TraceText.Pipeline.Sink
import TraceText.Proofs.Calendar
import TraceText.Proofs.CommandLine.Directory
import TraceText.Proofs.CommandLine.Outcome
import TraceText.Proofs.CommandLine.Sources
import TraceText.Proofs.CommandLine.Written
import TraceText.Proofs.Decimal
import TraceText.Proofs.FileSelection
import TraceText.Proofs.Instant.ReadBack
import TraceText.Proofs.Json.Distinct
import TraceText.Proofs.Json.Integer
import TraceText.Proofs.Json.Place
import TraceText.Proofs.Pipeline.BadLine
import TraceText.Proofs.Pipeline.BoundedOutput
import TraceText.Proofs.Pipeline.Call
import TraceText.Proofs.Pipeline.Closing
import TraceText.Proofs.Pipeline.Demand
import TraceText.Proofs.Pipeline.Ending
import TraceText.Proofs.Pipeline.FaultyLine
import TraceText.Proofs.Pipeline.FirstFault
import TraceText.Proofs.Pipeline.JoinedFiles
import TraceText.Proofs.Pipeline.LineByLine
import TraceText.Proofs.Pipeline.Position
import TraceText.Proofs.Pipeline.Producers
import TraceText.Proofs.Pipeline.Relabeling
import TraceText.Proofs.Pipeline.Splitting
import TraceText.Proofs.Pipeline.Tally
import TraceText.Proofs.Pipeline.TextInput
import TraceText.Proofs.Pipeline.Use
import TraceText.Proofs.Pipeline.Verdict
import TraceText.Proofs.Pipeline.WindowFilter
import TraceText.Proofs.Record.Decoding
import TraceText.Proofs.Record.OneLine
import TraceText.Proofs.Record.Times
import TraceText.Proofs.Record.Scalar
import TraceText.Proofs.Router.Precedence
import TraceText.Proofs.Template.Addressing
import TraceText.Proofs.Template.Canonical
import TraceText.Proofs.Template.Concatenation
import TraceText.Proofs.Template.Grammar
import TraceText.Proofs.Template.LastSegments
import TraceText.Proofs.Template.Marker
import TraceText.Proofs.Template.Remaining
import TraceText.Proofs.Template.Substitution
import TraceText.Proofs.Template.Presence
import TraceText.Proofs.Template.Misapplied
import TraceText.Proofs.Text.Pieces
import TraceText.Proofs.Text.Utf8
import TraceText.Proofs.Traversal
import TraceText.Proofs.Tree
import TraceText.Record.Basic
import TraceText.Record.Decode
import TraceText.Record.Print
import TraceText.Router
import TraceText.Template.Basic
import TraceText.Template.Marker
import TraceText.Template.Parameter
import TraceText.Template.Render
import TraceText.Template.Resolve
import TraceText.Text.Basic
import TraceText.Text.Blank
import TraceText.Text.Case
import TraceText.Text.CaseTable
import TraceText.Text.PrintableTable
import TraceText.Text.Quoted
import TraceText.Text.Shape
import TraceText.Text.Utf8
import TraceText.Window
import TraceText.Yaml.Cursor
import TraceText.Yaml.Document
import TraceText.Yaml.Node
import TraceText.Yaml.Scalar
import TraceText.Yaml.Token
import TraceText.Yaml.TokenStream
import TraceText.Proofs.Instant.Timeline
import TraceText.Proofs.Instant.Order
import TraceText.Proofs.Record.TickClock
import TraceText.Proofs.Record.TickOrder
import TraceText.Proofs.DatePattern.Pieces
import TraceText.Proofs.DatePattern.Quoting
import TraceText.Proofs.DatePattern.ReadBack
import TraceText.Proofs.Record.ShortName
import TraceText.Proofs.Pipeline.Layout
import TraceText.Proofs.Pipeline.ReadFailure
import TraceText.Proofs.Record.WellFormed
import TraceText.Proofs.Record.IgnoredMembers
import TraceText.Proofs.Router.Configured
import TraceText.Proofs.Window
import TraceText.Proofs.Record.Nesting
