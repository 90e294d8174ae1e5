import PagedQuery.Action
import PagedQuery.Adapter
import PagedQuery.Catalog
import PagedQuery.Cell
import PagedQuery.Checksum.Crc32
import PagedQuery.Codec.Config
import PagedQuery.Codec.Query
import PagedQuery.Codec.Table
import PagedQuery.Column
import PagedQuery.CommandLine.Arguments
import PagedQuery.CommandLine.Directory
import PagedQuery.CommandLine.Run
import PagedQuery.CommandLine.Variable
import PagedQuery.Config
import PagedQuery.Decimal.Binary64
import PagedQuery.Decimal.Digits
import PagedQuery.Decimal.Layout
import PagedQuery.Decimal.Reader
import PagedQuery.Decimal.Shortest
import PagedQuery.Dialect.Basic
import PagedQuery.Dialect.Product
import PagedQuery.Dialect.Registry
import PagedQuery.Dialect.Resolver
import PagedQuery.Failure
import PagedQuery.Json.Printer
import PagedQuery.Json.Reader
import PagedQuery.Json.Record
import PagedQuery.Json.Value
import PagedQuery.Literal
import PagedQuery.Main
import PagedQuery.Materialize
import PagedQuery.NativeType
import PagedQuery.PageInfo
import PagedQuery.Pager
import PagedQuery.Rehearsal.Event
import PagedQuery.Rehearsal.Source
import PagedQuery.Report.Basic
import PagedQuery.Report.Csv
import PagedQuery.Report.Grid
import PagedQuery.Request
import PagedQuery.Script.Basic
import PagedQuery.Script.Splice
import PagedQuery.Script.Token
import PagedQuery.Select
import PagedQuery.Source.Basic
import PagedQuery.Table
import PagedQuery.Text.Blank
import PagedQuery.Text.CaseMap
import PagedQuery.Text.CaseTable
import PagedQuery.Text.DecimalDigit
import PagedQuery.Text.DisplayWidth
import PagedQuery.Text.EmojiTable
import PagedQuery.Text.QuotedForm
import PagedQuery.Text.Ranges
import PagedQuery.Text.WidthTable
import PagedQuery.Timestamp
import PagedQuery.ValueType
import PagedQuery.Proofs.Action
import PagedQuery.Proofs.Source.Walk
import PagedQuery.Proofs.Rehearsal.Answers
import PagedQuery.Proofs.Paging.Emulated
import PagedQuery.Proofs.Dialect.Sharing
import PagedQuery.Proofs.Paging.Agreement
import PagedQuery.Proofs.Script.Cut
import PagedQuery.Proofs.Text.Words
import PagedQuery.Proofs.Decimal.Padded
import PagedQuery.Proofs.Decimal.Value
import PagedQuery.Proofs.Timestamp.Formats
import PagedQuery.Proofs.Timestamp.Reread
import PagedQuery.Proofs.Literal.Numeral
import PagedQuery.Proofs.Script.Value
import PagedQuery.Proofs.Script.Seam
import PagedQuery.Proofs.Script.Wrap
import PagedQuery.Proofs.Adapter.Frame
import PagedQuery.Proofs.Source.Calls
import PagedQuery.Proofs.Source.Watch
import PagedQuery.Proofs.Adapter.Discipline
import PagedQuery.Proofs.Table.Shape
import PagedQuery.Proofs.Json.Number
import PagedQuery.Proofs.Json.Reread
import PagedQuery.Proofs.Codec.Record
import PagedQuery.Proofs.Codec.Table
import PagedQuery.Proofs.Source.Reading
import PagedQuery.Proofs.Adapter.Handover
import PagedQuery.Proofs.Table.ColumnTypes
import PagedQuery.Proofs.Script.Quoting
import PagedQuery.Proofs.Select.Modes
import PagedQuery.Proofs.Select.Conditions
import PagedQuery.Proofs.Script.References
import PagedQuery.Proofs.Source.Capped
import PagedQuery.Proofs.Dialect.Order
import PagedQuery.Proofs.NativeType.Wrapper
import PagedQuery.Proofs.Paging.Refusal
import PagedQuery.Proofs.Paging.ReadFailure
import PagedQuery.Proofs.Script.Key
import PagedQuery.Proofs.Report.Csv
import PagedQuery.Proofs.Report.Entries
import PagedQuery.Proofs.CommandLine.Notation
import PagedQuery.Proofs.CommandLine.Merge
import PagedQuery.Proofs.CommandLine.Types
import PagedQuery.Proofs.Text.UpperCase
import PagedQuery.Proofs.NativeType.Decoration
import PagedQuery.Proofs.Paging.Total
import PagedQuery.Proofs.Dialect.Identity
import PagedQuery.Proofs.Select.Items
import PagedQuery.Proofs.Select.Calls
import PagedQuery.Proofs.Catalog.Keys
import PagedQuery.Proofs.Source.Client
import PagedQuery.Proofs.Script.Progress
import PagedQuery.Proofs.NativeType.Slices
