import Yardstick.Catalog
import Yardstick.Csv.Column
import Yardstick.Csv.Header
import Yardstick.Csv.Printer
import Yardstick.Csv.Reader
import Yardstick.Csv.Row
import Yardstick.Decimal.Binary
import Yardstick.Decimal.Printer
import Yardstick.Decimal.Reader
import Yardstick.Decimal.Shortest
import Yardstick.Dimension
import Yardstick.Failure
import Yardstick.Frame.Basic
import Yardstick.Frame.Conversion
import Yardstick.Frame.Evaluation
import Yardstick.Frame.Inference
import Yardstick.Journal
import Yardstick.Json.Basic
import Yardstick.Json.Printer
import Yardstick.Json.Reader
import Yardstick.Json.Shown
import Yardstick.Label
import Yardstick.Main
import Yardstick.Metric.Basic
import Yardstick.Metric.Build
import Yardstick.Metric.Error
import Yardstick.Metric.Expression
import Yardstick.Metric.Kind
import Yardstick.Metric.Name
import Yardstick.Metric.Request
import Yardstick.Packed.Bits
import Yardstick.Packed.Bzip
import Yardstick.Packed.Checksum
import Yardstick.Packed.Content
import Yardstick.Packed.Deflate
import Yardstick.Packed.Fault
import Yardstick.Packed.Gzip
import Yardstick.Packed.Lzma
import Yardstick.Packed.PrefixCode
import Yardstick.Packed.Tar
import Yardstick.Packed.Xz
import Yardstick.Packed.Zip
import Yardstick.Plan
import Yardstick.Proofs.Catalog.History
import Yardstick.Proofs.Catalog.Merge
import Yardstick.Proofs.Frame.Columns
import Yardstick.Proofs.Frame.Value
import Yardstick.Proofs.Json.Characters
import Yardstick.Proofs.Json.Readback
import Yardstick.Proofs.Metric.ComputedName
import Yardstick.Proofs.Metric.Prefix
import Yardstick.Proofs.Metric.Slug
import Yardstick.Proofs.Outcome
import Yardstick.Proofs.Plan.Order
import Yardstick.Proofs.Plan.Resolved
import Yardstick.Proofs.Plan.Visit
import Yardstick.Proofs.Report.Build
import Yardstick.Proofs.Report.Collisions
import Yardstick.Proofs.Report.Missing
import Yardstick.Proofs.Report.Registry
import Yardstick.Proofs.Report.Reordering
import Yardstick.Proofs.Report.Requests
import Yardstick.Proofs.Report.Taken
import Yardstick.Proofs.Report.Texts
import Yardstick.Proofs.Schema.Record
import Yardstick.Proofs.Session.Records
import Yardstick.Proofs.Session.Work
import Yardstick.Proofs.Store.Write
import Yardstick.Proofs.Text.Lines
import Yardstick.Registry
import Yardstick.Report.Build
import Yardstick.Report.Definition
import Yardstick.Report.Evaluation
import Yardstick.Report.Journaled
import Yardstick.Schema.Basic
import Yardstick.Schema.Catalog
import Yardstick.Schema.Definition
import Yardstick.Schema.Record
import Yardstick.Session.Basic
import Yardstick.Session.Catalogs
import Yardstick.Session.Documents
import Yardstick.Session.Records
import Yardstick.Session.Run
import Yardstick.Settings.Basic
import Yardstick.Settings.EnvFile
import Yardstick.Settings.Environment
import Yardstick.Store.Address
import Yardstick.Store.Basic
import Yardstick.Store.Path
import Yardstick.Table
import Yardstick.Template.Basic
import Yardstick.Template.Filling
import Yardstick.Template.Layout
import Yardstick.Text.Blank
import Yardstick.Text.Case
import Yardstick.Text.Digit
import Yardstick.Text.Lines
import Yardstick.Text.Printable
import Yardstick.Text.Quoted
import Yardstick.Text.Utf8
import Yardstick.Proofs.Report.Repetition
import Yardstick.Proofs.Session.Catalogs
import Yardstick.Proofs.Session.Faults
import Yardstick.Proofs.Csv.Bytes
import Yardstick.Proofs.Csv.Cells
import Yardstick.Proofs.Csv.Header
import Yardstick.Proofs.Csv.Scan
import Yardstick.Proofs.Csv.Readback
import Yardstick.Proofs.Session.Values
import Yardstick.Proofs.Report.Accounting
import Yardstick.Proofs.Session.Positions
import Yardstick.Proofs.Store.Files
import Yardstick.Proofs.Session.Effects
import Yardstick.Proofs.Template.Misuse
import Yardstick.Proofs.Plan.Cycle
import Yardstick.Proofs.Plan.Acceptance
import Yardstick.Proofs.Report.Layout
import Yardstick.Proofs.Json.Fuel
import Yardstick.Proofs.Json.Overlong
import Yardstick.Proofs.Session.Reading
import Yardstick.Proofs.Metric.Runs
import Yardstick.Proofs.Metric.DimensionSlug
import Yardstick.Proofs.Template.Plain
import Yardstick.Proofs.Template.Reports
import Yardstick.Proofs.Metric.English
import Yardstick.Proofs.Schema.Documents
import Yardstick.Proofs.Metric.Overrides
import Yardstick.Proofs.Metric.Validated
import Yardstick.Proofs.Report.Offers
import Yardstick.Proofs.Metric.Placeholder
import Yardstick.Proofs.Metric.LongestPrefix
import Yardstick.Proofs.Metric.Operands
