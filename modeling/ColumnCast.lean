import ColumnCast.Main
import ColumnCast.Proofs.Cast.Agreement
import ColumnCast.Proofs.Cast.Cascade
import ColumnCast.Proofs.Cast.Display
import ColumnCast.Proofs.Cast.Duration
import ColumnCast.Proofs.Cast.Number
import ColumnCast.Proofs.Cast.Quotation
import ColumnCast.Proofs.Cast.Refusal
import ColumnCast.Proofs.Cast.Relevance
import ColumnCast.Proofs.Format.Combined
import ColumnCast.Proofs.Temporal.Reading
import ColumnCast.Value.Json
import ColumnCast.Proofs.Plan
import ColumnCast.Proofs.Temporal.Permutation
import ColumnCast.Proofs.Cast.Numeric
import ColumnCast.Proofs.Catalog.Order
import ColumnCast.Proofs.Catalog.Tokens
import ColumnCast.Proofs.Catalog.Yaml
import ColumnCast.Proofs.Cast.Bounds
import ColumnCast.Proofs.Numeral.Sentinel
import ColumnCast.Proofs.Numeral.Canonical
import ColumnCast.Proofs.Temporal.Clock
import ColumnCast.Proofs.Cast.Selection
import ColumnCast.Proofs.Table
import ColumnCast.Proofs.Cli.ByName
import ColumnCast.Proofs.Cli.RowLimit
import ColumnCast.Proofs.Cli.Failure
import ColumnCast.Proofs.Encoding
import ColumnCast.Proofs.Calendar.Halves
import ColumnCast.Proofs.Calendar.Strftime
