import ColumnCast.Decimal.Text
import ColumnCast.Sql

/-!
# `ColumnCast.Numeral`: the number in a cell

A numeric cell may hold anything around its digits. What counts is
`Written.ofCell`: all ASCII digits in order, split in two where the first
point stands that follows a digit. Every other point and every other
character is dropped, so `$1,299.99` writes 1299.99 and `1.234.56` writes
1.23456.

The digits are read as a `Decimal` where they fit, and kept as text where
they do not. The SQL counterpart, `extract`, does the same by four
replacements and casts the result.
-/

set_option autoImplicit false

namespace ColumnCast

/-- The digits of a cell before and after its separator. -/
structure Written where
  whole : List Char
  fraction : List Char
  deriving DecidableEq, Repr

namespace Written

/-- Is the character one that a numeral is written with? -/
def isKept (c : Char) : Bool := c.isDigit || c == '.'

/-- The digits of a cell. -/
def ofCell (cell : String) : Written :=
  let kept := (cell.toList.filter isKept).dropWhile (· == '.')
  ⟨kept.takeWhile Char.isDigit, (kept.dropWhile Char.isDigit).filter Char.isDigit⟩

/-- The digits as one numeral, with a point if digits follow it. -/
def text (w : Written) : List Char :=
  if w.fraction.isEmpty then w.whole else w.whole ++ '.' :: w.fraction

/-- The numeral without zeros that say nothing. -/
def canonical (w : Written) : List Char :=
  let whole := w.whole.dropWhile (· == '0')
  let fraction := (w.fraction.reverse.dropWhile (· == '0')).reverse
  text ⟨if whole.isEmpty then ['0'] else whole, fraction⟩

end Written

/-- The number of a cell. -/
inductive Numeral
  /-- A number that a decimal holds, without zeros that say nothing. -/
  | exact (value : Decimal)
  /-- The canonical digits of a number too large for a decimal. -/
  | wide (digits : String)
  deriving DecidableEq

namespace Numeral

/-- The number of a cell; none if the cell has no digit. -/
def ofCell? (cell : String) : Option Numeral :=
  let written := Written.ofCell cell
  if written.whole.isEmpty then none
  else
    match Decimal.read? written.text with
    | some value => some (exact value.normalize)
    | none => some (wide (String.ofList written.canonical))

/-- The number as a decimal, if one holds it. -/
def decimal? : Numeral → Option Decimal
  | exact value => some value
  | wide _ => none

/-- The number as a decimal. A number too large for one counts as `limit`:
numerals carry no sign, so it lies above every bound. -/
def saturate (limit : Int64) : Numeral → Decimal
  | exact value => value
  | wide _ => Decimal.ofInt64 limit

/-- The number of a cell, if a decimal holds it. -/
def decimalOfCell? (cell : String) : Option Decimal := (ofCell? cell).bind decimal?

/-! ### Bounds -/

/-- The value, or the bound it lies beyond. -/
def clamp (value : Decimal) (low high : Int64) : Decimal :=
  (value.max (Decimal.ofInt64 low)).min (Decimal.ofInt64 high)

/-- One less, but never below the least word. -/
def below (bound : Int64) : Int64 := if bound = Int64.minValue then bound else bound - 1

/-- One more, but never above the greatest word. -/
def above (bound : Int64) : Int64 := if bound = Int64.maxValue then bound else bound + 1

/-- The value clamped to the bounds; none if it stands exactly one beside them. -/
def bounded? (value : Decimal) (low high : Int64) : Option Decimal :=
  if value.same (Decimal.ofInt64 (below low)) || value.same (Decimal.ofInt64 (above high)) then
    none
  else some (clamp value low high)

/-! ### The SQL counterpart -/

/-- Whatever is neither a digit nor a point. -/
def noisePattern : String := "[^0-9.]"

/-- A point that follows a digit. -/
def separatorPattern : String := "([0-9])\\."

/-- Stands for the separator while the other points are removed; no cell can hold it by
then, because the noise went first. -/
def marker : String := "~"

/-- The SQL expression for the number of a source, `NULL` if it has no digit. -/
def extract (source : Sql.Expr) : Sql.Expr :=
  let digits := Sql.Expr.replace source noisePattern "" .all
  let marked := Sql.Expr.replace digits separatorPattern ("\\1" ++ marker) .first
  let unpointed := Sql.Expr.replace marked "\\." "" .all
  .cast (.nullIfEmpty (.replace unpointed marker "." .first)) .decimal

/-- The SQL expression for a number as `BIGINT`, `NULL` if it rounds out of range. -/
def castBigint (value : Sql.Expr) : Sql.Expr :=
  .withNumber value
    (.arm
      (.roundsWithin .number Int64.minValue.toInt Int64.maxValue.toInt)
      (.cast .number .bigint) .noElse)

/-- The SQL expression for `clamp`. -/
def castClamp (value : Sql.Expr) (low high : Int64) : Sql.Expr :=
  .arm (.isNull value) .null (.saturate value low.toInt high.toInt)

/-- The SQL expression for `bounded?`. -/
def castBounded (value : Sql.Expr) (low high : Int64) : Sql.Expr :=
  .arm
    (.either (.isNull value) (.memberOf value (.numbers [(below low).toInt, (above high).toInt])))
    .null (.saturate value low.toInt high.toInt)

end Numeral

end ColumnCast
