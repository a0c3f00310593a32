import ColumnCast.Calendar.Template
import ColumnCast.Catalog

/-!
# `ColumnCast.Temporal`: cells that hold dates, times and durations

A cell is read by the first format of a sequence that recognizes it, and
by no other: if the token of that format then fits no day or no time, the
cell has no value, whatever later formats would make of it. The SQL
counterpart is a cascade with one arm for each format.

A duration is a number of seconds, or else a time, counted from midnight.
-/

set_option autoImplicit false

namespace ColumnCast.Temporal

/-! ### Reading cells -/

/-- The fields of a cell by the first format that recognizes it. -/
def readFields (formats : List Format) (cell : String) : Except CastError (Option Fields) :=
  (Format.firstFor cell formats).map fun found =>
    found.bind fun format => Template.read? (Template.ofToken format.token) cell

/-- The date in a cell. -/
def readDate (catalog : Catalog) (id cell : String) : Except CastError (Option Date) := do
  let formats ← catalog.dateFormats id
  return (← readFields formats cell).bind Fields.date?

/-- The date and time in a cell. -/
def readDateTime (catalog : Catalog) (id cell : String) : Except CastError (Option DateTime) := do
  let formats ← catalog.dateTimeFormats id
  return (← readFields formats cell).bind Fields.dateTime?

/-- The time in a cell. -/
def readTime (catalog : Catalog) (cell : String) : Except CastError (Option TimeOfDay) := do
  return (← readFields catalog.times cell).bind Fields.time?

/-- The expression of a number of seconds, fractions allowed. -/
def secondsPattern : String := "[0-9]+(\\.[0-9]+)?"

/-- Is the cell a number of seconds? These are the cells that `secondsPattern` matches. -/
def isSeconds (cell : List Char) : Bool :=
  let rest := cell.dropWhile Char.isDigit
  (cell.head?.any Char.isDigit)
    && match rest with
      | [] => true
      | c :: fraction => c == '.' && !fraction.isEmpty && fraction.all Char.isDigit

/-- The seconds in a cell. -/
def readDuration (catalog : Catalog) (cell : String) : Except CastError (Option Decimal) :=
  -- A plain number is one of seconds, even where a time format recognizes it too.
  if isSeconds cell.toList then .ok (Decimal.read? cell.toList)
  else (readTime catalog cell).map fun time => time.map TimeOfDay.sinceMidnight

/-! ### The SQL counterpart -/

/-- A cascade with an arm for each format: what `value` makes of its token. -/
def arms (source : Sql.Expr) (value : String → Sql.Expr) (formats : List Format) :
    List (Sql.Expr × Sql.Expr) :=
  formats.map fun format => (.recognized source format.pattern, value format.token)

/-- The SQL expression for the date in a source. -/
def castDate (catalog : Catalog) (id : String) (source : Sql.Expr) : Except CastError Sql.Expr :=
  (catalog.dateFormats id).map fun formats =>
    .cascade (arms source (fun token => .toDate source token) formats)

/-- The SQL expression for the date and time in a source. -/
def castDateTime (catalog : Catalog) (id : String) (source : Sql.Expr) :
    Except CastError Sql.Expr :=
  (catalog.dateTimeFormats id).map fun formats =>
    .cascade (arms source (fun token => .toTimestamp source token) formats)

/-- The SQL expression for a time in the layout of a token. -/
def timeOf (source : Sql.Expr) (token : String) : Sql.Expr :=
  .cast (.toTimestamp source token) .time

/-- The SQL expression for the time in a source. -/
def castTime (catalog : Catalog) (source : Sql.Expr) : Sql.Expr :=
  .cascade (arms source (timeOf source) catalog.times)

/-- The SQL expression for the seconds in a source. -/
def castDuration (catalog : Catalog) (source : Sql.Expr) : Sql.Expr :=
  .cascade
    ((.recognized source secondsPattern, .cast source .decimal)
      :: arms source (fun token => .epoch (timeOf source token)) catalog.times)

end ColumnCast.Temporal
