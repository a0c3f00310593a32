import ColumnCast.CastRequest
import ColumnCast.Checkbox
import ColumnCast.Numeral
import ColumnCast.Select
import ColumnCast.Temporal
import ColumnCast.Value

/-!
# `ColumnCast.Cast`: requests carried out

A request is carried out in two ways that agree: `CastRequest.compile`
answers the SQL expression that casts the column in a database, and
`CastRequest.coerce` the value of one cell. Both refuse the same requests;
a cell that cannot be read is no error but has no value.
-/

set_option autoImplicit false

namespace ColumnCast.CastRequest

/-- The first year that a year column keeps as it is. -/
def yearLow : Int64 := 1000

/-- The last year that a year column keeps as it is. -/
def yearHigh : Int64 := 9999

/-- The least percentage. -/
def percentLow : Int64 := 0

/-- The greatest percentage. -/
def percentHigh : Int64 := 100

/-- The best rating as a whole number. -/
def bestRating (request : CastRequest) : Int64 := Int64.ofNat request.ratingLimit.toNat

/-- The SQL expression that casts the column. -/
def compile (catalog : Catalog) (request : CastRequest) : Except CastError Sql.Expr := do
  request.checkLimit
  let source := Sql.Expr.source request.source
  let digits := Numeral.extract source
  match request.type with
  | .longText | .singleLineText | .email | .phoneNumber | .url =>
    return .cast source (.varchar request.textLimit)
  | .number => return Numeral.castBigint digits
  | .year => return .cast (Numeral.castBounded digits yearLow yearHigh) .integer
  | .decimal | .currency => return digits
  | .percent => return Numeral.castClamp digits percentLow percentHigh
  | .rating => return .cast (Numeral.castClamp digits 0 request.bestRating) .integer
  | .checkbox => return Checkbox.cast source
  | .date => Temporal.castDate catalog request.dateFormatId source
  | .dateTime => Temporal.castDateTime catalog request.dateFormatId source
  | .time => return Temporal.castTime catalog source
  | .duration => return Temporal.castDuration catalog source
  | .singleSelect => return Select.castSingle source request.options
  | .multiSelect => return Select.castMulti source request.options

/-- The first characters of a text, at most `limit`. -/
def truncated (limit : UInt32) (text : String) : String :=
  String.ofList (text.toList.take limit.toNat)

/-- The value of a cell; none for a cell that cannot be read. -/
def coerce (catalog : Catalog) (request : CastRequest) (cell : String) :
    Except CastError (Option Value) := do
  request.checkLimit
  match request.type with
  | .longText | .singleLineText | .email | .phoneNumber | .url =>
    return some (.text (truncated request.textLimit cell))
  | .number =>
    -- A number too large for a decimal is too large for 64 bits.
    return (Numeral.decimalOfCell? cell).bind fun number => number.toInt64?.map .integer
  | .year =>
    return (Numeral.ofCell? cell).bind fun numeral =>
      (Numeral.bounded? (numeral.saturate yearHigh) yearLow yearHigh).bind fun year =>
        year.toInt64?.map .integer
  | .decimal | .currency =>
    return (Numeral.ofCell? cell).map fun
      | .exact number => .decimal number
      | .wide digits => .wideDecimal digits
  | .percent =>
    return (Numeral.ofCell? cell).map fun numeral =>
      .decimal (Numeral.clamp (numeral.saturate percentHigh) percentLow percentHigh)
  | .rating =>
    return (Numeral.ofCell? cell).bind fun numeral =>
      (Numeral.clamp (numeral.saturate request.bestRating) 0 request.bestRating).toInt64?.map
        .integer
  | .checkbox => return (Checkbox.read? cell).map .boolean
  | .date =>
    return (← Temporal.readDate catalog request.dateFormatId cell).map .date
  | .dateTime =>
    return (← Temporal.readDateTime catalog request.dateFormatId cell).map .dateTime
  | .time => return (← Temporal.readTime catalog cell).map .time
  | .duration => return (← Temporal.readDuration catalog cell).map .duration
  | .singleSelect => return (Select.readSingle? request.options cell).map .text
  | .multiSelect => return (Select.readMulti? request.options cell).map .text

/-- The values of the cells of one row, as they are shown. A request is given the position
of its cell; a row that ends before it has the empty cell there. -/
def previewRow (catalog : Catalog) (columns : List (CastRequest × Nat)) (row : List String) :
    Except CastError (List String) :=
  columns.mapM fun (request, position) =>
    (request.coerce catalog (row.getD position "")).map Value.displayOrNull

end ColumnCast.CastRequest
