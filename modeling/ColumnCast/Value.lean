import ColumnCast.Calendar

/-!
# `ColumnCast.Value`: what a cell is worth

A `Value` is a cell as a typed column stores it. `Value.display` is the
text it is shown as, in a form that the same column reads again.
-/

set_option autoImplicit false

namespace ColumnCast

/-- A value of a typed column. -/
inductive Value
  | text (content : String)
  | integer (number : Int64)
  | decimal (number : Decimal)
  /-- The canonical digits of a number too large for a decimal. -/
  | wideDecimal (digits : String)
  | boolean (holds : Bool)
  | date (day : Date)
  | dateTime (moment : DateTime)
  | time (clock : TimeOfDay)
  /-- A number of seconds. -/
  | duration (seconds : Decimal)
  deriving DecidableEq

namespace Value

/-- The text of a value; decimals are shown with the fewest places. -/
def display : Value → String
  | text content => content
  | wideDecimal digits => digits
  | integer number => toString number.toInt
  | decimal number | duration number => number.normalize.toText
  | boolean holds => if holds then "1" else "0"
  | date day => day.toText
  | dateTime moment => moment.clockText
  | time clock => clock.clockText

/-- Stands where a cell has no value. -/
def nullDisplay : String := "NULL"

/-- The text of a cell that may have no value. -/
def displayOrNull (value : Option Value) : String := (value.map display).getD nullDisplay

end Value

end ColumnCast
