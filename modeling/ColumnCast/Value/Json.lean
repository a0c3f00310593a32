import ColumnCast.Calendar.Template
import ColumnCast.Json
import ColumnCast.Value

/-!
# `ColumnCast.Value.Json`: values in messages

A value is a record with one field, whose name is the kind of the value.
Decimals are written as text with every place they hold; they are read
from text or from numbers.
-/

set_option autoImplicit false

namespace ColumnCast

/-- The decimal in a message. -/
def Decimal.ofJson? : Json → Option Decimal
  | .text content =>
    Decimal.read? content.toList <|> Decimal.readScientific? content.toList
  | .integer number => Decimal.ofParts? number 0
  | .fraction number => do
    let shortest ← Shortest.ofBits? number.toBits
    Decimal.read? (shortest.positional 0).toList
  | _ => none

namespace Value

/-- The message for a value. -/
def toJson (value : Value) : Json :=
  let (kind, content) :=
    match value with
    | text content => ("Text", Json.text content)
    | integer number => ("Integer", .integer number.toInt)
    | decimal number => ("Decimal", .text number.toText)
    | wideDecimal digits => ("WideDecimal", .text digits)
    | boolean holds => ("Boolean", .boolean holds)
    | date day => ("Date", .text day.toText)
    | dateTime moment => ("DateTime", .text moment.toText)
    | time clock => ("Time", .text clock.toText)
    | duration seconds => ("Duration", .text seconds.toText)
  .record [(kind, content)]

/-- The value of one kind. -/
def ofContent? (kind : String) (content : Json) : Option Value :=
  match kind, content with
  | "Text", .text content => some (text content)
  | "Integer", .integer number =>
    if -9223372036854775808 ≤ number ∧ number ≤ 9223372036854775807 then
      some (integer (Int64.ofInt number))
    else none
  | "Decimal", content => (Decimal.ofJson? content).map decimal
  | "WideDecimal", .text content => some (wideDecimal content)
  | "Boolean", .boolean holds => some (boolean holds)
  | "Date", .text content => (Date.ofText? content).map date
  | "DateTime", .text content => (DateTime.ofText? content).map dateTime
  | "Time", .text content => (TimeOfDay.ofText? content).map time
  | "Duration", content => (Decimal.ofJson? content).map duration
  | _, _ => none

/-- The value in a message. -/
def ofJson? : Json → Option Value
  | .record [(kind, content)] => ofContent? kind content
  | _ => none

end Value

end ColumnCast
