import ColumnCast.Text

/-!
# `ColumnCast.SemanticType`: what a column means

The closed set of semantic column types, their names and their
categories. A name from outside is read without regard to ASCII case and
to blanks, underscores and hyphens; a few types have further names.
-/

set_option autoImplicit false

namespace ColumnCast

/-- The semantic type of a column. -/
inductive SemanticType
  | longText
  | singleLineText
  | email
  | phoneNumber
  | url
  | number
  | year
  | decimal
  | currency
  | percent
  | rating
  | date
  | dateTime
  | time
  | duration
  | checkbox
  | singleSelect
  | multiSelect
  deriving DecidableEq, Repr

/-- The family a semantic type belongs to. -/
inductive Category
  | text
  | numeric
  | temporal
  | logical
  | enumerated
  deriving DecidableEq, Repr

namespace Category

/-- The word for a category. -/
def name : Category → String
  | text => "text"
  | numeric => "numeric"
  | temporal => "temporal"
  | logical => "logical"
  | enumerated => "enumerated"

end Category

namespace SemanticType

/-- Every semantic type, in the order in which they are listed. -/
def all : List SemanticType :=
  [longText, singleLineText, email, phoneNumber, url, number, year, decimal, currency,
    percent, rating, date, dateTime, time, duration, checkbox, singleSelect, multiSelect]

/-- The canonical name of a semantic type. -/
def name : SemanticType → String
  | longText => "LongText"
  | singleLineText => "SingleLineText"
  | email => "Email"
  | phoneNumber => "PhoneNumber"
  | url => "URL"
  | number => "Number"
  | year => "Year"
  | decimal => "Decimal"
  | currency => "Currency"
  | percent => "Percent"
  | rating => "Rating"
  | date => "Date"
  | dateTime => "DateTime"
  | time => "Time"
  | duration => "Duration"
  | checkbox => "Checkbox"
  | singleSelect => "SingleSelect"
  | multiSelect => "MultiSelect"

/-- The category of a semantic type. -/
def category : SemanticType → Category
  | longText | singleLineText | email | phoneNumber | url => .text
  | number | year | decimal | currency | percent | rating => .numeric
  | date | dateTime | time | duration => .temporal
  | checkbox => .logical
  | singleSelect | multiSelect => .enumerated

/-- A name as it is compared: no blanks, underscores or hyphens, ASCII letters small. -/
def folded (name : String) : String :=
  String.ofList ((name.toList.filter fun c => c != ' ' && c != '_' && c != '-').map Char.toLower)

/-- The type of a name, if the name is in the set. -/
def ofName? (name : String) : Option SemanticType :=
  match folded name with
  | "longtext" => some longText
  | "singlelinetext" | "text" => some singleLineText
  | "email" => some email
  | "phonenumber" | "phone" => some phoneNumber
  | "url" => some url
  | "number" | "integer" => some number
  | "year" => some year
  | "decimal" => some decimal
  | "currency" => some currency
  | "percent" => some percent
  | "rating" => some rating
  | "date" => some date
  | "datetime" | "timestamp" => some dateTime
  | "time" => some time
  | "duration" => some duration
  | "checkbox" | "boolean" | "bool" => some checkbox
  | "singleselect" => some singleSelect
  | "multiselect" => some multiSelect
  | _ => none

end SemanticType

end ColumnCast
