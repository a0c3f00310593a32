/-!
# `ColumnCast.Csv`: records of delimited fields

A text of records, as bytes. Records end with a line feed, a carriage
return or both; lines without a byte between two records are no records.
A field may stand in double quotes, and only there may hold a delimiter or
a line end; a quote mark within is written twice. What follows a closing
quote mark up to the delimiter still belongs to the field.

The first record names the fields, and every other record must have as
many: `Csv.Table.row` says whether it has.
-/

set_option autoImplicit false

namespace ColumnCast.Csv

/-- The quote mark. -/
def quote : UInt8 := '"'.toNat.toUInt8

/-- Does the byte end a record? -/
def isTerminator (byte : UInt8) : Bool := byte == 10 || byte == 13

/-- Where in a record a byte stands. -/
inductive State
  /-- Before a record. -/
  | between
  /-- Before the first byte of a field. -/
  | fieldStart
  | inField
  | inQuotes
  /-- Behind a quote mark within quotes. -/
  | afterQuote
  deriving DecidableEq, Repr

/-- A field, and a record of fields. -/
abbrev Field := List UInt8

/-- What has been read of a text. -/
structure Progress where
  state : State := .between
  /-- The bytes of the open field, the last one first. -/
  field : Field := []
  /-- The fields of the open record, the last one first. -/
  fields : List Field := []
  /-- The records, the last one first. -/
  records : List (List Field) := []

namespace Progress

/-- Ends the open field; another one follows. -/
def endField (p : Progress) : Progress :=
  { p with state := .fieldStart, field := [], fields := p.field.reverse :: p.fields }

/-- Ends the open field and the open record. -/
def endRecord (p : Progress) : Progress where
  records := (p.field.reverse :: p.fields).reverse :: p.records

/-- Adds a byte to the open field. -/
def add (p : Progress) (byte : UInt8) : Progress :=
  { p with state := .inField, field := byte :: p.field }

/-- Takes a byte that stands outside quotes within a record. -/
def takeBare (delimiter : UInt8) (p : Progress) (byte : UInt8) : Progress :=
  if byte = delimiter then p.endField
  else if isTerminator byte then p.endRecord
  else p.add byte

/-- Takes the first byte of a field. -/
def takeFirst (delimiter : UInt8) (p : Progress) (byte : UInt8) : Progress :=
  if byte = quote then { p with state := .inQuotes } else p.takeBare delimiter byte

/-- Takes a byte. -/
def take (delimiter : UInt8) (p : Progress) (byte : UInt8) : Progress :=
  match p.state with
  | .between => if isTerminator byte then p else p.takeFirst delimiter byte
  | .fieldStart => p.takeFirst delimiter byte
  | .inField => p.takeBare delimiter byte
  | .inQuotes =>
    if byte = quote then { p with state := .afterQuote }
    else { p with field := byte :: p.field }
  | .afterQuote =>
    if byte = quote then { p with state := .inQuotes, field := byte :: p.field }
    else p.takeBare delimiter byte

/-- All records, the open one ended. -/
def finish (p : Progress) : List (List Field) :=
  match p.state with
  | .between => p.records.reverse
  | _ => p.endRecord.records.reverse

end Progress

/-- The text without a byte order mark at its start. -/
def dropMark (bytes : List UInt8) : List UInt8 :=
  match bytes with
  | 0xEF :: 0xBB :: 0xBF :: rest => rest
  | _ => bytes

/-- The records of a text. -/
def recordsOf (delimiter : UInt8) (bytes : List UInt8) : List (List Field) :=
  ((dropMark bytes).foldl (Progress.take delimiter) {}).finish

/-- Named fields and the records under them. -/
structure Table where
  headers : List Field
  records : List (List Field)

/-- A record that has not as many fields as the first one. -/
structure UnequalLengths where
  expected : Nat
  got : Nat

/-- The table of a text. A text without records has no fields. -/
def Table.ofBytes (delimiter : UInt8) (bytes : List UInt8) : Table :=
  match recordsOf delimiter bytes with
  | [] => ⟨[], []⟩
  | headers :: records => ⟨headers, records⟩

/-- A record of the table, if it has as many fields as there are names. -/
def Table.row (table : Table) (record : List Field) : Except UnequalLengths (List Field) :=
  if record.length = table.headers.length then .ok record
  else .error ⟨table.headers.length, record.length⟩

end ColumnCast.Csv
