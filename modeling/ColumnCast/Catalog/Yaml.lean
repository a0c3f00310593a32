import ColumnCast.Catalog.Document
import ColumnCast.Yaml.ScalarText

/-!
# `ColumnCast.Catalog.Yaml`: catalogs as YAML text

A catalog is a record of its date sequences and its time sequence. Reading
takes any YAML text that says the same.
-/

set_option autoImplicit false

namespace ColumnCast.Catalog

/-- A field of a record at an indentation. -/
def fieldText (width : Nat) (name value : String) : List Char :=
  Yaml.endLine (name.toList ++ [':', ' '] ++ Yaml.scalarText (width + Yaml.indentStep) value)

/-- The items of a sequence at an indentation, without that of the first. -/
def sequenceText (width : Nat) (formats : List Format) : List Char :=
  let inner := width + Yaml.indentStep
  List.intercalate (Yaml.indentation width)
    (formats.map fun format =>
      ['-', ' '] ++ fieldText inner "token" format.token ++ Yaml.indentation inner
        ++ fieldText inner "pattern" format.pattern)

/-- A date sequence under its identifier. One that is too long for the name of a field, or
has several lines, stands behind a question mark, and its sequence one step further in. -/
def dateEntryText (id : String) (formats : List Format) : List Char :=
  let width := Yaml.indentStep
  let inner := width + Yaml.indentStep
  if Yaml.isSimpleKey id then
    Yaml.indentation width ++ Yaml.scalarText inner id ++ [':', '\n'] ++ Yaml.indentation width
      ++ sequenceText width formats
  else
    Yaml.indentation width ++ Yaml.endLine (['?', ' '] ++ Yaml.scalarText inner id)
      ++ Yaml.indentation width ++ [':', ' '] ++ sequenceText inner formats

/-- The catalog as YAML text. -/
def toYaml (catalog : Catalog) : String :=
  String.ofList
    ("date_formats:\n".toList
      ++ catalog.dates.flatMap (fun (id, formats) => dateEntryText id formats)
      ++ "time_formats:\n".toList ++ sequenceText 0 catalog.times)

/-- The catalog that a YAML text holds. -/
def ofYaml (text : String) : Except CastError Catalog :=
  match Yaml.Root.ofText? text with
  | some root => ofDocument root
  | none => .error (.badCatalog .unreadable)

end ColumnCast.Catalog
