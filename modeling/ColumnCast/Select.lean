import ColumnCast.Sql
import ColumnCast.Text

/-!
# `ColumnCast.Select`: choices from a list of options

A single select holds one option, a multi select any number of them
between commas. Options are compared exactly. What is no option is
dropped; when nothing is left the cell is `NULL`.
-/

set_option autoImplicit false

namespace ColumnCast.Select

/-- What stands between two choices of a multi select. -/
def delimiter : Char := ','

/-- The regular expression of exactly the options. -/
def optionPattern (options : List String) : String :=
  Sql.anchor ("(" ++ "|".intercalate (options.map Sql.escapeRegex) ++ ")")

/-- The cell, if it is one of the options. -/
def readSingle? (options : List String) (cell : String) : Option String :=
  if options.contains cell then some cell else none

/-- The parts of a cell that are options, in their order. -/
def choices (options : List String) (cell : String) : List (List Char) :=
  (Text.splitOn delimiter cell.toList).filter fun part => options.contains (String.ofList part)

/-- The choices of a cell joined again, if that is any text. -/
def readMulti? (options : List String) (cell : String) : Option String :=
  let kept := String.ofList (Text.joinWith delimiter (choices options cell))
  if kept.isEmpty then none else some kept

/-- The SQL expression that keeps a single option. -/
def castSingle (source : Sql.Expr) (options : List String) : Sql.Expr :=
  if options.isEmpty then .null
  else .cascade [(.memberOf source (.texts options), source)]

/-- The SQL expression that keeps the options of a delimited list. -/
def castMulti (source : Sql.Expr) (options : List String) : Sql.Expr :=
  if options.isEmpty then .null
  else .nullIfEmpty (.keptParts source (String.singleton delimiter) (optionPattern options))

end ColumnCast.Select
