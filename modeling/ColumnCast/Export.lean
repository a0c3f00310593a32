import ColumnCast.SemanticType
import ColumnCast.Sql

/-!
# `ColumnCast.Export`: typed columns back as text

The SQL expression that shows a typed column as text. Checkboxes are shown
as `1` and `0`. Showing refuses nothing: a column of an unknown type is
shown like any other.
-/

set_option autoImplicit false

namespace ColumnCast.Export

/-- The SQL expression of a column as text. -/
def asText (column : String) : String := (Sql.Expr.cast (.source (Sql.quoteIdent column)) .text).render

/-- The SQL expression that shows a column of a type. -/
def column (column : String) (type : SemanticType) : String :=
  match type with
  | .checkbox =>
    "CASE " ++ Sql.quoteIdent column ++ " WHEN TRUE THEN '1' WHEN FALSE THEN '0' ELSE NULL END"
  | _ => asText column

/-- The SQL expression that shows a column whose type is given by its name. -/
def named (column typeName : String) : String :=
  match SemanticType.ofName? typeName with
  | some type => Export.column column type
  | none => asText column

end ColumnCast.Export
