import ColumnCast.Sql

/-!
# `ColumnCast.Checkbox`: words for yes and no

A checkbox cell holds one of a fixed set of words. Words are compared
exactly: nothing is trimmed and case matters, so `Yes` is no word.
-/

set_option autoImplicit false

namespace ColumnCast.Checkbox

/-- The words for a checked box. -/
def checked : List String :=
  ["checked", "x", "yes", "y", "1", "[x]", "☑", "✅", "✓", "✔", "enabled", "on", "done", "true"]

/-- The words for an unchecked box. -/
def unchecked : List String :=
  ["unchecked", "", "no", "n", "0", "[]", "[ ]", "disabled", "off", "false"]

/-- The state a word stands for. -/
def read? (word : String) : Option Bool :=
  if checked.contains word then some true
  else if unchecked.contains word then some false
  else none

/-- The SQL cascade that reads a checkbox word. -/
def cast (source : Sql.Expr) : Sql.Expr :=
  .cascade
    [(.memberOf source (.texts checked), .truth true),
      (.memberOf source (.texts unchecked), .truth false)]

end ColumnCast.Checkbox
