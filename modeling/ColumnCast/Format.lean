import ColumnCast.CastError
import ColumnCast.Regex.Reader
import ColumnCast.Sql

/-!
# `ColumnCast.Format`: a layout and what recognizes it

A `Format` pairs the token of a layout, such as `DD/MM/YYYY`, with the
regular expression of the cells that have it. The expression is kept
without anchors and stands for whole cells: the `recognizer` adds `^` and
`$`, and `combine` can put two expressions one after the other.

Formats are tried in order, and the first that recognizes a cell decides.
-/

set_option autoImplicit false

namespace ColumnCast

/-- A layout with the expression of the cells that have it. -/
structure Format where
  token : String
  pattern : String
  deriving DecidableEq, Repr

namespace Format

/-- The layout of a date, a space and a time. -/
def combine (date time : Format) : Format :=
  ⟨date.token ++ " " ++ time.token, date.pattern ++ " " ++ time.pattern⟩

/-- What recognizes the cells of this layout. -/
def recognizer (format : Format) : Except CastError Regex :=
  match Regex.read? (Sql.anchor format.pattern) with
  | some regex => .ok regex
  | none => .error (.invalidPattern format.token format.pattern)

/-- A format has a recognizer if its pattern between anchors is a regular expression. -/
theorem recognizer_isOk (format : Format) :
    format.recognizer.isOk
      = (Regex.limitedOfChars? ('^' :: (format.pattern.toList ++ ['$']))).isSome := by
  have anchored : (Sql.anchor format.pattern).toList = '^' :: (format.pattern.toList ++ ['$']) := by
    simp [Sql.anchor]
  unfold recognizer Regex.read?
  rw [anchored]
  split <;> simp_all [Except.isOk, Except.toBool]

/-- Does the format recognize the cell? -/
def recognizes (format : Format) (cell : String) : Except CastError Bool :=
  format.recognizer.map fun regex => regex.isMatch cell

/-- The first format that recognizes the cell. Formats after it are not looked at. -/
def firstFor (cell : String) : List Format → Except CastError (Option Format)
  | [] => .ok none
  | format :: rest =>
    match format.recognizes cell with
    | .ok true => .ok (some format)
    | .ok false => firstFor cell rest
    | .error e => .error e

/-- All formats that recognize the cell. -/
def allFor (cell : String) (formats : List Format) : Except CastError (List Format) :=
  formats.filterM fun format => format.recognizes cell

end Format

end ColumnCast
