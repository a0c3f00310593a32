import ColumnCast.Text

/-!
# `ColumnCast.Table`: aligned text tables

Left-aligned columns two spaces apart, a rule of hyphens under the
headers, and no blanks at the end of a line. A cell takes one line: the
line breaks and tabs in it become spaces.
-/

set_option autoImplicit false

namespace ColumnCast.Table

/-- The text on one line: line feeds, carriage returns and tabs become spaces. -/
def flatten (text : String) : List Char :=
  text.toList.map fun c => if c = '\n' ∨ c = '\r' ∨ c = '\t' then ' ' else c

/-- Columns are at least this wide. -/
def minWidth : Nat := 3

/-- The column widths after one more row of cells. -/
def widen (widths : List Nat) (row : List String) : List Nat :=
  widths.mapIdx fun i width =>
    match row[i]? with
    | some cell => max width cell.length
    | none => width

/-- The width of each column: its longest header or cell. -/
def columnWidths (headers : List String) (rows : List (List String)) : List Nat :=
  rows.foldl widen (headers.map fun header => max header.length minWidth)

/-- A cell filled up with spaces to the width of its column. -/
def fill (width : Nat) (cell : String) : List Char :=
  let text := flatten cell
  text ++ List.replicate (width - text.length) ' '

/-- One line of a table, without its line break. -/
def line (widths : List Nat) (cells : List String) : List Char :=
  Text.trimEnd
    (List.intercalate [' ', ' '] (List.zipWith (fun cell width => fill width cell) cells widths))

/-- The rule under the headers. -/
def ruleCells (widths : List Nat) : List String :=
  widths.map fun width => String.ofList (List.replicate width '-')

/-- The whole table: headers, rule, rows. -/
def render (headers : List String) (rows : List (List String)) : String :=
  let widths := columnWidths headers rows
  String.ofList
    ((headers :: ruleCells widths :: rows).flatMap fun cells => line widths cells ++ ['\n'])

end ColumnCast.Table
