import ColumnCast.Text

/-!
# `ColumnCast.Path`: paths of files

A path is text whose parts stand between slashes. Empty parts and single
points do not count, except for a point at the very start. Two paths are
alike when the same parts count.
-/

set_option autoImplicit false

namespace ColumnCast.Path

/-- The parts of a path that count. A path from the root has an empty first part. -/
def parts (path : String) : List String :=
  match (Text.splitOn '/' path.toList).map String.ofList with
  | [] => []
  | first :: rest =>
    let isRoot := first.isEmpty && !rest.isEmpty
    let head := if isRoot || !first.isEmpty then [first] else []
    head ++ rest.filter fun part => part != "" && part != "."

/-- Does the path begin at the root? -/
def isAbsolute (path : String) : Bool := path.toList.head? == some '/'

/-- The path of standard input. -/
def dash : String := "-"

/-- Is standard input meant? -/
def isDash (path : String) : Bool := parts path == [dash]

/-- The extension of the last part: what follows its last point, unless that is its first
character. The parent directory has none. -/
def extension? (path : String) : Option String :=
  match (parts path).getLast? with
  | none => none
  | some name =>
    let after := name.toList.reverse.takeWhile (· != '.')
    let before := name.length - after.length
    if name == ".." || before ≤ 1 then none else some (String.ofList after.reverse)

/-- The text without slashes at its end and parts there that do not count. A point at the
very start counts. -/
def trimEnd : (reversed : List Char) → List Char
  | '/' :: [] => ['/']
  | '/' :: rest => trimEnd rest
  | '.' :: '/' :: rest => if rest.isEmpty then ['/'] else trimEnd rest
  | reversed => reversed

/-- The directory of a file: the path without its last part. -/
def directory (path : String) : String :=
  let name := (trimEnd path.toList.reverse).dropWhile (· != '/')
  String.ofList (trimEnd name).reverse

/-- The path from a directory. An absolute path does not depend on it. -/
def join (directory path : String) : String :=
  if isAbsolute path then path
  else if directory.isEmpty || directory.toList.getLast? == some '/' then directory ++ path
  else directory ++ "/" ++ path

end ColumnCast.Path
