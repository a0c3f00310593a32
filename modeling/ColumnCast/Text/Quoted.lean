import ColumnCast.Unicode.Property

/-!
# `ColumnCast.Text.Quoted`: texts in messages

A text between double quotes in which nothing is hidden: control
characters, characters that do not show and marks that would join the
character before them stand as escapes.
-/

set_option autoImplicit false

namespace ColumnCast.Text

/-- The digits of a number in hexadecimal. -/
def hexDigits (number : Nat) : List Char := Nat.toDigits 16 number

/-- The character within quotes; also the marks in `marks` are escaped. -/
def shownChar (marks : List Char) (c : Char) : List Char :=
  match c with
  | '\x00' => ['\\', '0']
  | '\t' => ['\\', 't']
  | '\n' => ['\\', 'n']
  | '\r' => ['\\', 'r']
  | c =>
    if c = '\\' ∨ marks.contains c then ['\\', c]
    else if Unicode.isHidden c || Unicode.isExtending c then
      ['\\', 'u', '\x7b'] ++ hexDigits c.toNat ++ ['\x7d']
    else [c]

/-- The text between double quotes. -/
def shown (marks : List Char) (text : String) : String :=
  String.ofList ('"' :: (text.toList.flatMap (shownChar marks) ++ ['"']))

/-- A name between double quotes. -/
def shownName (name : String) : String := shown ['"'] name

/-- A path between double quotes, in which apostrophes are escaped too. -/
def shownPath (path : String) : String := shown ['"', '\''] path

/-- A list of names in brackets. -/
def shownNames (names : List String) : String := "[" ++ ", ".intercalate (names.map shownName) ++ "]"

end ColumnCast.Text
