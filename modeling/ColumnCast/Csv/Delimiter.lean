import ColumnCast.Path

/-!
# `ColumnCast.Csv.Delimiter`: which byte parts the fields

A delimiter is given by its name or as one ASCII character. Where none is
given, the extension of the file decides between tab and comma.
-/

set_option autoImplicit false

namespace ColumnCast.Csv

/-- Why a text is no delimiter. -/
inductive DelimiterError
  | empty
  | severalCharacters
  | notAscii
  deriving DecidableEq, Repr

/-- The wording of a refusal. -/
def DelimiterError.message : DelimiterError → String
  | empty => "Delimiter cannot be empty"
  | severalCharacters => "Delimiter must be a single character"
  | notAscii => "Delimiter must be ASCII"

namespace Delimiter

/-- The delimiter of a character. -/
def ofChar (c : Char) : UInt8 := c.toNat.toUInt8

/-- The delimiter that a text names. -/
def ofText (text : String) : Except DelimiterError UInt8 :=
  match text with
  | "tab" | "\\t" => .ok (ofChar '\t')
  | "comma" => .ok (ofChar ',')
  | "pipe" => .ok (ofChar '|')
  | "semicolon" => .ok (ofChar ';')
  | _ =>
    match text.toList with
    | [] => .error .empty
    | [c] => if c.toNat < 128 then .ok (ofChar c) else .error .notAscii
    | _ => .error .severalCharacters

/-- The extension of files in which tabs part the fields. -/
def tabExtension : String := "tsv"

/-- The delimiter of a file, if none is given. -/
def ofPath (path : String) : UInt8 :=
  match Path.extension? path with
  | some extension =>
    if extension.toList.map Char.toLower = tabExtension.toList then ofChar '\t' else ofChar ','
  | none => ofChar ','

end Delimiter

end ColumnCast.Csv
