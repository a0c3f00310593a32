import ColumnCast.SemanticType

/-!
# `ColumnCast.CastError`: why a request is refused

The failures of a request or of its configuration. Bad data is none of
them: a cell that cannot be read is `NULL`.
-/

set_option autoImplicit false

namespace ColumnCast

/-- What is wrong with a format catalog as a whole. -/
inductive CatalogFault
  /-- The text is no catalog: bad YAML, or a part of the wrong shape. -/
  | unreadable
  | noDateFormats
  deriving DecidableEq, Repr

/-- A refused request or configuration. -/
inductive CastError
  | notImplemented (datatype : String)
  | unknownDateFormat (id : String) (available : List String)
  | invalidLimit (datatype : SemanticType) (limit : UInt32)
  | invalidPattern (token pattern : String)
  | emptyFormatSequence (name : String)
  | badCatalog (fault : CatalogFault)
  deriving DecidableEq, Repr

namespace CastError

/-- The wording of a refusal. -/
def message : CastError → String
  | notImplemented datatype =>
    "coercion not implemented for column type '" ++ datatype ++ "'"
  | unknownDateFormat id available =>
    "unknown date format '" ++ id ++ "' (available: " ++ ", ".intercalate available ++ ")"
  | invalidLimit datatype limit =>
    "invalid limit " ++ toString limit.toNat ++ " for column type '" ++ datatype.name ++ "'"
  | invalidPattern token pattern =>
    "invalid recognizer pattern '" ++ pattern ++ "' for format '" ++ token ++ "'"
  | emptyFormatSequence name =>
    "format sequence '" ++ name ++ "' must contain at least one entry"
  | badCatalog .unreadable => "format catalog error"
  | badCatalog .noDateFormats => "format catalog error: catalog defines no date formats"

end CastError

/-- The semantic type of a name; a name outside the set is reported without the blanks
around it. -/
def SemanticType.ofName (name : String) : Except CastError SemanticType :=
  match SemanticType.ofName? name with
  | some type => .ok type
  | none => .error (.notImplemented (Text.trim name))

end ColumnCast
