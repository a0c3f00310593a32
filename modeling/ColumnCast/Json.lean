import ColumnCast.Decimal.Shortest
import ColumnCast.Document

/-!
# `ColumnCast.Json`: JSON values

JSON values as documents, and their compact text, which is YAML as well.
-/

set_option autoImplicit false

namespace ColumnCast

/-- A JSON value. The names in a record are distinct. -/
inductive Json
  | null
  | boolean (holds : Bool)
  | integer (number : Int)
  | fraction (number : Float)
  | text (content : String)
  | list (items : List Json)
  | record (fields : List (String × Json))

namespace Json

instance : Inhabited Json := ⟨null⟩

/-- The ways in which a value without parts can be read: strings only as text, whole numbers
only as numbers, and null only as nothing. -/
def atom : Json → Atom
  | text content => { text? := some content }
  | integer number => { count? := if 0 ≤ number then some number.toNat else none }
  | null => { isMissing? := some true }
  | _ => {}

instance : Document Json where
  view
    | list items => .list items
    | record fields => .record (fields.map fun (name, value) => (text name, value))
    | value => .atom value.atom

/-! ### Compact text -/

/-- The character within a string. -/
def escapedChar (c : Char) : List Char :=
  match c with
  | '"' => ['\\', '"']
  | '\\' => ['\\', '\\']
  | '\x08' => ['\\', 'b']
  | '\x0C' => ['\\', 'f']
  | '\n' => ['\\', 'n']
  | '\r' => ['\\', 'r']
  | '\t' => ['\\', 't']
  | c =>
    if c < ' ' then
      ['\\', 'u', '0', '0', Nat.digitChar (c.toNat / 16), Nat.digitChar (c.toNat % 16)]
    else [c]

/-- A string between quotes. -/
def quoted (content : String) : List Char :=
  '"' :: (content.toList.flatMap escapedChar ++ ['"'])

/-- The text of a float, null for one that is no number. -/
def fractionText (number : Float) : List Char :=
  match Shortest.ofBits? number.toBits with
  | some shortest => shortest.toText.toList
  | none => "null".toList

mutual

/-- The text of a value, without blanks. -/
def compact : Json → List Char
  | null => "null".toList
  | boolean holds => (if holds then "true" else "false").toList
  | integer number => (toString number).toList
  | fraction number => fractionText number
  | text content => quoted content
  | list items => '[' :: (compactItems items ++ [']'])
  | record fields => '\x7b' :: (compactFields fields ++ ['\x7d'])

/-- The texts of the items with commas between. -/
def compactItems : List Json → List Char
  | [] => []
  | [item] => item.compact
  | item :: items => item.compact ++ ',' :: compactItems items

/-- The texts of the fields with commas between. -/
def compactFields : List (String × Json) → List Char
  | [] => []
  | [(name, value)] => quoted name ++ ':' :: value.compact
  | (name, value) :: fields => quoted name ++ ':' :: (value.compact ++ ',' :: compactFields fields)

end

end Json

end ColumnCast
