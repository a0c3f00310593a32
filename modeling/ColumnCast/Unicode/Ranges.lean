/-!
# `ColumnCast.Unicode.Ranges`: sets of characters as ranges

A set of code points as an array of ranges, lowest first. Tables are
written as text: ranges in hexadecimal, with blanks or line breaks between.
-/

set_option autoImplicit false

namespace ColumnCast.Unicode

/-- The value of a hexadecimal digit; zero for another character. -/
def hexDigit (c : Char) : Nat :=
  if c.isDigit then c.toNat - '0'.toNat
  else if 'a' ≤ c ∧ c ≤ 'f' then c.toNat - 'a'.toNat + 10
  else if 'A' ≤ c ∧ c ≤ 'F' then c.toNat - 'A'.toNat + 10
  else 0

/-- The number that hexadecimal digits write. -/
def hexValue (digits : List Char) : Nat :=
  digits.foldl (fun value c => 16 * value + hexDigit c) 0

/-- Ranges of code points, each with its first and last, in ascending order. -/
structure Ranges where
  bounds : Array (Nat × Nat)

/-- The entries of a table text, which blanks and line breaks part. -/
def entries (text : String) : List String :=
  ((text.map fun c => if c = '\n' then ' ' else c).splitOn " ").filter fun entry =>
    !entry.isEmpty

namespace Ranges

/-- No code points. -/
def empty : Ranges := ⟨#[]⟩

/-- The range of an entry such as `41-5A` or `AA`. -/
def entryBounds (entry : String) : Nat × Nat :=
  let low := entry.toList.takeWhile (· != '-')
  match entry.toList.drop low.length with
  | [] => (hexValue low, hexValue low)
  | _ :: high => (hexValue low, hexValue high)

/-- The ranges that a table text writes. -/
def ofText (text : String) : Ranges := ⟨((entries text).map entryBounds).toArray⟩

/-- Is the code point in one of the ranges from `low` on and before `high`? Halves the span
in each of `steps` steps. -/
def search (bounds : Array (Nat × Nat)) (code : Nat) : (steps low high : Nat) → Bool
  | 0, _, _ => false
  | steps + 1, low, high =>
    if low < high then
      let middle := (low + high) / 2
      match bounds[middle]? with
      | some (first, last) =>
        if code < first then search bounds code steps low middle
        else if last < code then search bounds code steps (middle + 1) high
        else true
      | none => false
    else false

/-- Is the character in the set? -/
def contains (ranges : Ranges) (c : Char) : Bool :=
  search ranges.bounds c.toNat ranges.bounds.size 0 ranges.bounds.size

end Ranges

end ColumnCast.Unicode
