import ColumnCast.Regex.Basic

/-!
# `ColumnCast.Regex.Size`: how much room an expression takes

An expression is matched by an automaton over bytes, and a counted
repetition is as many copies of its body. `Regex.size` estimates the
bytes of the automaton: a state takes 32 of them, a literal has one state
for each byte of its character, and a set has two states for each of its
ranges. `Regex.isSmall` is what keeps a short pattern with large counts
from being accepted.
-/

set_option autoImplicit false

namespace ColumnCast.Regex

/-- The bytes of one state. -/
def stateSize : Nat := 32

/-- How many ranges the set has, in a round figure. -/
def CharSet.rangeCount : CharSet → Nat
  | none => 0
  | range _ _ => 1
  | table ranges => ranges.bounds.size
  | blank => 10
  | digit => 70
  | word => 770
  | union a b => a.rangeCount + b.rangeCount
  | inter a b => a.rangeCount + b.rangeCount
  -- What lies between the ranges of a set, and the lengths of characters beyond them.
  | complement a => a.rangeCount + 16
  | folded a => a.rangeCount + 2
  | asciiFolded a => a.rangeCount + 2

/-- The bytes of the states of a set. -/
def CharSet.size (set : CharSet) : Nat :=
  match set with
  | range low high =>
    if low = high then stateSize * low.utf8Size else 2 * stateSize * high.utf8Size
  | _ => 2 * stateSize * max 1 set.rangeCount

/-- Can the expression match nothing but the empty text? -/
def isEmptyOnly : Regex → Bool
  | empty => true
  | one _ => false
  | look _ => true
  | seq first second => first.isEmptyOnly && second.isEmptyOnly
  | alt left right => left.isEmptyOnly && right.isEmptyOnly
  | rep body _ most => body.isEmptyOnly || most == some 0

/-- The bytes of the automaton of an expression. -/
def size : Regex → Nat
  | empty => stateSize
  | one set => set.size
  | look _ => stateSize
  | seq first second => first.size + second.size
  | alt left right => left.size + right.size + stateSize
  | rep body least most =>
    -- The empty text needs no second copy.
    let copies := fun count => if body.isEmptyOnly then min count 1 else count
    match most with
    | none => max 1 (copies least) * body.size + stateSize
    | some most => copies most * body.size + (copies most - copies least + 1) * stateSize

/-- The bytes that an automaton may take: ten mebibytes. -/
def sizeLimit : Nat := 10485760

/-- Is the automaton of the expression within the limit? -/
def isSmall (r : Regex) : Bool := r.size ≤ sizeLimit

end ColumnCast.Regex
