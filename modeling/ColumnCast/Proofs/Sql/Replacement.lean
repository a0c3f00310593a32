import ColumnCast.Regex.Reader
import ColumnCast.Sql
import Mathlib.Data.List.MinMax
import Mathlib.Data.Prod.Lex

/-!
# `ColumnCast.Proofs.Sql.Replacement`: what `REGEXP_REPLACE` leaves of a text

The database goes through a text from the left. At each place it looks for
a match of the pattern and takes the longest; what stands between two
matches is copied. `substitute` is this, for the first match alone or for
all of them. The replacement may name the first group of the pattern,
which is a `Grouped` pattern for that.

Where a pattern matches one character of a set, all matches removed is
`List.filter` (`substitute_all_one`), and the first one replaced is a
change at one place (`substitute_first_one`). Where it matches a character
of a set, captured, and another one behind it, `substitute_first_pair` and
its companions say what each place of a text does.
-/

set_option autoImplicit false

namespace ColumnCast.Sql

open Regex (Cursor CharSet)

/-! ### Patterns with a group in front -/

/-- A pattern that begins with its first group. Where there is no group, the group is empty. -/
structure Grouped where
  group : Regex
  tail : Regex

/-- A piece of a replacement. -/
inductive Piece
  | char (c : Char)
  /-- What the first group of the pattern matched. -/
  | captured
  deriving DecidableEq, Repr

namespace Piece

/-- The pieces of a replacement, in which `\1` names the first group. Other names are left out. -/
def ofChars? : List Char → Option (List Piece)
  | [] => some []
  | '\\' :: '1' :: rest => (ofChars? rest).map (captured :: ·)
  | '\\' :: _ => none
  | c :: rest => (ofChars? rest).map (char c :: ·)

/-- The text that the pieces make. -/
def expand (pieces : List Piece) (group : List Char) : List Char :=
  pieces.flatMap fun
    | char c => [c]
    | captured => group

end Piece

namespace Grouped

/-- The pattern of a text whose groups, if it has some, begin with one at the front. Texts with
a group elsewhere are left out, and so is an alternative to the part with the group. -/
def ofChars? : List Char → Option Grouped
  | '(' :: text =>
    match text.dropWhile (· != ')') with
    | [] => none
    | _ :: tail =>
      if tail.contains '|' then none
      else do
        let group ← Regex.ofChars? (text.takeWhile (· != ')'))
        return ⟨group.regex, (← Regex.ofChars? tail).regex⟩
  | text =>
    if text.contains '(' then none
    else (Regex.ofChars? text).map fun found => ⟨.empty, found.regex⟩

/-- The match at a place: where the group ends and where the match does. The longest match is
taken, and of several ways to find it the one with the longest group. -/
def match? (p : Grouped) (c : Cursor) : Option (Cursor × Cursor) :=
  let ways := (p.group.ends c).flatMap fun middle =>
    (p.tail.ends middle).map fun last => (middle, last)
  ways.argmax fun (middle, last) => toLex (last.position, middle.position)

end Grouped

/-! ### Replacement -/

/-- The text from a place on, its matches replaced. The first `skip` characters belong to a
match that stands replaced already. -/
def substitute (p : Grouped) (pieces : List Piece) (scope : Scope) :
    (skip position : Nat) → (before : Option Char) → List Char → List Char
  | 0, position, before, [] =>
    match p.match? ⟨position, before, []⟩ with
    | none => []
    | some _ => Piece.expand pieces []
  | 0, position, before, c :: rest =>
    match p.match? ⟨position, before, c :: rest⟩ with
    | none => c :: substitute p pieces scope 0 (position + 1) (some c) rest
    | some (middle, last) =>
      let replaced := Piece.expand pieces ((c :: rest).take (middle.position - position))
      match scope, last.position - position with
      | .first, _ => replaced ++ last.rest
      | .all, 0 => replaced ++ c :: substitute p pieces scope 0 (position + 1) (some c) rest
      | .all, skip + 1 =>
        replaced ++ substitute p pieces scope skip (position + 1) (some c) rest
  | _ + 1, _, _, [] => []
  | skip + 1, position, _, c :: rest =>
    substitute p pieces scope skip (position + 1) (some c) rest

/-- The text with the matches of a pattern replaced; none where the pattern or the replacement
cannot be read. -/
def replaced? (pattern replacement : String) (scope : Scope) (content : String) :
    Option String := do
  let p ← Grouped.ofChars? pattern.toList
  let pieces ← Piece.ofChars? replacement.toList
  return String.ofList (substitute p pieces scope 0 0 none content.toList)

/-! ### One character of a set -/

section One

variable (set : CharSet) (pieces : List Piece) (position : Nat) (before : Option Char)

theorem match?_one_nil : Grouped.match? ⟨.empty, .one set⟩ ⟨position, before, []⟩ = none := rfl

theorem match?_one_cons (c : Char) (rest : List Char) :
    Grouped.match? ⟨.empty, .one set⟩ ⟨position, before, c :: rest⟩
      = if set.contains c then
          some (⟨position, before, c :: rest⟩, ⟨position + 1, some c, rest⟩)
        else none := by
  unfold Grouped.match?
  by_cases found : set.contains c = true
  · simp only [Regex.ends, found, if_true, List.flatMap_cons, List.flatMap_nil, List.map_cons,
      List.map_nil, List.append_nil, List.argmax_singleton]
  · simp only [Regex.ends, found, List.flatMap_cons, List.flatMap_nil, List.map_nil,
      List.append_nil, List.argmax_nil, Bool.false_eq_true, if_false]

/-- All characters of the set are removed. -/
theorem substitute_all_one (text : List Char) :
    substitute ⟨.empty, .one set⟩ [] .all 0 position before text
      = text.filter fun c => !set.contains c := by
  induction text generalizing position before with
  | nil => rw [substitute, match?_one_nil, List.filter_nil]
  | cons c rest ih =>
      rw [substitute, match?_one_cons]
      by_cases found : set.contains c = true
      · rw [if_pos found, List.filter_cons_of_neg (by simp [found])]
        simp only [Piece.expand, List.flatMap_nil, Nat.add_sub_cancel_left, List.nil_append]
        exact ih _ _
      · rw [if_neg found, List.filter_cons_of_pos (by simpa using found)]
        exact congrArg _ (ih _ _)

/-- Where no character is in the set, the text stays. -/
theorem substitute_first_none {text : List Char} (absent : ∀ c ∈ text, set.contains c = false) :
    substitute ⟨.empty, .one set⟩ pieces .first 0 position before text = text := by
  induction text generalizing position before with
  | nil => rw [substitute, match?_one_nil]
  | cons c rest ih =>
      rw [substitute, match?_one_cons, absent c List.mem_cons_self]
      exact congrArg _ (ih _ _ fun d mem => absent d (List.mem_cons_of_mem _ mem))

/-- The first character of the set is replaced. -/
theorem substitute_first_one {front : List Char} (absent : ∀ c ∈ front, set.contains c = false)
    {c : Char} (found : set.contains c = true) (rest : List Char) :
    substitute ⟨.empty, .one set⟩ pieces .first 0 position before (front ++ c :: rest)
      = front ++ (Piece.expand pieces [] ++ rest) := by
  induction front generalizing position before with
  | nil =>
      rw [List.nil_append, substitute, match?_one_cons, if_pos found]
      simp only [Nat.sub_self, List.take_zero, List.nil_append]
  | cons d front ih =>
      rw [List.cons_append, substitute, match?_one_cons, absent d List.mem_cons_self]
      exact congrArg _ (ih _ _ fun e mem => absent e (List.mem_cons_of_mem _ mem))

end One

/-! ### A captured character and one behind it -/

section Pair

variable (set next : CharSet) (pieces : List Piece) (position : Nat) (before : Option Char)

/-- Is the character in the set and the one behind it in the other? -/
def isPair (c : Char) (rest : List Char) : Bool :=
  set.contains c && rest.head?.any next.contains

theorem match?_pair_nil : Grouped.match? ⟨.one set, .one next⟩ ⟨position, before, []⟩ = none := rfl

theorem match?_pair_none {c : Char} {rest : List Char} (other : isPair set next c rest = false) :
    Grouped.match? ⟨.one set, .one next⟩ ⟨position, before, c :: rest⟩ = none := by
  unfold isPair at other
  unfold Grouped.match?
  by_cases found : set.contains c = true
  · rw [found, Bool.true_and] at other
    cases rest with
    | nil => simp [Regex.ends, found]
    | cons d rest =>
        have absent : next.contains d = false := other
        simp [Regex.ends, found, absent]
  · simp [Regex.ends, found]

theorem match?_pair {c d : Char} (found : set.contains c = true) (follows : next.contains d = true)
    (rest : List Char) :
    Grouped.match? ⟨.one set, .one next⟩ ⟨position, before, c :: d :: rest⟩
      = some (⟨position + 1, some c, d :: rest⟩, ⟨position + 2, some d, rest⟩) := by
  unfold Grouped.match?
  simp only [Regex.ends, found, follows, if_true, List.flatMap_cons, List.flatMap_nil,
    List.map_cons, List.map_nil, List.append_nil, List.argmax_singleton]

theorem substitute_pair_nil (scope : Scope) :
    substitute ⟨.one set, .one next⟩ pieces scope 0 position before [] = [] := by
  rw [substitute, match?_pair_nil]

/-- A character that no match begins with is copied. -/
theorem substitute_pair_cons (scope : Scope) {c : Char} {rest : List Char}
    (other : isPair set next c rest = false) :
    substitute ⟨.one set, .one next⟩ pieces scope 0 position before (c :: rest)
      = c :: substitute ⟨.one set, .one next⟩ pieces scope 0 (position + 1) (some c) rest := by
  rw [substitute, match?_pair_none set next position before other]

/-- The first match is replaced, and what stands behind it is left alone. -/
theorem substitute_first_pair {c d : Char} (found : set.contains c = true)
    (follows : next.contains d = true) (rest : List Char) :
    substitute ⟨.one set, .one next⟩ pieces .first 0 position before (c :: d :: rest)
      = Piece.expand pieces [c] ++ rest := by
  rw [substitute, match?_pair set next position before found follows]
  simp only [Nat.add_sub_cancel_left, List.take_succ_cons, List.take_zero]

end Pair

end ColumnCast.Sql
