import ColumnCast.Proofs.Sql.Evaluation
import ColumnCast.Proofs.Sql.Replacement

/-!
# `ColumnCast.Proofs.Sql.Arithmetic`: what the expressions of numbers are worth

`Expr.value?` is the value of an expression, given the raw text that each
source has or that it is `NULL`. No value means that the database raises
an error. It raises one where a cast meets a value that its type does not
accept, so `Datum.convert?` is the place that says what types accept. Of a
cascade only the arm that is chosen is evaluated, while both sides of an
`OR` are.

Comparisons with `NULL` are `NULL`. `LEAST` and `GREATEST` pass it over,
so they make a bound of it. A `DECIMAL` is exact and has no bounds.

Expressions that no numeric column is made of are left out: they have no
value.
-/

set_option autoImplicit false

namespace ColumnCast.Sql

namespace Datum

/-- The datum of a raw text; none is `NULL`. -/
def ofText? : Option String → Datum
  | none => null
  | some content => text content

/-! ### Casts -/

/-- The numeral that a `DECIMAL` is cast from: digits with at most one point, which follows a
digit and may be the end. -/
def numeral? (content : List Char) : Option Written :=
  let whole := content.takeWhile Char.isDigit
  if whole.isEmpty then none
  else
    match content.dropWhile Char.isDigit with
    | [] => some ⟨whole, []⟩
    | c :: fraction =>
      if c = '.' ∧ fraction.all Char.isDigit then some ⟨whole, fraction⟩ else none

/-- The nearest whole number; a half goes away from zero. -/
def nearest (x : ℚ) : ℤ := if x < 0 then -round (-x) else round x

/-- The nearest whole number, if it lies from `low` up to `high`. -/
def nearestWithin? (low high : ℤ) (x : ℚ) : Option Datum :=
  if low ≤ nearest x ∧ nearest x ≤ high then some (number (nearest x)) else none

/-- The value cast to a type; none where the type does not accept it. -/
def convert? : Target → Datum → Option Datum
  | .decimal, null => some null
  | .decimal, text content => (numeral? content.toList).map fun w => number w.number
  | .bigint, number x => nearestWithin? (-2 ^ 63) (2 ^ 63 - 1) x
  | .integer, null => some null
  | .integer, number x => nearestWithin? (-2 ^ 31) (2 ^ 31 - 1) x
  | _, _ => none

/-! ### Operators -/

/-- The empty text becomes `NULL`. -/
def nullIfEmpty? : Datum → Option Datum
  | null => some null
  | text content => some (if content = "" then null else text content)
  | _ => none

/-- A text with the matches of a pattern replaced. -/
def replace? (pattern replacement : String) (scope : Scope) : Datum → Option Datum
  | null => some null
  | text content => (replaced? pattern replacement scope content).map text
  | _ => none

/-- The least of `high` and the greatest of the value and `low`, where `NULL` is passed over. -/
def saturate? (low high : ℤ) : Datum → Option Datum
  | null => some (number (min low high : ℤ))
  | number x => some (number (min (max x low) high))
  | _ => none

/-- Does the nearest whole number lie between the bounds? -/
def roundsWithin? (low high : ℤ) : Datum → Option Datum
  | null => some null
  | number x => some (truth (low ≤ nearest x ∧ nearest x ≤ high))
  | _ => none

/-- Is the number one of the list? -/
def isAmong? : Choices → Datum → Option Datum
  | _, null => some null
  | .numbers items, number x => some (truth (items.any fun item => x = item))
  | _, _ => none

/-- True if one side is, whatever the other; else unknown if one side is. -/
def either? : Datum → Datum → Option Datum
  | truth a, truth b => some (truth (a || b))
  | truth a, null | null, truth a => some (if a then truth true else null)
  | null, null => some null
  | _, _ => none

end Datum

/-! ### Expressions -/

/-- The value of an expression over the raw texts of its sources, with the number that is bound.
None if evaluation fails. -/
def Expr.value? (raw : String → Option String) : Expr → (bound : Option Datum) → Option Datum
  | source sql, _ => some (.ofText? (raw sql))
  | number, bound => bound
  | null, _ => some .null
  | noElse, _ => some .null
  | cast value target, bound => (value.value? raw bound).bind (Datum.convert? target)
  | nullIfEmpty value, bound => (value.value? raw bound).bind Datum.nullIfEmpty?
  | replace value pattern replacement scope, bound =>
    (value.value? raw bound).bind (Datum.replace? pattern replacement scope)
  | saturate value low high, bound => (value.value? raw bound).bind (Datum.saturate? low high)
  | roundsWithin value low high, bound =>
    (value.value? raw bound).bind (Datum.roundsWithin? low high)
  | isNull value, bound => (value.value? raw bound).map fun datum => .truth (datum = .null)
  | either left right, bound =>
    (left.value? raw bound).bind fun a => (right.value? raw bound).bind (Datum.either? a)
  | memberOf value choices, bound => (value.value? raw bound).bind (Datum.isAmong? choices)
  | arm condition result otherwise, bound =>
    (condition.value? raw bound).bind fun
      | .truth true => result.value? raw bound
      | .truth false | .null => otherwise.value? raw bound
      | _ => none
  | withNumber value body, bound =>
    (value.value? raw bound).bind fun datum => body.value? raw (some datum)
  | _, _ => none

section Known

variable {raw : String → Option String} {bound : Option Datum} {condition : Expr}

/-- An arm whose condition is known. -/
theorem Expr.value?_arm {holds : Bool} (known : condition.value? raw bound = some (.truth holds))
    (result otherwise : Expr) :
    (arm condition result otherwise).value? raw bound
      = if holds then result.value? raw bound else otherwise.value? raw bound := by
  rw [Expr.value?, known]
  cases holds <;> rfl

end Known

end ColumnCast.Sql
