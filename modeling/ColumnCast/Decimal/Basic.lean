/-!
# `ColumnCast.Decimal`: decimal numbers of bounded size

A `Decimal` is a coefficient below `2 ^ 96` over a power of ten of at
most `10 ^ 28`. The number of places is kept as it was written, so
`1.50` and `1.5` are two decimals of one value; `normalize` drops the
zeros, and all comparisons go by value.

`roundToInt` is the rounding of a numeric column to whole numbers: to
the nearest, a half away from zero.
-/

set_option autoImplicit false

namespace ColumnCast

/-- What the coefficient of a decimal stays below: two to the 96th power. -/
abbrev Decimal.coefficientBound : Nat := 79228162514264337593543950336

/-- The most places a decimal has. -/
abbrev Decimal.maxPlaces : Nat := 28

/-- The number `coefficient / 10 ^ places`. -/
structure Decimal where
  coefficient : Int
  places : Nat
  coefficient_lt : coefficient.natAbs < Decimal.coefficientBound
  places_le : places ≤ Decimal.maxPlaces
  deriving DecidableEq

namespace Decimal

/-- Ten to the number of places. -/
def scale (places : Nat) : Nat := Nat.pow 10 places

/-- The decimal of these parts, if they are within bounds. -/
def ofParts? (coefficient : Int) (places : Nat) : Option Decimal :=
  if h : coefficient.natAbs < coefficientBound ∧ places ≤ maxPlaces then
    some ⟨coefficient, places, h.1, h.2⟩
  else none

/-- A whole number within the 64 bits of a signed word. -/
def ofInt64 (value : Int64) : Decimal where
  coefficient := value.toInt
  places := 0
  coefficient_lt := by
    have low := value.le_toInt
    have high := value.toInt_lt
    unfold coefficientBound
    omega
  places_le := Nat.zero_le _

/-- Is the value of `a` below that of `b`? -/
def lt (a b : Decimal) : Bool :=
  a.coefficient * scale b.places < b.coefficient * scale a.places

/-- Have `a` and `b` the same value? -/
def same (a b : Decimal) : Bool :=
  a.coefficient * scale b.places == b.coefficient * scale a.places

/-- The larger of two decimals; the first if their values are equal. -/
def max (a b : Decimal) : Decimal := if a.lt b then b else a

/-- The smaller of two decimals; the first if their values are equal. -/
def min (a b : Decimal) : Decimal := if b.lt a then b else a

/-- Drops the zeros at the end of a fraction of `places` digits. -/
def dropZeros (coefficient : Int) : (places : Nat) → Int × Nat
  | 0 => (coefficient, 0)
  | places + 1 =>
    if coefficient.tmod 10 = 0 then dropZeros (coefficient.tdiv 10) places
    else (coefficient, places + 1)

/-- Dropping zeros grows neither the coefficient nor the places. -/
theorem dropZeros_le (coefficient : Int) (places : Nat) :
    (dropZeros coefficient places).1.natAbs ≤ coefficient.natAbs
      ∧ (dropZeros coefficient places).2 ≤ places := by
  induction places generalizing coefficient with
  | zero => exact ⟨Nat.le_refl _, Nat.le_refl _⟩
  | succ places ih =>
    unfold dropZeros
    split
    · have step := ih (coefficient.tdiv 10)
      have smaller : (coefficient.tdiv 10).natAbs ≤ coefficient.natAbs := by
        rw [Int.natAbs_tdiv]
        exact Nat.div_le_self _ _
      exact ⟨Nat.le_trans step.1 smaller, Nat.le_succ_of_le step.2⟩
    · exact ⟨Nat.le_refl _, Nat.le_refl _⟩

/-- The same value with the fewest places. -/
def normalize (d : Decimal) : Decimal where
  coefficient := (dropZeros d.coefficient d.places).1
  places := (dropZeros d.coefficient d.places).2
  coefficient_lt := Nat.lt_of_le_of_lt (dropZeros_le _ _).1 d.coefficient_lt
  places_le := Nat.le_trans (dropZeros_le _ _).2 d.places_le

/-- The nearest whole number; a half goes away from zero. -/
def roundToInt (d : Decimal) : Int :=
  let unit := scale d.places
  -- Half a unit is added before the places are cut off.
  let magnitude := (2 * d.coefficient.natAbs + unit) / (2 * unit)
  if d.coefficient < 0 then -(magnitude : Int) else magnitude

/-- The nearest whole number, if it is within the 64 bits of a signed word. -/
def toInt64? (d : Decimal) : Option Int64 :=
  let whole := d.roundToInt
  if -9223372036854775808 ≤ whole ∧ whole ≤ 9223372036854775807 then some (Int64.ofInt whole)
  else none

end Decimal

end ColumnCast
