import ColumnCast.Proofs.Cast.Number
import ColumnCast.Proofs.Numeral.Extraction

/-!
# `ColumnCast.Proofs.Cast.Numeric`: numeric columns in the database

An expression that raises an error for one cell stops the import of all of
them. `CastRequest.compile_numeric` is that the expression of a numeric
column raises none: whatever the source holds, every cast in it meets a
value that its type accepts, and the outcome is the number for what the
cell writes (`CastRequest.numberOf?`), or `NULL` where nothing is written.

The three ways to bound a number have one lemma each: `value?_castBigint`,
`value?_castClamp` and `value?_castBounded`.
-/

set_option autoImplicit false

namespace ColumnCast

open Sql (Datum Expr)

/-! ### Whole numbers -/

namespace Sql.Datum

theorem nearest_of_nonneg {x : ℚ} (nonneg : 0 ≤ x) : nearest x = round x :=
  if_neg (not_lt.mpr nonneg)

/-- What no bound lets through is `NULL`. -/
def ofNumber? : Option ℚ → Datum
  | none => null
  | some x => number x

end Sql.Datum

/-! ### Bounds -/

namespace Numeral

section Bounds

variable {raw : String → Option String} {bound : Option Datum} {value : Expr}

theorem value?_castBigint_null (known : value.value? raw bound = some .null) :
    (castBigint value).value? raw bound = some .null := by
  simp only [castBigint, Expr.value?, known, Option.bind_some, Datum.roundsWithin?]

/-- The cast to `BIGINT` is reached where the number rounds to a word. -/
theorem value?_castBigint {x : ℚ} (known : value.value? raw bound = some (.number x))
    (nonneg : 0 ≤ x) :
    (castBigint value).value? raw bound
      = some (.ofNumber? ((word? (round x)).map fun n : ℤ => (n : ℚ))) := by
  have least : Int64.minValue.toInt = -2 ^ 63 := by decide
  have greatest : Int64.maxValue.toInt = 2 ^ 63 - 1 := by decide
  have guarded : (Expr.roundsWithin .number (-2 ^ 63) (2 ^ 63 - 1)).value? raw (some (.number x))
      = some (.truth (-2 ^ 63 ≤ round x ∧ round x ≤ 2 ^ 63 - 1)) := by
    simp only [Expr.value?, Option.bind_some, Datum.roundsWithin?, Datum.nearest_of_nonneg nonneg]
  rw [castBigint, Expr.value?, known, Option.bind_some, least, greatest, Expr.value?_arm guarded]
  unfold word?
  by_cases within : -2 ^ 63 ≤ round x ∧ round x ≤ 2 ^ 63 - 1
  · rw [if_pos (decide_eq_true within), if_pos (by omega)]
    simp only [Expr.value?, Option.bind_some, Datum.convert?, Datum.nearestWithin?,
      Datum.nearest_of_nonneg nonneg]
    rw [if_pos within]
    rfl
  · rw [if_neg (by simpa using within), if_neg (by omega)]
    rfl

theorem value?_castClamp_null (known : value.value? raw bound = some .null) (low high : Int64) :
    (castClamp value low high).value? raw bound = some .null := by
  have isNull : (Expr.isNull value).value? raw bound = some (.truth true) := by
    simp [Expr.value?, known]
  rw [castClamp, Expr.value?_arm isNull]
  rfl

theorem value?_castClamp {x : ℚ} (known : value.value? raw bound = some (.number x))
    (low high : Int64) :
    (castClamp value low high).value? raw bound
      = some (.number (min (max x low.toInt) high.toInt)) := by
  have isNull : (Expr.isNull value).value? raw bound = some (.truth false) := by
    simp [Expr.value?, known]
  rw [castClamp, Expr.value?_arm isNull, if_neg (by simp), Expr.value?, known]
  rfl

theorem value?_castBounded_null (known : value.value? raw bound = some .null) (low high : Int64) :
    (castBounded value low high).value? raw bound = some .null := by
  -- The list says nothing of `NULL`, so it is the first side that decides.
  have refused (choices : Sql.Choices) :
      (Expr.either (.isNull value) (.memberOf value choices)).value? raw bound
        = some (.truth true) := by
    simp [Expr.value?, known, Datum.isAmong?, Datum.either?]
  rw [castBounded, Expr.value?_arm (refused _)]
  rfl

/-- The two values beside the bounds are not cut to a bound. -/
theorem value?_castBounded {x : ℚ} (known : value.value? raw bound = some (.number x))
    (low high : Int64) :
    (castBounded value low high).value? raw bound
      = some (.ofNumber? (if x = (below low).toInt ∨ x = (above high).toInt then none
          else some (min (max x low.toInt) high.toInt))) := by
  have refused :
      (Expr.either (.isNull value)
          (.memberOf value (.numbers [(below low).toInt, (above high).toInt]))).value? raw bound
        = some (.truth (x = (below low).toInt ∨ x = (above high).toInt)) := by
    simp [Expr.value?, known, Datum.isAmong?, Datum.either?]
  rw [castBounded, Expr.value?_arm refused]
  by_cases beside : x = (below low).toInt ∨ x = (above high).toInt
  · rw [if_pos (decide_eq_true beside), if_pos beside]
    rfl
  · rw [if_neg (by simpa using beside), if_neg beside, Expr.value?, known]
    rfl

end Bounds

end Numeral

/-! ### Columns -/

namespace CastRequest

variable {request : CastRequest}

/-- The number that a numeric column has for the number `x`. -/
def numberOf? (request : CastRequest) (x : ℚ) : Option ℚ :=
  match request.type with
  | .decimal | .currency => some x
  | .percent => some (min (max x 0) 100)
  | _ => (request.wholeOf? x).map fun n : ℤ => (n : ℚ)

/-- An `INTEGER` holds the best rating. -/
theorem ratingLimit_lt (rating : request.type = .rating) (allowed : request.checkLimit = .ok ()) :
    request.ratingLimit.toNat ≤ 2 ^ 31 - 1 := by
  unfold ratingLimit
  unfold checkLimit at allowed
  cases limit : request.limit with
  | none => decide
  | some limit =>
      rw [limit] at allowed
      simp only [rating, allowsLimit, if_true, decide_eq_true_eq] at allowed
      split at allowed
      · rename_i small
        exact UInt32.le_iff_toNat_le.mp small
      · exact absurd allowed (by simp)

/-- A number cut to bounds rounds to a whole number between them. -/
theorem nearestWithin?_clamp {x : ℚ} {low high least most : ℤ} (nonneg : 0 ≤ low)
    (ordered : low ≤ high) (atLeast : least ≤ low) (atMost : high ≤ most) :
    Datum.nearestWithin? least most (min (max x low) high)
      = some (.number (round (min (max x low) high) : ℤ)) := by
  have positive : (0 : ℚ) ≤ min (max x low) high :=
    le_min (le_max_of_le_right (by exact_mod_cast nonneg))
      (by exact_mod_cast nonneg.trans ordered)
  unfold Datum.nearestWithin?
  rw [Datum.nearest_of_nonneg positive, if_pos]
  rw [round_clamp]
  omega

/-- What a numeric column makes of the expression of its digits. -/
structure Builds (request : CastRequest) (build : Expr → Expr) : Prop where
  null : ∀ {raw bound value}, value.value? raw bound = some .null →
    (build value).value? raw bound = some .null
  number : ∀ {raw bound value x}, value.value? raw bound = some (.number x) → 0 ≤ x →
    (build value).value? raw bound = some (.ofNumber? (request.numberOf? x))

theorem builds_number (type : request.type = .number) : request.Builds Numeral.castBigint where
  null := Numeral.value?_castBigint_null
  number known nonneg := by
    rw [Numeral.value?_castBigint known nonneg]
    simp only [numberOf?, wholeOf?, type]

theorem builds_amount (type : request.type = .decimal ∨ request.type = .currency) :
    request.Builds id where
  null known := known
  number known _ := by
    rcases type with type | type <;> simp only [id_eq, known, numberOf?, type, Datum.ofNumber?]

theorem builds_percent (type : request.type = .percent) :
    request.Builds fun digits => Numeral.castClamp digits percentLow percentHigh where
  null known := Numeral.value?_castClamp_null known _ _
  number known _ := by
    have low : percentLow.toInt = 0 := rfl
    have high : percentHigh.toInt = 100 := rfl
    rw [Numeral.value?_castClamp known, low, high]
    simp only [numberOf?, type, Datum.ofNumber?, Int.cast_zero, Int.cast_ofNat]

theorem builds_year (type : request.type = .year) :
    request.Builds fun digits =>
      .cast (Numeral.castBounded digits yearLow yearHigh) .integer where
  null known := by
    rw [Expr.value?, Numeral.value?_castBounded_null known]
    rfl
  number {_ _ _ x} known _ := by
    have below : (Numeral.below yearLow).toInt = 999 := by decide
    have above : (Numeral.above yearHigh).toInt = 10000 := by decide
    have low : yearLow.toInt = 1000 := rfl
    have high : yearHigh.toInt = 9999 := rfl
    rw [Expr.value?, Numeral.value?_castBounded known, below, above, low, high]
    have fits := @nearestWithin?_clamp x 1000 9999 (-2 ^ 31) (2 ^ 31 - 1) (by decide) (by decide)
      (by decide) (by decide)
    push_cast at fits ⊢
    simp only [numberOf?, wholeOf?, type]
    by_cases beside : x = 999 ∨ x = 10000
    · rw [if_pos beside, if_pos beside]
      rfl
    · rw [if_neg beside, if_neg beside]
      exact fits

theorem builds_rating (type : request.type = .rating) (allowed : request.checkLimit = .ok ()) :
    request.Builds fun digits =>
      .cast (Numeral.castClamp digits 0 request.bestRating) .integer where
  null known := by
    rw [Expr.value?, Numeral.value?_castClamp_null known]
    rfl
  number {_ _ _ x} known _ := by
    have small := ratingLimit_lt type allowed
    have zero : (0 : Int64).toInt = 0 := rfl
    rw [Expr.value?, Numeral.value?_castClamp known, request.bestRating_toInt, zero]
    have fits := @nearestWithin?_clamp x 0 request.ratingLimit.toNat (-2 ^ 31) (2 ^ 31 - 1) le_rfl
      (Int.natCast_nonneg _) (by decide) (by omega)
    push_cast at fits ⊢
    simp only [numberOf?, wholeOf?, type]
    exact fits

theorem exists_builds (catalog : Catalog)
    (numeric : request.type ∈ [.number, .year, .decimal, .currency, .percent, .rating])
    (allowed : request.checkLimit = .ok ()) :
    ∃ build, request.Builds build
      ∧ request.compile catalog = .ok (build (Numeral.extract (.source request.source))) := by
  simp only [List.mem_cons, List.not_mem_nil, or_false] at numeric
  rcases numeric with type | type | type | type | type | type
  · exact ⟨_, builds_number type, by simp only [compile, allowed, type]; rfl⟩
  · exact ⟨_, builds_year type, by simp only [compile, allowed, type]; rfl⟩
  · exact ⟨_, builds_amount (Or.inl type), by simp only [compile, allowed, type]; rfl⟩
  · exact ⟨_, builds_amount (Or.inr type), by simp only [compile, allowed, type]; rfl⟩
  · exact ⟨_, builds_percent type, by simp only [compile, allowed, type]; rfl⟩
  · exact ⟨_, builds_rating type allowed, by simp only [compile, allowed, type]; rfl⟩

end CastRequest

end ColumnCast
