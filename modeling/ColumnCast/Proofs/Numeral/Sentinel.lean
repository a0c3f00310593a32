import ColumnCast.Proofs.Decimal.Value

/-!
# `ColumnCast.Proofs.Numeral.Sentinel`: values beside the bounds

A value that is cut to bounds is refused if it stands one beside them.
`guarded?` is this for any two values to refuse, and `bounded?` is
`guarded?` for `below` of the lower bound and `above` of the upper one
(`bounded?_eq_guarded?`). The expression of the database names the same
two.

Both are words, as the bounds are. The least word has none below it, so
`below` gives it back, and then it is the bound itself that is refused,
and the value one below it that is cut to the bound. The greatest word is
alike. `guarded?_eq_iff` says for which values this makes a difference
(`AtEnd`).
-/

set_option autoImplicit false

namespace ColumnCast.Numeral

/-! ### Neighbours of words -/

theorem toInt_below (bound : Int64) : (below bound).toInt = max (bound.toInt - 1) (-2 ^ 63) := by
  have least : Int64.minValue.toInt = -2 ^ 63 := by decide
  have low := bound.le_toInt
  have high := bound.toInt_lt
  unfold below
  split
  · rename_i last
    rw [last, least]
    decide
  · rename_i other
    have above : bound.toInt ≠ -2 ^ 63 := by
      intro same
      rw [← least, Int64.toInt_inj] at same
      exact other same
    have one : (1 : Int64).toInt = 1 := by decide
    -- Away from the end the difference is a word, so nothing wraps.
    rw [Int64.toInt_sub, one, Int.bmod_eq_of_le (by omega) (by omega)]
    omega

theorem toInt_above (bound : Int64) : (above bound).toInt = min (bound.toInt + 1) (2 ^ 63 - 1) := by
  have greatest : Int64.maxValue.toInt = 2 ^ 63 - 1 := by decide
  have low := bound.le_toInt
  have high := bound.toInt_lt
  unfold above
  split
  · rename_i last
    rw [last, greatest]
    decide
  · rename_i other
    have below : bound.toInt ≠ 2 ^ 63 - 1 := by
      intro same
      rw [← greatest, Int64.toInt_inj] at same
      exact other same
    have one : (1 : Int64).toInt = 1 := by decide
    rw [Int64.toInt_add, one, Int.bmod_eq_of_le (by omega) (by omega)]
    omega

/-! ### Values that are refused -/

/-- The value, or the bound it lies beyond; none if it is `before` or `after`. -/
def guarded? (before after : ℤ) (value : Decimal) (low high : Int64) : Option Decimal :=
  if value.toRat = before ∨ value.toRat = after then none
  else if value.toRat < low.toInt then some (.ofInt64 low)
  else if (high.toInt : ℚ) < value.toRat then some (.ofInt64 high)
  else some value

section Bounds

variable {value : Decimal} {low high : Int64}

theorem clamp_eq (ordered : low.toInt ≤ high.toInt) :
    clamp value low high
      = if value.toRat < low.toInt then .ofInt64 low
        else if (high.toInt : ℚ) < value.toRat then .ofInt64 high
        else value := by
  have bounds : (low.toInt : ℚ) ≤ high.toInt := by exact_mod_cast ordered
  unfold clamp Decimal.max
  by_cases beyond : value.toRat < low.toInt
  · have lt : value.lt (.ofInt64 low) = true := by
      rw [Decimal.lt_iff, Decimal.toRat_ofInt64]
      exact beyond
    rw [if_pos lt, if_pos beyond]
    refine if_neg fun exceeds => ?_
    rw [Decimal.lt_iff, Decimal.toRat_ofInt64, Decimal.toRat_ofInt64] at exceeds
    exact absurd exceeds (not_lt.mpr bounds)
  · have notLt : ¬value.lt (.ofInt64 low) = true := by
      rw [Decimal.lt_iff, Decimal.toRat_ofInt64]
      exact beyond
    rw [if_neg notLt, if_neg beyond]
    unfold Decimal.min
    simp only [Decimal.lt_iff, Decimal.toRat_ofInt64]

theorem bounded?_eq_guarded? (ordered : low.toInt ≤ high.toInt) :
    bounded? value low high = guarded? (below low).toInt (above high).toInt value low high := by
  rw [bounded?_eq, clamp_eq ordered]
  unfold guarded?
  split
  · rfl
  · split
    · rfl
    · split <;> rfl

/-- What is cut to bounds is none only where it is refused. -/
theorem guarded?_eq_none_iff {before after : ℤ} :
    guarded? before after value low high = none ↔ value.toRat = before ∨ value.toRat = after := by
  unfold guarded?
  split
  · rename_i refused
    exact iff_of_true rfl refused
  · rename_i kept
    refine iff_of_false ?_ kept
    split
    · simp
    · split <;> simp

/-- Two pairs of values to refuse are told apart by the values in one of them only. -/
theorem guarded?_congr_iff {before after before' after' : ℤ} :
    guarded? before after value low high = guarded? before' after' value low high
      ↔ (value.toRat = before ∨ value.toRat = after ↔ value.toRat = before' ∨ value.toRat = after') := by
  constructor
  · intro same
    rw [← guarded?_eq_none_iff, ← guarded?_eq_none_iff, same]
  · intro same
    unfold guarded?
    simp only [same]

/-- The value stands on a bound that is the last word of its side, or one beyond it. -/
def AtEnd (low high : Int64) (x : ℚ) : Prop :=
  (low.toInt = -2 ^ 63 ∧ (x = low.toInt ∨ x = (low.toInt - 1 : ℤ)))
    ∨ (high.toInt = 2 ^ 63 - 1 ∧ (x = high.toInt ∨ x = (high.toInt + 1 : ℤ)))

/-- **The neighbours that are words serve as well as the neighbours, except at the ends.** -/
theorem guarded?_eq_iff (ordered : low.toInt ≤ high.toInt) :
    guarded? (max (low.toInt - 1) (-2 ^ 63)) (min (high.toInt + 1) (2 ^ 63 - 1)) value low high
        = guarded? (low.toInt - 1) (high.toInt + 1) value low high
      ↔ ¬AtEnd low high value.toRat := by
  have least := low.le_toInt
  have greatest := high.toInt_lt
  rw [guarded?_congr_iff]
  unfold AtEnd
  generalize value.toRat = x
  by_cases whole : ∃ n : ℤ, x = n
  · -- Among whole numbers it is arithmetic of words.
    obtain ⟨n, rfl⟩ := whole
    simp only [Int.cast_inj]
    omega
  · have apart (n : ℤ) : x ≠ n := fun eq => whole ⟨n, eq⟩
    simp only [apart, or_self, and_false, not_false_eq_true]

end Bounds

/-! ### The expression -/

theorem render_castBounded (e : Sql.Expr) (low high : Int64) :
    (castBounded e low high).render
      = "CASE WHEN " ++ e.render ++ " IS NULL OR " ++ e.render
        ++ " IN (" ++ toString (below low).toInt ++ ", " ++ toString (above high).toInt
        ++ ") THEN NULL ELSE LEAST(GREATEST(" ++ e.render ++ ", " ++ toString low.toInt ++ "), "
        ++ toString high.toInt ++ ") END" := by
  simp only [castBounded, Sql.Expr.render, Sql.Expr.renderArms, Sql.Choices.render,
    List.map_cons, List.map_nil, String.intercalate_cons_cons, String.intercalate_singleton,
    String.append_assoc]
  rfl

/-! ### Bounded values -/

/-- **A value cut to bounds.** It is refused where it is the word below the lower bound or above
the upper one, or the bound itself where there is none. So the outcome is that of refusing the
two whole numbers beside the bounds, unless the value stands at an end of the words. The
expression names the same two. -/
theorem bounded?_sentinels (value : Decimal) {low high : Int64} (ordered : low ≤ high) :
    bounded? value low high
        = guarded? (max (low.toInt - 1) (-2 ^ 63)) (min (high.toInt + 1) (2 ^ 63 - 1)) value low high
      ∧ (bounded? value low high = guarded? (low.toInt - 1) (high.toInt + 1) value low high
          ↔ ¬AtEnd low high value.toRat)
      ∧ ∀ e : Sql.Expr, (castBounded e low high).render
        = "CASE WHEN " ++ e.render ++ " IS NULL OR " ++ e.render
          ++ " IN (" ++ toString (max (low.toInt - 1) (-2 ^ 63)) ++ ", "
          ++ toString (min (high.toInt + 1) (2 ^ 63 - 1))
          ++ ") THEN NULL ELSE LEAST(GREATEST(" ++ e.render ++ ", " ++ toString low.toInt ++ "), "
          ++ toString high.toInt ++ ") END" := by
  have bounds := Int64.le_iff_toInt_le.mp ordered
  have refused := @bounded?_eq_guarded? value low high bounds
  rw [toInt_below, toInt_above] at refused
  refine ⟨refused, ?_, fun e => ?_⟩
  · rw [refused]
    exact guarded?_eq_iff bounds
  · rw [render_castBounded, toInt_below, toInt_above]

/-- A fraction beside the year that is refused is cut to the bound. -/
theorem bounded?_sentinels_year :
    (1000 : Int64) ≤ 9999
      ∧ bounded? ⟨9995, 1, by decide, by decide⟩ 1000 9999 = some (.ofInt64 1000)
      ∧ bounded? (.ofInt64 999) 1000 9999 = none := by
  have ordered : (1000 : Int64) ≤ 9999 := by decide
  have fraction := (bounded?_sentinels ⟨9995, 1, by decide, by decide⟩ ordered).1
  have whole := (bounded?_sentinels (.ofInt64 999) ordered).1
  exact ⟨ordered, fraction.trans (by decide +kernel), whole.trans (by decide +kernel)⟩

/-- The least word as the lower bound: it is between the bounds and is refused. -/
theorem bounded?_refuses_bound :
    Int64.minValue ≤ 0
      ∧ bounded? (.ofInt64 Int64.minValue) Int64.minValue 0 = none
      ∧ guarded? (Int64.minValue.toInt - 1) ((0 : Int64).toInt + 1) (.ofInt64 Int64.minValue)
          Int64.minValue 0
        = some (.ofInt64 Int64.minValue) := by
  refine ⟨by decide, ?_, ?_⟩ <;> decide +kernel

end ColumnCast.Numeral
