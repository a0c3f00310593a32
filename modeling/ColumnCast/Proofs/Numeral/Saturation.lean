import ColumnCast.Proofs.Numeral.Canonical
import ColumnCast.Proofs.Numeral.Separator

/-!
# `ColumnCast.Proofs.Numeral.Saturation`: numbers too large for a decimal

A numeral that no decimal has room for is kept as digits. Where a decimal
is needed, `saturate` puts the upper bound in its place and does not look
at the digits. This is right as long as digits are kept for one reason
only: a small number that could not be read for another reason would
count as the upper bound.

* `exists_wide_iff`: the size of the number is the reason. Zeros in front,
  long fractions and other characters are none.
* `Decimal.toInt_lt_of_held?_eq_none`: a number of that size is above every
  word, and so above every bound.
* `Reads.clamp_saturate`: cut to bounds, the decimal that stands in for a
  numeral is what is kept of its number, or all of it if nothing can be.
* `saturate_wide`: the digits are canonical and write the number of the
  cell, and cut to bounds the stand-in is that number.
-/

set_option autoImplicit false

namespace ColumnCast

open Written (Parts kept)

/-- A cell without a digit writes zero. -/
theorem Written.number_ofCell_eq_zero {cell : String}
    (noDigit : ∀ c ∈ cell.toList, c.isDigit = false) : (ofCell cell).number = 0 := by
  have whole : (ofCell cell).whole = [] := whole_ofCell_eq_nil_iff.mpr noDigit
  have fraction : (ofCell cell).fraction = [] := by
    obtain ⟨points, rest, -, -, digits, follows⟩ := exists_kept cell
    have nothing : rest = [] := follows.resolve_right fun more => more.1 whole
    rw [← digits, nothing]
    rfl
  rw [number_eq, whole, fraction, fractionValue_nil, add_zero]
  rfl

namespace Numeral

/-! ### When digits are kept -/

/-- **Digits are kept for their size only**: there is no room for the whole part of the number,
or the fraction rounds it up to the bound. -/
theorem exists_wide_iff {cell : String} :
    (∃ digits, ofCell? cell = some (.wide digits))
      ↔ (Decimal.coefficientBound : ℤ) ≤ round (Written.ofCell cell).number := by
  rw [← Decimal.held?_eq_none_iff]
  constructor
  · rintro ⟨digits, found⟩
    exact (reads_of_ofCell? found).2
  · intro large
    have digit : ∃ c ∈ cell.toList, c.isDigit = true := by
      by_contra none
      have noDigit : ∀ c ∈ cell.toList, c.isDigit = false := by simpa using none
      -- Zero is held by a decimal.
      rw [Written.number_ofCell_eq_zero noDigit, Decimal.held?_eq_none_iff, round_zero] at large
      exact absurd large (by decide)
    obtain ⟨numeral, found, reads⟩ := exists_reads digit
    cases numeral with
    | exact value =>
        have held : Decimal.held? (Written.ofCell cell).number = some value.toRat := reads.2
        rw [large] at held
        exact absurd held (by simp)
    | wide digits => exact ⟨digits, found⟩

/-! ### What stands in for them -/

/-- A number too large for a decimal is beyond every bound, as its stand-in is. -/
theorem Reads.clamp_saturate {w : Written} {numeral : Numeral} (reads : numeral.Reads w)
    (low high : Int64) :
    min (max (numeral.saturate high).toRat low.toInt) high.toInt
      = min (max ((Decimal.held? w.number).getD w.number) low.toInt) (high.toInt : ℚ) := by
  cases numeral with
  | exact value =>
      rw [reads.2]
      rfl
  | wide digits =>
      have beyond : (high.toInt : ℚ) ≤ w.number :=
        (Decimal.toInt_lt_of_held?_eq_none reads.2 high).le
      rw [reads.2, Option.getD_none]
      show min (max (Decimal.ofInt64 high).toRat _) _ = _
      rw [Decimal.toRat_ofInt64, min_eq_right (le_max_left _ _),
        min_eq_right (beyond.trans (le_max_left _ _))]

/-- **Saturating is sound.** Digits are kept of a cell exactly where its number is too large for
a decimal. They are canonical and write that number, which is above every word. So whatever the
bounds are, the upper one in its place, cut to them, is the number cut to them. -/
theorem saturate_wide (cell : String) :
    ∃ w, Parts (kept cell) w
      ∧ ((∃ digits, ofCell? cell = some (.wide digits))
          ↔ (Decimal.coefficientBound : ℤ) ≤ round w.number)
      ∧ ∀ digits, ofCell? cell = some (.wide digits) →
        (∃ canonical : Written, digits = String.ofList canonical.text ∧ canonical.Proper
            ∧ canonical.IsCanonical ∧ canonical.number = w.number)
          ∧ (Int64.maxValue.toInt : ℚ) < w.number
          ∧ ∀ low high : Int64,
            (clamp (saturate high (.wide digits)) low high).toRat
              = min (max w.number low.toInt) high.toInt := by
  refine ⟨Written.ofCell cell, Written.parts_ofCell cell, exists_wide_iff, fun digits found => ?_⟩
  have reads := reads_of_ofCell? found
  have large : Decimal.held? (Written.ofCell cell).number = none := reads.2
  refine ⟨?_, Decimal.toInt_lt_of_held?_eq_none large _, fun low high => ?_⟩
  · cases isNormal_of_ofCell? found with
    | wide proper canonical number => exact ⟨_, rfl, proper, canonical, number⟩
  · rw [toRat_clamp, reads.clamp_saturate low high, large, Option.getD_none]

/-- The whole part has room in a decimal, and half of one behind it rounds it up to the bound.
Neither the sign in front nor the zeros around the digits are kept. -/
theorem saturate_wide_carried :
    ofCell? "-$00,079,228,162,514,264,337,593,543,950,335.500"
        = some (.wide "79228162514264337593543950335.5")
      ∧ (Int64.maxValue.toInt : ℚ) < 158456325028528675187087900671 / 2
      ∧ (clamp (saturate 100 (.wide "79228162514264337593543950335.5")) (-5) 100).toRat
        = min (max (158456325028528675187087900671 / 2) (-5)) 100 := by
  have found : ofCell? "-$00,079,228,162,514,264,337,593,543,950,335.500"
      = some (.wide "79228162514264337593543950335.5") := by
    decide +kernel
  obtain ⟨w, parts, -, sound⟩ :=
    saturate_wide "-$00,079,228,162,514,264,337,593,543,950,335.500"
  obtain ⟨-, above, clamped⟩ := sound _ found
  have number : w.number = 158456325028528675187087900671 / 2 := by
    rw [Written.parts_iff.mp parts]
    decide +kernel
  have cut := clamped (-5) 100
  have low : (-5 : Int64).toInt = -5 := rfl
  have high : (100 : Int64).toInt = 100 := rfl
  rw [number] at above
  rw [number, low, high, Int.cast_neg, Int.cast_ofNat, Int.cast_ofNat] at cut
  exact ⟨found, above, cut⟩

end Numeral

end ColumnCast
