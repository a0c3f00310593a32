import ColumnCast.Proofs.Numeral
import Mathlib.Algebra.Order.Round
import Mathlib.Data.Rat.Floor
import Mathlib.Tactic.FieldSimp
import Mathlib.Tactic.GCongr
import Mathlib.Tactic.Linarith

/-!
# `ColumnCast.Proofs.Decimal.Value`: decimals and numerals as numbers

`Decimal.toRat` is the number that a decimal stands for, `Written.number`
the one that the digits of a cell write. The operations on decimals are
those on numbers: comparison (`lt_iff`, `same_iff`), bounds
(`Numeral.toRat_clamp`), the nearest whole number (`roundToInt_eq`). A
number has one decimal without a place too many (`eq_of_toRat`).

`Denotes` relates a text to the number it writes. A decimal is shown as
its number (`denotes_toText`), canonical digits write the number of the
digits they come from (`number_shortened`), and no text writes two
numbers (`Denotes.unique`).

Numerals have no sign, so a half that `round` takes up goes away from zero.
-/

set_option autoImplicit false

namespace ColumnCast

open Text (AreDigits digitsValue)

/-! ### The number of a decimal -/

namespace Decimal

/-- The number that a decimal stands for. -/
def toRat (d : Decimal) : ℚ := d.coefficient / 10 ^ d.places

theorem scale_eq (places : Nat) : ((scale places : Nat) : ℚ) = 10 ^ places := by
  unfold scale
  push_cast [Nat.pow_eq]
  rfl

theorem ten_pow_pos (places : Nat) : (0 : ℚ) < 10 ^ places := by positivity

/-- Two quotients are in the order of their cross products. -/
theorem lt_iff {a b : Decimal} : a.lt b = true ↔ a.toRat < b.toRat := by
  unfold lt toRat
  rw [decide_eq_true_iff, div_lt_div_iff₀ (ten_pow_pos _) (ten_pow_pos _), ← scale_eq, ← scale_eq]
  exact_mod_cast Iff.rfl

theorem same_iff {a b : Decimal} : a.same b = true ↔ a.toRat = b.toRat := by
  unfold same toRat
  rw [beq_iff_eq, div_eq_div_iff (ten_pow_pos _).ne' (ten_pow_pos _).ne', ← scale_eq, ← scale_eq]
  exact_mod_cast Iff.rfl

theorem toRat_normalize (d : Decimal) : d.normalize.toRat = d.toRat :=
  same_iff.mp d.same_normalize

theorem toRat_ofInt64 (n : Int64) : (ofInt64 n).toRat = n.toInt := by
  simp [toRat, ofInt64]

theorem toRat_max (a b : Decimal) : (a.max b).toRat = Max.max a.toRat b.toRat := by
  unfold Decimal.max
  split
  · rename_i lt
    exact (max_eq_right (lt_iff.mp lt).le).symm
  · rename_i notLt
    exact (max_eq_left (not_lt.mp fun lt => notLt (lt_iff.mpr lt))).symm

theorem toRat_min (a b : Decimal) : (a.min b).toRat = Min.min a.toRat b.toRat := by
  unfold Decimal.min
  split
  · rename_i lt
    exact (min_eq_right (lt_iff.mp lt).le).symm
  · rename_i notLt
    exact (min_eq_left (not_lt.mp fun lt => notLt (lt_iff.mpr lt))).symm

theorem coefficient_nonneg {d : Decimal} (nonneg : 0 ≤ d.toRat) : 0 ≤ d.coefficient := by
  by_contra negative
  have numerator : (d.coefficient : ℚ) < 0 := by exact_mod_cast not_le.mp negative
  exact absurd (div_neg_of_neg_of_pos numerator (ten_pow_pos d.places)) (not_lt.mpr nonneg)

/-- Half a unit is added and the places are cut off: this is rounding. -/
theorem roundToInt_eq {d : Decimal} (nonneg : 0 ≤ d.coefficient) : d.roundToInt = round d.toRat := by
  obtain ⟨c, eq⟩ := Int.eq_ofNat_of_zero_le nonneg
  have unit := ten_pow_pos d.places
  have quotient : d.toRat + 1 / 2
      = ((2 * c + scale d.places : Nat) : ℚ) / ((2 * scale d.places : Nat) : ℚ) := by
    unfold toRat
    rw [eq]
    push_cast [scale_eq]
    field_simp
  rw [round_eq, quotient, Rat.floor_natCast_div_natCast]
  unfold roundToInt
  rw [eq, if_neg (by omega)]
  rfl

/-! ### The fewest places -/

variable {m n : ℤ} {p q : Nat}

/-- If the last of the places is needed, no quotient of this value has fewer. -/
theorem places_le_of_fewest (fewest : q = 0 ∨ ¬(10 : ℤ) ∣ n)
    (same : (m : ℚ) / 10 ^ p = n / 10 ^ q) : q ≤ p := by
  by_contra more
  obtain ⟨k, rfl⟩ : ∃ k, q = p + k + 1 := ⟨q - p - 1, by omega⟩
  have needed : ¬(10 : ℤ) ∣ n := fewest.resolve_left (Nat.succ_ne_zero _)
  -- With the further places the numerator would be a multiple of ten.
  have cross : (n : ℚ) = ((10 * (m * 10 ^ k) : ℤ) : ℚ) := by
    rw [div_eq_div_iff (ten_pow_pos _).ne' (ten_pow_pos _).ne'] at same
    have cancelled : (n : ℚ) * 10 ^ p = (10 * (m * 10 ^ k)) * 10 ^ p := by
      rw [← same]
      ring
    push_cast
    exact mul_right_cancel₀ (ten_pow_pos p).ne' cancelled
  have multiple : n = 10 * (m * 10 ^ k) := by exact_mod_cast cross
  exact needed ⟨_, multiple⟩

/-- A value has one quotient by a power of ten with the fewest places. -/
theorem eq_of_fewest (fewest : p = 0 ∨ ¬(10 : ℤ) ∣ m) (fewest' : q = 0 ∨ ¬(10 : ℤ) ∣ n)
    (same : (m : ℚ) / 10 ^ p = n / 10 ^ q) : m = n ∧ p = q := by
  obtain rfl : p = q :=
    Nat.le_antisymm (places_le_of_fewest fewest same.symm) (places_le_of_fewest fewest' same)
  have numerators : (m : ℚ) = n := (div_left_inj' (ten_pow_pos p).ne').mp same
  exact ⟨by exact_mod_cast numerators, rfl⟩

/-- The last place of the decimal is needed. -/
def IsFewest (d : Decimal) : Prop := d.places = 0 ∨ ¬(10 : ℤ) ∣ d.coefficient

/-- Zeros are dropped as long as there is a place and a zero in it. -/
theorem dropZeros_fewest (coefficient : Int) (places : Nat) :
    (dropZeros coefficient places).2 = 0 ∨ ¬(10 : ℤ) ∣ (dropZeros coefficient places).1 := by
  induction places generalizing coefficient with
  | zero => exact Or.inl rfl
  | succ places ih =>
      unfold dropZeros
      split
      · exact ih _
      · rename_i digit
        right
        intro multiple
        exact digit (Int.dvd_iff_tmod_eq_zero.mp multiple)

theorem isFewest_normalize (d : Decimal) : d.normalize.IsFewest :=
  dropZeros_fewest d.coefficient d.places

/-- Decimals of one value are one decimal, if neither has a place too many. -/
theorem eq_of_toRat {a b : Decimal} (ha : a.IsFewest) (hb : b.IsFewest)
    (same : a.toRat = b.toRat) : a = b := by
  obtain ⟨coefficient, places⟩ := eq_of_fewest ha hb same
  cases a
  cases b
  simp only at coefficient places
  subst coefficient
  subst places
  rfl

end Decimal

/-! ### The number of a cell -/

namespace Written

/-- The part of one that digits behind a point write. -/
def fractionValue (digits : List Char) : ℚ := digitsValue digits / 10 ^ digits.length

theorem fractionValue_nil : fractionValue [] = 0 := by
  simp [fractionValue, digitsValue]

theorem fractionValue_cons (c : Char) (digits : List Char) :
    fractionValue (c :: digits) = ((c.toNat - 48 : Nat) + fractionValue digits) / 10 := by
  unfold fractionValue
  rw [Text.digitsValue_cons, List.length_cons, pow_succ]
  push_cast
  field_simp

/-- A zero at the end writes nothing. -/
theorem fractionValue_concat_zero (digits : List Char) :
    fractionValue (digits ++ ['0']) = fractionValue digits := by
  unfold fractionValue
  rw [Text.digitsValue_append, List.length_append, pow_add]
  have zero : digitsValue ['0'] = 0 := rfl
  rw [zero]
  push_cast
  field_simp
  simp

theorem fractionValue_nonneg (digits : List Char) : 0 ≤ fractionValue digits := by
  unfold fractionValue
  positivity

theorem fractionValue_lt_one {digits : List Char} (h : AreDigits digits) :
    fractionValue digits < 1 := by
  unfold fractionValue
  rw [div_lt_one (by positivity)]
  exact_mod_cast Text.digitsValue_lt h

/-- The number that the digits write. -/
def number (w : Written) : ℚ := digitsValue (w.whole ++ w.fraction) / 10 ^ w.fraction.length

theorem number_nonneg (w : Written) : 0 ≤ w.number := by
  unfold number
  positivity

theorem number_eq (w : Written) : w.number = digitsValue w.whole + fractionValue w.fraction := by
  unfold number fractionValue
  rw [Text.digitsValue_append]
  push_cast
  field_simp

/-- A cell without a digit writes no numeral. -/
theorem whole_ofCell_eq_nil_iff {cell : String} :
    (ofCell cell).whole = [] ↔ ∀ c ∈ cell.toList, c.isDigit = false := by
  show ((cell.toList.filter isKept).dropWhile (· == '.')).takeWhile Char.isDigit = [] ↔ _
  -- Behind the points that are dropped the first character would be a digit.
  cases rest : (cell.toList.filter isKept).dropWhile (· == '.') with
  | nil =>
      simp only [List.takeWhile_nil, true_iff]
      intro c mem
      by_contra digit
      have isDigit : c.isDigit = true := by simpa using digit
      have kept : c ∈ cell.toList.filter isKept :=
        List.mem_filter.mpr ⟨mem, isKept_of_isDigit isDigit⟩
      have point := List.dropWhile_eq_nil_iff.mp rest c kept
      rw [beq_iff_eq.mp point] at isDigit
      exact absurd isDigit (by decide)
  | cons c more =>
      have inside : c ∈ cell.toList.filter isKept :=
        (List.dropWhile_suffix _).subset (rest ▸ List.mem_cons_self)
      have notPoint : (c == '.') = false := by
        have head := List.head?_dropWhile_not (· == '.') (cell.toList.filter isKept)
        simpa [rest] using head
      have isDigit : c.isDigit = true := by
        have kept := (List.mem_filter.mp inside).2
        unfold isKept at kept
        rw [notPoint, Bool.or_false] at kept
        exact kept
      rw [List.takeWhile_cons_of_pos isDigit]
      simp only [reduceCtorEq, false_iff]
      intro none
      exact absurd (none c (List.mem_filter.mp inside).1) (by simp [isDigit])

/-- A cell with a digit writes a numeral. -/
theorem proper_of_digit {cell : String} (digit : ∃ c ∈ cell.toList, c.isDigit = true) :
    (ofCell cell).Proper := by
  refine proper_ofCell fun empty => ?_
  obtain ⟨c, mem, isDigit⟩ := digit
  have other : c.isDigit = false := whole_ofCell_eq_nil_iff.mp empty c mem
  exact Text.ne_of_isDigit isDigit other rfl

/-! ### Texts that write a number -/

/-- The text writes the number, in digits with a point among them or without. -/
def Denotes (text : String) (x : ℚ) : Prop :=
  ∃ w : Written, w.Proper ∧ text = String.ofList w.text ∧ w.number = x

theorem Denotes.unique {text : String} {x y : ℚ} (h : Denotes text x) (h' : Denotes text y) :
    x = y := by
  obtain ⟨w, proper, rfl, rfl⟩ := h
  obtain ⟨w', proper', same, rfl⟩ := h'
  -- What a text writes comes out of it as a cell.
  rw [← proper.ofCell_text, same, proper'.ofCell_text]

/-- The number that a text writes, if it writes one. -/
def denoted? (text : String) : Option ℚ :=
  let w := ofCell text
  if w.whole ≠ [] ∧ w.text = text.toList then some w.number else none

theorem denoted?_eq_some_iff {text : String} {x : ℚ} : denoted? text = some x ↔ Denotes text x := by
  unfold denoted?
  constructor
  · intro found
    obtain ⟨⟨inhabited, eq⟩, number⟩ := Option.ite_none_right_eq_some.mp found
    refine ⟨ofCell text, proper_ofCell inhabited, ?_, Option.some.inj number⟩
    rw [eq, String.ofList_toList]
  · rintro ⟨w, proper, rfl, rfl⟩
    simp only [proper.ofCell_text, String.toList_ofList]
    exact if_pos ⟨proper.inhabited, trivial⟩

/-- The whole part begins with no zero that could be left out, the fraction ends with none. -/
structure IsCanonical (w : Written) : Prop where
  whole : ∀ rest, w.whole = '0' :: rest → rest = []
  fraction : w.fraction.getLast? ≠ some '0'

theorem isCanonical_shortened (w : Written) : w.shortened.IsCanonical where
  whole rest eq := by
    have first := List.head?_dropWhile_not (· == '0') w.whole
    unfold shortened at eq
    cases kept : w.whole.dropWhile (· == '0') with
    | nil =>
        simp only [kept, List.isEmpty_nil, if_true, List.cons.injEq, true_and] at eq
        exact eq.symm
    | cons c more =>
        simp only [kept, List.isEmpty_cons, Bool.false_eq_true, if_false, List.cons.injEq] at eq
        rw [kept, List.head?_cons, eq.1] at first
        exact absurd first (by decide)
  fraction last := by
    change (w.fraction.rdropWhile (· == '0')).getLast? = some '0' at last
    have inhabited : w.fraction.rdropWhile (· == '0') ≠ [] := by
      intro nothing
      rw [nothing] at last
      exact absurd last (by simp)
    have notZero := List.rdropWhile_last_not (· == '0') w.fraction inhabited
    rw [List.getLast?_eq_some_getLast inhabited] at last
    exact notZero (beq_iff_eq.mpr (Option.some.inj last))

/-- Zeros that say nothing write nothing. -/
theorem number_shortened (w : Written) : w.shortened.number = w.number := by
  have fraction : fractionValue (w.fraction.rdropWhile (· == '0')) = fractionValue w.fraction := by
    induction w.fraction using List.reverseRecOn with
    | nil => rfl
    | append_singleton digits c ih =>
        rw [List.rdropWhile_concat]
        split
        · rename_i zero
          rw [ih, beq_iff_eq.mp zero, fractionValue_concat_zero]
        · rfl
  rw [number_eq, number_eq, digitsValue_shortened, ← fraction]
  rfl

end Written

namespace Decimal

theorem number_written {d : Decimal} (nonneg : 0 ≤ d.coefficient) : d.written.number = d.toRat := by
  obtain ⟨c, eq⟩ := Int.eq_ofNat_of_zero_le nonneg
  unfold Written.number toRat
  rw [d.digitsValue_written, d.length_written, eq]
  rfl

/-- **A decimal is shown as the number it stands for.** -/
theorem denotes_toText {d : Decimal} (nonneg : 0 ≤ d.coefficient) :
    Written.Denotes d.toText d.toRat :=
  ⟨d.written, d.proper_written, toText_eq nonneg, number_written nonneg⟩

end Decimal

/-! ### Bounds -/

namespace Numeral

theorem toRat_clamp (value : Decimal) (low high : Int64) :
    (clamp value low high).toRat = min (max value.toRat low.toInt) high.toInt := by
  unfold clamp
  rw [Decimal.toRat_min, Decimal.toRat_max, Decimal.toRat_ofInt64, Decimal.toRat_ofInt64]

theorem bounded?_eq (value : Decimal) (low high : Int64) :
    bounded? value low high
      = if value.toRat = (below low).toInt ∨ value.toRat = (above high).toInt then none
        else some (clamp value low high) := by
  unfold bounded?
  simp only [Bool.or_eq_true, Decimal.same_iff, Decimal.toRat_ofInt64]

end Numeral

end ColumnCast
