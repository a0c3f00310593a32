import ColumnCast.Proofs.Decimal.Rounding

/-!
# `ColumnCast.Proofs.Numeral.Canonical`: one numeral for each number

Cells may write one number in many ways, with zeros in front and at the
end, and with other characters between. What is read does not depend on
the way. `Numeral.IsNormal x` says which numeral the number `x` has: a
decimal with what is kept of `x`, or all digits of `x` where nothing can
be kept, in either case without zeros that say nothing.

* `Written.IsCanonical.unique`: canonical digits are known from their
  number. The places of the fraction are the fewest that the number has,
  as they are for decimals (`Decimal.eq_of_fewest`), and no zero stands in
  front of the whole part.
* `Numeral.IsNormal.unique`: a number has one normal numeral.
* `Numeral.ofCell?_of_denotes`: that is the one that is read, from every
  cell that writes the number.
-/

set_option autoImplicit false

namespace ColumnCast

open Text (AreDigits digitsValue)

/-! ### Canonical digits -/

namespace Written

variable {w w' : Written}

/-- Where no zero ends the fraction, its last place is needed. -/
theorem IsCanonical.fewest (proper : w.Proper) (canonical : w.IsCanonical) :
    w.fraction.length = 0 ∨ ¬(10 : ℤ) ∣ (digitsValue (w.whole ++ w.fraction) : ℤ) := by
  rcases List.eq_nil_or_concat' w.fraction with nothing | ⟨front, c, eq⟩
  · left
    rw [nothing]
    rfl
  · right
    have isDigit := proper.fraction c (by rw [eq]; simp)
    have nonzero : c ≠ '0' := by
      rintro rfl
      exact canonical.fraction (by rw [eq]; simp)
    have bounds := Text.isDigit_iff.mp isDigit
    have other : c.toNat ≠ 48 := fun same => nonzero (Char.toNat_inj.mp same)
    rw [eq, ← List.append_assoc, Text.digitsValue_append, Text.digitsValue_singleton,
      List.length_singleton, pow_one]
    intro multiple
    omega

/-- **Canonical digits are known from their number.** -/
theorem IsCanonical.unique (canonical : w.IsCanonical) (canonical' : w'.IsCanonical)
    (proper : w.Proper) (proper' : w'.Proper) (same : w.number = w'.number) : w = w' := by
  have quotients : ((digitsValue (w.whole ++ w.fraction) : ℤ) : ℚ) / 10 ^ w.fraction.length
      = ((digitsValue (w'.whole ++ w'.fraction) : ℤ) : ℚ) / 10 ^ w'.fraction.length := same
  obtain ⟨digits, length⟩ :=
    Decimal.eq_of_fewest (canonical.fewest proper) (canonical'.fewest proper') quotients
  -- The digits are one number with the point at one place, so the two parts are one number each.
  obtain ⟨wholes, fractions⟩ :=
    Text.digitsValue_append_inj proper.fraction proper'.fraction length (by exact_mod_cast digits)
  have le := Text.length_le_of_digitsValue_eq proper.whole proper'.whole proper'.inhabited
    canonical.whole wholes
  have ge := Text.length_le_of_digitsValue_eq proper'.whole proper.whole proper.inhabited
    canonical'.whole wholes.symm
  have whole := Text.eq_of_digitsValue proper.whole proper'.whole (Nat.le_antisymm le ge) wholes
  have fraction := Text.eq_of_digitsValue proper.fraction proper'.fraction length fractions
  cases w
  cases w'
  simp only at whole fraction
  rw [whole, fraction]

end Written

/-! ### Numerals -/

namespace Numeral

/-- The numeral that a number has: what a decimal keeps of it, or all of its digits where
nothing can be kept. No zero in it could be left out. -/
inductive IsNormal (x : ℚ) : Numeral → Prop
  | exact {d : Decimal} (fewest : d.IsFewest) (held : Decimal.held? x = some d.toRat) :
      IsNormal x (.exact d)
  | wide {w : Written} (proper : w.Proper) (canonical : w.IsCanonical) (number : w.number = x)
      (large : Decimal.held? x = none) : IsNormal x (.wide (String.ofList w.text))

/-- **A number has one normal numeral.** -/
theorem IsNormal.unique {x : ℚ} {numeral other : Numeral} (normal : IsNormal x numeral)
    (normal' : IsNormal x other) : numeral = other := by
  cases normal with
  | exact fewest held =>
      cases normal' with
      | exact fewest' held' =>
          have same := Option.some.inj (held.symm.trans held')
          rw [Decimal.eq_of_toRat fewest fewest' same]
      | wide _ _ _ large =>
          rw [large] at held
          exact absurd held (by simp)
  | wide proper canonical number large =>
      cases normal' with
      | exact _ held =>
          rw [large] at held
          exact absurd held (by simp)
      | wide proper' canonical' number' _ =>
          rw [canonical.unique canonical' proper proper' (number.trans number'.symm)]

/-- Digits are read as the normal numeral of their number. -/
theorem Reads.isNormal {w : Written} (proper : w.Proper) {numeral : Numeral}
    (reads : numeral.Reads w) (stable : ∀ d, numeral = .exact d → d.normalize = d) :
    IsNormal w.number numeral := by
  cases numeral with
  | exact d =>
      have fewest := d.isFewest_normalize
      rw [stable d rfl] at fewest
      exact .exact fewest reads.2
  | wide digits =>
      obtain ⟨rfl, large⟩ := reads
      exact .wide proper.shortened w.isCanonical_shortened w.number_shortened large

/-- A cell is read as the normal numeral of its number. -/
theorem isNormal_of_ofCell? {cell : String} {numeral : Numeral} (h : ofCell? cell = some numeral) :
    IsNormal (Written.ofCell cell).number numeral := by
  refine (reads_of_ofCell? h).isNormal (exists_ofCell?_iff.mp ⟨numeral, h⟩) ?_
  rintro d rfl
  exact (of_ofCell?_exact h).2

/-- The digits of a cell are the ones that their own text writes. -/
theorem ofCell_eq_of_text_eq {cell : String} {w : Written} (proper : w.Proper)
    (text : String.ofList (Written.ofCell cell).text = String.ofList w.text) :
    Written.ofCell cell = w := by
  have inhabited : (Written.ofCell cell).whole ≠ [] := by
    intro nothing
    -- Without a digit in front the text would begin with a point, or not at all.
    obtain ⟨c, first, isDigit⟩ := proper.unsigned
    rw [← String.ofList_injective text] at first
    unfold Written.text at first
    rw [nothing] at first
    split at first
    · simp at first
    · obtain rfl : '.' = c := by simpa using first
      exact absurd isDigit (by decide)
  rw [← (Written.proper_ofCell inhabited).ofCell_text, text, proper.ofCell_text]

/-- A cell whose digits write a number has the normal numeral of that number. -/
theorem exists_isNormal {cell : String} {x : ℚ}
    (writes : Written.Denotes (String.ofList (Written.ofCell cell).text) x) :
    ∃ numeral, ofCell? cell = some numeral ∧ IsNormal x numeral := by
  obtain ⟨w, proper, text, rfl⟩ := writes
  obtain rfl := ofCell_eq_of_text_eq proper text
  obtain ⟨numeral, found⟩ := exists_ofCell?_iff.mpr proper
  exact ⟨numeral, found, isNormal_of_ofCell? found⟩

/-- **The numeral of a cell depends on its number alone.** Two cells whose digits write one
number have one numeral, and that is the normal one: no zero in it could be left out. -/
theorem ofCell?_of_denotes {a b : String} {x : ℚ}
    (first : Written.Denotes (String.ofList (Written.ofCell a).text) x)
    (second : Written.Denotes (String.ofList (Written.ofCell b).text) x) :
    ∃ numeral, ofCell? a = some numeral ∧ ofCell? b = some numeral ∧ IsNormal x numeral := by
  obtain ⟨numeral, read, normal⟩ := exists_isNormal first
  obtain ⟨other, read', normal'⟩ := exists_isNormal second
  obtain rfl := normal.unique normal'
  exact ⟨numeral, read, read', normal⟩

/-- The largest coefficient and a half more: the whole part has room in a decimal, but the half
rounds it up to the bound, and no zero behind it or in front changes that. -/
theorem ofCell?_of_denotes_bound :
    Written.Denotes (String.ofList (Written.ofCell "$0079228162514264337593543950335.50").text)
        (158456325028528675187087900671 / 2)
      ∧ Written.Denotes
        (String.ofList (Written.ofCell "79,228,162,514,264,337,593,543,950,335.5").text)
        (158456325028528675187087900671 / 2)
      ∧ ofCell? "$0079228162514264337593543950335.50"
        = some (.wide "79228162514264337593543950335.5")
      ∧ ofCell? "79,228,162,514,264,337,593,543,950,335.5"
        = some (.wide "79228162514264337593543950335.5") := by
  have first : Written.Denotes
      (String.ofList (Written.ofCell "$0079228162514264337593543950335.50").text)
      (158456325028528675187087900671 / 2) :=
    Written.denoted?_eq_some_iff.mp (by decide +kernel)
  have second : Written.Denotes
      (String.ofList (Written.ofCell "79,228,162,514,264,337,593,543,950,335.5").text)
      (158456325028528675187087900671 / 2) :=
    Written.denoted?_eq_some_iff.mp (by decide +kernel)
  obtain ⟨numeral, read, read', -⟩ := ofCell?_of_denotes first second
  have wide : ofCell? "$0079228162514264337593543950335.50"
      = some (.wide "79228162514264337593543950335.5") := by
    decide +kernel
  exact ⟨first, second, wide, by rw [read', ← read, wide]⟩

end Numeral

end ColumnCast
