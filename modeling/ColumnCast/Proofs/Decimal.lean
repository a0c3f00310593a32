import ColumnCast.Decimal.Text
import ColumnCast.Proofs.Text
import Mathlib.Tactic.Ring

/-!
# `ColumnCast.Proofs.Decimal`: decimals and their digits

Dropping zeros keeps the value of a decimal (`same_normalize`) and drops
all there are (`normalize_normalize`).

Digits for which there is room are read as they stand
(`readDigits_append`). What `readDigits` refuses is a whole part with no
room for it (`readDigits_whole_none`), or one that the first digit behind
the point would round up to the bound (`readDigits_fraction_eq_none_iff`).
-/

set_option autoImplicit false

namespace ColumnCast.Decimal

open Text (AreDigits digitsValue)

/-! ### Values -/

theorem same_self (d : Decimal) : d.same d = true := by
  unfold same
  exact beq_self_eq_true _

theorem dropZeros_dropZeros (coefficient : Int) (places : Nat) :
    dropZeros (dropZeros coefficient places).1 (dropZeros coefficient places).2
      = dropZeros coefficient places := by
  induction places generalizing coefficient with
  | zero => rfl
  | succ places ih =>
      by_cases zero : coefficient.tmod 10 = 0
      · rw [dropZeros, if_pos zero]
        exact ih _
      · have kept : dropZeros coefficient (places + 1) = (coefficient, places + 1) := by
          rw [dropZeros, if_neg zero]
        rw [kept]
        exact kept

/-- No zeros are left to drop. -/
theorem normalize_normalize (d : Decimal) : d.normalize.normalize = d.normalize := by
  have stable := dropZeros_dropZeros d.coefficient d.places
  unfold normalize
  simp only [Decimal.mk.injEq]
  exact ⟨congrArg Prod.fst stable, congrArg Prod.snd stable⟩

theorem dropZeros_value (coefficient : Int) (places : Nat) :
    (dropZeros coefficient places).1 * 10 ^ places
      = coefficient * 10 ^ (dropZeros coefficient places).2 := by
  induction places generalizing coefficient with
  | zero => rfl
  | succ places ih =>
      unfold dropZeros
      split
      · rename_i zero
        have tenfold : coefficient = 10 * coefficient.tdiv 10 := by
          have whole := Int.mul_tdiv_add_tmod coefficient 10
          omega
        calc (dropZeros (coefficient.tdiv 10) places).1 * 10 ^ (places + 1)
            = 10 * ((dropZeros (coefficient.tdiv 10) places).1 * 10 ^ places) := by ring
          _ = 10 * (coefficient.tdiv 10 * 10 ^ (dropZeros (coefficient.tdiv 10) places).2) := by
              rw [ih]
          _ = 10 * coefficient.tdiv 10 * 10 ^ (dropZeros (coefficient.tdiv 10) places).2 := by ring
          _ = coefficient * 10 ^ (dropZeros (coefficient.tdiv 10) places).2 := by rw [← tenfold]
      · rfl

/-- Zeros that are dropped were worth nothing. -/
theorem same_normalize (d : Decimal) : d.normalize.same d = true := by
  have value := dropZeros_value d.coefficient d.places
  unfold same
  rw [beq_iff_eq]
  simpa [normalize, scale] using value

theorem dropZeros_nonneg {coefficient : Int} (nonneg : 0 ≤ coefficient) (places : Nat) :
    0 ≤ (dropZeros coefficient places).1 := by
  induction places generalizing coefficient with
  | zero => exact nonneg
  | succ places ih =>
      unfold dropZeros
      split
      · exact ih (Int.tdiv_nonneg nonneg (by decide))
      · exact nonneg

theorem normalize_nonneg {d : Decimal} (nonneg : 0 ≤ d.coefficient) :
    0 ≤ d.normalize.coefficient :=
  dropZeros_nonneg nonneg d.places

/-! ### Reading digits -/

/-- A digit read first is worth what it adds to the coefficient before the others are read. -/
theorem shifted_cons (coefficient : Nat) (c : Char) (word : List Char) :
    10 ^ (c :: word).length * coefficient + digitsValue (c :: word)
      = 10 ^ word.length * (10 * coefficient + (c.toNat - 48)) + digitsValue word := by
  rw [Text.digitsValue_cons, List.length_cons]
  ring

section Digits

variable {pointed started : Bool} {coefficient places : Nat} {word rest : List Char} {c : Char}

/-- A digit is taken up if there is room for it. -/
theorem readDigits_digit (isDigit : c.isDigit = true)
    (room : pointed = true → places < maxPlaces) :
    readDigits pointed started coefficient places (c :: rest)
      = if 10 * coefficient + (c.toNat - 48) < coefficientBound then
          readDigits pointed true (10 * coefficient + (c.toNat - 48))
            (if pointed then places + 1 else places) rest
        else if pointed then roundOff coefficient places c
        else none := by
  have notFull : (pointed && decide (places ≥ maxPlaces)) = false := by
    cases pointed with
    | false => rfl
    | true => simpa using room rfl
  rw [readDigits, if_neg (by simp [notFull]), if_pos isDigit]
  rfl

/-- Digits for which there is room are read as they stand. -/
theorem readDigits_append (digits : AreDigits word) (inhabited : started = true ∨ word ≠ [])
    (room : pointed = true → places + word.length ≤ maxPlaces)
    (small : 10 ^ word.length * coefficient + digitsValue word < coefficientBound) :
    readDigits pointed started coefficient places (word ++ rest)
      = readDigits pointed true (10 ^ word.length * coefficient + digitsValue word)
        (if pointed then places + word.length else places) rest := by
  -- A digit shifts the coefficient, so what all of them make bounds what each makes on the way.
  induction word generalizing started coefficient places with
  | nil =>
      obtain rfl : started = true := inhabited.resolve_right (by simp)
      simp [digitsValue]
  | cons c word ih =>
      have longer : (c :: word).length = word.length + 1 := rfl
      rw [shifted_cons] at small ⊢
      have fits : 10 * coefficient + (c.toNat - 48) < coefficientBound :=
        Nat.lt_of_le_of_lt ((Nat.le_mul_of_pos_left _ (Nat.pow_pos (by decide))).trans
          (Nat.le_add_right _ _)) small
      rw [List.cons_append, readDigits_digit (digits c List.mem_cons_self)
        (fun isPointed => by have le := room isPointed; omega), if_pos fits,
        ih (fun d mem => digits d (List.mem_cons_of_mem _ mem)) (Or.inl rfl) ?_ small]
      · cases pointed with
        | false => rfl
        | true =>
            have count : places + 1 + word.length = places + (c :: word).length := by omega
            simp only [if_true, count]
      · rintro rfl
        have le := room rfl
        simp only [if_true]
        omega

/-- A whole part for which there is no room is refused. -/
theorem readDigits_whole_none (digits : AreDigits word)
    (large : coefficientBound ≤ 10 ^ word.length * coefficient + digitsValue word)
    (small : coefficient < coefficientBound) :
    readDigits false started coefficient places (word ++ rest) = none := by
  induction word generalizing started coefficient places with
  | nil =>
      simp only [List.length_nil, Nat.pow_zero, Nat.one_mul, digitsValue, List.foldl_nil,
        Nat.add_zero] at large
      omega
  | cons c word ih =>
      rw [shifted_cons] at large
      rw [List.cons_append, readDigits_digit (digits c List.mem_cons_self) (by simp)]
      split
      · rename_i fits
        exact ih (fun d mem => digits d (List.mem_cons_of_mem _ mem)) large fits
      · rfl

/-- A digit is not rounded off if it would carry a whole number to the bound. -/
theorem roundOff_eq_none_iff (isDigit : c.isDigit = true) (small : coefficient < coefficientBound) :
    roundOff coefficient places c = none ↔
      places = 0 ∧ coefficient + 1 = coefficientBound ∧ 53 ≤ c.toNat := by
  have five : '5'.toNat = 53 := rfl
  unfold roundOff
  rw [if_pos isDigit, five]
  split
  · simp only [reduceCtorEq, false_iff]
    omega
  · split
    · simp only [reduceCtorEq, false_iff]
      omega
    · split
      · simp only [true_iff]
        omega
      · simp only [reduceCtorEq, false_iff]
        omega

/-- Behind the point only the first digit can be refused: it would round up to the bound. -/
theorem readDigits_fraction_eq_none_iff (digits : AreDigits word)
    (small : coefficient < coefficientBound) :
    readDigits true true coefficient places word = none ↔
      places = 0 ∧ coefficient + 1 = coefficientBound ∧ ∃ c ∈ word.head?, 53 ≤ c.toNat := by
  -- A digit that was read is a place that can be given up, so only the first one can be refused.
  induction word generalizing coefficient places with
  | nil => simp [readDigits]
  | cons c word ih =>
      have isDigit := digits c List.mem_cons_self
      have head : (∃ d ∈ (c :: word).head?, 53 ≤ d.toNat) ↔ 53 ≤ c.toNat := by simp
      rw [head]
      by_cases full : maxPlaces ≤ places
      · rw [readDigits, if_pos (by simpa using full)]
        exact roundOff_eq_none_iff isDigit small
      · rw [readDigits_digit isDigit (fun _ => Nat.lt_of_not_le full)]
        split
        · rename_i fits
          rw [ih (fun d mem => digits d (List.mem_cons_of_mem _ mem)) fits]
          simp only [if_true, Nat.add_eq_zero_iff, one_ne_zero, and_false, false_and, false_iff]
          omega
        · rw [if_pos rfl]
          exact roundOff_eq_none_iff isDigit small

theorem roundOff_bounds {result : Nat × Nat} (h : roundOff coefficient places c = some result)
    (small : coefficient < coefficientBound) (few : places ≤ maxPlaces) :
    result.1 < coefficientBound ∧ result.2 ≤ maxPlaces := by
  unfold roundOff at h
  split at h
  · split at h
    · obtain rfl := Option.some.inj h
      exact ⟨small, few⟩
    · split at h
      · rename_i fits
        obtain rfl := Option.some.inj h
        exact ⟨fits, few⟩
      · split at h
        · exact absurd h (by simp)
        · obtain rfl := Option.some.inj h
          -- The carry reached the bound, and a place is given up for it.
          have tenth : (coefficient + 5) / 10 < coefficientBound := by
            unfold coefficientBound at *
            omega
          exact ⟨tenth, (Nat.sub_le _ _).trans few⟩
  · split at h
    · obtain rfl := Option.some.inj h
      exact ⟨small, few⟩
    · exact absurd h (by simp)

/-- What is read stays within the bounds of a decimal. -/
theorem readDigits_bounds {text : List Char} {result : Nat × Nat}
    (h : readDigits pointed started coefficient places text = some result)
    (small : coefficient < coefficientBound) (few : places ≤ maxPlaces) :
    result.1 < coefficientBound ∧ result.2 ≤ maxPlaces := by
  -- A digit is taken only where there is room for it, and rounded off otherwise.
  induction text generalizing pointed started coefficient places with
  | nil =>
      rw [readDigits] at h
      split at h
      · obtain rfl := Option.some.inj h
        exact ⟨small, few⟩
      · exact absurd h (by simp)
  | cons c text ih =>
      rw [readDigits] at h
      split at h
      · exact roundOff_bounds h small few
      · rename_i notFull
        have room : pointed = true → places < maxPlaces := by
          rintro rfl
          simpa using notFull
        split at h
        · change (if 10 * coefficient + (c.toNat - 48) < coefficientBound then _ else _) = _ at h
          split at h
          · rename_i fits
            refine ih h fits ?_
            split
            · rename_i isPointed
              exact room isPointed
            · exact few
          · split at h
            · exact roundOff_bounds h small few
            · exact absurd h (by simp)
        · split at h
          · exact ih h small few
          · split at h
            · exact ih h small few
            · exact absurd h (by simp)

end Digits

/-! ### Unsigned decimals -/

/-- A text that begins with a digit has no sign. -/
theorem read?_unsigned {text : List Char} (unsigned : ∃ c ∈ text.head?, c.isDigit = true) :
    read? text = readSigned false text := by
  obtain ⟨c, first, isDigit⟩ := unsigned
  unfold read?
  split
  · obtain rfl : '-' = c := by simpa using first
    exact absurd isDigit (by decide)
  · obtain rfl : '+' = c := by simpa using first
    exact absurd isDigit (by decide)
  · rfl

/-- A decimal without a sign is read where its digits are. -/
theorem read?_eq_none_iff {text : List Char} (unsigned : ∃ c ∈ text.head?, c.isDigit = true) :
    read? text = none ↔ readDigits false false 0 0 text = none := by
  rw [read?_unsigned unsigned]
  unfold readSigned
  cases digits : readDigits false false 0 0 text with
  | none => simp
  | some result =>
      have bounds := readDigits_bounds digits (by decide) (by decide)
      simp [ofParts?, bounds]

/-- What is read without a sign is not negative. -/
theorem nonneg_of_read? {text : List Char} (unsigned : ∃ c ∈ text.head?, c.isDigit = true)
    {d : Decimal} (h : read? text = some d) : 0 ≤ d.coefficient := by
  rw [read?_unsigned unsigned] at h
  unfold readSigned ofParts? at h
  simp only [Bool.false_eq_true, if_false] at h
  split at h
  · split at h
    · obtain rfl := Option.some.inj h
      exact Int.natCast_nonneg _
    · exact absurd h (by simp)
  · exact absurd h (by simp)

end ColumnCast.Decimal
