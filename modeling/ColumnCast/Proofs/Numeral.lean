import ColumnCast.Numeral
import ColumnCast.Proofs.Decimal
import Mathlib.Data.List.DropRight
import Mathlib.Data.List.TakeWhile

/-!
# `ColumnCast.Proofs.Numeral`: numerals that are read again

A `Written.Proper` numeral has a digit before its separator. It comes out
of its own text (`ofCell_text`), and is too large for a decimal by its
whole part and the first digit of its fraction alone
(`read?_text_eq_none_iff`), so it stays too large when it is shortened.

Hence the texts of both kinds of numbers are read as those numbers:
`Numeral.ofCell?_toText` and `Numeral.ofCell?_wide`.
-/

set_option autoImplicit false

namespace ColumnCast

open Text (AreDigits digitsValue)

namespace Written

/-- Digits, with one at least before the separator. -/
structure Proper (w : Written) : Prop where
  inhabited : w.whole ≠ []
  whole : AreDigits w.whole
  fraction : AreDigits w.fraction

/-! ### In and out of cells -/

theorem isKept_of_isDigit {c : Char} (h : c.isDigit = true) : isKept c = true := by
  unfold isKept
  rw [h, Bool.true_or]

/-- A cell with a digit writes a numeral. -/
theorem proper_ofCell {cell : String} (h : (ofCell cell).whole ≠ []) : (ofCell cell).Proper where
  inhabited := h
  whole _ mem := List.mem_takeWhile_imp mem
  fraction _ mem := (List.mem_filter.mp mem).2

theorem Proper.unsigned {w : Written} (proper : w.Proper) :
    ∃ c ∈ w.text.head?, c.isDigit = true := by
  obtain ⟨c, rest, eq⟩ := List.exists_cons_of_ne_nil proper.inhabited
  refine ⟨c, ?_, proper.whole c (by rw [eq]; exact List.mem_cons_self)⟩
  unfold text
  rw [eq]
  split <;> simp

theorem Proper.filter_text {w : Written} (proper : w.Proper) : w.text.filter isKept = w.text := by
  refine List.filter_eq_self.mpr fun c mem => ?_
  unfold text at mem
  split at mem
  · exact isKept_of_isDigit (proper.whole c mem)
  · rcases List.mem_append.mp mem with mem | mem
    · exact isKept_of_isDigit (proper.whole c mem)
    · rcases List.mem_cons.mp mem with rfl | mem
      · rfl
      · exact isKept_of_isDigit (proper.fraction c mem)

/-- The text begins with a digit, so no separator in front is dropped. -/
theorem Proper.dropWhile_text {w : Written} (proper : w.Proper) :
    w.text.dropWhile (· == '.') = w.text := by
  obtain ⟨c, first, isDigit⟩ := proper.unsigned
  cases eq : w.text with
  | nil =>
      rw [eq] at first
      exact absurd first (by simp)
  | cons d rest =>
      rw [eq] at first
      obtain rfl : d = c := by simpa using first
      refine List.dropWhile_cons_of_neg fun same => ?_
      rw [beq_iff_eq.mp same] at isDigit
      exact absurd isDigit (by decide)

/-- A numeral is what its text writes. -/
theorem Proper.ofCell_text {w : Written} (proper : w.Proper) :
    ofCell (String.ofList w.text) = w := by
  have point : ('.' : Char).isDigit = false := by decide
  unfold ofCell
  simp only [String.toList_ofList, proper.filter_text, proper.dropWhile_text]
  obtain ⟨whole, fraction⟩ := w
  -- The digits in front are the whole part, and what follows them begins with the point.
  cases fraction with
  | nil =>
      have all := proper.whole
      simp only [text, List.isEmpty_nil, if_true]
      rw [List.takeWhile_eq_self_iff.mpr all, List.dropWhile_eq_nil_iff.mpr all]
      rfl
  | cons c fraction =>
      have all := proper.whole
      simp only [text, List.isEmpty_cons, Bool.false_eq_true, if_false]
      rw [List.takeWhile_append_of_pos all, List.dropWhile_append_of_pos all,
        List.takeWhile_cons_of_neg (by simp [point]), List.dropWhile_cons_of_neg (by simp [point]),
        List.append_nil, List.filter_cons_of_neg (by simp [point]),
        List.filter_eq_self.mpr proper.fraction]

/-! ### Read as decimals -/

section Read

variable {w : Written}

/-- Where the whole part has room, the rest is read behind the point. -/
theorem Proper.readDigits_text (proper : w.Proper)
    (small : digitsValue w.whole < Decimal.coefficientBound) :
    Decimal.readDigits false false 0 0 w.text
      = Decimal.readDigits true true (digitsValue w.whole) 0 w.fraction := by
  have whole : ∀ rest, Decimal.readDigits false false 0 0 (w.whole ++ rest)
      = Decimal.readDigits false true (digitsValue w.whole) 0 rest := by
    intro rest
    have room : 10 ^ w.whole.length * 0 + digitsValue w.whole < Decimal.coefficientBound := by
      simpa using small
    refine (Decimal.readDigits_append proper.whole (Or.inr proper.inhabited) (by simp) room).trans ?_
    simp
  unfold text
  cases fraction : w.fraction with
  | nil =>
      have read := whole []
      rw [List.append_nil] at read
      exact read
  | cons c rest =>
      rw [if_neg (by simp), whole, Decimal.readDigits, if_neg (by simp), if_neg (by decide),
        if_pos (by decide)]

/-- A numeral with room for all its digits is read exactly. -/
theorem Proper.read?_text (proper : w.Proper) (few : w.fraction.length ≤ Decimal.maxPlaces)
    (small : digitsValue (w.whole ++ w.fraction) < Decimal.coefficientBound) :
    Decimal.read? w.text
      = Decimal.ofParts? (digitsValue (w.whole ++ w.fraction) : Nat) w.fraction.length := by
  rw [Text.digitsValue_append] at small ⊢
  have whole : digitsValue w.whole < Decimal.coefficientBound :=
    Nat.lt_of_le_of_lt ((Nat.le_mul_of_pos_left _ (Nat.pow_pos (by decide))).trans
      (Nat.le_add_right _ _)) small
  have read : Decimal.readDigits true true (digitsValue w.whole) 0 (w.fraction ++ [])
      = Decimal.readDigits true true
        (10 ^ w.fraction.length * digitsValue w.whole + digitsValue w.fraction)
        (0 + w.fraction.length) [] :=
    Decimal.readDigits_append proper.fraction (Or.inl rfl) (by simpa using few) small
  rw [List.append_nil] at read
  rw [Decimal.read?_unsigned proper.unsigned]
  unfold Decimal.readSigned
  rw [proper.readDigits_text whole, read]
  simp [Decimal.readDigits]

/-- A numeral is too large for a decimal if its whole part is, or reaches the bound when the
fraction rounds it up. -/
theorem Proper.read?_text_eq_none_iff (proper : w.Proper) :
    Decimal.read? w.text = none ↔
      Decimal.coefficientBound ≤ digitsValue w.whole
        ∨ (digitsValue w.whole + 1 = Decimal.coefficientBound
          ∧ ∃ c ∈ w.fraction.head?, 53 ≤ c.toNat) := by
  rw [Decimal.read?_eq_none_iff proper.unsigned]
  by_cases small : digitsValue w.whole < Decimal.coefficientBound
  · rw [proper.readDigits_text small,
      Decimal.readDigits_fraction_eq_none_iff proper.fraction small]
    have notLarge : ¬ Decimal.coefficientBound ≤ digitsValue w.whole := Nat.not_le.mpr small
    simp only [true_and, notLarge, false_or]
  · have large : Decimal.coefficientBound ≤ digitsValue w.whole := Nat.not_lt.mp small
    have refused : ∀ rest, Decimal.readDigits false false 0 0 (w.whole ++ rest) = none := by
      intro rest
      exact Decimal.readDigits_whole_none proper.whole (by simpa using large) (by decide)
    simp only [large, true_or, iff_true]
    unfold text
    split
    · simpa using refused []
    · exact refused _

end Read

/-! ### Without zeros that say nothing -/

/-- The numeral that the canonical text writes. -/
def shortened (w : Written) : Written :=
  let whole := w.whole.dropWhile (· == '0')
  ⟨if whole.isEmpty then ['0'] else whole, w.fraction.rdropWhile (· == '0')⟩

theorem canonical_eq (w : Written) : w.canonical = w.shortened.text := rfl

theorem shortened_shortened (w : Written) : w.shortened.shortened = w.shortened := by
  unfold shortened
  simp only [List.rdropWhile_idempotent, Written.mk.injEq, and_true]
  by_cases zero : (w.whole.dropWhile (· == '0')).isEmpty = true
  · rw [if_pos zero]
    rfl
  · rw [if_neg zero, List.dropWhile_idempotent, if_neg zero]

theorem Proper.shortened {w : Written} (proper : w.Proper) : w.shortened.Proper where
  inhabited := by
    unfold Written.shortened
    dsimp only
    split
    · simp
    · rename_i rest
      simpa using rest
  whole := by
    unfold Written.shortened
    dsimp only
    split
    · simp [AreDigits]
    · exact fun c mem => proper.whole c ((List.dropWhile_suffix _).subset mem)
  fraction c mem := proper.fraction c ((List.rdropWhile_prefix _ _).subset mem)

theorem digitsValue_dropWhile (word : List Char) :
    digitsValue (word.dropWhile (· == '0')) = digitsValue word := by
  induction word with
  | nil => rfl
  | cons c word ih =>
      by_cases zero : c = '0'
      · subst zero
        rw [List.dropWhile_cons_of_pos (by decide), ih, Text.digitsValue_cons]
        simp
      · rw [List.dropWhile_cons_of_neg (by simpa using zero)]

theorem digitsValue_shortened (w : Written) :
    digitsValue w.shortened.whole = digitsValue w.whole := by
  rw [← digitsValue_dropWhile w.whole]
  unfold shortened
  dsimp only
  split
  · rename_i zero
    rw [List.isEmpty_iff.mp zero]
    rfl
  · rfl

/-- A numeral that is too large stays too large when it is shortened. -/
theorem Proper.read?_shortened {w : Written} (proper : w.Proper)
    (large : Decimal.read? w.text = none) : Decimal.read? w.shortened.text = none := by
  rw [proper.shortened.read?_text_eq_none_iff, digitsValue_shortened]
  refine (proper.read?_text_eq_none_iff.mp large).imp id (And.imp id ?_)
  rintro ⟨c, first, atLeast⟩
  refine ⟨c, ?_, atLeast⟩
  -- The first digit is no zero, so it is not dropped.
  obtain ⟨dropped, split⟩ := List.rdropWhile_prefix (· == '0') w.fraction
  cases kept : w.fraction.rdropWhile (· == '0') with
  | nil =>
      have zeros := List.rdropWhile_eq_nil_iff.mp kept c (List.mem_of_mem_head? first)
      rw [beq_iff_eq.mp zeros] at atLeast
      exact absurd atLeast (by decide)
  | cons d rest =>
      rw [kept] at split
      rw [← split] at first
      show c ∈ (w.fraction.rdropWhile (· == '0')).head?
      rw [kept]
      exact first

end Written

/-! ### Decimals written -/

namespace Decimal

/-- The numeral that a decimal without a sign is written as. -/
def written (d : Decimal) : Written :=
  let digits := (Text.padded (d.places + 1) d.coefficient.natAbs).toList
  ⟨digits.take (digits.length - d.places), digits.drop (digits.length - d.places)⟩

theorem length_digits (d : Decimal) :
    d.places + 1 ≤ (Text.padded (d.places + 1) d.coefficient.natAbs).toList.length := by
  rw [Text.toList_padded, List.length_append, List.length_replicate]
  omega

theorem proper_written (d : Decimal) : d.written.Proper where
  inhabited := by
    have length := d.length_digits
    unfold written
    rw [← List.length_pos_iff]
    simp only [List.length_take]
    omega
  whole c mem := Text.areDigits_padded _ _ c (List.mem_of_mem_take mem)
  fraction c mem := Text.areDigits_padded _ _ c (List.mem_of_mem_drop mem)

theorem toText_eq {d : Decimal} (nonneg : 0 ≤ d.coefficient) :
    d.toText = String.ofList d.written.text := by
  have length := d.length_digits
  unfold toText pointed
  rw [if_neg (by omega)]
  split
  · rename_i whole
    have positive := List.length_pos_iff.mpr (Text.toString_ne_nil d.coefficient.natAbs)
    have digits : Text.padded (0 + 1) d.coefficient.natAbs = toString d.coefficient.natAbs := by
      rw [← String.toList_inj, Text.toList_padded, Nat.sub_eq_zero_of_le positive]
      rfl
    unfold written Written.text
    simp only [whole, digits, Nat.sub_zero, List.take_length, List.drop_length,
      List.isEmpty_nil, if_true, String.ofList_toList, String.empty_append]
  · rename_i places
    have pointed : d.written.fraction ≠ [] := by
      unfold written
      rw [← List.length_pos_iff]
      simp only [List.length_drop]
      omega
    unfold Written.text
    rw [if_neg (by simpa using pointed)]
    simp [written]

/-- Its digits are those of the coefficient. -/
theorem digitsValue_written (d : Decimal) :
    digitsValue (d.written.whole ++ d.written.fraction) = d.coefficient.natAbs := by
  have all : d.written.whole ++ d.written.fraction
      = (Text.padded (d.places + 1) d.coefficient.natAbs).toList := List.take_append_drop _ _
  rw [all, Text.digitsValue_padded]

theorem length_written (d : Decimal) : d.written.fraction.length = d.places := by
  have length := d.length_digits
  unfold written
  simp only [List.length_drop]
  omega

/-- **A decimal without a sign is read back from its text.** -/
theorem read?_toText {d : Decimal} (nonneg : 0 ≤ d.coefficient) :
    read? d.toText.toList = some d := by
  have value := d.digitsValue_written
  have places := d.length_written
  rw [toText_eq nonneg, String.toList_ofList,
    d.proper_written.read?_text (places ▸ d.places_le) (value ▸ d.coefficient_lt), value, places,
    Int.natAbs_of_nonneg nonneg]
  unfold ofParts?
  rw [dif_pos ⟨d.coefficient_lt, d.places_le⟩]

end Decimal

/-! ### Numbers of cells -/

namespace Numeral

theorem ofCell?_text {w : Written} (proper : w.Proper) :
    ofCell? (String.ofList w.text)
      = some (match Decimal.read? w.text with
        | some value => exact value.normalize
        | none => wide (String.ofList w.canonical)) := by
  unfold ofCell?
  simp only [proper.ofCell_text, List.isEmpty_iff, proper.inhabited, if_false]
  split <;> simp_all

/-- A cell has a number if it writes a numeral. -/
theorem eq_some_of_ofCell? {cell : String} {numeral : Numeral} (h : ofCell? cell = some numeral) :
    ∃ w : Written, w.Proper ∧ numeral = match Decimal.read? w.text with
      | some value => exact value.normalize
      | none => wide (String.ofList w.canonical) := by
  unfold ofCell? at h
  dsimp only at h
  split at h
  · exact absurd h (by simp)
  · rename_i inhabited
    refine ⟨_, Written.proper_ofCell (by simpa using inhabited), ?_⟩
    split at h <;> simp_all

/-- A number that a decimal holds has no sign and no zeros that say nothing. -/
theorem of_ofCell?_exact {cell : String} {value : Decimal} (h : ofCell? cell = some (exact value)) :
    0 ≤ value.coefficient ∧ value.normalize = value := by
  obtain ⟨w, proper, eq⟩ := eq_some_of_ofCell? h
  split at eq
  · rename_i read
    obtain rfl : value = _ := Numeral.exact.inj eq
    exact ⟨Decimal.normalize_nonneg (Decimal.nonneg_of_read? proper.unsigned read),
      Decimal.normalize_normalize _⟩
  · exact absurd eq (by simp)

/-- **A number is read from the text of a decimal.** -/
theorem ofCell?_toText {d : Decimal} (nonneg : 0 ≤ d.coefficient) :
    ofCell? d.toText = some (exact d.normalize) := by
  have read := Decimal.read?_toText nonneg
  rw [Decimal.toText_eq nonneg, String.toList_ofList] at read
  rw [Decimal.toText_eq nonneg, ofCell?_text d.proper_written, read]

/-- **A number too large for a decimal is read from its own digits.** -/
theorem ofCell?_wide {cell digits : String} (h : ofCell? cell = some (wide digits)) :
    ofCell? digits = some (wide digits) := by
  obtain ⟨w, proper, eq⟩ := eq_some_of_ofCell? h
  split at eq
  · exact absurd eq (by simp)
  · rename_i large
    obtain rfl : digits = _ := Numeral.wide.inj eq
    rw [Written.canonical_eq, ofCell?_text proper.shortened, proper.read?_shortened large,
      Written.canonical_eq, Written.shortened_shortened]

/-- The text of a decimal is read as one. -/
theorem saturate_normalize {cell : String} {numeral : Numeral} (h : ofCell? cell = some numeral)
    (limit : Int64) : (numeral.saturate limit).normalize = numeral.saturate limit := by
  cases numeral with
  | exact value => exact (of_ofCell?_exact h).2
  | wide digits => rfl

/-! ### Bounds -/

section Bounds

variable {value : Decimal} {low high : Int64}

/-- The value lies between the bounds. -/
def Within (low high : Int64) (value : Decimal) : Prop :=
  low.toInt * Decimal.scale value.places ≤ value.coefficient
    ∧ value.coefficient ≤ high.toInt * Decimal.scale value.places

theorem lt_ofInt64_iff {bound : Int64} : value.lt (Decimal.ofInt64 bound) = true ↔
    value.coefficient < bound.toInt * Decimal.scale value.places := by
  simp [Decimal.lt, Decimal.ofInt64, Decimal.scale]

theorem ofInt64_lt_iff {bound : Int64} : (Decimal.ofInt64 bound).lt value = true ↔
    bound.toInt * Decimal.scale value.places < value.coefficient := by
  simp [Decimal.lt, Decimal.ofInt64, Decimal.scale]

theorem within_ofInt64_iff {n : Int64} :
    Within low high (Decimal.ofInt64 n) ↔ low.toInt ≤ n.toInt ∧ n.toInt ≤ high.toInt := by
  simp [Within, Decimal.ofInt64, Decimal.scale]

theorem clamp_of_within (h : Within low high value) : clamp value low high = value := by
  unfold clamp Decimal.max
  rw [if_neg (fun below => Int.not_lt.mpr h.1 (lt_ofInt64_iff.mp below))]
  unfold Decimal.min
  rw [if_neg (fun above => Int.not_lt.mpr h.2 (ofInt64_lt_iff.mp above))]

theorem clamp_cases (value : Decimal) (ordered : low.toInt ≤ high.toInt) :
    (Within low high value ∧ clamp value low high = value)
      ∨ clamp value low high = Decimal.ofInt64 low ∨ clamp value low high = Decimal.ofInt64 high := by
  by_cases below : value.lt (Decimal.ofInt64 low) = true
  · right
    left
    have max : value.max (Decimal.ofInt64 low) = Decimal.ofInt64 low := if_pos below
    unfold clamp
    rw [max]
    exact if_neg fun above => by
      have lt := ofInt64_lt_iff.mp above
      simp [Decimal.ofInt64, Decimal.scale] at lt
      omega
  · have max : value.max (Decimal.ofInt64 low) = value := if_neg below
    by_cases above : (Decimal.ofInt64 high).lt value = true
    · right
      right
      unfold clamp
      rw [max]
      exact if_pos above
    · have within : Within low high value :=
        ⟨Int.not_lt.mp fun lt => below (lt_ofInt64_iff.mpr lt),
          Int.not_lt.mp fun lt => above (ofInt64_lt_iff.mpr lt)⟩
      exact Or.inl ⟨within, clamp_of_within within⟩

theorem within_clamp (value : Decimal) (ordered : low.toInt ≤ high.toInt) :
    Within low high (clamp value low high) := by
  rcases clamp_cases value ordered with ⟨within, eq⟩ | eq | eq
  · rw [eq]
    exact within
  · rw [eq]
    exact within_ofInt64_iff.mpr ⟨Int.le_refl _, ordered⟩
  · rw [eq]
    exact within_ofInt64_iff.mpr ⟨ordered, Int.le_refl _⟩

theorem clamp_normalize (normal : value.normalize = value) (ordered : low.toInt ≤ high.toInt) :
    (clamp value low high).normalize = clamp value low high := by
  rcases clamp_cases value ordered with ⟨-, eq⟩ | eq | eq
  · rw [eq]
    exact normal
  · rw [eq]
    rfl
  · rw [eq]
    rfl

theorem clamp_of_bounded? {cut : Decimal} (h : bounded? value low high = some cut) :
    clamp value low high = cut := by
  unfold bounded? at h
  split at h
  · exact absurd h (by simp)
  · exact Option.some.inj h

/-- Between whole bounds a value is rounded to a whole number between them. -/
theorem roundToInt_within (h : Within low high value) (nonneg : 0 ≤ low.toInt) :
    low.toInt ≤ value.roundToInt ∧ value.roundToInt ≤ high.toInt := by
  obtain ⟨atLeast, atMost⟩ := h
  have unit : 0 < Decimal.scale value.places := Nat.pow_pos (by decide)
  obtain ⟨least, low⟩ := Int.eq_ofNat_of_zero_le nonneg
  rw [low] at atLeast ⊢
  -- Nothing here is negative, so the division is one of natural numbers.
  have positive : 0 ≤ value.coefficient :=
    Int.le_trans (Int.mul_nonneg (Int.natCast_nonneg _) (Int.natCast_nonneg _)) atLeast
  obtain ⟨c, coefficient⟩ := Int.eq_ofNat_of_zero_le positive
  have highPositive : 0 ≤ high.toInt := by
    by_contra negative
    have product := Int.mul_neg_of_neg_of_pos (Int.not_le.mp negative) (Int.natCast_pos.mpr unit)
    omega
  obtain ⟨most, high⟩ := Int.eq_ofNat_of_zero_le highPositive
  rw [high] at atMost ⊢
  rw [coefficient] at atLeast atMost
  have rounded : value.roundToInt
      = ((2 * c + Decimal.scale value.places) / (2 * Decimal.scale value.places) : Nat) := by
    unfold Decimal.roundToInt
    dsimp only
    rw [if_neg (by omega), coefficient]
    rfl
  rw [rounded]
  generalize Decimal.scale value.places = u at *
  have least' : least * u ≤ c := by exact_mod_cast atLeast
  have most' : c ≤ most * u := by exact_mod_cast atMost
  refine ⟨Int.ofNat_le.mpr ?_, Int.ofNat_le.mpr ?_⟩
  · rw [Nat.le_div_iff_mul_le (by omega)]
    have double : least * (2 * u) = 2 * (least * u) := by ring
    omega
  · refine Nat.le_of_lt_succ ((Nat.div_lt_iff_lt_mul (by omega)).mpr ?_)
    have double : most.succ * (2 * u) = 2 * (most * u) + 2 * u := by
      rw [Nat.succ_eq_add_one]
      ring
    omega

end Bounds

/-! ### Whole numbers -/

theorem toText_ofInt64 {n : Int64} (nonneg : 0 ≤ n.toInt) :
    (Decimal.ofInt64 n).toText = toString n.toInt := by
  obtain ⟨k, eq⟩ := Int.eq_ofNat_of_zero_le nonneg
  unfold Decimal.toText Decimal.pointed Decimal.ofInt64
  simp only [eq, if_true]
  rw [if_neg (by omega), String.empty_append]
  rfl

/-- A whole number that is not negative is read from its digits. -/
theorem ofCell?_toString {n : Int64} (nonneg : 0 ≤ n.toInt) :
    ofCell? (toString n.toInt) = some (exact (Decimal.ofInt64 n)) := by
  rw [← toText_ofInt64 nonneg, ofCell?_toText nonneg]
  rfl

theorem roundToInt_ofInt64 (n : Int64) : (Decimal.ofInt64 n).roundToInt = n.toInt := by
  unfold Decimal.roundToInt Decimal.ofInt64 Decimal.scale
  simp only [Nat.pow_eq, Nat.pow_zero]
  split <;> omega

theorem toInt64?_eq_some_iff {value : Decimal} {n : Int64} :
    value.toInt64? = some n ↔ n.toInt = value.roundToInt := by
  have low := n.le_toInt
  have high := n.toInt_lt
  unfold Decimal.toInt64?
  dsimp only
  split
  · rename_i range
    rw [Option.some.injEq, ← Int64.toInt_inj, Int64.toInt_ofInt_of_le (by omega) (by omega)]
    exact eq_comm
  · simp only [reduceCtorEq, false_iff]
    omega

theorem toInt64?_ofInt64 (n : Int64) : (Decimal.ofInt64 n).toInt64? = some n :=
  toInt64?_eq_some_iff.mpr (roundToInt_ofInt64 n).symm

end Numeral

end ColumnCast
