import ColumnCast.Catalog.Builtin
import ColumnCast.Proofs.Cast.Display
import ColumnCast.Proofs.Numeral.Saturation

/-!
# `ColumnCast.Proofs.Cast.Number`: the numbers of numeric columns

A cell with a digit writes a number, however many digits it has. Two
statements say what becomes of it.

`CastRequest.coerce_amount` is for amounts. The value is shown as what a
decimal keeps of the number (`Decimal.held?`), or as all its digits where
nothing can be kept. So digits are lost when the number has room in a
decimal but more places than the decimal.

`CastRequest.coerce_whole` is for whole numbers, years and ratings. They
round what the decimal keeps, so the number is rounded twice. The outcome
is that of rounding once, unless the first rounding slips
(`CastRequest.Slips`): it takes the number up to a half, or puts it on
one of the two years that have no value.
-/

set_option autoImplicit false

namespace ColumnCast

/-! ### Whole numbers between bounds -/

theorem round_clamp (x : ℚ) (low high : ℤ) :
    round (min (max x low) high) = min (max (round x) low) high := by
  have mono : Monotone (round : ℚ → ℤ) := fun _ _ => Decimal.round_le_round
  rw [mono.map_min, mono.map_max, round_intCast, round_intCast]

theorem lt_half_iff {low k : ℤ} : (low : ℚ) < k + 1 / 2 ↔ low ≤ k := by
  constructor
  · intro lt
    by_contra above
    have next : (k : ℚ) + 1 ≤ low := by exact_mod_cast not_le.mp above
    linarith
  · intro le
    have cast : (low : ℚ) ≤ k := by exact_mod_cast le
    linarith

theorem half_lt_iff {k high : ℤ} : (k : ℚ) + 1 / 2 < high ↔ k < high := by
  constructor
  · intro lt
    by_contra below
    have cast : (high : ℚ) ≤ k := by exact_mod_cast not_lt.mp below
    linarith
  · intro lt
    have next : (k : ℚ) + 1 ≤ high := by exact_mod_cast lt
    linarith

namespace Numeral

/-- The whole number, if it is within the 64 bits of a signed word. -/
def word? (n : ℤ) : Option ℤ := if -2 ^ 63 ≤ n ∧ n < 2 ^ 63 then some n else none

theorem word?_eq_some_iff {m n : ℤ} : word? m = some n ↔ (-2 ^ 63 ≤ m ∧ m < 2 ^ 63) ∧ m = n := by
  unfold word?
  rw [Option.ite_none_right_eq_some, Option.some.injEq]

theorem map_toInt64? {d : Decimal} (nonneg : 0 ≤ d.coefficient) :
    d.toInt64?.map Int64.toInt = word? (round d.toRat) := by
  rw [← Decimal.roundToInt_eq nonneg]
  unfold word?
  cases rounded : d.toInt64? with
  | some n =>
      have low := n.le_toInt
      have high := n.toInt_lt
      rw [← toInt64?_eq_some_iff.mp rounded, if_pos ⟨low, high⟩]
      rfl
  | none =>
      unfold Decimal.toInt64? at rounded
      dsimp only at rounded
      split at rounded
      · exact absurd rounded (by simp)
      · rw [if_neg (by omega)]
        rfl

/-- Bounded numbers round to words. -/
theorem map_toInt64?_clamp {value : Decimal} {low high : Int64} (nonneg : 0 ≤ low.toInt)
    (ordered : low.toInt ≤ high.toInt) :
    (clamp value low high).toInt64?.map Int64.toInt
      = some (round (min (max value.toRat low.toInt) high.toInt)) := by
  have within := within_clamp value ordered
  have positive : 0 ≤ (clamp value low high).coefficient :=
    Int.le_trans (Int.mul_nonneg nonneg (Int.natCast_nonneg _)) within.1
  have small := high.toInt_lt
  rw [map_toInt64? positive, toRat_clamp, round_clamp]
  unfold word?
  rw [if_pos (by omega)]

end Numeral

namespace CastRequest

variable {request : CastRequest} {cell : String}

/-! ### Amounts -/

theorem checkLimit_of_amount (amount : request.type = .decimal ∨ request.type = .currency) :
    request.checkLimit = .ok () := by
  unfold checkLimit
  cases request.limit with
  | none => rfl
  | some limit => rcases amount with type | type <;> rw [type] <;> rfl

theorem coerce_eq_amount (catalog : Catalog)
    (amount : request.type = .decimal ∨ request.type = .currency) (cell : String) :
    request.coerce catalog cell = .ok ((Numeral.ofCell? cell).map fun
      | .exact number => .decimal number
      | .wide digits => .wideDecimal digits) := by
  have allowed := checkLimit_of_amount amount
  rcases amount with type | type <;> simp only [coerce, allowed, type] <;> rfl

/-- **The amount of a cell.** A cell with a digit has a value. It is a decimal, shown as what is
kept of the number, or the canonical digits of all of the number where nothing can be kept. So
what is shown is the number if it is that large, or if a decimal holds it. -/
theorem coerce_amount (catalog : Catalog)
    (amount : request.type = .decimal ∨ request.type = .currency) (cell : String) :
    ((∀ c ∈ cell.toList, c.isDigit = false) → request.coerce catalog cell = .ok none)
      ∧ ((∃ c ∈ cell.toList, c.isDigit = true) →
        ∃ value, request.coerce catalog cell = .ok (some value)
          ∧ ((∃ d : Decimal, value = .decimal d
                ∧ Decimal.held? (Written.ofCell cell).number = some d.toRat
                ∧ Written.Denotes value.display d.toRat)
              ∨ (∃ w : Written, value = .wideDecimal (String.ofList w.text)
                ∧ (Decimal.coefficientBound : ℤ) ≤ round (Written.ofCell cell).number
                ∧ w.Proper ∧ w.IsCanonical ∧ w.number = (Written.ofCell cell).number))
          ∧ (Written.Denotes value.display (Written.ofCell cell).number ↔
              (Decimal.coefficientBound : ℤ) ≤ round (Written.ofCell cell).number
                ∨ ∃ d : Decimal, d.toRat = (Written.ofCell cell).number)) := by
  rw [coerce_eq_amount catalog amount]
  constructor
  · intro noDigit
    rw [Numeral.ofCell?_eq_none_iff.mpr noDigit]
    rfl
  · intro digit
    have nonneg := (Written.ofCell cell).number_nonneg
    obtain ⟨numeral, found, reads⟩ := Numeral.exists_reads digit
    rw [found]
    cases numeral with
    | exact d =>
        -- The decimal is shown as its own number, whether or not that is all of it.
        obtain ⟨unsigned, held⟩ := reads
        have shown : Written.Denotes (Value.decimal d).display d.toRat := by
          rw [← Decimal.toRat_normalize]
          exact Decimal.denotes_toText (Decimal.normalize_nonneg unsigned)
        have room : ¬(Decimal.coefficientBound : ℤ) ≤ round (Written.ofCell cell).number := by
          rw [← Decimal.held?_eq_none_iff, held]
          exact Option.some_ne_none _
        refine ⟨.decimal d, rfl, Or.inl ⟨d, rfl, held, shown⟩, ?_⟩
        rw [← Decimal.held?_eq_self_iff nonneg, held, Option.some.injEq, or_iff_right room]
        exact ⟨fun same => shown.unique same, fun same => same ▸ shown⟩
    | wide digits =>
        -- No place is dropped from the canonical digits but zeros at the ends.
        obtain ⟨rfl, large⟩ := reads
        have large := Decimal.held?_eq_none_iff.mp large
        have proper : (Written.ofCell cell).Proper := Written.proper_of_digit digit
        have number := Written.number_shortened (Written.ofCell cell)
        exact ⟨.wideDecimal _, rfl,
          Or.inr ⟨_, rfl, large, proper.shortened, Written.isCanonical_shortened _, number⟩,
          iff_of_true ⟨_, proper.shortened, rfl, number⟩ (Or.inl large)⟩

/-- A currency sign and a separator of thousands are no digits. -/
theorem coerce_amount_dollars :
    ∃ value, ({ type := .currency, source := "p" } : CastRequest).coerce Catalog.builtin "$1,299.99"
        = .ok (some value)
      ∧ Written.Denotes value.display (129999 / 100) := by
  have number : (Written.ofCell "$1,299.99").number = 129999 / 100 := by decide +kernel
  obtain ⟨value, read, -, shown⟩ :=
    (@coerce_amount { type := .currency, source := "p" } Catalog.builtin
      (Or.inr rfl) "$1,299.99").2 ⟨'1', by decide, rfl⟩
  rw [number] at shown
  exact ⟨value, read, shown.mpr (Or.inr ⟨⟨129999, 2, by decide, by decide⟩, by decide +kernel⟩)⟩

/-- An amount of 29 places is shown as nothing. -/
theorem coerce_amount_loses_place :
    ∃ value, ({ type := .decimal, source := "p" } : CastRequest).coerce Catalog.builtin
          "0.00000000000000000000000000001"
        = .ok (some value)
      ∧ value.display = "0"
      ∧ ¬Written.Denotes value.display
          (Written.ofCell "0.00000000000000000000000000001").number := by
  have number : (Written.ofCell "0.00000000000000000000000000001").number = 1 / 10 ^ 29 := by
    decide +kernel
  refine ⟨.decimal (Decimal.ofInt64 0), by decide +kernel, by decide +kernel, ?_⟩
  have zero : Written.Denotes (Value.decimal (Decimal.ofInt64 0)).display 0 := by
    refine ⟨⟨['0'], []⟩, ⟨by decide, by decide, by decide⟩, by decide +kernel, by decide +kernel⟩
  rw [number]
  intro shown
  exact absurd (zero.unique shown) (by norm_num)

/-! ### Whole numbers, years and ratings -/

/-- The whole number that a column has for the number `x`. -/
def wholeOf? (request : CastRequest) (x : ℚ) : Option ℤ :=
  match request.type with
  | .number => Numeral.word? (round x)
  | .year => if x = 999 ∨ x = 10000 then none else some (round (min (max x 1000) 9999))
  | .rating => some (round (min (max x 0) request.ratingLimit.toNat))
  | _ => none

/-- No whole number of the column is smaller. -/
def leastWhole (request : CastRequest) : ℤ :=
  match request.type with
  | .year => 1000
  | .rating => 0
  | _ => -2 ^ 63

/-- From here on the column has no further whole number. -/
def mostWhole (request : CastRequest) : ℤ :=
  match request.type with
  | .year => 9999
  | .rating => request.ratingLimit.toNat
  | _ => 2 ^ 63

/-- Rounding `x` to `r` changes the whole number of the column: `r` is a half that `x` lies
below, or a year without a value that `x` is not. -/
def Slips (request : CastRequest) (x r : ℚ) : Prop :=
  (x < r ∧ (∃ k : ℤ, r = k + 1 / 2) ∧ (request.leastWhole : ℚ) < r ∧ r < request.mostWhole)
    ∨ (request.type = .year ∧ r ≠ x ∧ (r = 999 ∨ r = 10000))

/-- A whole number is kept as it is. -/
theorem eq_of_held_whole {x r : ℚ} {n : Int64} (nonneg : 0 ≤ x) (whole : x = n.toInt)
    (held : Decimal.held? x = some r) : r = x := by
  have same := (Decimal.held?_eq_self_iff nonneg).mpr
    ⟨Decimal.ofInt64 n, (Decimal.toRat_ofInt64 n).trans whole.symm⟩
  exact Option.some.inj (held.symm.trans same)

/-- What is kept rounds to another whole number only from a half that the number lies below. -/
theorem round_held {x r : ℚ} (held : Decimal.held? x = some r) :
    round r = round x ∨ (x < r ∧ ∃ k : ℤ, r = k + 1 / 2 ∧ round x = k ∧ round r = k + 1) := by
  unfold Decimal.held? at held
  split at held
  · obtain rfl := Option.some.inj held
    exact Decimal.round_atPlaces x _
  · exact absurd held (by simp)

theorem half_between_iff {x r : ℚ} (held : Decimal.held? x = some r) (low high : ℤ) :
    (x < r ∧ (∃ k : ℤ, r = k + 1 / 2) ∧ (low : ℚ) < r ∧ r < high)
      ↔ round r = round x + 1 ∧ low ≤ round x ∧ round x < high := by
  rcases round_held held with same | ⟨lt, k, rfl, whole, up⟩
  · refine iff_of_false ?_ (by omega)
    rintro ⟨lt, ⟨k, rfl⟩, -, -⟩
    -- A number that rounds as the half does is no smaller.
    have half : round ((k : ℚ) + 1 / 2) = k + 1 := by
      rw [round_eq_iff]
      push_cast
      constructor <;> linarith
    rw [half] at same
    have atLeast := Decimal.le_round_iff.mp same.le
    push_cast at atLeast
    linarith
  · rw [whole, up, lt_half_iff, half_lt_iff]
    exact ⟨fun ⟨_, _, between⟩ => ⟨rfl, between⟩, fun ⟨_, between⟩ => ⟨lt, ⟨k, rfl⟩, between⟩⟩

/-- What is kept rounds as the number does, or to the next whole number. -/
theorem round_held_cases {x r : ℚ} (held : Decimal.held? x = some r) :
    round r = round x ∨ round r = round x + 1 := by
  rcases round_held held with same | ⟨-, k, -, whole, up⟩
  · exact Or.inl same
  · exact Or.inr (by rw [whole, up])

theorem round_nonneg {x : ℚ} (nonneg : 0 ≤ x) : 0 ≤ round x := by
  rw [Decimal.le_round_iff]
  push_cast
  linarith

/-- Clamped to the bounds, the two whole numbers differ if they lie between them. -/
theorem clamp_held_eq_iff {x r : ℚ} (held : Decimal.held? x = some r) {low high : ℤ}
    (ordered : low ≤ high) :
    round (min (max r low) high) = round (min (max x low) high)
      ↔ ¬(round r = round x + 1 ∧ low ≤ round x ∧ round x < high) := by
  rw [round_clamp, round_clamp]
  have cases := round_held_cases held
  constructor <;> intro h <;> omega

/-- **When rounding what is kept is not rounding the number.** -/
theorem wholeOf?_eq_iff {x r : ℚ} (nonneg : 0 ≤ x) (held : Decimal.held? x = some r)
    (isWhole : request.type = .number ∨ request.type = .year ∨ request.type = .rating) :
    request.wholeOf? r = request.wholeOf? x ↔ ¬request.Slips x r := by
  unfold Slips
  rw [half_between_iff held]
  rcases isWhole with type | type | type
  · -- Both whole numbers are words, or neither is, unless the bound lies between them.
    have cases := round_held_cases held
    have positive := round_nonneg nonneg
    simp only [wholeOf?, leastWhole, mostWhole, type, reduceCtorEq, false_and, or_false]
    unfold Numeral.word?
    constructor
    · intro same
      split at same <;> split at same <;> simp at same <;> omega
    · intro apart
      split <;> split <;> simp <;> omega
  · simp only [wholeOf?, leastWhole, mostWhole, type, true_and]
    by_cases same : r = x
    · subst same
      simp
    · -- A year without a value is kept as it is, so the number is none of the two.
      have apart : ¬(x = 999 ∨ x = 10000) := by
        rintro (whole | whole)
        · exact same (eq_of_held_whole (n := 999) nonneg whole held)
        · exact same (eq_of_held_whole (n := 10000) nonneg whole held)
      rw [if_neg apart]
      by_cases sentinel : r = 999 ∨ r = 10000
      · rw [if_pos sentinel]
        exact iff_of_false (by simp) (not_not_intro (Or.inr ⟨same, sentinel⟩))
      · rw [if_neg sentinel, Option.some.injEq]
        have clamped := clamp_held_eq_iff held (by decide : (1000 : ℤ) ≤ 9999)
        push_cast at clamped
        rw [clamped, or_iff_left (fun h => sentinel h.2)]
  · simp only [wholeOf?, leastWhole, mostWhole, type, reduceCtorEq, false_and, or_false,
      Option.some.injEq]
    have clamped := clamp_held_eq_iff held (Int.natCast_nonneg request.ratingLimit.toNat)
    push_cast at clamped
    exact clamped

/-! ### Numerals of cells -/

/-- The whole number that the columns read from a numeral. -/
def readWhole? (request : CastRequest) (numeral : Numeral) : Option Int64 :=
  match request.type with
  | .number => numeral.decimal?.bind Decimal.toInt64?
  | .year =>
    (Numeral.bounded? (numeral.saturate yearHigh) yearLow yearHigh).bind Decimal.toInt64?
  | .rating =>
    (Numeral.clamp (numeral.saturate request.bestRating) 0 request.bestRating).toInt64?
  | _ => none

theorem coerce_eq_whole (catalog : Catalog)
    (isWhole : request.type = .number ∨ request.type = .year ∨ request.type = .rating)
    (allowed : request.checkLimit = .ok ()) (cell : String) :
    request.coerce catalog cell
      = .ok (((Numeral.ofCell? cell).bind request.readWhole?).map .integer) := by
  rcases isWhole with type | type | type
  all_goals
    simp only [coerce, allowed, type, Numeral.decimalOfCell?, Option.map_bind]
    cases Numeral.ofCell? cell with
    | none => rfl
    | some numeral =>
        simp only [Option.bind_some, readWhole?, type, Function.comp_apply, Option.map_bind]
        rfl

/-- A number too large for a decimal is none of the years without a value. -/
theorem year_saturate_iff {w : Written} {numeral : Numeral} (reads : numeral.Reads w) :
    (numeral.saturate yearHigh).toRat = 999 ∨ (numeral.saturate yearHigh).toRat = 10000
      ↔ (Decimal.held? w.number).getD w.number = 999
        ∨ (Decimal.held? w.number).getD w.number = 10000 := by
  cases numeral with
  | exact value =>
      rw [reads.2]
      rfl
  | wide digits =>
      have large := Decimal.held?_eq_none_iff.mp reads.2
      rw [reads.2, Option.getD_none]
      show (Decimal.ofInt64 yearHigh).toRat = 999 ∨ (Decimal.ofInt64 yearHigh).toRat = 10000 ↔ _
      rw [Decimal.toRat_ofInt64]
      refine iff_of_false (by decide +kernel) ?_
      rintro (year | year)
      all_goals
        rw [year, round_ofNat] at large
        exact absurd large (by decide)

/-- **The columns round what is kept of the number.** -/
theorem map_readWhole? {w : Written} {numeral : Numeral} (reads : numeral.Reads w)
    (isWhole : request.type = .number ∨ request.type = .year ∨ request.type = .rating) :
    (request.readWhole? numeral).map Int64.toInt
      = request.wholeOf? ((Decimal.held? w.number).getD w.number) := by
  rcases isWhole with type | type | type
  · simp only [readWhole?, wholeOf?, type]
    cases numeral with
    | exact value =>
        rw [reads.2]
        exact Numeral.map_toInt64? reads.1
    | wide digits =>
        -- What is too large for a decimal is too large for a word.
        have large := Decimal.held?_eq_none_iff.mp reads.2
        rw [reads.2, Option.getD_none]
        unfold Numeral.word?
        unfold Decimal.coefficientBound at large
        rw [if_neg (by omega)]
        rfl
  · simp only [readWhole?, wholeOf?, type]
    have sentinel := year_saturate_iff reads
    have clamped := reads.clamp_saturate yearLow yearHigh
    have least : (((Numeral.below yearLow).toInt : ℤ) : ℚ) = 999 := rfl
    have most : (((Numeral.above yearHigh).toInt : ℤ) : ℚ) = 10000 := rfl
    rw [Numeral.bounded?_eq, least, most]
    by_cases stands : (numeral.saturate yearHigh).toRat = 999
        ∨ (numeral.saturate yearHigh).toRat = 10000
    · rw [if_pos stands, if_pos (sentinel.mp stands)]
      rfl
    · rw [if_neg stands, if_neg (fun h => stands (sentinel.mpr h)), Option.bind_some,
        Numeral.map_toInt64?_clamp (by decide) (by decide), clamped]
      rfl
  · simp only [readWhole?, wholeOf?, type]
    have best := request.bestRating_toInt
    have clamped := reads.clamp_saturate 0 request.bestRating
    rw [Numeral.map_toInt64?_clamp (by decide) (by rw [best]; exact Int.natCast_nonneg _), clamped,
      best]
    rfl

/-- **The whole number of a cell.** A cell without a digit has none. Otherwise the column rounds
what a decimal keeps of the number `x` that is written, and this is the whole number for `x`
itself unless keeping it made it slip. -/
theorem coerce_whole (catalog : Catalog)
    (isWhole : request.type = .number ∨ request.type = .year ∨ request.type = .rating)
    (allowed : request.checkLimit = .ok ()) (cell : String) :
    ∃ value : Option Int64, request.coerce catalog cell = .ok (value.map .integer)
      ∧ ((∀ c ∈ cell.toList, c.isDigit = false) → value = none)
      ∧ ((∃ c ∈ cell.toList, c.isDigit = true) → ∀ x, x = (Written.ofCell cell).number →
        value.map Int64.toInt = request.wholeOf? ((Decimal.held? x).getD x)
          ∧ (value.map Int64.toInt = request.wholeOf? x ↔
              ¬∃ r, Decimal.held? x = some r ∧ request.Slips x r)) := by
  refine ⟨_, coerce_eq_whole catalog isWhole allowed cell, fun noDigit => ?_, ?_⟩
  · rw [Numeral.ofCell?_eq_none_iff.mpr noDigit]
    rfl
  · rintro digit x rfl
    have nonneg := (Written.ofCell cell).number_nonneg
    obtain ⟨numeral, found, reads⟩ := Numeral.exists_reads digit
    rw [found, Option.bind_some, map_readWhole? reads isWhole]
    refine ⟨rfl, ?_⟩
    cases held : Decimal.held? (Written.ofCell cell).number with
    | none => simp
    | some r =>
        rw [Option.getD_some, wholeOf?_eq_iff nonneg held isWhole]
        simp

/-- A half is no slip: it goes up, once. -/
theorem coerce_whole_half :
    ({ type := .year, source := "p" } : CastRequest).checkLimit = .ok ()
      ∧ ∃ value : Option Int64,
        ({ type := .year, source := "p" } : CastRequest).coerce Catalog.builtin "in 1999.5"
            = .ok (value.map .integer)
          ∧ value.map Int64.toInt = some 2000 := by
  have number : (Written.ofCell "in 1999.5").number = 3999 / 2 := by decide +kernel
  obtain ⟨value, read, -, rounded⟩ :=
    @coerce_whole { type := .year, source := "p" } Catalog.builtin (Or.inr (Or.inl rfl)) rfl
      "in 1999.5"
  have kept := (rounded ⟨'1', by decide, rfl⟩ (3999 / 2) number.symm).1
  refine ⟨rfl, value, read, kept.trans ?_⟩
  decide +kernel

/-- A number below a half has 29 places, is kept as the half, and rounded up. -/
theorem coerce_whole_slips :
    ({ type := .number, source := "p" } : CastRequest).coerce Catalog.builtin
        "0.49999999999999999999999999999"
      = .ok (some (.integer 1))
      ∧ ({ type := .number, source := "p" } : CastRequest).wholeOf?
          (Written.ofCell "0.49999999999999999999999999999").number
        = some 0 := by
  constructor <;> decide +kernel

end CastRequest

end ColumnCast
