import ColumnCast.Proofs.Cast.Numeric

/-!
# `ColumnCast.Proofs.Cast.Bounds`: order and range of numeric columns

Percentages, ratings, years and whole numbers come from the number of a
cell in steps: a decimal keeps what it has room for, what is too large
counts as the upper bound, the bounds cut, and whole numbers are rounded
last. No step swaps two numbers, so no column orders two cells against
their numbers (`CastRequest.coerce_monotone`), and none leaves the range
of the column (`CastRequest.coerce_inRange`).

Both follow from what the columns read (`CastRequest.exists_percent` and
`CastRequest.exists_whole`), which speaks of rational numbers only.
-/

set_option autoImplicit false

namespace ColumnCast

/-- Two numbers of one kind, the first no larger. -/
inductive Value.NoLarger : Value → Value → Prop
  | integer {m n : Int64} (le : m.toInt ≤ n.toInt) : NoLarger (.integer m) (.integer n)
  | decimal {d e : Decimal} (le : d.toRat ≤ e.toRat) : NoLarger (.decimal d) (.decimal e)

namespace CastRequest

variable {request : CastRequest} {cell : String} {x y : ℚ}

/-! ### What the columns read -/

theorem coerce_eq_percent (catalog : Catalog) (type : request.type = .percent)
    (allowed : request.checkLimit = .ok ()) (cell : String) :
    request.coerce catalog cell = .ok ((Numeral.ofCell? cell).map fun numeral =>
      .decimal (Numeral.clamp (numeral.saturate percentHigh) percentLow percentHigh)) := by
  simp only [coerce, allowed, type]
  rfl

/-- The percentage of a cell is what is kept of its number, cut to the bounds. -/
theorem exists_percent (catalog : Catalog) (type : request.type = .percent)
    (allowed : request.checkLimit = .ok ()) (digit : ∃ c ∈ cell.toList, c.isDigit = true) :
    ∃ d : Decimal, request.coerce catalog cell = .ok (some (.decimal d))
      ∧ d.toRat = min (max ((Decimal.held? (Written.ofCell cell).number).getD
          (Written.ofCell cell).number) 0) 100 := by
  obtain ⟨numeral, found, reads⟩ := Numeral.exists_reads digit
  have low : percentLow.toInt = 0 := rfl
  have high : percentHigh.toInt = 100 := rfl
  have cut := reads.clamp_saturate percentLow percentHigh
  rw [low, high, Int.cast_zero, Int.cast_ofNat] at cut
  refine ⟨_, by rw [coerce_eq_percent catalog type allowed, found]; rfl, ?_⟩
  rw [Numeral.toRat_clamp, low, high, Int.cast_zero, Int.cast_ofNat, cut]

/-- The whole number of a cell is that of what is kept of its number. -/
theorem exists_whole (catalog : Catalog)
    (isWhole : request.type = .number ∨ request.type = .year ∨ request.type = .rating)
    (allowed : request.checkLimit = .ok ()) (digit : ∃ c ∈ cell.toList, c.isDigit = true) :
    ∃ numeral, Numeral.ofCell? cell = some numeral
      ∧ request.coerce catalog cell = .ok ((request.readWhole? numeral).map .integer)
      ∧ (request.readWhole? numeral).map Int64.toInt
        = request.wholeOf? ((Decimal.held? (Written.ofCell cell).number).getD
            (Written.ofCell cell).number) := by
  obtain ⟨numeral, found, reads⟩ := Numeral.exists_reads digit
  refine ⟨numeral, found, ?_, map_readWhole? reads isWhole⟩
  rw [coerce_eq_whole catalog isWhole allowed, found, Option.bind_some]

/-! ### Order -/

/-- The whole numbers of a column are in the order of the numbers. -/
theorem wholeOf?_mono (le : x ≤ y) {m n : ℤ} (first : request.wholeOf? x = some m)
    (second : request.wholeOf? y = some n) : m ≤ n := by
  -- Whichever of the two numbers the bounds cut, they stay in order.
  have clamped (low high : ℚ) :
      round (min (max x low) high) ≤ round (min (max y low) high) :=
    Decimal.round_le_round (min_le_min_right high (max_le_max_right low le))
  unfold wholeOf? at first second
  split at first
  · rename_i type
    simp only [type] at second
    obtain ⟨-, rfl⟩ := Numeral.word?_eq_some_iff.mp first
    obtain ⟨-, rfl⟩ := Numeral.word?_eq_some_iff.mp second
    exact Decimal.round_le_round le
  · rename_i type
    simp only [type] at second
    split at first
    · exact absurd first (by simp)
    · split at second
      · exact absurd second (by simp)
      · obtain rfl := Option.some.inj first
        obtain rfl := Option.some.inj second
        exact clamped 1000 9999
  · rename_i type
    simp only [type] at second
    obtain rfl := Option.some.inj first
    obtain rfl := Option.some.inj second
    exact clamped 0 _
  · exact absurd first (by simp)

/-- Below a number that has a whole number every number has one, in all columns but years. -/
theorem isSome_wholeOf?_of_le (notYear : request.type ≠ .year) (nonneg : 0 ≤ x) (le : x ≤ y)
    (second : (request.wholeOf? y).isSome) : (request.wholeOf? x).isSome := by
  unfold wholeOf? at second ⊢
  split at second
  · -- Nothing is below the least word, for no number is negative.
    have least := round_nonneg nonneg
    have most := Decimal.round_le_round le
    unfold Numeral.word? at second ⊢
    split at second
    · rw [if_pos (by omega)]
      rfl
    · exact absurd second (by simp)
  · rename_i type
    exact absurd type notYear
  · rfl
  · exact absurd second (by simp)

theorem isSome_wholeOf?_rating (type : request.type = .rating) (x : ℚ) :
    (request.wholeOf? x).isSome := by
  simp only [wholeOf?, type, Option.isSome_some]

/-- Of the limits of numeric columns only those of ratings are checked. -/
theorem checkLimit_of_numeric (numeric : request.type ∈ [.percent, .rating, .number, .year])
    (allowed : request.type = .rating → request.checkLimit = .ok ()) :
    request.checkLimit = .ok () := by
  simp only [List.mem_cons, List.not_mem_nil, or_false] at numeric
  rcases numeric with type | type | type | type
  case inr.inl => exact allowed type
  all_goals
    unfold checkLimit
    cases request.limit with
    | none => rfl
    | some limit => rw [type]; rfl

theorem isWhole_of_numeric (numeric : request.type ∈ [.percent, .rating, .number, .year])
    (other : request.type ≠ .percent) :
    request.type = .number ∨ request.type = .year ∨ request.type = .rating := by
  simp only [List.mem_cons, List.not_mem_nil, or_false, other, false_or] at numeric
  tauto

/-- **Numeric columns keep the order of the numbers.** Two cells with digits, the number of the
first no larger than that of the second: so are their values, however many digits there are.
Percentages and ratings always have one. Of whole numbers, the first has one if the second does;
only a year may have none between two that have. -/
theorem coerce_monotone (catalog : Catalog)
    (numeric : request.type ∈ [.percent, .rating, .number, .year])
    (allowed : request.type = .rating → request.checkLimit = .ok ()) {a b : String}
    (digit : ∃ c ∈ a.toList, c.isDigit = true) (digit' : ∃ c ∈ b.toList, c.isDigit = true)
    (le : (Written.ofCell a).number ≤ (Written.ofCell b).number) :
    ∃ u v, request.coerce catalog a = .ok u ∧ request.coerce catalog b = .ok v
      ∧ (request.type = .percent ∨ request.type = .rating → u.isSome ∧ v.isSome)
      ∧ (request.type ≠ .year → v.isSome → u.isSome)
      ∧ ∀ p ∈ u, ∀ q ∈ v, p.NoLarger q := by
  have allowed := checkLimit_of_numeric numeric allowed
  have nonneg := Decimal.getD_held?_nonneg (Written.ofCell a).number_nonneg
  have kept := Decimal.getD_held?_mono le
  by_cases type : request.type = .percent
  · obtain ⟨d, read, first⟩ := exists_percent catalog type allowed digit
    obtain ⟨e, read', second⟩ := exists_percent catalog type allowed digit'
    refine ⟨_, _, read, read', fun _ => ⟨rfl, rfl⟩, fun _ _ => rfl, ?_⟩
    intro p isFirst q isSecond
    obtain rfl := Option.some.inj isFirst
    obtain rfl := Option.some.inj isSecond
    refine .decimal ?_
    rw [first, second]
    exact min_le_min_right 100 (max_le_max_right 0 kept)
  · have isWhole := isWhole_of_numeric numeric type
    obtain ⟨numeral, -, read, first⟩ := exists_whole catalog isWhole allowed digit
    obtain ⟨numeral', -, read', second⟩ := exists_whole catalog isWhole allowed digit'
    -- From here on it is two rational numbers, what is kept of the two cells.
    generalize (Decimal.held? (Written.ofCell a).number).getD (Written.ofCell a).number = x at *
    generalize (Decimal.held? (Written.ofCell b).number).getD (Written.ofCell b).number = y at *
    have some : (request.readWhole? numeral).isSome = (request.wholeOf? x).isSome := by
      rw [← first, Option.isSome_map]
    have some' : (request.readWhole? numeral').isSome = (request.wholeOf? y).isSome := by
      rw [← second, Option.isSome_map]
    refine ⟨_, _, read, read', ?_, ?_, ?_⟩
    · intro always
      have rating : request.type = .rating := always.resolve_left type
      rw [Option.isSome_map, Option.isSome_map, some, some']
      exact ⟨isSome_wholeOf?_rating rating x, isSome_wholeOf?_rating rating y⟩
    · rw [Option.isSome_map, Option.isSome_map, some, some']
      exact fun notYear => isSome_wholeOf?_of_le notYear nonneg kept
    · intro p isFirst q isSecond
      obtain ⟨m, readFirst, rfl⟩ := Option.map_eq_some_iff.mp isFirst
      obtain ⟨n, readSecond, rfl⟩ := Option.map_eq_some_iff.mp isSecond
      rw [readFirst, Option.map_some] at first
      rw [readSecond, Option.map_some] at second
      exact .integer (wholeOf?_mono kept first.symm second.symm)

/-- A number just below a hundred has 31 places, is kept with 26, and so as a hundred. Of the
other, which has 31 digits, nothing can be kept. -/
theorem coerce_monotone_wide :
    (Written.ofCell "99.9999999999999999999999999999999 %").number
        ≤ (Written.ofCell "1000000000000000000000000000000 %").number
      ∧ ∃ u v, ({ type := .percent, source := "p" } : CastRequest).coerce Catalog.builtin
            "99.9999999999999999999999999999999 %" = .ok u
          ∧ ({ type := .percent, source := "p" } : CastRequest).coerce Catalog.builtin
            "1000000000000000000000000000000 %" = .ok v
          ∧ (u.isSome ∧ v.isSome) ∧ ∀ p ∈ u, ∀ q ∈ v, p.NoLarger q := by
  have le : (Written.ofCell "99.9999999999999999999999999999999 %").number
      ≤ (Written.ofCell "1000000000000000000000000000000 %").number := by
    decide +kernel
  obtain ⟨u, v, read, read', always, -, ordered⟩ :=
    @coerce_monotone { type := .percent, source := "p" } Catalog.builtin (by decide) (by decide)
      _ _ ⟨'9', by decide, rfl⟩ ⟨'1', by decide, rfl⟩ le
  exact ⟨le, u, v, read, read', always (Or.inl rfl), ordered⟩

/-! ### Range -/

/-- The values that a numeric column may have. -/
inductive InRange (request : CastRequest) : Value → Prop
  | percent {d : Decimal} (type : request.type = .percent) (low : 0 ≤ d.toRat)
      (high : d.toRat ≤ 100) : InRange request (.decimal d)
  /-- The best rating is 5 unless it is given, and an `INTEGER` holds it. -/
  | rating {n : Int64} (type : request.type = .rating) (low : 0 ≤ n.toInt)
      (high : n.toInt ≤ (request.limit.getD 5).toNat) (small : n.toInt < 2 ^ 31) :
      InRange request (.integer n)
  | year {n : Int64} (type : request.type = .year) (low : 1000 ≤ n.toInt)
      (high : n.toInt ≤ 9999) : InRange request (.integer n)
  | number {n : Int64} (type : request.type = .number) (low : 0 ≤ n.toInt) :
      InRange request (.integer n)

/-- Rounding the number between the bounds does not leave them. -/
theorem inRange_of_wholeOf? (allowed : request.checkLimit = .ok ()) (nonneg : 0 ≤ x) {n : Int64}
    (read : request.wholeOf? x = some n.toInt) : request.InRange (.integer n) := by
  unfold wholeOf? at read
  split at read
  · rename_i type
    obtain ⟨-, rounded⟩ := Numeral.word?_eq_some_iff.mp read
    exact .number type (rounded ▸ round_nonneg nonneg)
  · rename_i type
    split at read
    · exact absurd read (by simp)
    · -- Rounding leaves whole numbers alone, so the bounds may as well cut what is rounded.
      have rounded := Option.some.inj read
      have clamped := round_clamp x 1000 9999
      push_cast at clamped
      exact .year type (by omega) (by omega)
  · rename_i type
    have small := ratingLimit_lt type allowed
    have rounded := Option.some.inj read
    have clamped := round_clamp x 0 request.ratingLimit.toNat
    push_cast at clamped
    have high : n.toInt ≤ request.ratingLimit.toNat := by omega
    exact .rating type (by omega) high (by omega)
  · exact absurd read (by simp)

/-- Between its bounds every year is a word, so that only the bounds refuse it. -/
theorem readWhole?_year_eq_none_iff (type : request.type = .year) (numeral : Numeral) :
    request.readWhole? numeral = none
      ↔ Numeral.bounded? (numeral.saturate yearHigh) yearLow yearHigh = none := by
  simp only [readWhole?, type]
  cases bounded : Numeral.bounded? (numeral.saturate yearHigh) yearLow yearHigh with
  | none => simp
  | some year =>
      have word := @Numeral.map_toInt64?_clamp (numeral.saturate yearHigh) yearLow yearHigh
        (by decide) (by decide)
      rw [Numeral.clamp_of_bounded? bounded] at word
      refine iff_of_false ?_ (by simp)
      intro refused
      rw [Option.bind_some] at refused
      rw [refused] at word
      exact absurd word (by simp)

theorem coerce_eq_none_of_noDigit (catalog : Catalog)
    (numeric : request.type ∈ [.percent, .rating, .number, .year])
    (allowed : request.checkLimit = .ok ())
    (noDigit : ∀ c ∈ cell.toList, c.isDigit = false) : request.coerce catalog cell = .ok none := by
  by_cases type : request.type = .percent
  · rw [coerce_eq_percent catalog type allowed, Numeral.ofCell?_eq_none_iff.mpr noDigit]
    rfl
  · rw [coerce_eq_whole catalog (isWhole_of_numeric numeric type) allowed,
      Numeral.ofCell?_eq_none_iff.mpr noDigit]
    rfl

/-- **The range of a numeric column.** Whatever a cell holds, its value is within the range, if it
has one. A percentage or rating has none only where the cell has no digit, and a year only where
it has no digit or the bounds refuse its number: no step after the bounds loses a value. -/
theorem coerce_inRange (catalog : Catalog)
    (numeric : request.type ∈ [.percent, .rating, .number, .year])
    (allowed : request.checkLimit = .ok ()) (cell : String) :
    ∃ value, request.coerce catalog cell = .ok value
      ∧ (∀ v ∈ value, request.InRange v)
      ∧ (request.type = .percent ∨ request.type = .rating →
        (value = none ↔ ∀ c ∈ cell.toList, c.isDigit = false))
      ∧ (request.type = .year →
        (value = none ↔ ∀ numeral ∈ Numeral.ofCell? cell,
          Numeral.bounded? (numeral.saturate yearHigh) yearLow yearHigh = none)) := by
  by_cases noDigit : ∀ c ∈ cell.toList, c.isDigit = false
  · have none := coerce_eq_none_of_noDigit catalog numeric allowed noDigit
    refine ⟨_, none, by simp, fun _ => iff_of_true rfl noDigit, fun _ => iff_of_true rfl ?_⟩
    rw [Numeral.ofCell?_eq_none_iff.mpr noDigit]
    simp
  · have digit : ∃ c ∈ cell.toList, c.isDigit = true := by simpa using noDigit
    have nonneg := Decimal.getD_held?_nonneg (Written.ofCell cell).number_nonneg
    by_cases type : request.type = .percent
    · obtain ⟨d, read, part⟩ := exists_percent catalog type allowed digit
      refine ⟨_, read, ?_, fun _ => iff_of_false (by simp) noDigit, by simp [type]⟩
      intro v isValue
      obtain rfl := Option.some.inj isValue
      refine .percent type ?_ ?_
      · rw [part]
        exact le_min (le_max_right _ _) (by norm_num)
      · rw [part]
        exact min_le_right _ _
    · obtain ⟨numeral, found, read, whole⟩ :=
        exists_whole catalog (isWhole_of_numeric numeric type) allowed digit
      refine ⟨_, read, ?_, ?_, ?_⟩
      · intro v isValue
        obtain ⟨n, isRead, rfl⟩ := Option.map_eq_some_iff.mp isValue
        rw [isRead, Option.map_some] at whole
        exact inRange_of_wholeOf? allowed nonneg whole.symm
      · intro always
        have rating : request.type = .rating := always.resolve_left type
        have some := isSome_wholeOf?_rating rating
          ((Decimal.held? (Written.ofCell cell).number).getD (Written.ofCell cell).number)
        rw [← whole, Option.isSome_map] at some
        refine iff_of_false ?_ noDigit
        rw [Option.map_eq_none_iff]
        exact Option.ne_none_iff_isSome.mpr some
      · intro year
        rw [Option.map_eq_none_iff, readWhole?_year_eq_none_iff year, found]
        simp

/-- A rating is cut to its limit before it is rounded, so a half above the limit does not count. -/
theorem coerce_inRange_half :
    ({ type := .rating, source := "r", limit := some 2147483647 } : CastRequest).checkLimit = .ok ()
      ∧ ∃ value, ({ type := .rating, source := "r", limit := some 2147483647 } : CastRequest).coerce
            Catalog.builtin "2147483647.5 stars" = .ok value
          ∧ (∀ v ∈ value,
            ({ type := .rating, source := "r", limit := some 2147483647 } : CastRequest).InRange v)
          ∧ value ≠ none := by
  obtain ⟨value, read, range, none, -⟩ :=
    @coerce_inRange { type := .rating, source := "r", limit := some 2147483647 } Catalog.builtin
      (by decide) rfl "2147483647.5 stars"
  refine ⟨rfl, value, read, range, fun missing => ?_⟩
  have noDigit := (none (Or.inr rfl)).mp missing '2' (by decide)
  exact absurd noDigit (by decide)

end CastRequest

end ColumnCast
