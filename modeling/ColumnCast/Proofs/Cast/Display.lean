import ColumnCast.Cast
import ColumnCast.Proofs.Numeral
import ColumnCast.Proofs.Select
import ColumnCast.Proofs.Temporal

/-!
# `ColumnCast.Proofs.Cast.Display`: values that are read again

A value is shown as a text (`Value.display`), and the column that read it
reads that text again: the second value is the same, and so is its text
(`CastRequest.coerce_display`). Each kind of value has its own reason.
Texts are cut no further, options are kept, numbers are read from their
digits and lie between the bounds already, dates and times are shown in
layouts of the catalog, and a duration is shown as a number of seconds,
which is what a duration is read as first.
-/

set_option autoImplicit false

namespace ColumnCast

/-! ### Values that are the same -/

/-- Equal values; decimals are compared by what they are worth. -/
def Value.Same : Value → Value → Prop
  | .decimal a, .decimal b => a.same b = true
  | .duration a, .duration b => a.same b = true
  | a, b => a = b

theorem Value.same_self (value : Value) : value.Same value := by
  cases value
  case decimal number => exact number.same_self
  case duration seconds => exact seconds.same_self
  all_goals rfl

/-- What is read of a cell is read of its display too. -/
def Rereads (read : String → Option Value) : Prop :=
  ∀ cell value, read cell = some value → read value.display = some value

/-! ### Whole numbers -/

namespace Numeral

theorem roundToInt_nonneg {value : Decimal} (nonneg : 0 ≤ value.coefficient) :
    0 ≤ value.roundToInt := by
  unfold Decimal.roundToInt
  dsimp only
  rw [if_neg (Int.not_lt.mpr nonneg)]
  exact Int.natCast_nonneg _

/-- A number that is rounded is not negative. -/
theorem nonneg_of_toInt64? {cell : String} {value : Decimal} {n : Int64}
    (h : decimalOfCell? cell = some value) (rounded : value.toInt64? = some n) : 0 ≤ n.toInt := by
  obtain ⟨numeral, found, isExact⟩ := Option.bind_eq_some_iff.mp h
  cases numeral with
  | wide digits => exact absurd isExact (by simp [decimal?])
  | exact number =>
      obtain rfl : number = value := by simpa [decimal?] using isExact
      rw [toInt64?_eq_some_iff.mp rounded]
      exact roundToInt_nonneg (of_ofCell?_exact found).1

theorem decimalOfCell?_toString {n : Int64} (nonneg : 0 ≤ n.toInt) :
    decimalOfCell? (toString n.toInt) = some (Decimal.ofInt64 n) := by
  unfold decimalOfCell?
  rw [ofCell?_toString nonneg]
  rfl

/-- A clamped number is still within its bounds when it is rounded. -/
theorem within_of_clamp {value : Decimal} {low high n : Int64} (nonneg : 0 ≤ low.toInt)
    (ordered : low.toInt ≤ high.toInt) (rounded : (clamp value low high).toInt64? = some n) :
    low.toInt ≤ n.toInt ∧ n.toInt ≤ high.toInt := by
  rw [toInt64?_eq_some_iff.mp rounded]
  exact roundToInt_within (within_clamp value ordered) nonneg

/-- A whole number within the bounds is left as it is. -/
theorem clamp_ofInt64 {low high n : Int64} (within : low.toInt ≤ n.toInt ∧ n.toInt ≤ high.toInt) :
    clamp (Decimal.ofInt64 n) low high = Decimal.ofInt64 n :=
  clamp_of_within (within_ofInt64_iff.mpr within)

theorem same_ofInt64 (a b : Int64) :
    (Decimal.ofInt64 a).same (Decimal.ofInt64 b) = (a.toInt == b.toInt) := by
  simp [Decimal.same, Decimal.ofInt64, Decimal.scale]

/-- A year within its bounds is left as it is. -/
theorem bounded?_ofInt64 {n : Int64} (within : CastRequest.yearLow.toInt ≤ n.toInt
      ∧ n.toInt ≤ CastRequest.yearHigh.toInt) :
    bounded? (Decimal.ofInt64 n) CastRequest.yearLow CastRequest.yearHigh
      = some (Decimal.ofInt64 n) := by
  have low : CastRequest.yearLow.toInt = 1000 := rfl
  have high : CastRequest.yearHigh.toInt = 9999 := rfl
  have before : (below CastRequest.yearLow).toInt = 999 := rfl
  have after : (above CastRequest.yearHigh).toInt = 10000 := rfl
  unfold bounded?
  rw [same_ofInt64, same_ofInt64, before, after, clamp_ofInt64 within, if_neg]
  simp only [Bool.or_eq_true, beq_iff_eq]
  omega

end Numeral

/-! ### Seconds -/

namespace Temporal

/-- A numeral is a number of seconds. -/
theorem isSeconds_text {w : Written} (proper : w.Proper) : isSeconds w.text = true := by
  obtain ⟨c, first, isDigit⟩ := proper.unsigned
  have starts : w.text.head?.any Char.isDigit = true := by
    rw [Option.mem_def.mp first]
    exact isDigit
  have rest : w.text.dropWhile Char.isDigit
      = if w.fraction.isEmpty then [] else '.' :: w.fraction := by
    unfold Written.text
    split
    · exact List.dropWhile_eq_nil_iff.mpr proper.whole
    · rw [List.dropWhile_append_of_pos proper.whole, List.dropWhile_cons_of_neg (by decide)]
  unfold isSeconds
  dsimp only
  rw [starts, rest, Bool.true_and]
  by_cases whole : w.fraction.isEmpty = true
  · rw [if_pos whole]
  · rw [if_neg whole]
    simp only [beq_self_eq_true, whole, Bool.not_false, Bool.true_and]
    exact List.all_eq_true.mpr proper.fraction

/-- A number of seconds begins with a digit. -/
theorem unsigned_of_isSeconds {text : List Char} (h : isSeconds text = true) :
    ∃ c ∈ text.head?, c.isDigit = true := by
  unfold isSeconds at h
  dsimp only at h
  rw [Bool.and_eq_true, Option.any_eq_true] at h
  exact h.1

/-- A duration is not negative. -/
theorem nonneg_of_readDuration {catalog : Catalog} {cell : String} {seconds : Decimal}
    (h : readDuration catalog cell = .ok (some seconds)) : 0 ≤ seconds.coefficient := by
  unfold readDuration at h
  split at h
  · rename_i number
    exact Decimal.nonneg_of_read? (unsigned_of_isSeconds number) (Except.ok.inj h)
  · cases clock : readTime catalog cell with
    | error e =>
        rw [clock] at h
        exact absurd h (by simp [Except.map])
    | ok time =>
        rw [clock] at h
        obtain ⟨t, -, rfl⟩ := Option.map_eq_some_iff.mp (Except.ok.inj h)
        exact Decimal.normalize_nonneg (Int.natCast_nonneg _)

/-- A duration is read from its seconds. -/
theorem readDuration_toText (catalog : Catalog) {seconds : Decimal}
    (nonneg : 0 ≤ seconds.coefficient) :
    readDuration catalog seconds.toText = .ok (some seconds) := by
  have number : isSeconds seconds.toText.toList = true := by
    rw [Decimal.toText_eq nonneg, String.toList_ofList]
    exact isSeconds_text seconds.proper_written
  unfold readDuration
  rw [if_pos number, Decimal.read?_toText nonneg]

end Temporal

/-! ### The columns whose cells are always read -/

section Readers

open Numeral CastRequest

theorem rereads_text (limit : UInt32) : Rereads fun cell => some (.text (truncated limit cell)) := by
  rintro cell value h
  obtain rfl := Option.some.inj h
  simp [truncated, Value.display, List.take_take]

theorem rereads_number :
    Rereads fun cell => (decimalOfCell? cell).bind fun number => number.toInt64?.map .integer := by
  rintro cell value h
  obtain ⟨number, found, h⟩ := Option.bind_eq_some_iff.mp h
  obtain ⟨n, rounded, rfl⟩ := Option.map_eq_some_iff.mp h
  have nonneg := nonneg_of_toInt64? found rounded
  simp only [Value.display, decimalOfCell?_toString nonneg, Option.bind_some, toInt64?_ofInt64,
    Option.map_some]

theorem rereads_year :
    Rereads fun cell => (ofCell? cell).bind fun numeral =>
      (bounded? (numeral.saturate yearHigh) yearLow yearHigh).bind fun year =>
        year.toInt64?.map .integer := by
  rintro cell value h
  obtain ⟨numeral, found, h⟩ := Option.bind_eq_some_iff.mp h
  obtain ⟨year, bounded, h⟩ := Option.bind_eq_some_iff.mp h
  obtain ⟨n, rounded, rfl⟩ := Option.map_eq_some_iff.mp h
  rw [← clamp_of_bounded? bounded] at rounded
  have within := within_of_clamp (by decide) (by decide) rounded
  have nonneg : 0 ≤ n.toInt := Int.le_trans (by decide) within.1
  simp only [Value.display, ofCell?_toString nonneg, Option.bind_some, saturate,
    bounded?_ofInt64 within, toInt64?_ofInt64, Option.map_some]

theorem rereads_amount :
    Rereads fun cell => (ofCell? cell).map fun
      | .exact number => .decimal number
      | .wide digits => .wideDecimal digits := by
  rintro cell value h
  obtain ⟨numeral, found, rfl⟩ := Option.map_eq_some_iff.mp h
  cases numeral with
  | exact number =>
      obtain ⟨nonneg, normal⟩ := of_ofCell?_exact found
      simp only [Value.display, normal, ofCell?_toText nonneg, Option.map_some]
  | wide digits => simp only [Value.display, ofCell?_wide found, Option.map_some]

theorem rereads_percent :
    Rereads fun cell => (ofCell? cell).map fun numeral =>
      .decimal (clamp (numeral.saturate percentHigh) percentLow percentHigh) := by
  rintro cell value h
  obtain ⟨numeral, found, rfl⟩ := Option.map_eq_some_iff.mp h
  have ordered : percentLow.toInt ≤ percentHigh.toInt := by decide
  have normal := clamp_normalize (saturate_normalize found percentHigh) ordered
  have within := within_clamp (numeral.saturate percentHigh) ordered
  generalize clamp (numeral.saturate percentHigh) percentLow percentHigh = part at *
  have nonneg : 0 ≤ part.coefficient := by
    have zero : percentLow.toInt = 0 := rfl
    simpa [zero] using within.1
  simp only [Value.display, normal, ofCell?_toText nonneg, Option.map_some, saturate,
    clamp_of_within within]

theorem rereads_rating {best : Int64} (nonneg : 0 ≤ best.toInt) :
    Rereads fun cell => (ofCell? cell).bind fun numeral =>
      (clamp (numeral.saturate best) 0 best).toInt64?.map .integer := by
  rintro cell value h
  obtain ⟨numeral, found, h⟩ := Option.bind_eq_some_iff.mp h
  obtain ⟨n, rounded, rfl⟩ := Option.map_eq_some_iff.mp h
  have within : (0 : Int64).toInt ≤ n.toInt ∧ n.toInt ≤ best.toInt :=
    within_of_clamp (by decide) nonneg rounded
  simp only [Value.display, ofCell?_toString within.1, Option.bind_some, saturate,
    clamp_ofInt64 within, toInt64?_ofInt64, Option.map_some]

theorem rereads_checkbox : Rereads fun cell => (Checkbox.read? cell).map .boolean := by
  rintro cell value h
  obtain ⟨holds, -, rfl⟩ := Option.map_eq_some_iff.mp h
  cases holds <;> rfl

theorem rereads_single (options : List String) :
    Rereads fun cell => (Select.readSingle? options cell).map .text := by
  rintro cell value h
  obtain ⟨content, kept, rfl⟩ := Option.map_eq_some_iff.mp h
  obtain ⟨-, rfl⟩ := Select.readSingle?_eq_some_iff.mp kept
  simp only [Value.display, kept, Option.map_some]

theorem rereads_multi (options : List String) :
    Rereads fun cell => (Select.readMulti? options cell).map .text := by
  rintro cell value h
  obtain ⟨content, kept, rfl⟩ := Option.map_eq_some_iff.mp h
  simp only [Value.display, Select.readMulti?_kept kept, Option.map_some]

end Readers

namespace CastRequest

theorem bestRating_toInt (request : CastRequest) :
    request.bestRating.toInt = request.ratingLimit.toNat := by
  have small := request.ratingLimit.toNat_lt
  unfold bestRating
  exact Int64.toInt_ofNat_of_lt (by omega)

variable {request : CastRequest} {cell : String} {value : Value}

/-- A column that reads every cell, and reads what it shows. -/
theorem exists_again {read : String → Option Value} (rereads : Rereads read)
    (reads : ∀ cell, request.coerce Catalog.builtin cell = .ok (read cell))
    (h : request.coerce Catalog.builtin cell = .ok (some value)) :
    ∃ again, request.coerce Catalog.builtin value.display = .ok (some again)
      ∧ again.Same value ∧ again.display = value.display := by
  rw [reads] at h
  refine ⟨value, ?_, value.same_self, rfl⟩
  rw [reads, rereads cell value (Except.ok.inj h)]

/-- **A value is read again from its display.** -/
theorem coerce_display (h : request.coerce Catalog.builtin cell = .ok (some value)) :
    ∃ again, request.coerce Catalog.builtin value.display = .ok (some again)
      ∧ again.Same value ∧ again.display = value.display := by
  cases limit : request.checkLimit with
  | error e =>
      unfold coerce at h
      rw [limit] at h
      exact absurd h (by simp [bind, Except.bind])
  | ok u =>
      cases type : request.type
      case longText | singleLineText | email | phoneNumber | url =>
        exact exists_again (rereads_text request.textLimit)
          (fun _ => by simp only [coerce, limit, type]; rfl) h
      case number =>
        exact exists_again rereads_number (fun _ => by simp only [coerce, limit, type]; rfl) h
      case year =>
        exact exists_again rereads_year (fun _ => by simp only [coerce, limit, type]; rfl) h
      case decimal | currency =>
        exact exists_again rereads_amount (fun _ => by simp only [coerce, limit, type]; rfl) h
      case percent =>
        exact exists_again rereads_percent (fun _ => by simp only [coerce, limit, type]; rfl) h
      case rating =>
        have nonneg : 0 ≤ request.bestRating.toInt :=
          request.bestRating_toInt ▸ Int.natCast_nonneg _
        exact exists_again (rereads_rating nonneg)
          (fun _ => by simp only [coerce, limit, type]; rfl) h
      case checkbox =>
        exact exists_again rereads_checkbox (fun _ => by simp only [coerce, limit, type]; rfl) h
      case singleSelect =>
        exact exists_again (rereads_single request.options)
          (fun _ => by simp only [coerce, limit, type]; rfl) h
      case multiSelect =>
        exact exists_again (rereads_multi request.options)
          (fun _ => by simp only [coerce, limit, type]; rfl) h
      all_goals
        simp only [coerce, limit, type] at h
        obtain ⟨-, -, h⟩ := bind_eq_ok_iff.mp h
        obtain ⟨found, read, h⟩ := bind_eq_ok_iff.mp h
        obtain ⟨v, rfl, rfl⟩ := Option.map_eq_some_iff.mp (Except.ok.inj h)
      case date =>
        refine ⟨_, ?_, (Value.date v).same_self, rfl⟩
        simp only [coerce, limit, type, Value.display, Temporal.readDate_toText read]
        rfl
      case dateTime =>
        refine ⟨_, ?_, (Value.dateTime v).same_self, rfl⟩
        simp only [coerce, limit, type, Value.display, Temporal.readDateTime_clockText read]
        rfl
      case time =>
        refine ⟨_, ?_, (Value.time v).same_self, rfl⟩
        simp only [coerce, limit, type, Value.display, Temporal.readTime_clockText read]
        rfl
      case duration =>
        -- The seconds of the first cell may end in zeros; those of the display do not.
        have nonneg := Temporal.nonneg_of_readDuration read
        refine ⟨.duration v.normalize, ?_, v.same_normalize, ?_⟩
        · simp only [coerce, limit, type, Value.display,
            Temporal.readDuration_toText _ (Decimal.normalize_nonneg nonneg)]
          rfl
        · simp only [Value.display, Decimal.normalize_normalize]

/-- A percentage beyond its bound: it is cut to the bound, which is what is read again. -/
theorem coerce_display_percent :
    ({ type := .percent, source := "p" } : CastRequest).coerce Catalog.builtin "250 %"
        = .ok (some (.decimal (Decimal.ofInt64 100)))
      ∧ ∃ again,
        ({ type := .percent, source := "p" } : CastRequest).coerce Catalog.builtin
            (Value.decimal (Decimal.ofInt64 100)).display
          = .ok (some again)
        ∧ again.Same (.decimal (Decimal.ofInt64 100))
        ∧ again.display = (Value.decimal (Decimal.ofInt64 100)).display := by
  have read : ({ type := .percent, source := "p" } : CastRequest).coerce Catalog.builtin "250 %"
      = .ok (some (.decimal (Decimal.ofInt64 100))) := by
    decide +kernel
  exact ⟨read, coerce_display read⟩

end CastRequest

end ColumnCast
