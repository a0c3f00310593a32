import Mathlib.Data.List.ProdSigma
import ColumnCast.Proofs.Catalog.Builtin
import ColumnCast.Proofs.Format

/-!
# `ColumnCast.Proofs.Temporal`: built-in dates and times, shown and read again

A cell that the built-in catalog reads as a date is shown in ISO 8601 and
read again by the same sequence of formats. Every sequence has the ISO
layout, and the layouts before it begin with a day or a month, which have
no four digits (`readDate_toText`). With a time behind the date the same
holds for the combined formats (`readDateTime_clockText`), and a time is
shown in the layout that is tried first (`readTime_clockText`).

`writes_of_readDate` and its companions say of the first reading that it
found what the cell writes.
-/

set_option autoImplicit false

namespace ColumnCast

open Catalog
open Text (AreDigits)

/-! ### Formats that read what they recognize -/

/-- Each format recognizes the cells that write a value in its way, and its token reads that
value. -/
structure Faithful {α β : Type} (items : List α) (format : α → Format)
    (writes : α → β → List Char → Prop) (value? : Fields → Option β) : Prop where
  covers : ∀ a ∈ items, (format a).Covers {text | ∃ value, writes a value text}
  read : ∀ a ∈ items, ∀ value (cell : String), writes a value cell.toList →
    (Template.read? (Template.ofToken (format a).token) cell).bind value? = some value

namespace Faithful

variable {α β : Type} {items : List α} {format : α → Format} {writes : α → β → List Char → Prop}
  {value? : Fields → Option β}

/-- A value is read from a cell that writes it. -/
theorem writes_of_readFields (faithful : Faithful items format writes value?) {cell : String}
    {fields : Option Fields} (h : Temporal.readFields (items.map format) cell = .ok fields)
    {value : β} (found : fields.bind value? = some value) :
    ∃ a ∈ items, writes a value cell.toList := by
  obtain ⟨first, decided, rfl⟩ := Temporal.readFields_eq_ok_iff.mp h
  cases first with
  | none => exact absurd found (by simp)
  | some f =>
      obtain ⟨before, after, split, -, recognized⟩ := Format.firstFor_eq_some_iff.mp decided
      have mem : f ∈ items.map format := by
        rw [split]
        simp
      obtain ⟨a, isItem, rfl⟩ := List.mem_map.mp mem
      obtain ⟨value', written⟩ := ((faithful.covers a isItem).true_iff cell).mp recognized
      have read := faithful.read a isItem value' cell written
      obtain rfl : value' = value := Option.some.inj (read.symm.trans found)
      exact ⟨a, isItem, written⟩

/-- The first format in whose way a cell is written reads it. -/
theorem readFields_of_writes (faithful : Faithful items format writes value?)
    {before after : List α} {a : α} (split : items = before ++ a :: after) {cell : String}
    (passed : ∀ b ∈ before, ∀ value, ¬ writes b value cell.toList) {value : β}
    (written : writes a value cell.toList) :
    ∃ fields, Temporal.readFields (items.map format) cell = .ok fields
      ∧ fields.bind value? = some value := by
  have isItem : a ∈ items := by rw [split]; simp
  refine ⟨_, ?_, faithful.read a isItem value cell written⟩
  rw [split, List.map_append, List.map_cons]
  refine Temporal.readFields_append_cons (fun f mem => ?_)
    (((faithful.covers a isItem).true_iff cell).mpr ⟨value, written⟩) _
  obtain ⟨b, isBefore, rfl⟩ := List.mem_map.mp mem
  have isItem : b ∈ items := by rw [split]; exact List.mem_append_left _ isBefore
  refine ((faithful.covers b isItem).false_iff cell).mpr ?_
  rintro ⟨value', written'⟩
  exact passed b isBefore value' written'

end Faithful

/-! ### The built-in sequences -/

theorem sequence_of_known {id : String} {layouts : List DateLayout}
    (known : (id, layouts) ∈ DateLayout.sequences) :
    layouts ∈ [DateLayout.dayFirst, DateLayout.monthFirst, DateLayout.yearFirst] :=
  List.mem_map_of_mem (f := Prod.snd) known

/-- The formats of a built-in sequence are those of its layouts. -/
theorem dateFormats_builtin_iff {id : String} {formats : List Format} :
    Catalog.builtin.dateFormats id = .ok formats
      ↔ ∃ layouts, (id, layouts) ∈ DateLayout.sequences
        ∧ formats = layouts.map DateLayout.format := by
  constructor
  · intro known
    unfold dateFormats at known
    split at known
    · rename_i found lookup
      obtain rfl : found = formats := by simpa using known
      obtain ⟨before, after, split, -⟩ := List.lookup_eq_some_iff.mp lookup
      have mem : (id, found) ∈ builtinDates := by
        show (id, found) ∈ builtin.dates
        rw [split]
        simp
      rw [DateLayout.builtinDates_eq] at mem
      obtain ⟨⟨_, layouts⟩, isSequence, eq⟩ := List.mem_map.mp mem
      obtain ⟨rfl, rfl⟩ := Prod.mk.inj eq
      exact ⟨layouts, isSequence, rfl⟩
    · exact absurd known (by simp)
  · rintro ⟨layouts, known, rfl⟩
    simp only [DateLayout.sequences, List.mem_cons, Prod.mk.injEq, List.not_mem_nil, or_false]
      at known
    rcases known with ⟨rfl, rfl⟩ | ⟨rfl, rfl⟩ | ⟨rfl, rfl⟩ <;> rfl

/-- Its dates with times have the formats of the pairs of layouts. -/
theorem dateTimeFormats_builtin_iff {id : String} {formats : List Format} :
    Catalog.builtin.dateTimeFormats id = .ok formats
      ↔ ∃ layouts, (id, layouts) ∈ DateLayout.sequences
        ∧ formats = (layouts ×ˢ TimeLayout.clock).map
          fun pair => Format.combine pair.1.format pair.2.format := by
  have of_known : ∀ layouts, (id, layouts) ∈ DateLayout.sequences →
      Catalog.builtin.dateTimeFormats id = .ok ((layouts ×ˢ TimeLayout.clock).map
        fun pair => Format.combine pair.1.format pair.2.format) := by
    intro layouts known
    have times : Catalog.builtin.times = TimeLayout.clock.map TimeLayout.format := rfl
    unfold dateTimeFormats
    rw [dateFormats_builtin_iff.mpr ⟨layouts, known, rfl⟩, times]
    show Except.ok _ = Except.ok
      ((layouts.flatMap fun layout => TimeLayout.clock.map (Prod.mk layout)).map _)
    simp only [List.flatMap_map, List.map_flatMap, List.map_map]
    rfl
  constructor
  · intro h
    obtain ⟨found, dates, -⟩ := map_eq_ok_iff.mp h
    obtain ⟨layouts, known, -⟩ := dateFormats_builtin_iff.mp dates
    exact ⟨layouts, known, Except.ok.inj (h.symm.trans (of_known layouts known))⟩
  · rintro ⟨layouts, known, rfl⟩
    exact of_known layouts known

theorem mem_all {layouts : List DateLayout}
    (mem : layouts ∈ [DateLayout.dayFirst, DateLayout.monthFirst, DateLayout.yearFirst])
    {layout : DateLayout} (inside : layout ∈ layouts) : layout ∈ DateLayout.all := by
  simp only [List.mem_cons, List.not_mem_nil, or_false] at mem
  unfold DateLayout.all
  rcases mem with rfl | rfl | rfl <;> simp [inside]

section Sequences

variable {layouts : List DateLayout}
  (sequence : layouts ∈ [DateLayout.dayFirst, DateLayout.monthFirst, DateLayout.yearFirst])

include sequence

theorem faithful_dates :
    Faithful layouts DateLayout.format DateLayout.Writes Fields.date? where
  covers _ mem := DateLayout.covers (mem_all sequence mem)
  read _ _ _ _ written := DateLayout.read?_eq written

theorem faithful_dateTimes :
    Faithful (layouts ×ˢ TimeLayout.clock)
      (fun pair => Format.combine pair.1.format pair.2.format)
      (fun pair => WritesBoth pair.1 pair.2) Fields.dateTime? where
  covers pair mem := by
    obtain ⟨isLayout, isClock⟩ := List.mem_product.mp mem
    exact covers_combine (mem_all sequence isLayout) isClock
  read _ _ _ _ written := read?_combine written

end Sequences

theorem faithful_times :
    Faithful TimeLayout.clock TimeLayout.format TimeLayout.Writes Fields.time? where
  covers _ mem := TimeLayout.covers mem
  read _ _ _ _ written := TimeLayout.read?_eq written

/-! ### How they are shown -/

/-- A date is shown in the ISO layout, if its year has four digits. -/
theorem writes_toText {date : Date} (year : 0 ≤ date.year ∧ date.year ≤ 9999) :
    DateLayout.iso.Writes date date.toText.toList := by
  have day := date.day_mem
  have month := date.month_mem
  refine ⟨(Text.padded 2 date.day).toList, (Text.padded 2 date.month).toList,
    (Text.padded 4 date.year.natAbs).toList, ?_, ?_, ?_, ?_⟩
  · exact inDigits_padded (by decide) (by decide) (by omega)
  · exact inDigits_padded (by decide) (by decide) (by omega)
  · exact ⟨date.year.natAbs, inDigits_padded (by decide) (by decide) (by omega), by omega⟩
  · unfold Date.toText Date.yearText
    rw [if_pos year]
    simp [DateLayout.iso, DateLayout.separated, DayOrder.sorted, List.intercalate_cons_cons]

/-- A time is shown in the full layout, if it has no part of a second. -/
theorem writes_clockText {time : TimeOfDay} (whole : time.nanosecond = 0) :
    TimeLayout.full.Writes time time.clockText.toList := by
  obtain ⟨hour, minute, second, -⟩ := time.isTime
  have carry : time.second + time.nanosecond / nanosPerSecond = time.second := by
    rw [whole, Nat.zero_div, Nat.add_zero]
  refine ⟨whole, (Text.padded 2 time.hour).toList, (Text.padded 2 time.minute).toList,
    ':' :: (Text.padded 2 time.second).toList, [], ?_, ?_, ⟨_, ?_, rfl⟩, rfl, ?_⟩
  · exact inDigits_padded (by decide) (by decide) (by omega)
  · exact inDigits_padded (by decide) (by decide) (by omega)
  · exact inDigits_padded (by decide) (by decide) (by omega)
  · unfold TimeOfDay.clockText
    rw [carry]
    simp

/-! ### The layouts before it -/

/-- A date in numbers begins with a word of digits that the separator ends. -/
theorem DateLayout.Writes.leading {layout : DateLayout} {date : Date} {text : List Char}
    (h : layout.Writes date text) (numbered : layout.namedMonth = false) {separator : Char}
    (separated : layout.separator = some separator) :
    ∃ word rest, AreDigits word ∧ text = word ++ separator :: rest
      ∧ (layout.order ≠ .yearFirst → word.length ≤ 2)
      ∧ (layout.order = .yearFirst → layout.shortYear = false → word.length = 4) := by
  obtain ⟨day, month, year, isDay, isMonth, isYear, rfl⟩ := h
  have monthDigits := inDigits_monthWord isMonth numbered
  unfold DayOrder.sorted
  rw [separated]
  cases order : layout.order with
  | dayFirst =>
      exact ⟨day, month ++ separator :: year, isDay.1,
        by simp [List.intercalate_cons_cons], fun _ => isDay.2.2.1, by simp⟩
  | monthFirst =>
      exact ⟨month, day ++ separator :: year, monthDigits.1,
        by simp [List.intercalate_cons_cons], fun _ => monthDigits.2.2.1, by simp⟩
  | yearFirst =>
      refine ⟨year, month ++ separator :: day, digits_yearWord isYear,
        by simp [List.intercalate_cons_cons], by simp, fun _ isLong => ?_⟩
      rw [length_yearWord isYear, yearWidth, isLong]
      rfl

/-- The layout begins with a day or a month of at most two digits. -/
def DateLayout.StartsShort (layout : DateLayout) : Prop :=
  layout.order ≠ .yearFirst ∧ layout.namedMonth = false ∧ layout.separator.isSome = true

/-- Every sequence has the ISO layout, and the layouts before it start short. -/
theorem exists_iso {layouts : List DateLayout}
    (sequence : layouts ∈ [DateLayout.dayFirst, DateLayout.monthFirst, DateLayout.yearFirst]) :
    ∃ before after, layouts = before ++ DateLayout.iso :: after
      ∧ ∀ layout ∈ before, layout.StartsShort := by
  simp only [List.mem_cons, List.not_mem_nil, or_false] at sequence
  rcases sequence with rfl | rfl | rfl
  · exact ⟨DateLayout.dayFirst.take 4, DateLayout.dayFirst.drop 5, rfl,
      by simp [DateLayout.dayFirst, DateLayout.StartsShort, DateLayout.separated]⟩
  · exact ⟨DateLayout.monthFirst.take 3, DateLayout.monthFirst.drop 4, rfl,
      by simp [DateLayout.monthFirst, DateLayout.StartsShort, DateLayout.separated]⟩
  · exact ⟨[], DateLayout.yearFirst.drop 1, rfl, by simp⟩

/-- What a layout that starts short writes is no text in the ISO layout, whatever stands
behind either. -/
theorem DateLayout.StartsShort.not_iso {layout : DateLayout} (short : layout.StartsShort)
    {date shown : Date} {text text' : List Char} (h : layout.Writes date text)
    (h' : DateLayout.iso.Writes shown text') (rest rest' : List Char) :
    text ++ rest ≠ text' ++ rest' := by
  obtain ⟨notYear, numbered, isSeparated⟩ := short
  obtain ⟨separator, isSeparator⟩ := Option.isSome_iff_exists.mp isSeparated
  obtain ⟨word, tail, digits, rfl, few, -⟩ := h.leading numbered isSeparator
  obtain ⟨word', tail', digits', rfl, -, four⟩ := h'.leading rfl rfl
  have stop : NoDigit (separator :: (tail ++ rest)) := by
    intro c mem
    obtain rfl : separator = c := by simpa using mem
    exact layout.separator_noDigit _ isSeparator
  have stop' : NoDigit ('-' :: (tail' ++ rest')) := by
    intro c mem
    obtain rfl : '-' = c := by simpa using mem
    rfl
  intro same
  -- Both texts would begin with one number.
  have words : word = word' := by
    rw [← takeWhile_digits digits stop, ← takeWhile_digits digits' stop']
    simpa using congrArg (List.takeWhile Char.isDigit) same
  have le := few notYear
  have eq := four rfl rfl
  rw [words] at le
  omega

/-! ### Read again -/

namespace Temporal

section Shown

variable {layouts : List DateLayout}
  (sequence : layouts ∈ [DateLayout.dayFirst, DateLayout.monthFirst, DateLayout.yearFirst])

include sequence

/-- The ISO layout is the first in which a shown date is written. -/
theorem readFields_toText {date : Date} (year : 0 ≤ date.year ∧ date.year ≤ 9999) :
    ∃ fields, readFields (layouts.map DateLayout.format) date.toText = .ok fields
      ∧ fields.bind Fields.date? = some date := by
  obtain ⟨before, after, split, short⟩ := exists_iso sequence
  have shown := writes_toText year
  refine (faithful_dates sequence).readFields_of_writes split (fun layout inside other written => ?_)
    shown
  exact (short layout inside).not_iso written shown [] [] rfl

/-- Before the ISO layout with the full time stand only layouts that start short. -/
theorem readFields_clockText {moment : DateTime}
    (year : 0 ≤ moment.date.year ∧ moment.date.year ≤ 9999) (whole : moment.time.nanosecond = 0) :
    ∃ fields,
      readFields ((layouts ×ˢ TimeLayout.clock).map fun pair =>
          Format.combine pair.1.format pair.2.format) moment.clockText = .ok fields
      ∧ fields.bind Fields.dateTime? = some moment := by
  obtain ⟨before, after, split, short⟩ := exists_iso sequence
  have shownDate := writes_toText year
  have shownTime := writes_clockText whole
  have pairs : layouts ×ˢ TimeLayout.clock
      = before ×ˢ TimeLayout.clock ++ (DateLayout.iso, TimeLayout.full)
        :: (TimeLayout.clock.tail.map (Prod.mk DateLayout.iso) ++ after ×ˢ TimeLayout.clock) := by
    rw [split]
    exact List.flatMap_append
  have text : moment.clockText.toList
      = moment.date.toText.toList ++ ' ' :: moment.time.clockText.toList := by
    simp [DateTime.clockText]
  refine (faithful_dateTimes sequence).readFields_of_writes pairs
    (fun pair inside other written => ?_) ⟨_, _, shownDate, shownTime, text⟩
  obtain ⟨isBefore, -⟩ := List.mem_product.mp inside
  obtain ⟨day, time, isDate, -, text'⟩ := written
  exact (short pair.1 isBefore).not_iso isDate shownDate _ _ (text'.symm.trans text)

end Shown

/-- **A date that is read is read again where it is shown.** -/
theorem readDate_toText {id cell : String} {date : Date}
    (h : readDate Catalog.builtin id cell = .ok (some date)) :
    readDate Catalog.builtin id date.toText = .ok (some date) := by
  obtain ⟨formats, fields, known, recognized, found⟩ := readDate_eq_ok_iff.mp h
  obtain ⟨layouts, isSequence, rfl⟩ := dateFormats_builtin_iff.mp known
  have sequence := sequence_of_known isSequence
  obtain ⟨layout, -, written⟩ :=
    (faithful_dates sequence).writes_of_readFields recognized found
  obtain ⟨shown, recognized', found'⟩ := readFields_toText sequence written.year_mem
  exact readDate_eq_ok_iff.mpr ⟨_, shown, known, recognized', found'⟩

/-- **A date and time that is read is read again where it is shown.** -/
theorem readDateTime_clockText {id cell : String} {moment : DateTime}
    (h : readDateTime Catalog.builtin id cell = .ok (some moment)) :
    readDateTime Catalog.builtin id moment.clockText = .ok (some moment) := by
  obtain ⟨formats, fields, known, recognized, found⟩ := readDateTime_eq_ok_iff.mp h
  obtain ⟨layouts, isSequence, rfl⟩ := dateTimeFormats_builtin_iff.mp known
  have sequence := sequence_of_known isSequence
  obtain ⟨pair, -, day, time, isDate, isTime, -⟩ :=
    (faithful_dateTimes sequence).writes_of_readFields recognized found
  obtain ⟨shown, recognized', found'⟩ :=
    readFields_clockText sequence isDate.year_mem isTime.1
  exact readDateTime_eq_ok_iff.mpr ⟨_, shown, known, recognized', found'⟩

/-- No time that is read has a part of a second, or is a leap second. -/
theorem nanosecond_of_readTime {cell : String} {time : TimeOfDay}
    (h : readTime Catalog.builtin cell = .ok (some time)) : time.nanosecond = 0 := by
  obtain ⟨fields, recognized, found⟩ := readTime_eq_ok_iff.mp h
  obtain ⟨layout, -, written⟩ := faithful_times.writes_of_readFields recognized found
  exact written.1

/-- **A time that is read is read again where it is shown.** -/
theorem readTime_clockText {cell : String} {time : TimeOfDay}
    (h : readTime Catalog.builtin cell = .ok (some time)) :
    readTime Catalog.builtin time.clockText = .ok (some time) := by
  have first : TimeLayout.clock = [] ++ TimeLayout.full :: TimeLayout.clock.tail := rfl
  obtain ⟨fields, recognized, found⟩ :=
    faithful_times.readFields_of_writes first (by simp)
      (writes_clockText (nanosecond_of_readTime h))
  exact readTime_eq_ok_iff.mpr ⟨_, recognized, found⟩

end Temporal

end ColumnCast
