import ColumnCast.Proofs.Temporal.Unambiguous

/-!
# `ColumnCast.Proofs.Temporal.Reading`: what the built-in catalog reads

A cell is read by the first format that recognizes it. In the built-in
sequences the order does not matter, for a text has one value in whatever
layout it is written (`Unambiguous`). So reading is a relation between
cells and values that no format takes part in:

* `readDate_builtin`: a cell is read as a date just if it writes that date
  in one of the layouts of the sequence, and every cell that a format
  recognizes is read.
* `readDateTime_builtin`: a cell is read as a date with a time just if it
  is a date, a blank and a time, and there is one way to part it so.
-/

set_option autoImplicit false

namespace ColumnCast

open Catalog

/-! ### Any sequence -/

namespace Faithful

variable {α β : Type} {items : List α} {format : α → Format} {writes : α → β → List Char → Prop}
  {value? : Fields → Option β}

/-- The recognized cells are those in which a value is written. -/
theorem exists_recognizes_iff (faithful : Faithful items format writes value?) (cell : String) :
    (∃ a ∈ items, (format a).recognizes cell = .ok true)
      ↔ ∃ value, ∃ a ∈ items, writes a value cell.toList := by
  constructor
  · rintro ⟨a, mem, recognized⟩
    obtain ⟨value, written⟩ := ((faithful.covers a mem).true_iff cell).mp recognized
    exact ⟨value, a, mem, written⟩
  · rintro ⟨value, a, mem, written⟩
    exact ⟨a, mem, ((faithful.covers a mem).true_iff cell).mpr ⟨value, written⟩⟩

/-- Where a text has one value, the order of the formats does not matter: reading finds the
value that is written. -/
theorem readFields_iff (faithful : Faithful items format writes value?)
    (agree : ∀ a ∈ items, ∀ b ∈ items, Agree writes a b) (cell : String) :
    ∃ fields, Temporal.readFields (items.map format) cell = .ok fields
      ∧ ∀ value, fields.bind value? = some value ↔ ∃ a ∈ items, writes a value cell.toList := by
  rcases Format.firstFor_cases cell (items.map format) with
    passed | ⟨before, f, after, split, passed, decides⟩
  · -- No format recognizes the cell, so nothing is written in it.
    refine ⟨none, ?_, fun value => ?_⟩
    · exact Temporal.readFields_eq_ok_iff.mpr ⟨none, Format.firstFor_eq_none passed, rfl⟩
    · simp only [Option.bind_none, reduceCtorEq, false_iff]
      rintro ⟨a, mem, written⟩
      have unrecognized := passed (format a) (List.mem_map_of_mem mem)
      exact ((faithful.covers a mem).false_iff cell).mp unrecognized ⟨value, written⟩
  · have mem : f ∈ items.map format := by rw [split]; simp
    obtain ⟨a, isItem, rfl⟩ := List.mem_map.mp mem
    have recognized : (format a).recognizes cell = .ok true := by
      obtain ⟨recognized, eq, -⟩ := faithful.covers a isItem cell
      cases recognized with
      | true => exact eq
      | false => exact absurd eq decides
    obtain ⟨value', written⟩ := ((faithful.covers a isItem).true_iff cell).mp recognized
    have read := faithful.read a isItem value' cell written
    refine ⟨_, by rw [split]; exact Temporal.readFields_append_cons passed recognized after,
      fun value => ?_⟩
    rw [read]
    constructor
    · intro same
      obtain rfl : value' = value := Option.some.inj same
      exact ⟨a, isItem, written⟩
    · rintro ⟨b, isItem', written'⟩
      rw [agree a isItem b isItem' value' value cell.toList written written']

end Faithful

/-! ### The built-in sequences -/

namespace Temporal

variable {id : String} {layouts : List DateLayout}

theorem exists_of_mem_ids (known : id ∈ Catalog.builtin.ids) :
    ∃ layouts, (id, layouts) ∈ DateLayout.sequences := by
  have ids : Catalog.builtin.ids = DateLayout.sequences.map Prod.fst := rfl
  rw [ids] at known
  obtain ⟨⟨_, layouts⟩, mem, rfl⟩ := List.mem_map.mp known
  exact ⟨layouts, mem⟩

/-- A date is read just if it is written. -/
theorem exists_readDate (known : (id, layouts) ∈ DateLayout.sequences) (cell : String) :
    ∃ date?, readDate Catalog.builtin id cell = .ok date?
      ∧ ∀ date, date? = some date ↔ ∃ layout ∈ layouts, layout.Writes date cell.toList := by
  have formats := dateFormats_builtin_iff.mpr ⟨layouts, known, rfl⟩
  have sequence := sequence_of_known known
  obtain ⟨fields, read, iff⟩ :=
    (faithful_dates sequence).readFields_iff (agree_dates sequence) cell
  exact ⟨_, readDate_eq_ok_iff.mpr ⟨_, fields, formats, read, rfl⟩, iff⟩

theorem readDate_eq_some_iff (known : (id, layouts) ∈ DateLayout.sequences) {cell : String}
    {date : Date} : readDate Catalog.builtin id cell = .ok (some date)
      ↔ ∃ layout ∈ layouts, layout.Writes date cell.toList := by
  obtain ⟨date?, read, iff⟩ := exists_readDate known cell
  rw [read, ← iff, Except.ok.injEq]

/-- A time is read just if it is written. -/
theorem exists_readTime (cell : String) :
    ∃ time?, readTime Catalog.builtin cell = .ok time?
      ∧ ∀ time, time? = some time
        ↔ ∃ layout ∈ TimeLayout.clock, layout.Writes time cell.toList := by
  obtain ⟨fields, read, iff⟩ := faithful_times.readFields_iff agree_times cell
  exact ⟨_, readTime_eq_ok_iff.mpr ⟨fields, read, rfl⟩, iff⟩

theorem readTime_eq_some_iff {cell : String} {time : TimeOfDay} :
    readTime Catalog.builtin cell = .ok (some time)
      ↔ ∃ layout ∈ TimeLayout.clock, layout.Writes time cell.toList := by
  obtain ⟨time?, read, iff⟩ := exists_readTime cell
  rw [read, ← iff, Except.ok.injEq]

/-- **A built-in identifier reads the dates that are written in one of its layouts**, and no
other cell. A cell that a format recognizes is always read. -/
theorem readDate_builtin (known : (id, layouts) ∈ DateLayout.sequences) (cell : String) :
    Catalog.builtin.dateFormats id = .ok (layouts.map DateLayout.format)
      ∧ ∃ date?, readDate Catalog.builtin id cell = .ok date?
        ∧ (∀ date, date? = some date ↔ ∃ layout ∈ layouts, layout.Writes date cell.toList)
        ∧ (date?.isSome = true
          ↔ ∃ layout ∈ layouts, layout.format.recognizes cell = .ok true) := by
  obtain ⟨date?, read, iff⟩ := exists_readDate known cell
  refine ⟨dateFormats_builtin_iff.mpr ⟨layouts, known, rfl⟩, date?, read, iff, ?_⟩
  rw [(faithful_dates (sequence_of_known known)).exists_recognizes_iff cell, Option.isSome_iff_exists]
  exact exists_congr iff

/-- February 29 of a leap year, with the name of the month in small letters. -/
theorem readDate_builtin_leapDay :
    ("dmy", DateLayout.dayFirst) ∈ DateLayout.sequences
      ∧ readDate Catalog.builtin "dmy" "29 feb 2024" = .ok (some ⟨2024, 2, 29, by decide⟩) := by
  have known : ("dmy", DateLayout.dayFirst) ∈ DateLayout.sequences := List.mem_cons_self
  have day : InDigits 1 2 29 ['2', '9'] := by decide
  have month : IsAbbreviation 2 ['f', 'e', 'b'] := by decide
  have year : InDigits 4 4 2024 ['2', '0', '2', '4'] := by decide
  have written : (DateLayout.separated "DD Mon YYYY" .dayFirst ' ' true false rfl rfl).Writes
      ⟨2024, 2, 29, by decide⟩ "29 feb 2024".toList :=
    ⟨_, _, _, day, month, ⟨2024, year, rfl⟩, rfl⟩
  obtain ⟨-, date?, read, iff, -⟩ := readDate_builtin known "29 feb 2024"
  refine ⟨known, ?_⟩
  rw [read, (iff _).mpr ⟨_, by simp [DateLayout.dayFirst], written⟩]

/-! ### Dates with times -/

/-- The cell is a date, a blank and a time, each of which is read for itself. -/
def Parts (id cell day time : String) (moment : DateTime) : Prop :=
  cell = day ++ " " ++ time ∧ readDate Catalog.builtin id day = .ok (some moment.date)
    ∧ readTime Catalog.builtin time = .ok (some moment.time)

/-- A date and a time are read apart just if they are written apart. -/
theorem parts_iff (known : (id, layouts) ∈ DateLayout.sequences) {cell : String}
    {moment : DateTime} :
    (∃ day time, Parts id cell day time moment)
      ↔ ∃ layout ∈ layouts, ∃ clock ∈ TimeLayout.clock,
        WritesBoth layout clock moment cell.toList := by
  constructor
  · rintro ⟨day, time, rfl, isDate, isTime⟩
    obtain ⟨layout, mem, writesDate⟩ := (readDate_eq_some_iff known).mp isDate
    obtain ⟨clock, mem', writesTime⟩ := readTime_eq_some_iff.mp isTime
    exact ⟨layout, mem, clock, mem', day.toList, time.toList, writesDate, writesTime, by simp⟩
  · rintro ⟨layout, mem, clock, mem', day, time, writesDate, writesTime, text⟩
    refine ⟨String.ofList day, String.ofList time, ?_, ?_, ?_⟩
    · rw [← String.toList_inj, text]
      simp
    · refine (readDate_eq_some_iff known).mpr ⟨layout, mem, ?_⟩
      rwa [String.toList_ofList]
    · refine readTime_eq_some_iff.mpr ⟨clock, mem', ?_⟩
      rwa [String.toList_ofList]

/-- A date with a time is read just if both are written. -/
theorem exists_readDateTime (known : (id, layouts) ∈ DateLayout.sequences) (cell : String) :
    ∃ moment?, readDateTime Catalog.builtin id cell = .ok moment?
      ∧ ∀ moment, moment? = some moment
        ↔ ∃ layout ∈ layouts, ∃ clock ∈ TimeLayout.clock,
          WritesBoth layout clock moment cell.toList := by
  have formats := dateTimeFormats_builtin_iff.mpr ⟨layouts, known, rfl⟩
  have sequence := sequence_of_known known
  obtain ⟨fields, read, iff⟩ :=
    (faithful_dateTimes sequence).readFields_iff (agree_dateTimes sequence) cell
  refine ⟨_, readDateTime_eq_ok_iff.mpr ⟨_, fields, formats, read, rfl⟩, fun moment => ?_⟩
  rw [iff]
  constructor
  · rintro ⟨pair, mem, written⟩
    obtain ⟨isLayout, isClock⟩ := List.mem_product.mp mem
    exact ⟨pair.1, isLayout, pair.2, isClock, written⟩
  · rintro ⟨layout, isLayout, clock, isClock, written⟩
    exact ⟨(layout, clock), List.mem_product.mpr ⟨isLayout, isClock⟩, written⟩

/-- **A date with a time is read just if the cell is a date, a blank and a time**, and then it
is that date with that time. There is one way to part the cell so. -/
theorem readDateTime_builtin (known : id ∈ Catalog.builtin.ids) (cell : String) :
    (∃ moment?, readDateTime Catalog.builtin id cell = .ok moment?
        ∧ ∀ moment, moment? = some moment ↔ ∃ day time, Parts id cell day time moment)
      ∧ ∀ day time moment day' time' moment', Parts id cell day time moment →
        Parts id cell day' time' moment' → day = day' ∧ time = time' := by
  obtain ⟨layouts, isSequence⟩ := exists_of_mem_ids known
  have sequence := sequence_of_known isSequence
  constructor
  · obtain ⟨moment?, read, iff⟩ := exists_readDateTime isSequence cell
    refine ⟨moment?, read, fun moment => ?_⟩
    rw [iff, parts_iff isSequence]
  · intro day time moment day' time' moment' ⟨text, isDate, isTime⟩ ⟨text', isDate', isTime'⟩
    obtain ⟨layout, mem, writesDate⟩ := (readDate_eq_some_iff isSequence).mp isDate
    obtain ⟨layout', mem', writesDate'⟩ := (readDate_eq_some_iff isSequence).mp isDate'
    obtain ⟨clock, -, writesTime⟩ := readTime_eq_some_iff.mp isTime
    obtain ⟨clock', -, writesTime'⟩ := readTime_eq_some_iff.mp isTime'
    have same : day.toList ++ ' ' :: time.toList = day'.toList ++ ' ' :: time'.toList := by
      simpa using congrArg String.toList (text.symm.trans text')
    obtain ⟨days, times⟩ := split_unique (mem_all sequence mem) (mem_all sequence mem')
      writesDate writesDate' writesTime writesTime' same
    exact ⟨String.toList_inj.mp days, String.toList_inj.mp times⟩

/-- Five minutes past midnight, with blanks in the date and in the time. -/
theorem readDateTime_builtin_midnight :
    "mdy" ∈ Catalog.builtin.ids
      ∧ readDateTime Catalog.builtin "mdy" "Feb 29 2024 12:05 am"
        = .ok (some ⟨⟨2024, 2, 29, by decide⟩, ⟨0, 5, 0, 0, by decide⟩⟩) := by
  have known : "mdy" ∈ Catalog.builtin.ids := List.mem_cons_of_mem _ List.mem_cons_self
  have sequence : ("mdy", DateLayout.monthFirst) ∈ DateLayout.sequences :=
    List.mem_cons_of_mem _ List.mem_cons_self
  have month : IsAbbreviation 2 ['F', 'e', 'b'] := by decide
  have day : InDigits 1 2 29 ['2', '9'] := by decide
  have year : InDigits 4 4 2024 ['2', '0', '2', '4'] := by decide
  have hour : InDigits 1 2 12 ['1', '2'] := by decide
  have minute : InDigits 2 2 5 ['0', '5'] := by decide
  have date : readDate Catalog.builtin "mdy" "Feb 29 2024"
      = .ok (some ⟨2024, 2, 29, by decide⟩) :=
    (readDate_eq_some_iff sequence).mpr
      ⟨DateLayout.separated "Mon DD YYYY" .monthFirst ' ' true false rfl rfl,
        by simp [DateLayout.monthFirst], _, _, _, day, month, ⟨2024, year, rfl⟩, rfl⟩
  have time : readTime Catalog.builtin "12:05 am" = .ok (some ⟨0, 5, 0, 0, by decide⟩) :=
    readTime_eq_some_iff.mpr ⟨⟨"HH12:MI AM", true, false, rfl⟩, by simp [TimeLayout.clock],
      rfl, _, _, _, _, ⟨12, hour, by decide, rfl⟩, minute, ⟨rfl, rfl⟩, ⟨['a', 'm'], rfl, rfl⟩, rfl⟩
  obtain ⟨⟨moment?, read, iff⟩, -⟩ := readDateTime_builtin known "Feb 29 2024 12:05 am"
  refine ⟨known, ?_⟩
  rw [read, (iff ⟨⟨2024, 2, 29, by decide⟩, ⟨0, 5, 0, 0, by decide⟩⟩).mpr
    ⟨"Feb 29 2024", "12:05 am", rfl, date, time⟩]

end Temporal

end ColumnCast
