import ColumnCast.Proofs.Calendar.Token
import ColumnCast.Proofs.Catalog.Calendar
import ColumnCast.Proofs.Catalog.Clock

/-!
# `ColumnCast.Proofs.Catalog.Builtin`: the built-in formats, one by one

Each format of the built-in catalog is that of a layout
(`DateLayout.sequences`, `TimeLayout.clock`), so its recognizer matches
the texts that write a date or a time in the layout and its token reads
them. `DateLayout.covers`, `TimeLayout.covers` and `covers_combine` say
the first, `DateLayout.read?_eq` and its companions the second.
-/

set_option autoImplicit false

namespace ColumnCast

open Regex Catalog

/-! ### Layouts -/

namespace DateLayout

/-- A layout with a separator between the fields. -/
def separated (token : String) (order : DayOrder) (separator : Char) (namedMonth shortYear : Bool)
    (noDigit : separator.isDigit = false)
    (template_eq : Template.ofToken token
      = [Item.literal separator].intercalate
        ((order.sorted Field.day (if namedMonth then .monthAbbreviation else .month)
          (if shortYear then .shortYear else .year)).map fun f => [.field f])) : DateLayout where
  token := token
  order := order
  separator := some separator
  leastDigits := 1
  namedMonth := namedMonth
  shortYear := shortYear
  leastDigits_cases := Or.inl ⟨rfl, by simp⟩
  separator_noDigit := by simpa using noDigit
  leastDigits_named := fun _ => rfl
  template_eq := template_eq

/-- The layout in which dates are shown. -/
def iso : DateLayout := separated "YYYY-MM-DD" .yearFirst '-' false false rfl rfl

/-- A layout without separators. -/
def compact : DateLayout where
  token := "YYYYMMDD"
  order := .yearFirst
  separator := none
  leastDigits := 2
  namedMonth := false
  shortYear := false
  leastDigits_cases := Or.inr rfl
  separator_noDigit := fun _ mem => nomatch mem
  leastDigits_named := fun named => nomatch named
  template_eq := rfl

def dayFirst : List DateLayout :=
  [ separated "DD/MM/YYYY" .dayFirst '/' false false rfl rfl,
    separated "DD-MM-YYYY" .dayFirst '-' false false rfl rfl,
    separated "DD.MM.YYYY" .dayFirst '.' false false rfl rfl,
    separated "DD/MM/YY" .dayFirst '/' false true rfl rfl,
    iso,
    separated "DD Mon YYYY" .dayFirst ' ' true false rfl rfl ]

def monthFirst : List DateLayout :=
  [ separated "MM/DD/YYYY" .monthFirst '/' false false rfl rfl,
    separated "MM-DD-YYYY" .monthFirst '-' false false rfl rfl,
    separated "MM/DD/YY" .monthFirst '/' false true rfl rfl,
    iso,
    separated "Mon DD YYYY" .monthFirst ' ' true false rfl rfl ]

def yearFirst : List DateLayout :=
  [ iso,
    separated "YYYY/MM/DD" .yearFirst '/' false false rfl rfl,
    separated "YYYY.MM.DD" .yearFirst '.' false false rfl rfl,
    compact ]

/-- The layouts of each built-in sequence of dates. -/
def sequences : List (String × List DateLayout) :=
  [("dmy", dayFirst), ("mdy", monthFirst), ("ymd", yearFirst)]

theorem builtinDates_eq :
    builtinDates = sequences.map fun (id, layouts) => (id, layouts.map format) := rfl

/-- The layouts of all built-in date formats. -/
def all : List DateLayout := dayFirst ++ (monthFirst ++ yearFirst)

theorem format_mem {layout : DateLayout} (mem : layout ∈ all) :
    layout.format ∈ builtinDates.flatMap Prod.snd := by
  have formats : builtinDates.flatMap Prod.snd = all.map format := by
    simp [builtinDates_eq, sequences, all]
  rw [formats]
  exact List.mem_map_of_mem mem

end DateLayout

namespace TimeLayout

/-- The layout in which times are shown. -/
def full : TimeLayout := ⟨"HH24:MI:SS", false, true, rfl⟩

def clock : List TimeLayout :=
  [ ⟨"HH24:MI:SS", false, true, rfl⟩, ⟨"HH24:MI", false, false, rfl⟩,
    ⟨"HH12:MI:SS AM", true, true, rfl⟩, ⟨"HH12:MI AM", true, false, rfl⟩ ]

theorem clockFormats_eq : clockFormats = clock.map format := rfl

end TimeLayout

/-! ### Recognized cells -/

/-- A format of the built-in catalog has a recognizer. -/
theorem recognizer_isOk_builtin {format : Format}
    (mem : format ∈ clockFormats ++ builtinDates.flatMap Prod.snd) :
    format.recognizer.isOk = true := by
  rw [Format.recognizer_isOk]
  exact List.all_eq_true.mp builtin_recognizers format mem

/-- A date format recognizes the cells that write a date in its layout. -/
theorem DateLayout.covers {layout : DateLayout} (mem : layout ∈ DateLayout.all) :
    layout.format.Covers layout.language :=
  Format.covers_of_pattern layout.pattern_calendar
    (recognizer_isOk_builtin (List.mem_append_right _ (DateLayout.format_mem mem)))

/-- A time format recognizes the cells that write a time in its layout. -/
theorem TimeLayout.covers {layout : TimeLayout} (mem : layout ∈ TimeLayout.clock) :
    layout.format.Covers layout.language :=
  Format.covers_of_pattern layout.pattern_clock
    (recognizer_isOk_builtin (List.mem_append_left _
      (by rw [TimeLayout.clockFormats_eq]; exact List.mem_map_of_mem mem)))

/-- The text writes the date, a blank and the time. -/
def WritesBoth (layout : DateLayout) (clock : TimeLayout) (moment : DateTime) (text : List Char) :
    Prop :=
  ∃ day time, layout.Writes moment.date day ∧ clock.Writes moment.time time
    ∧ text = day ++ ' ' :: time

/-- The texts that write a date and a time in the two layouts. -/
def bothLanguage (layout : DateLayout) (clock : TimeLayout) : Language Char :=
  {text | ∃ moment, WritesBoth layout clock moment text}

/-- Every date format can stand before every time format. -/
theorem combined_recognizers :
    ((builtinDates.flatMap Prod.snd).all fun date => clockFormats.all fun time =>
      (Regex.limitedOfChars?
        ('^' :: (date.pattern.toList ++ ' ' :: (time.pattern.toList ++ ['$'])))).isSome) = true := by
  simp only [builtinDates, dayFirstFormats, monthFirstFormats, yearFirstFormats, clockFormats,
    calendar, anyOf, DayOrder.arrange, numericDays, flexibleDays, fixedDays, namedMonths,
    fourthYears, fourDigitYears, twoDigitYears, hour24, hour12, minute, meridiem,
    List.flatMap_cons, List.flatMap_nil, List.cons_append, List.nil_append, List.append_nil,
    List.map_cons, List.map_nil, List.all_cons, List.all_nil,
    String.toList_append, String.toList_intercalate]
  decide +kernel

theorem covers_combine {layout : DateLayout} (mem : layout ∈ DateLayout.all) {clock : TimeLayout}
    (mem' : clock ∈ TimeLayout.clock) :
    (Format.combine layout.format clock.format).Covers (bothLanguage layout clock) := by
  have blank : Pattern [' '] {[' ']} := (Atom.plain (by decide)).pattern
  have both := layout.pattern_calendar.append (blank.append clock.pattern_clock)
  have text : (Format.combine layout.format clock.format).pattern.toList
      = layout.format.pattern.toList ++ ([' '] ++ clock.format.pattern.toList) := by
    simp [Format.combine]
  have pattern : Pattern (Format.combine layout.format clock.format).pattern.toList
      (bothLanguage layout clock) := by
    rw [text]
    refine both.congr fun word => ?_
    simp only [Language.mem_mul]
    constructor
    · rintro ⟨day, ⟨date, isDate⟩, _, ⟨_, rfl, time, ⟨clockTime, isTime⟩, rfl⟩, rfl⟩
      exact ⟨⟨date, clockTime⟩, day, time, isDate, isTime, rfl⟩
    · rintro ⟨moment, day, time, isDate, isTime, rfl⟩
      exact ⟨day, ⟨moment.date, isDate⟩, _, ⟨_, rfl, time, ⟨moment.time, isTime⟩, rfl⟩, rfl⟩
  refine Format.covers_of_pattern pattern ?_
  have dates := List.all_eq_true.mp combined_recognizers layout.format (DateLayout.format_mem mem)
  have built := List.all_eq_true.mp dates clock.format
    (by rw [TimeLayout.clockFormats_eq]; exact List.mem_map_of_mem mem')
  rw [Format.recognizer_isOk, text]
  simpa using built

/-! ### Cells read -/

theorem noDigit_nil : NoDigit [] := fun c mem => absurd mem (by simp)

/-- A written date is read as that date. -/
theorem DateLayout.read?_eq {layout : DateLayout} {date : Date} {cell : String}
    (h : layout.Writes date cell.toList) :
    (Template.read? (Template.ofToken layout.token) cell).bind Fields.date? = some date := by
  have read := readFrom?_append h [] noDigit_nil
  rw [List.append_nil, List.append_nil] at read
  unfold Template.read?
  rw [read]
  exact date?_fields h

/-- A written time is read as that time. -/
theorem TimeLayout.read?_eq {layout : TimeLayout} {time : TimeOfDay} {cell : String}
    (h : layout.Writes time cell.toList) :
    (Template.read? (Template.ofToken layout.token) cell).bind Fields.time? = some time := by
  unfold Template.read?
  rw [readFrom?_eq h ⟨rfl, rfl, rfl, rfl⟩]
  exact time?_fields h ⟨rfl, rfl⟩

/-- A written date and time is read as both. -/
theorem read?_combine {layout : DateLayout} {clock : TimeLayout} {moment : DateTime}
    {cell : String} (h : WritesBoth layout clock moment cell.toList) :
    (Template.read? (Template.ofToken (Format.combine layout.format clock.format).token) cell).bind
      Fields.dateTime? = some moment := by
  obtain ⟨day, time, isDate, isTime, text⟩ := h
  have token : (Format.combine layout.format clock.format).token
      = layout.token ++ " " ++ clock.token := rfl
  have blank : NoDigit (' ' :: time) := by
    intro c mem
    obtain rfl : ' ' = c := by simpa using mem
    rfl
  unfold Template.read?
  rw [token, Template.ofToken_append_blank, text, DateLayout.readFrom?_append isDate _ blank,
    Template.readFrom?_literal ' ' _ _ isTime.noBlank,
    TimeLayout.readFrom?_eq isTime ⟨rfl, rfl, rfl, rfl⟩]
  have date : (clock.fields moment.time (layout.fields moment.date)).date? = some moment.date :=
    DateLayout.date?_fields isDate
  have clockTime := TimeLayout.time?_fields isTime
    (⟨rfl, rfl⟩ : (layout.fields moment.date).second = none
      ∧ (layout.fields moment.date).nanosecond = none)
  simp [Fields.dateTime?, date, clockTime]

end ColumnCast
