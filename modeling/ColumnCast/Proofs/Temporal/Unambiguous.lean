import Mathlib.Data.List.Pairwise
import ColumnCast.Proofs.Temporal

/-!
# `ColumnCast.Proofs.Temporal.Unambiguous`: no cell is written in two built-in layouts

The layouts of one sequence can be told apart without reading the cell.
A `Sketch` of a text counts the digits at either end and looks at the
character behind the first ones; `DateLayout.Shows` says which sketches
the texts of a layout have (`Writes.shows`), and no sketch belongs to two
layouts of a sequence (`pairwise_apart`). For times the number of colons
and a blank are enough (`TimeLayout.pairwise_apart`).

A date with a time behind it is split at one blank only, for the blank in
question is the last one before the first colon (`split_unique`), although
some dates and some times have blanks in them.
-/

set_option autoImplicit false

namespace ColumnCast

open Catalog
open Text (AreDigits)

/-! ### Sketches -/

/-- What a text shows of its layout without being read. -/
structure Sketch where
  /-- How many digits stand first. -/
  leading : Nat
  /-- The character behind them. -/
  mark : Option Char
  /-- How many digits stand last. -/
  trailing : Nat

namespace Sketch

def ofText (text : List Char) : Sketch where
  leading := (text.takeWhile Char.isDigit).length
  mark := (text.dropWhile Char.isDigit).head?
  trailing := (text.reverse.takeWhile Char.isDigit).length

variable {word : List Char} {c : Char}

/-- A word of digits in front of another character. -/
theorem ofText_leading (digits : AreDigits word) (stop : c.isDigit = false) (rest : List Char) :
    (ofText (word ++ c :: rest)).leading = word.length
      ∧ (ofText (word ++ c :: rest)).mark = some c := by
  have noDigit : NoDigit (c :: rest) := by
    intro d mem
    obtain rfl : c = d := by simpa using mem
    exact stop
  unfold ofText
  constructor
  · exact congrArg List.length (takeWhile_digits digits noDigit)
  · show ((word ++ c :: rest).dropWhile Char.isDigit).head? = some c
    rw [List.dropWhile_append_of_pos digits, List.dropWhile_cons_of_neg (by simp [stop])]
    rfl

/-- A word of digits behind another character. -/
theorem ofText_trailing (digits : AreDigits word) (stop : c.isDigit = false) (before : List Char) :
    (ofText (before ++ c :: word)).trailing = word.length := by
  have reversed : (before ++ c :: word).reverse = word.reverse ++ c :: before.reverse := by simp
  have digits' : AreDigits word.reverse := fun d mem => digits d (List.mem_reverse.mp mem)
  have leading := (ofText_leading digits' stop before.reverse).1
  rw [← reversed, List.length_reverse] at leading
  exact leading

/-- A text of digits alone has nothing behind them. -/
theorem ofText_digits (digits : AreDigits word) : (ofText word).mark = none := by
  show (word.dropWhile Char.isDigit).head? = none
  have whole : (word ++ []).dropWhile Char.isDigit = [].dropWhile Char.isDigit :=
    List.dropWhile_append_of_pos digits
  rw [List.append_nil] at whole
  rw [whole]
  rfl

end Sketch

/-! ### Layouts of dates -/

namespace DateLayout

/-- The sketches of the texts in a layout. -/
def Shows (layout : DateLayout) (sketch : Sketch) : Prop :=
  match layout.separator with
  | none => sketch.mark = none
  | some c =>
    match layout.order, layout.namedMonth with
    | .yearFirst, _ => sketch.leading = layout.yearWidth ∧ sketch.mark = some c
    | .monthFirst, true => sketch.leading = 0
    | _, _ => (1 ≤ sketch.leading ∧ sketch.leading ≤ 2) ∧ sketch.mark = some c
        ∧ sketch.trailing = layout.yearWidth

variable {layout : DateLayout} {date : Date} {text word : List Char}

/-- The name of a month begins with no digit. -/
theorem leading_monthWord {month : Nat} (h : layout.MonthWord month word)
    (named : layout.namedMonth = true) (rest : List Char) :
    (Sketch.ofText (word ++ rest)).leading = 0 := by
  unfold MonthWord at h
  rw [if_pos named] at h
  obtain ⟨entry, found, eq⟩ := Option.map_eq_some_iff.mp h.2
  -- Names are kept in small letters, and no digit turns into one.
  have letters : ∀ entry ∈ Template.monthNames, entry.1 ≠ [] ∧ entry.1.all Char.isLower = true := by
    decide
  have name := letters entry (List.mem_of_getElem? found)
  cases word with
  | nil => exact absurd eq name.1
  | cons c word =>
      have small : c.toLower.isLower = true := by
        rw [eq] at name
        exact List.all_eq_true.mp name.2 _ List.mem_cons_self
      have noDigit : ¬ c.isDigit = true := by
        intro isDigit
        have bounds := Text.isDigit_iff.mp isDigit
        have lower := Text.isLower_iff.mp small
        rw [Text.toNat_toLower, if_neg (by omega)] at lower
        omega
      show (((c :: word) ++ rest).takeWhile Char.isDigit).length = 0
      rw [List.cons_append, List.takeWhile_cons_of_neg noDigit]
      rfl

/-- A text without separators is made of digits. -/
theorem Writes.digits (h : layout.Writes date text) (joined : layout.separator = none) :
    AreDigits text := by
  have numbered : layout.namedMonth = false := by
    rcases layout.leastDigits_cases with ⟨-, apart⟩ | two
    · exact absurd joined apart
    · by_contra named
      have one := layout.leastDigits_named (by simpa using named)
      omega
  obtain ⟨day, month, year, isDay, isMonth, isYear, rfl⟩ := h
  have digitsDay : AreDigits day := isDay.1
  have digitsMonth := (inDigits_monthWord isMonth numbered).1
  have digitsYear := digits_yearWord isYear
  rw [joined]
  cases layout.order with
  | dayFirst => simpa [DayOrder.sorted] using digitsDay.append (digitsMonth.append digitsYear)
  | monthFirst => simpa [DayOrder.sorted] using digitsMonth.append (digitsDay.append digitsYear)
  | yearFirst => simpa [DayOrder.sorted] using digitsYear.append (digitsMonth.append digitsDay)

/-- A word of one or two digits in front, a year behind. -/
theorem shows_number (middle : List Char) {c : Char} {number : Nat} {first year : List Char}
    {y : Int} (isNumber : InDigits layout.leastDigits 2 number first) (isYear : layout.YearWord y year)
    (stop : c.isDigit = false) :
    let sketch := Sketch.ofText (first ++ c :: (middle ++ c :: year))
    (1 ≤ sketch.leading ∧ sketch.leading ≤ 2) ∧ sketch.mark = some c
      ∧ sketch.trailing = layout.yearWidth := by
  have front := Sketch.ofText_leading isNumber.1 stop (middle ++ c :: year)
  have back := Sketch.ofText_trailing (digits_yearWord isYear) stop (first ++ c :: middle)
  rw [List.append_assoc, List.cons_append] at back
  have least := layout.leastDigits_pos
  have low := isNumber.2.1
  refine ⟨⟨?_, ?_⟩, front.2, ?_⟩
  · rw [front.1]
    omega
  · rw [front.1]
    exact isNumber.2.2.1
  · rw [back, length_yearWord isYear]

/-- A text in a layout shows a sketch of it. -/
theorem Writes.shows (h : layout.Writes date text) : layout.Shows (Sketch.ofText text) := by
  have written := h
  obtain ⟨day, month, year, isDay, isMonth, isYear, rfl⟩ := h
  unfold Shows
  -- Without a separator the text is all digits; otherwise the order says which field is in front.
  cases separated : layout.separator with
  | none =>
      rw [separated] at written
      exact Sketch.ofText_digits (written.digits separated)
  | some c =>
      have stop := layout.separator_noDigit c separated
      cases order : layout.order with
      | dayFirst =>
          simpa [DayOrder.sorted, List.intercalate_cons_cons]
            using shows_number month isDay isYear stop
      | monthFirst =>
          cases named : layout.namedMonth with
          | true =>
              simpa [DayOrder.sorted, List.intercalate_cons_cons]
                using leading_monthWord isMonth named (c :: (day ++ c :: year))
          | false =>
              simpa [DayOrder.sorted, List.intercalate_cons_cons]
                using shows_number day (inDigits_monthWord isMonth named) isYear stop
      | yearFirst =>
          have front := Sketch.ofText_leading (digits_yearWord isYear) stop (month ++ c :: day)
          rw [length_yearWord isYear] at front
          simpa [DayOrder.sorted, List.intercalate_cons_cons] using front

/-- No sketch belongs to two layouts of a sequence. -/
theorem pairwise_apart {layouts : List DateLayout}
    (sequence : layouts ∈ [dayFirst, monthFirst, yearFirst]) :
    layouts.Pairwise fun a b => ∀ sketch, a.Shows sketch → ¬ b.Shows sketch := by
  -- Two layouts of one sequence differ in what they say of the digits in front, or of the marks.
  simp only [List.mem_cons, List.not_mem_nil, or_false] at sequence
  rcases sequence with rfl | rfl | rfl
  · simp [dayFirst, iso, separated, Shows, yearWidth]
    and_intros
    all_goals
      intro sketch
      grind
  · simp [monthFirst, iso, separated, Shows, yearWidth]
    and_intros
    all_goals
      intro sketch
      grind
  · simp [yearFirst, iso, separated, compact, Shows, yearWidth]
    and_intros
    all_goals
      intro sketch
      grind

end DateLayout

/-! ### Layouts of times -/

/-- A character that is no capital stands in a word only if it stands in the word in small. -/
theorem not_mem_of_map_toLower {word letters : List Char} {c : Char} (self : c.toLower = c)
    (eq : word.map Char.toLower = letters) (free : c ∉ letters) : c ∉ word := by
  intro mem
  have small : c.toLower ∈ word.map Char.toLower := List.mem_map_of_mem mem
  rw [self, eq] at small
  exact free small

theorem not_mem_of_areDigits {word : List Char} {c : Char} (digits : AreDigits word)
    (other : c.isDigit = false) : c ∉ word := by
  intro mem
  exact Text.ne_of_isDigit (digits c mem) other rfl

namespace TimeLayout

/-- The layout can be told from the colons and from a blank. -/
def Shows (layout : TimeLayout) (text : List Char) : Prop :=
  text.count ':' = (if layout.seconds then 2 else 1) ∧ (' ' ∈ text ↔ layout.halved = true)

variable {layout : TimeLayout} {word part : List Char}

theorem digits_hourWord {hour : Nat} (h : layout.HourWord hour word) : AreDigits word := by
  unfold HourWord at h
  split at h
  · obtain ⟨_, digits, -⟩ := h
    exact digits.1
  · exact h.1

theorem secondPart_shows {second : Nat} (h : layout.SecondPart second part) :
    part.count ':' = (if layout.seconds then 1 else 0) ∧ ' ' ∉ part := by
  unfold SecondPart at h
  split at h
  · rename_i seconds
    obtain ⟨word, digits, rfl⟩ := h
    have noColon := not_mem_of_areDigits digits.1 (by decide : (':').isDigit = false)
    have noBlank := not_mem_of_areDigits digits.1 (by decide : (' ').isDigit = false)
    simp [seconds, List.count_eq_zero_of_not_mem noColon, noBlank]
  · rename_i minutes
    simp [minutes, h.2]

theorem halfPart_shows {hour : Nat} (h : layout.HalfPart hour part) :
    part.count ':' = 0 ∧ (' ' ∈ part ↔ layout.halved = true) := by
  unfold HalfPart at h
  split at h
  · rename_i halved
    obtain ⟨word, letters, rfl⟩ := h
    have free : ':' ∉ halfWord hour := by
      unfold halfWord
      split <;> decide
    have noColon := not_mem_of_map_toLower (by decide : (':').toLower = ':') letters free
    simp [halved, List.count_eq_zero_of_not_mem noColon]
  · rename_i whole
    subst h
    simp [whole]

theorem Writes.shows {time : TimeOfDay} {text : List Char} (h : layout.Writes time text) :
    layout.Shows text := by
  obtain ⟨-, hourWord, minuteWord, secondPart, halfPart, hour, minute, second, half, rfl⟩ := h
  have digitsHour := digits_hourWord hour
  have colonHour := not_mem_of_areDigits digitsHour (by decide : (':').isDigit = false)
  have blankHour := not_mem_of_areDigits digitsHour (by decide : (' ').isDigit = false)
  have colonMinute := not_mem_of_areDigits minute.1 (by decide : (':').isDigit = false)
  have blankMinute := not_mem_of_areDigits minute.1 (by decide : (' ').isDigit = false)
  have inSecond := secondPart_shows second
  have inHalf := halfPart_shows half
  constructor
  · simp only [List.count_append, List.count_cons_self, List.count_eq_zero_of_not_mem colonHour,
      List.count_eq_zero_of_not_mem colonMinute, inSecond.1, inHalf.1]
    split <;> rfl
  · simp [blankHour, blankMinute, inSecond.2, inHalf.2]

/-- No text is written in two layouts of times. -/
theorem pairwise_apart : clock.Pairwise fun a b => ∀ text, a.Shows text → ¬ b.Shows text := by
  simp only [clock, Shows, List.pairwise_cons]
  simp
  grind

end TimeLayout

/-! ### One item for each text -/

/-- No text is written in the ways of two items. -/
def Distinguishes {α β : Type} (items : List α) (writes : α → β → List Char → Prop) : Prop :=
  ∀ a ∈ items, ∀ b ∈ items, ∀ v w text, writes a v text → writes b w text → a = b

theorem Distinguishes.of_pairwise {α β : Type} {items : List α} {writes : α → β → List Char → Prop}
    {shows : α → List Char → Prop} (shown : ∀ a v text, writes a v text → shows a text)
    (apart : items.Pairwise fun a b => ∀ text, shows a text → ¬ shows b text) :
    Distinguishes items writes := by
  have symmetric : Std.Symm fun a b : α => ∀ v w text, writes a v text → writes b w text → a = b :=
    ⟨fun a b one v w text first second => (one w v text second first).symm⟩
  have pairwise : items.Pairwise fun a b =>
      ∀ v w text, writes a v text → writes b w text → a = b := by
    refine apart.imp ?_
    intro a b apart v w text first second
    exact absurd (shown b w text second) (apart text (shown a v text first))
  intro a memA b memB
  exact List.Pairwise.forall_of_forall (fun _ _ _ _ _ _ _ => rfl) pairwise memA memB

theorem distinguishes_dates {layouts : List DateLayout}
    (sequence : layouts ∈ [DateLayout.dayFirst, DateLayout.monthFirst, DateLayout.yearFirst]) :
    Distinguishes layouts DateLayout.Writes := by
  refine Distinguishes.of_pairwise (fun _ _ _ written => written.shows) ?_
  refine (DateLayout.pairwise_apart sequence).imp ?_
  intro a b apart text
  exact apart (Sketch.ofText text)

theorem distinguishes_times : Distinguishes TimeLayout.clock TimeLayout.Writes :=
  Distinguishes.of_pairwise (fun _ _ _ written => written.shows) TimeLayout.pairwise_apart

/-! ### Where a date ends and a time begins -/

theorem DateLayout.separator_ne_colon : ∀ layout ∈ DateLayout.all, layout.separator ≠ some ':' := by
  simp [DateLayout.all, DateLayout.dayFirst, DateLayout.monthFirst, DateLayout.yearFirst,
    DateLayout.iso, DateLayout.separated, DateLayout.compact]

/-- No colon stands in a date. -/
theorem DateLayout.Writes.noColon {layout : DateLayout} (mem : layout ∈ DateLayout.all)
    {date : Date} {text : List Char} (h : layout.Writes date text) : ':' ∉ text := by
  obtain ⟨day, month, year, isDay, isMonth, isYear, rfl⟩ := h
  have other : (':').isDigit = false := by decide
  have inDay := not_mem_of_areDigits isDay.1 other
  have inYear := not_mem_of_areDigits (DateLayout.digits_yearWord isYear) other
  have inMonth : ':' ∉ month := by
    cases named : layout.namedMonth with
    | false => exact not_mem_of_areDigits (DateLayout.inDigits_monthWord isMonth named).1 other
    | true =>
        unfold DateLayout.MonthWord at isMonth
        rw [if_pos named] at isMonth
        obtain ⟨entry, found, eq⟩ := Option.map_eq_some_iff.mp isMonth.2
        have names : ∀ entry ∈ Template.monthNames, ':' ∉ entry.1 := by decide
        exact not_mem_of_map_toLower (by decide) eq.symm (names entry (List.mem_of_getElem? found))
  have between := DateLayout.separator_ne_colon layout mem
  have free : ':' ∉ layout.separator.toList := by
    rw [Option.mem_toList]
    exact between
  cases layout.order <;>
    simp [DayOrder.sorted, List.intercalate_cons_cons, inDay, inMonth, inYear, free]

/-- The first place of a character parts a text in one way. -/
theorem append_cons_inj {c : Char} {u u' v v' : List Char} (free : c ∉ u) (free' : c ∉ u')
    (same : u ++ c :: v = u' ++ c :: v') : u = u' ∧ v = v' := by
  have places := congrArg (List.idxOf c) same
  rw [List.idxOf_append_of_notMem free, List.idxOf_append_of_notMem free',
    List.idxOf_cons_self, List.idxOf_cons_self] at places
  obtain ⟨front, back⟩ := List.append_inj same places
  exact ⟨front, (List.cons.inj back).2⟩

/-- A date and a time in a row part at the last blank before the first colon. -/
theorem split_unique {layout layout' : DateLayout} {clock clock' : TimeLayout} {date date' : Date}
    {time time' : TimeOfDay} {u u' v v' : List Char} (mem : layout ∈ DateLayout.all)
    (mem' : layout' ∈ DateLayout.all) (isDate : layout.Writes date u)
    (isDate' : layout'.Writes date' u') (isTime : clock.Writes time v)
    (isTime' : clock'.Writes time' v') (same : u ++ ' ' :: v = u' ++ ' ' :: v') :
    u = u' ∧ v = v' := by
  obtain ⟨-, hour, minute, second, half, isHour, -, -, -, rfl⟩ := isTime
  obtain ⟨-, hour', minute', second', half', isHour', -, -, -, rfl⟩ := isTime'
  have digits := TimeLayout.digits_hourWord isHour
  have digits' := TimeLayout.digits_hourWord isHour'
  have noColon : ':' ∉ u ++ ' ' :: hour := by
    simp [isDate.noColon mem, not_mem_of_areDigits digits (by decide : (':').isDigit = false)]
  have noColon' : ':' ∉ u' ++ ' ' :: hour' := by
    simp [isDate'.noColon mem', not_mem_of_areDigits digits' (by decide : (':').isDigit = false)]
  -- Before the first colon stand the date, a blank and the hour.
  have first : (u ++ ' ' :: hour) ++ ':' :: (minute ++ (second ++ half))
      = (u' ++ ' ' :: hour') ++ ':' :: (minute' ++ (second' ++ half')) := by
    simpa using same
  obtain ⟨front, back⟩ := append_cons_inj noColon noColon' first
  -- The hour has no blank in it, so from behind the first blank is the one in question.
  have reversed : hour.reverse ++ ' ' :: u.reverse = hour'.reverse ++ ' ' :: u'.reverse := by
    simpa using congrArg List.reverse front
  have noBlank : ' ' ∉ hour.reverse := by
    simpa using not_mem_of_areDigits digits (by decide : (' ').isDigit = false)
  have noBlank' : ' ' ∉ hour'.reverse := by
    simpa using not_mem_of_areDigits digits' (by decide : (' ').isDigit = false)
  obtain ⟨hours, dates⟩ := append_cons_inj noBlank noBlank' reversed
  obtain rfl := List.reverse_injective dates
  obtain rfl := List.reverse_injective hours
  exact ⟨rfl, by rw [back]⟩

/-- The blank between a date and a time can be found, so the two are told apart each for
itself. -/
theorem distinguishes_dateTimes {layouts : List DateLayout}
    (sequence : layouts ∈ [DateLayout.dayFirst, DateLayout.monthFirst, DateLayout.yearFirst]) :
    Distinguishes (layouts ×ˢ TimeLayout.clock) fun pair => WritesBoth pair.1 pair.2 := by
  intro a memA b memB v w text first second
  obtain ⟨layoutA, clockA⟩ := List.mem_product.mp memA
  obtain ⟨layoutB, clockB⟩ := List.mem_product.mp memB
  obtain ⟨day, time, isDate, isTime, rfl⟩ := first
  obtain ⟨day', time', isDate', isTime', same⟩ := second
  obtain ⟨rfl, rfl⟩ := split_unique (mem_all sequence layoutA) (mem_all sequence layoutB)
    isDate isDate' isTime isTime' same
  exact Prod.ext (distinguishes_dates sequence a.1 layoutA b.1 layoutB _ _ _ isDate isDate')
    (distinguishes_times a.2 clockA b.2 clockB _ _ _ isTime isTime')

/-! ### One value for each text -/

/-- Texts written in the ways of two items have one value. -/
def Agree {α β : Type} (writes : α → β → List Char → Prop) (a b : α) : Prop :=
  ∀ (v w : β) (text : List Char), writes a v text → writes b w text → v = w

/-- Where no text is written in two ways, a text has one value: in one way it is read, and
reading has one result. -/
theorem Faithful.agree {α β : Type} {items : List α} {format : α → Format}
    {writes : α → β → List Char → Prop} {value? : Fields → Option β}
    (faithful : Faithful items format writes value?) (apart : Distinguishes items writes) :
    ∀ a ∈ items, ∀ b ∈ items, Agree writes a b := by
  intro a memA b memB v w text first second
  obtain rfl : a = b := apart a memA b memB v w text first second
  have readV := faithful.read a memA v (String.ofList text) (by rwa [String.toList_ofList])
  have readW := faithful.read a memA w (String.ofList text) (by rwa [String.toList_ofList])
  exact Option.some.inj (readV.symm.trans readW)

section Sequences

variable {layouts : List DateLayout}
  (sequence : layouts ∈ [DateLayout.dayFirst, DateLayout.monthFirst, DateLayout.yearFirst])

include sequence

theorem agree_dates : ∀ a ∈ layouts, ∀ b ∈ layouts, Agree DateLayout.Writes a b :=
  (faithful_dates sequence).agree (distinguishes_dates sequence)

/-- A text of a date and a time has one value. -/
theorem agree_dateTimes :
    ∀ a ∈ layouts ×ˢ TimeLayout.clock, ∀ b ∈ layouts ×ˢ TimeLayout.clock,
      Agree (fun pair => WritesBoth pair.1 pair.2) a b :=
  (faithful_dateTimes sequence).agree (distinguishes_dateTimes sequence)

end Sequences

theorem agree_times : ∀ a ∈ TimeLayout.clock, ∀ b ∈ TimeLayout.clock, Agree TimeLayout.Writes a b :=
  faithful_times.agree distinguishes_times

end ColumnCast
