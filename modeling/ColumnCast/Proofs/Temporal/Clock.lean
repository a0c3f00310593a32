import ColumnCast.Proofs.Cast.Duration
import ColumnCast.Proofs.Temporal.Reading

/-!
# `ColumnCast.Proofs.Temporal.Clock`: times of day by their text

The built-in catalog knows four layouts of times. Together they are the
texts of a clock, and `WritesClock` says which these are without any
layout: an hour from 0 to 23, or one from 1 to 12 with a word for the
half of the day behind it, then minutes, and seconds or none.

* `writesClock_iff`: the layouts write these texts, each with the time
  that a clock would show.
* `Temporal.readTime_builtin`: a cell is read as a time just if it is such
  a text, and as that time. As a duration the same cell is the number of
  seconds that have passed since midnight.
-/

set_option autoImplicit false

namespace ColumnCast

/-! ### The texts of a clock -/

/-- The text behind the hour: minutes in two digits, and seconds in two digits or none. Without
seconds the minute has just begun. -/
inductive WritesMinutes : (minute second : Nat) → List Char → Prop
  | minutes {minute : Nat} {word : List Char} (digits : InDigits 2 2 minute word)
      (le : minute ≤ 59) : WritesMinutes minute 0 (':' :: word)
  | seconds {minute second : Nat} {word word' : List Char} (digits : InDigits 2 2 minute word)
      (le : minute ≤ 59) (digits' : InDigits 2 2 second word') (le' : second ≤ 59) :
      WritesMinutes minute second (':' :: (word ++ ':' :: word'))

/-- The text of a time: by the hour of the day in one or two digits, or by the hour of its half
and `AM` or `PM` in any case. The hour 12 is the first of either half. -/
inductive WritesClock : (hour minute second : Nat) → List Char → Prop
  | whole {hour minute second : Nat} {word part : List Char} (digits : InDigits 1 2 hour word)
      (le : hour ≤ 23) (behind : WritesMinutes minute second part) :
      WritesClock hour minute second (word ++ part)
  | morning {number minute second : Nat} {word part half : List Char}
      (digits : InDigits 1 2 number word) (range : 1 ≤ number ∧ number ≤ 12)
      (behind : WritesMinutes minute second part) (am : half.map Char.toLower = ['a', 'm']) :
      WritesClock (number % 12) minute second (word ++ (part ++ ' ' :: half))
  | evening {number minute second : Nat} {word part half : List Char}
      (digits : InDigits 1 2 number word) (range : 1 ≤ number ∧ number ≤ 12)
      (behind : WritesMinutes minute second part) (pm : half.map Char.toLower = ['p', 'm']) :
      WritesClock (number % 12 + 12) minute second (word ++ (part ++ ' ' :: half))

/-- Half an hour past midnight. -/
example : WritesClock 0 30 0 "12:30 aM".toList :=
  .morning (by decide : InDigits 1 2 12 ['1', '2']) (by decide)
    (.minutes (by decide : InDigits 2 2 30 ['3', '0']) (by decide)) (by decide)

variable {hour minute second : Nat} {text : List Char}

theorem WritesMinutes.lt (h : WritesMinutes minute second text) : minute < 60 ∧ second < 60 := by
  cases h with
  | minutes _ le => omega
  | seconds _ le _ le' => omega

/-- A text of a clock writes a time that there is. -/
theorem WritesClock.isTime (h : WritesClock hour minute second text) :
    IsTime hour minute second 0 := by
  unfold IsTime
  cases h with
  | whole _ le behind =>
      have lt := behind.lt
      omega
  | morning _ _ behind =>
      have lt := behind.lt
      omega
  | evening _ _ behind =>
      have lt := behind.lt
      omega

theorem WritesMinutes.colon_mem (h : WritesMinutes minute second text) : ':' ∈ text := by
  cases h with
  | minutes => exact List.mem_cons_self
  | seconds => exact List.mem_cons_self

theorem WritesClock.colon_mem (h : WritesClock hour minute second text) : ':' ∈ text := by
  cases h with
  | whole _ _ behind => exact List.mem_append_right _ behind.colon_mem
  | morning _ _ behind | evening _ _ behind =>
      exact List.mem_append_right _ (List.mem_append_left _ behind.colon_mem)

/-! ### The layouts of times -/

namespace TimeLayout

variable {layout : TimeLayout} {time : TimeOfDay}

theorem SecondPart.writesMinutes {word part : List Char} (h : layout.SecondPart second part)
    (digits : InDigits 2 2 minute word) (lt : minute < 60 ∧ second < 60) :
    WritesMinutes minute second (':' :: (word ++ part)) := by
  have le : minute ≤ 59 := by omega
  have le' : second ≤ 59 := by omega
  unfold SecondPart at h
  split at h
  · obtain ⟨word', digits', rfl⟩ := h
    exact .seconds digits le digits' le'
  · obtain ⟨rfl, rfl⟩ := h
    rw [List.append_nil]
    exact .minutes digits le

/-- What a layout writes is the text of a clock. -/
theorem Writes.writesClock (h : layout.Writes time text) :
    WritesClock time.hour time.minute time.second text := by
  obtain ⟨-, hourWord, minuteWord, secondPart, halfPart, hourly, digits, seconds, half, rfl⟩ := h
  obtain ⟨isHour, isMinute, isSecond, -⟩ := time.isTime
  have behind := seconds.writesMinutes digits ⟨isMinute, isSecond⟩
  unfold HourWord at hourly
  unfold HalfPart at half
  split at hourly
  · rename_i halved
    rw [if_pos halved] at half
    obtain ⟨number, digits, range, same⟩ := hourly
    obtain ⟨word, letters, rfl⟩ := half
    unfold halfWord at letters
    split at letters
    · -- Before noon the hour is the number, but 12 counts for zero.
      have eq : time.hour = number % 12 := by omega
      rw [eq, ← List.append_assoc minuteWord, ← List.cons_append]
      exact .morning digits range behind letters
    · have eq : time.hour = number % 12 + 12 := by omega
      rw [eq, ← List.append_assoc minuteWord, ← List.cons_append]
      exact .evening digits range behind letters
  · rename_i whole
    rw [if_neg whole] at half
    subst half
    rw [List.append_nil]
    exact .whole hourly (by omega) behind

/-- The layouts with hours of one kind, with seconds and without, write what may stand behind an
hour. -/
theorem exists_secondPart (h : WritesMinutes minute second text) (halved : Bool) :
    ∃ layout ∈ clock, layout.halved = halved ∧ ∃ word part, InDigits 2 2 minute word
      ∧ layout.SecondPart second part ∧ text = ':' :: (word ++ part) := by
  have layouts : ∀ halved seconds : Bool, ∃ layout ∈ clock,
      layout.halved = halved ∧ layout.seconds = seconds := by
    simp [clock]
  cases h with
  | minutes digits =>
      obtain ⟨layout, mem, isHalved, seconds⟩ := layouts halved false
      refine ⟨layout, mem, isHalved, _, [], digits, ?_, by rw [List.append_nil]⟩
      unfold SecondPart
      rw [seconds]
      exact ⟨rfl, rfl⟩
  | seconds digits _ digits' =>
      obtain ⟨layout, mem, isHalved, seconds⟩ := layouts halved true
      refine ⟨layout, mem, isHalved, _, _, digits, ?_, rfl⟩
      unfold SecondPart
      rw [seconds]
      exact ⟨_, digits', rfl⟩

/-- An hour of the whole day, in a layout for such hours. -/
theorem exists_writes_whole {hourWord part : List Char} (whole : time.nanosecond = 0)
    (digits : InDigits 1 2 time.hour hourWord)
    (behind : WritesMinutes time.minute time.second part) :
    ∃ layout ∈ clock, layout.Writes time (hourWord ++ part) := by
  obtain ⟨layout, mem, halved, minuteWord, secondPart, isMinute, isSecond, rfl⟩ :=
    exists_secondPart behind false
  have isHour : layout.HourWord time.hour hourWord := by
    unfold HourWord
    rw [halved]
    exact digits
  have isHalf : layout.HalfPart time.hour [] := by
    unfold HalfPart
    rw [halved]
    rfl
  exact ⟨layout, mem, whole, hourWord, minuteWord, secondPart, [], isHour, isMinute, isSecond,
    isHalf, by rw [List.append_nil]⟩

/-- An hour of a half of the day, in a layout for such hours. -/
theorem exists_writes_halved {number : Nat} {hourWord part half : List Char}
    (whole : time.nanosecond = 0) (digits : InDigits 1 2 number hourWord)
    (range : 1 ≤ number ∧ number ≤ 12) (same : number % 12 = time.hour % 12)
    (behind : WritesMinutes time.minute time.second part)
    (letters : half.map Char.toLower = halfWord time.hour) :
    ∃ layout ∈ clock, layout.Writes time (hourWord ++ (part ++ ' ' :: half)) := by
  obtain ⟨layout, mem, halved, minuteWord, secondPart, isMinute, isSecond, rfl⟩ :=
    exists_secondPart behind true
  have isHour : layout.HourWord time.hour hourWord := by
    unfold HourWord
    rw [halved]
    exact ⟨number, digits, range, same⟩
  have isHalf : layout.HalfPart time.hour (' ' :: half) := by
    unfold HalfPart
    rw [halved]
    exact ⟨half, letters, rfl⟩
  exact ⟨layout, mem, whole, hourWord, minuteWord, secondPart, ' ' :: half, isHour, isMinute,
    isSecond, isHalf, by rw [List.cons_append, List.append_assoc]⟩

/-- Every text of a clock is written in one of the built-in layouts. -/
theorem exists_writes (whole : time.nanosecond = 0)
    (h : WritesClock time.hour time.minute time.second text) :
    ∃ layout ∈ clock, layout.Writes time text := by
  -- In a half of the day the hour is a sum, so the cases need a variable in its place.
  generalize isHour : time.hour = hour at h
  cases h with
  | whole digits _ behind => exact exists_writes_whole whole (isHour ▸ digits) behind
  | @morning number _ _ _ _ _ digits range behind am =>
      have before : time.hour < 12 := by omega
      have word : halfWord time.hour = ['a', 'm'] := if_pos before
      exact exists_writes_halved whole digits range (by omega) behind (am.trans word.symm)
  | @evening number _ _ _ _ _ digits range behind pm =>
      have after : ¬time.hour < 12 := by omega
      have word : halfWord time.hour = ['p', 'm'] := if_neg after
      exact exists_writes_halved whole digits range (by omega) behind (pm.trans word.symm)

end TimeLayout

/-- The layouts of the built-in times write what a clock writes. -/
theorem writesClock_iff {time : TimeOfDay} :
    (∃ layout ∈ TimeLayout.clock, layout.Writes time text)
      ↔ time.nanosecond = 0 ∧ WritesClock time.hour time.minute time.second text := by
  constructor
  · rintro ⟨layout, -, written⟩
    exact ⟨written.1, written.writesClock⟩
  · rintro ⟨whole, written⟩
    exact TimeLayout.exists_writes whole written

/-! ### Seconds since midnight -/

/-- A time without a part of a second has a whole number of them since midnight. -/
theorem TimeOfDay.sinceMidnight_whole {time : TimeOfDay} (whole : time.nanosecond = 0) :
    time.sinceMidnight.coefficient = ((time.hour * 60 + time.minute) * 60 + time.second : Nat)
      ∧ time.sinceMidnight.places = 0 := by
  have fewest : time.sinceMidnight.IsFewest := Decimal.isFewest_normalize _
  -- Written without places the number has the fewest that there can be.
  have value : (time.sinceMidnight.coefficient : ℚ) / 10 ^ time.sinceMidnight.places
      = (((time.hour * 60 + time.minute) * 60 + time.second : Nat) : ℤ) / 10 ^ 0 := by
    refine (Temporal.toRat_sinceMidnight time).trans ?_
    unfold TimeOfDay.seconds
    rw [whole]
    push_cast
    ring
  exact Decimal.eq_of_fewest fewest (Or.inl rfl) value

namespace Temporal

/-- No number of seconds has a colon. -/
theorem not_isSeconds_of_colon_mem (colon : ':' ∈ text) : ¬isSeconds text = true := by
  intro number
  obtain ⟨w, proper, rfl⟩ := exists_of_isSeconds number
  have noDigit : ¬(':').isDigit = true := by decide
  unfold Written.text at colon
  split at colon
  · exact noDigit (proper.whole _ colon)
  · simp only [List.mem_append, List.mem_cons, Char.reduceEq, false_or] at colon
    rcases colon with inWhole | inFraction
    · exact noDigit (proper.whole _ inWhole)
    · exact noDigit (proper.fraction _ inFraction)

/-- **The built-in catalog reads the times of a clock**, and no other cell. What is read is the
time written, without a part of a second or a leap second. As a duration such a cell is the number
of seconds since midnight. -/
theorem readTime_builtin (cell : String) :
    ∃ time?, readTime Catalog.builtin cell = .ok time?
      ∧ (time?.isSome = true ↔ ∃ hour minute second, WritesClock hour minute second cell.toList)
      ∧ (∀ time, time? = some time ↔ time.nanosecond = 0
        ∧ WritesClock time.hour time.minute time.second cell.toList)
      ∧ ∀ time, time? = some time →
        ∃ seconds, readDuration Catalog.builtin cell = .ok (some seconds)
          ∧ seconds.coefficient = ((time.hour * 60 + time.minute) * 60 + time.second : Nat)
          ∧ seconds.places = 0
          ∧ 0 ≤ seconds.coefficient ∧ seconds.coefficient ≤ 86399 := by
  obtain ⟨time?, read, iff⟩ := exists_readTime cell
  have written : ∀ time, time? = some time ↔ time.nanosecond = 0
      ∧ WritesClock time.hour time.minute time.second cell.toList := fun time =>
    (iff time).trans writesClock_iff
  refine ⟨time?, read, ?_, written, ?_⟩
  · rw [Option.isSome_iff_exists]
    constructor
    · rintro ⟨time, same⟩
      exact ⟨_, _, _, ((written time).mp same).2⟩
    · rintro ⟨hour, minute, second, clock⟩
      exact ⟨⟨hour, minute, second, 0, clock.isTime⟩, (written _).mpr ⟨rfl, clock⟩⟩
  · intro time same
    obtain ⟨whole, clock⟩ := (written time).mp same
    obtain ⟨isHour, isMinute, isSecond, -⟩ := time.isTime
    obtain ⟨coefficient, places⟩ := TimeOfDay.sinceMidnight_whole whole
    refine ⟨time.sinceMidnight, ?_, coefficient, places, by omega, by omega⟩
    unfold readDuration
    -- A number of seconds has no colon, so the cell is read as a time.
    rw [if_neg (not_isSeconds_of_colon_mem clock.colon_mem), read, same]
    rfl

end Temporal

end ColumnCast
