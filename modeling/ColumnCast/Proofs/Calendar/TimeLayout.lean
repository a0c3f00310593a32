import ColumnCast.Proofs.Calendar.Word

/-!
# `ColumnCast.Proofs.Calendar.TimeLayout`: times as they are written

The shapes of times of day: hours from 0 to 23, or from 1 to 12 with a
word for the half of the day, then minutes, and seconds or none.
`TimeLayout.Writes` relates the texts of a shape to times; none of them
writes a leap second or a part of a second.

* `readFrom?_eq`: a text that writes a time is read as the fields of that
  time, added to what was read before it.
* `time?_fields`: these fields make up the time.
-/

set_option autoImplicit false

namespace ColumnCast

/-- The word for a half of the day, ASCII case aside. -/
def halfWord (hour : Nat) : List Char := if hour < 12 then ['a', 'm'] else ['p', 'm']

theorem readField?_meridiem {hour : Nat} {word : List Char}
    (h : word.map Char.toLower = halfWord hour) (isHour : hour < 24) {fields : Fields}
    (unset : fields.half = none) :
    Template.readField? .meridiem fields word
      = some ({ fields with half := some (hour / 12) }, []) := by
  have two : word.length = 2 := by
    have lengths := congrArg List.length h
    rw [List.length_map] at lengths
    rw [lengths, halfWord]
    split <;> rfl
  have take : word.take 2 = word := List.take_of_length_le (Nat.le_of_eq two)
  have drop : word.drop 2 = [] := List.drop_eq_nil_of_le (Nat.le_of_eq two)
  unfold Template.readField? Template.afterWord?
  simp only [List.length_cons, List.length_nil, take, drop, h, halfWord]
  by_cases morning : hour < 12
  · have half : hour / 12 = 0 := by omega
    simp [morning, half, Fields.put, unset, settle]
  · have half : hour / 12 = 1 := by omega
    simp [morning, half, Fields.put, unset, settle]

/-! ### Times -/

/-- The shape of the times that a token is for. -/
structure TimeLayout where
  token : String
  /-- Do the hours run from 1 to 12, with a word for the half of the day? -/
  halved : Bool
  /-- Do seconds follow the minutes? -/
  seconds : Bool
  template_eq : Template.ofToken token
    = .field (if halved then .hour12 else .hour24) :: .literal ':' :: .field .minute
      :: ((if seconds then [.literal ':', .field .second] else [])
        ++ (if halved then [.literal ' ', .field .meridiem] else []))

namespace TimeLayout

def HourWord (layout : TimeLayout) (hour : Nat) (word : List Char) : Prop :=
  if layout.halved then
    ∃ number, InDigits 1 2 number word ∧ (1 ≤ number ∧ number ≤ 12) ∧ number % 12 = hour % 12
  else InDigits 1 2 hour word

/-- The text of the seconds, with the colon before them; without them they are zero. -/
def SecondPart (layout : TimeLayout) (second : Nat) (part : List Char) : Prop :=
  if layout.seconds then ∃ word, InDigits 2 2 second word ∧ part = ':' :: word
  else second = 0 ∧ part = []

/-- The text of the half of the day, with the blank before it. -/
def HalfPart (layout : TimeLayout) (hour : Nat) (part : List Char) : Prop :=
  if layout.halved then ∃ word, word.map Char.toLower = halfWord hour ∧ part = ' ' :: word
  else part = []

/-- The text writes the time in the layout. -/
def Writes (layout : TimeLayout) (time : TimeOfDay) (text : List Char) : Prop :=
  time.nanosecond = 0 ∧ ∃ hour minute second half, layout.HourWord time.hour hour
    ∧ InDigits 2 2 time.minute minute ∧ layout.SecondPart time.second second
    ∧ layout.HalfPart time.hour half ∧ text = hour ++ ':' :: (minute ++ (second ++ half))

/-- The fields that a text in the layout has, beside those read before it. -/
def fields (layout : TimeLayout) (time : TimeOfDay) (before : Fields) : Fields :=
  { before with
    half := some (time.hour / 12)
    hour := some (time.hour % 12)
    minute := some time.minute
    second := if layout.seconds then some time.second else before.second }

/-- The fields of a written time make up that time. -/
theorem time?_fields {layout : TimeLayout} {time : TimeOfDay} {text : List Char}
    (h : layout.Writes time text) {before : Fields}
    (unset : before.second = none ∧ before.nanosecond = none) :
    (layout.fields time before).time? = some time := by
  obtain ⟨whole, -, -, part, -, -, -, second, -, -⟩ := h
  have isTime := time.isTime
  -- The hour is kept as its half of the day and the hour in that half.
  have hour : time.hour / 12 * 12 + time.hour % 12 = time.hour := by omega
  have parts : TimeOfDay.ofParts? time.hour time.minute time.second 0 = some time := by
    unfold TimeOfDay.ofParts?
    rw [dif_pos (whole ▸ isTime)]
    simp [← whole]
  unfold SecondPart at second
  unfold fields Fields.time?
  simp only [unset, Option.bind_eq_bind, Option.bind_some, Option.getD_none, hour]
  split at second
  · rename_i seconds
    simp only [seconds, if_true]
    split
    · rename_i eq
      have sixty : time.second = 60 := by simpa using eq
      unfold IsTime at isTime
      omega
    · rename_i eq
      obtain rfl := Option.some.inj eq
      exact parts
    · rename_i eq
      exact absurd eq (by simp)
  · rename_i minutes
    simp only [minutes, Bool.false_eq_true, if_false]
    rw [second.1] at parts
    exact parts

variable {layout : TimeLayout} {fields : Fields}

/-- The field of the hour. -/
def hourField (layout : TimeLayout) : Field := if layout.halved then .hour12 else .hour24

/-- What the hour says of the half of the day. -/
def halfOf (layout : TimeLayout) (hour : Nat) (fields : Fields) : Option Nat :=
  if layout.halved then fields.half else some (hour / 12)

theorem takes_hour {hour : Nat} {word : List Char} (h : layout.HourWord hour word)
    (isHour : hour < 24) (unset : fields.half = none ∧ fields.hour = none) :
    layout.hourField.Takes 2 word fields
      { fields with half := layout.halfOf hour fields, hour := some (hour % 12) } := by
  unfold HourWord at h
  unfold hourField halfOf
  split at h
  · rename_i halved
    obtain ⟨number, digits, isNumber, same⟩ := h
    rw [if_pos halved, if_pos halved, ← same]
    exact Field.takes_number rfl digits (by decide)
      (by simp [Fields.put, isNumber, unset, settle])
  · rename_i whole
    have le : hour ≤ 23 := by omega
    rw [if_neg whole, if_neg whole]
    exact Field.takes_number rfl h (by decide) (by simp [Fields.put, le, unset, settle])

theorem readFrom?_secondPart {second : Nat} {part : List Char}
    (h : layout.SecondPart second part) (isSecond : second < 60) (unset : fields.second = none)
    (more : Template) (rest : List Char) :
    Template.readFrom?
        ((if layout.seconds then [.literal ':', .field .second] else []) ++ more) fields
        (part ++ rest)
      = Template.readFrom? more
        { fields with second := if layout.seconds then some second else fields.second } rest := by
  unfold SecondPart at h
  split at h
  · rename_i seconds
    obtain ⟨word, digits, rfl⟩ := h
    have le : second ≤ 60 := by omega
    have takes : Field.second.Takes 2 word fields { fields with second := some second } :=
      Field.takes_number rfl digits (by decide) (by simp [Fields.put, le, unset, settle])
    simp only [seconds, if_true, List.cons_append, List.nil_append]
    rw [Template.readFrom?_literal ':' _ fields (takes.noBlank rest),
      Template.readFrom?_field takes more
        (Or.inl (Nat.le_antisymm digits.2.2.1 digits.2.1))]
  · rename_i minutes
    obtain ⟨-, rfl⟩ := h
    simp only [minutes, Bool.false_eq_true, if_false, List.nil_append]

theorem readFrom?_halfPart {hour : Nat} {part : List Char} (h : layout.HalfPart hour part)
    (isHour : hour < 24) (unset : layout.halved = true → fields.half = none) :
    Template.readFrom? (if layout.halved then [.literal ' ', .field .meridiem] else []) fields part
      = some { fields with
          half := if layout.halved then some (hour / 12) else fields.half } := by
  unfold HalfPart at h
  split at h
  · rename_i halved
    obtain ⟨word, letters, rfl⟩ := h
    have solid : halfWord hour ≠ [] ∧ (halfWord hour).any Text.isBlank = false := by
      unfold halfWord
      split <;> decide
    have noBlank := noBlank_of_map_toLower letters solid.1 solid.2 []
    rw [List.append_nil] at noBlank
    rw [if_pos halved, if_pos halved, Template.readFrom?_literal ' ' _ fields noBlank,
      Template.readFrom?, readField?_meridiem letters isHour (unset halved)]
    rfl
  · rename_i whole
    subst h
    rw [if_neg whole, if_neg whole]
    rfl

/-- A written time begins with a digit. -/
theorem Writes.noBlank {time : TimeOfDay} {text : List Char} (h : layout.Writes time text) :
    NoBlank text := by
  obtain ⟨-, hourWord, minuteWord, secondPart, halfPart, hour, -, -, -, rfl⟩ := h
  have takes : layout.hourField.Takes 2 hourWord {} _ :=
    takes_hour hour time.isTime.1 ⟨rfl, rfl⟩
  exact takes.noBlank _

/-- **A written time is read as its fields.** -/
theorem readFrom?_eq {time : TimeOfDay} {text : List Char} (h : layout.Writes time text)
    {before : Fields}
    (unset : before.half = none ∧ before.hour = none ∧ before.minute = none
      ∧ before.second = none) :
    Template.readFrom? (Template.ofToken layout.token) before text
      = some (layout.fields time before) := by
  obtain ⟨-, hourWord, minuteWord, secondPart, halfPart, hour, minute, second, half, rfl⟩ := h
  obtain ⟨isHour, isMinute, isSecond, -⟩ := time.isTime
  have colon : NoDigit (':' :: (minuteWord ++ (secondPart ++ halfPart))) := by
    intro c mem
    obtain rfl : ':' = c := by simpa using mem
    rfl
  have takesHour := takes_hour hour isHour ⟨unset.1, unset.2.1⟩
  have le : time.minute ≤ 59 := by omega
  have takesMinute : Field.minute.Takes 2 minuteWord
      { before with half := layout.halfOf time.hour before, hour := some (time.hour % 12) }
      { before with
        half := layout.halfOf time.hour before
        hour := some (time.hour % 12)
        minute := some time.minute } :=
    Field.takes_number rfl minute (by decide) (by simp [Fields.put, le, unset, settle])
  -- The hour may have one digit and stops at the colon. The minute always has two.
  have full := Nat.le_antisymm minute.2.2.1 minute.2.1
  rw [layout.template_eq]
  refine (Template.readFrom?_field takesHour _ (Or.inr colon)).trans ?_
  rw [Template.readFrom?_literal ':' _ _ (takesMinute.noBlank _),
    Template.readFrom?_field takesMinute _ (Or.inl full)]
  refine (readFrom?_secondPart second isSecond (by exact unset.2.2.2) _ _).trans ?_
  rw [readFrom?_halfPart half isHour (fun halved => by simp [halfOf, halved, unset.1])]
  unfold TimeLayout.fields halfOf
  cases layout.halved <;> rfl

end TimeLayout

end ColumnCast
