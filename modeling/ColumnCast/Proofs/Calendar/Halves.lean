import ColumnCast.Format
import ColumnCast.Proofs.Calendar.Token
import Mathlib.Algebra.CharZero.Defs
import Mathlib.Algebra.Ring.Int.Defs

/-!
# `ColumnCast.Proofs.Calendar.Halves`: a date half and a time half

A format of dates with times has the token of a date format, a blank and
the token of a time format. Its template, and the format with percent signs
that is written for it, come apart at the blank (`strftime_append`).

So does what is read. `readPart?` reads as far as a template goes and says
what is left of the text. `readFrom?_append` reads one template after
another; the second goes on with the fields of the first. It need not:
`readPart?_iff` shows that a template finds in a text what it finds from no
fields at all, and is refused only for a field that has another value
already. `strftime_combine` puts both together: the halves of a combined
format are read as the formats they come from, and then joined.
-/

set_option autoImplicit false

namespace ColumnCast

/-! ### Joined fields -/

namespace Fields

/-- The places of a value among the fields. -/
inductive Slot
  | year | shortYear | month | day | half | hour | minute | second | nanosecond

/-- The value at a place, as a number. -/
def value (fields : Fields) : Slot → Option Int
  | .year => fields.year
  | .shortYear => fields.shortYear.map Int.ofNat
  | .month => fields.month.map Int.ofNat
  | .day => fields.day.map Int.ofNat
  | .half => fields.half.map Int.ofNat
  | .hour => fields.hour.map Int.ofNat
  | .minute => fields.minute.map Int.ofNat
  | .second => fields.second.map Int.ofNat
  | .nanosecond => fields.nanosecond.map Int.ofNat

theorem Slot.forall_iff {p : Slot → Prop} :
    (∀ slot, p slot) ↔ p .year ∧ p .shortYear ∧ p .month ∧ p .day ∧ p .half ∧ p .hour ∧ p .minute
      ∧ p .second ∧ p .nanosecond := by
  constructor
  · intro all
    exact ⟨all _, all _, all _, all _, all _, all _, all _, all _, all _⟩
  · rintro ⟨_, _, _, _, _, _, _, _, _⟩ slot
    cases slot <;> assumption

/-- Where both have a value, they have the same one. -/
def Agree (a b : Fields) : Prop := ∀ slot, ∀ x ∈ a.value slot, ∀ y ∈ b.value slot, x = y

/-- The values of both. -/
def joined (a b : Fields) : Fields where
  year := a.year.or b.year
  shortYear := a.shortYear.or b.shortYear
  month := a.month.or b.month
  day := a.day.or b.day
  half := a.half.or b.half
  hour := a.hour.or b.hour
  minute := a.minute.or b.minute
  second := a.second.or b.second
  nanosecond := a.nanosecond.or b.nanosecond

theorem value_joined (a b : Fields) (slot : Slot) :
    (a.joined b).value slot = (a.value slot).or (b.value slot) := by
  cases slot <;> simp [joined, value, Option.map_or]

theorem joined_assoc (a b c : Fields) : (a.joined b).joined c = a.joined (b.joined c) := by
  simp only [joined, Option.or_assoc]

/-- Three agree just if two of them do, and the third with both of these. -/
theorem agree_assoc (a b c : Fields) :
    a.Agree b ∧ (a.joined b).Agree c ↔ b.Agree c ∧ a.Agree (b.joined c) := by
  unfold Agree
  rw [← forall_and, ← forall_and]
  refine forall_congr' fun slot => ?_
  rw [value_joined, value_joined]
  -- With a value of `b` there, both sides compare all three with it.
  cases a.value slot <;> cases b.value slot <;> cases c.value slot <;> simp
  grind

theorem joined_empty (fields : Fields) : fields.joined {} = fields := by
  simp [joined]

theorem agree_empty (fields : Fields) : fields.Agree {} := by
  intro slot x _ y mem
  cases slot <;> simp [value] at mem

/-! ### One more field -/

/-- A field takes a value just if it has no other one. -/
theorem settle_eq_some_iff {α : Type} [DecidableEq α] {old taken : Option α} {new : α} :
    settle old new = some taken
      ↔ (∀ x, old = some x → x = new) ∧ old.or (some new) = taken := by
  unfold settle
  cases old with
  | none => simp
  | some value => by_cases same : value = new <;> simp [same]

/-- Two agree where both have a value of one kind, for each kind. -/
theorem agree_iff {a b : Fields} : a.Agree b ↔
    (∀ x, a.year = some x → ∀ y, b.year = some y → x = y)
      ∧ (∀ x, a.shortYear = some x → ∀ y, b.shortYear = some y → x = y)
      ∧ (∀ x, a.month = some x → ∀ y, b.month = some y → x = y)
      ∧ (∀ x, a.day = some x → ∀ y, b.day = some y → x = y)
      ∧ (∀ x, a.half = some x → ∀ y, b.half = some y → x = y)
      ∧ (∀ x, a.hour = some x → ∀ y, b.hour = some y → x = y)
      ∧ (∀ x, a.minute = some x → ∀ y, b.minute = some y → x = y)
      ∧ (∀ x, a.second = some x → ∀ y, b.second = some y → x = y)
      ∧ (∀ x, a.nanosecond = some x → ∀ y, b.nanosecond = some y → x = y) := by
  simp [Agree, Slot.forall_iff, value]

/-- A value is put beside the fields that there are, if they do not have another one. -/
theorem put_iff {f : Field} {number : Int} {fields after : Fields} :
    fields.put f number = some after
      ↔ ∃ found, ({} : Fields).put f number = some found ∧ fields.Agree found
        ∧ fields.joined found = after := by
  cases f <;> simp [put, settle_eq_some_iff, Option.bind_eq_some_iff, agree_iff, joined, and_assoc]

end Fields

namespace Template

/-! ### Reading from no fields -/

variable {f : Field} {fields after : Fields} {rest : List Char}

theorem map_put_iff {number : Int} {behind : List Char} :
    (fields.put f number).map (·, behind) = some (after, rest)
      ↔ ∃ found, (({} : Fields).put f number).map (·, behind) = some (found, rest)
        ∧ fields.Agree found ∧ fields.joined found = after := by
  have put := @Fields.put_iff f number fields after
  simp only [Option.map_eq_some_iff, Prod.mk.injEq, ↓existsAndEq, true_and, put]
  grind

theorem bind_put_iff {α : Type} (number : α → Int) {read : Option (α × List Char)} :
    (do
        let (value, rest) ← read
        return (← fields.put f (number value), rest)) = some (after, rest)
      ↔ ∃ found, (do
          let (value, rest) ← read
          return (← ({} : Fields).put f (number value), rest)) = some (found, rest)
        ∧ fields.Agree found ∧ fields.joined found = after := by
  cases read with
  | none => simp
  | some result =>
      have put := @map_put_iff f fields after rest (number result.1) result.2
      simp only [Option.map_eq_bind] at put
      exact put

/-- What a field finds does not depend on the fields that there are. They only have to agree. -/
theorem readField?_iff (fields : Fields) {text : List Char} :
    readField? f fields text = some (after, rest)
      ↔ ∃ found, readField? f {} text = some (found, rest) ∧ fields.Agree found
        ∧ fields.joined found = after := by
  cases f with
  | year => exact bind_put_iff id
  | meridiem =>
      simp only [readField?]
      cases afterWord? ['a', 'm'] text with
      | some behind => exact map_put_iff
      | none =>
          cases afterWord? ['p', 'm'] text with
          | some behind => exact map_put_iff
          | none => simp
  | fraction =>
      simp only [readField?]
      split
      · exact bind_put_iff Int.ofNat
      · -- Without a point nothing is read.
        simp [Fields.agree_empty, Fields.joined_empty, and_comm]
  | _ => exact bind_put_iff Int.ofNat

/-! ### Reading a part of a text -/

/-- The fields that a template finds at the start of a text, beside those that there are, and what
follows. -/
def readPart? (template : Template) (fields : Fields) (text : List Char) :
    Option (Fields × List Char) :=
  match template with
  | [] => some (fields, text)
  | .field f :: items => do
    let (fields, rest) ← readField? f fields text
    readPart? items fields rest
  | .literal c :: items =>
    if Text.isBlank c then readPart? items fields (Text.trimStart text)
    else
      match text with
      | d :: rest => if d = c then readPart? items fields rest else none
      | [] => none

/-- One template after another: the second reads what the first leaves. -/
theorem readFrom?_append (first second : Template) (fields : Fields) (text : List Char) :
    readFrom? (first ++ second) fields text
      = (readPart? first fields text).bind fun (fields, rest) => readFrom? second fields rest := by
  induction first generalizing fields text with
  | nil => rfl
  | cons item items ih =>
      cases item with
      | field f =>
          simp only [List.cons_append, readFrom?, readPart?, ih]
          cases readField? f fields text <;> rfl
      | literal c =>
          simp only [List.cons_append, readFrom?, readPart?, ih]
          split_ifs
          · rfl
          · cases text with
            | nil => rfl
            | cons d rest => dsimp only; split_ifs <;> rfl

/-- A template reads a text just if it reads a part of it and nothing is left. -/
theorem readFrom?_eq_some_iff {template : Template} {fields after : Fields} {text : List Char} :
    readFrom? template fields text = some after
      ↔ readPart? template fields text = some (after, []) := by
  have whole := readFrom?_append template [] fields text
  rw [List.append_nil] at whole
  rw [whole]
  cases readPart? template fields text with
  | none => simp
  | some result =>
      obtain ⟨found, rest⟩ := result
      cases rest <;> simp [readFrom?]

theorem readPart?_field {f : Field} {items : Template} {fields after : Fields}
    {text rest : List Char} :
    readPart? (.field f :: items) fields text = some (after, rest)
      ↔ ∃ found behind, readField? f fields text = some (found, behind)
        ∧ readPart? items found behind = some (after, rest) := by
  simp only [readPart?, Option.bind_eq_bind, Option.bind_eq_some_iff, Prod.exists]

/-- **A template finds in a text what it finds from no fields at all.** The fields that there are
only have to agree with it. -/
theorem readPart?_iff {template : Template} {fields after : Fields} {text rest : List Char} :
    readPart? template fields text = some (after, rest)
      ↔ ∃ found, readPart? template {} text = some (found, rest) ∧ fields.Agree found
        ∧ fields.joined found = after := by
  induction template generalizing fields after text with
  | nil => simp [readPart?, Fields.agree_empty, Fields.joined_empty, and_comm]
  | cons item items ih =>
      cases item with
      | literal c =>
          simp only [readPart?]
          split_ifs
          · exact ih
          · cases text with
            | nil => simp
            | cons d behind =>
                dsimp only
                split_ifs
                · exact ih
                · simp
      | field f =>
          -- The later items go on with the field and the fields; both are taken apart again.
          simp only [readPart?_field, readField?_iff fields]
          constructor
          · rintro ⟨_, behind, ⟨first, read, agree, rfl⟩, others⟩
            obtain ⟨second, also, agree', rfl⟩ := ih.mp others
            obtain ⟨within, whole⟩ := (Fields.agree_assoc fields first second).mp ⟨agree, agree'⟩
            exact ⟨_, ⟨first, behind, read, ih.mpr ⟨second, also, within, rfl⟩⟩, whole,
              (Fields.joined_assoc fields first second).symm⟩
          · rintro ⟨_, ⟨first, behind, read, others⟩, whole, rfl⟩
            obtain ⟨second, also, within, rfl⟩ := ih.mp others
            obtain ⟨agree, agree'⟩ := (Fields.agree_assoc fields first second).mpr ⟨within, whole⟩
            exact ⟨_, behind, ⟨first, read, agree, rfl⟩, ih.mpr ⟨second, also, agree',
              Fields.joined_assoc fields first second⟩⟩

/-! ### The halves of a format -/

theorem strftime_append (a b : Template) : strftime (a ++ b) = strftime a ++ strftime b := by
  simp [strftime, List.flatMap_append]

/-- **A format of dates with times is read half by half.** Its format with percent signs is that of
the date half, a blank and that of the time half. So what it reads is read by its halves: a text
gives fields just if the date half, by itself, reads the start of it, the time half, by itself,
reads the rest behind any blanks, and no field has two values. -/
theorem strftime_combine (date time : Format) :
    strftime (ofToken (date.combine time).token)
        = strftime (ofToken date.token) ++ " " ++ strftime (ofToken time.token)
      ∧ ∀ (text : String) (fields : Fields),
        read? (ofToken (date.combine time).token) text = some fields
          ↔ ∃ dateFields timeFields rest,
            readPart? (ofToken date.token) {} text.toList = some (dateFields, rest)
              ∧ read? (ofToken time.token) (String.ofList (Text.trimStart rest)) = some timeFields
              ∧ dateFields.Agree timeFields ∧ dateFields.joined timeFields = fields := by
  have items : ofToken (date.combine time).token
      = ofToken date.token ++ (.literal ' ' :: ofToken time.token) :=
    ofToken_append_blank date.token time.token
  rw [items]
  refine ⟨?_, fun text fields => ?_⟩
  · rw [strftime_append, String.append_assoc]
    exact congrArg _ (strftime_append [.literal ' '] (ofToken time.token))
  · have blank (before : Fields) (rest : List Char) :
        readFrom? (.literal ' ' :: ofToken time.token) before rest
          = readFrom? (ofToken time.token) before (Text.trimStart rest) := rfl
    unfold read?
    simp only [readFrom?_append, Option.bind_eq_some_iff, Prod.exists, blank,
      readFrom?_eq_some_iff, String.toList_ofList]
    constructor
    · rintro ⟨dateFields, rest, first, second⟩
      obtain ⟨timeFields, alone, agree, both⟩ := readPart?_iff.mp second
      exact ⟨dateFields, timeFields, rest, first, alone, agree, both⟩
    · rintro ⟨dateFields, timeFields, rest, first, alone, agree, both⟩
      exact ⟨dateFields, rest, first, readPart?_iff.mpr ⟨timeFields, alone, agree, both⟩⟩

end Template

end ColumnCast
