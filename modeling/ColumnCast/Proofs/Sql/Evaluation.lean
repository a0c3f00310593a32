import ColumnCast.Calendar.Template
import ColumnCast.Proofs.Decimal.Value
import ColumnCast.Proofs.Sql.Reader
import ColumnCast.Regex.Reader
import ColumnCast.Value

/-!
# `ColumnCast.Proofs.Sql.Evaluation`: what terms are worth

The value of a term over the columns of a row, as the database has it:
truth has three values, the first arm whose condition is true decides a
cascade, `~` is a match of a regular expression anywhere in a text, and a
date or a time that its template does not read is `NULL`. A `DECIMAL` is
exact, whatever digits it is cast from. No value means that the database
raises an error.

`firstTrue?` says which arm decides. `evaluate_case` puts both together:
arms behind it have no say, whatever they are.
-/

set_option autoImplicit false

namespace ColumnCast

/-- The seconds from midnight to the time. -/
def TimeOfDay.seconds (t : TimeOfDay) : ℚ :=
  3600 * t.hour + 60 * t.minute + t.second + t.nanosecond / 10 ^ 9

end ColumnCast

namespace ColumnCast.Sql

/-- A value in the database. -/
inductive Datum
  | null
  | text (content : String)
  | truth (holds : Bool)
  /-- The number of a row. -/
  | ordinal (number : Nat)
  | array (elements : List String)
  | date (day : Date)
  | dateTime (moment : DateTime)
  | time (clock : TimeOfDay)
  /-- A number of the type `DECIMAL`, which is exact. -/
  | number (value : ℚ)
  deriving DecidableEq

/-- The values of the columns of a row, by their names. -/
abbrev Columns := List String → Option Datum

namespace Datum

/-- What the database holds where a cell has this value, a number apart. -/
def ofCell? : Option Value → Option Datum
  | none => some null
  | some (.text content) => some (text content)
  | some (.boolean holds) => some (truth holds)
  | some (.date day) => some (date day)
  | some (.dateTime moment) => some (dateTime moment)
  | some (.time clock) => some (time clock)
  | some _ => none

/-- Equality; with `NULL` it is unknown. -/
def equals : Datum → Datum → Option Datum
  | null, _ => some null
  | _, null => some null
  | text a, text b => some (truth (a == b))
  | _, _ => none

/-- Is the value one of the items? Unknown, if it is none of those that are known. -/
def memberOf (value : Datum) : List Datum → Option Datum
  | [] => some (truth false)
  | item :: items => do
    match ← equals value item, ← memberOf value items with
    | truth true, _ => return truth true
    | _, truth true => return truth true
    | null, _ => return null
    | _, null => return null
    | _, _ => return truth false

/-- Does the regular expression match anywhere in the text? -/
def like : Datum → Datum → Option Datum
  | null, _ => some null
  | _, null => some null
  | text content, text pattern =>
    (Regex.ofChars? pattern.toList).map fun found => truth (found.regex.isMatch content)
  | _, _ => none

/-- A text of a limited length keeps its first characters. As a number it is what its digits
write; other notations, as with a sign or an exponent, are left out. -/
def castTo : Target → Datum → Option Datum
  | _, null => some null
  | .varchar limit, text content => some (text (String.ofList (content.toList.take limit.toNat)))
  | .text, text content => some (text content)
  | .decimal, text content => (Written.denoted? content).map number
  | _, _ => none

/-- What a template reads of a text; `NULL` if it does not read it. -/
def readBy (value? : Fields → Option Datum) : List Datum → Option Datum
  | [text content, text token] =>
    some (((Template.read? (Template.ofToken token) content).bind value?).getD null)
  | [null, _] => some null
  | [_, null] => some null
  | _ => none

/-- The elements between delimiters of one character; the empty text has none. -/
def elements (content : String) (delimiter : Char) : List String :=
  if content = "" then [] else (content.toList.splitOn delimiter).map String.ofList

/-- The value of a function. -/
def apply : Function → List Datum → Option Datum
  | .nullIf, [a, b] => do return if (← equals a b) = truth true then null else a
  | .stringToArray, [null, _] => some null
  | .stringToArray, [text content, text delimiter] =>
    match delimiter.toList with
    | [c] => some (array (elements content c))
    | _ => none
  | .arrayToString, [null, _] => some null
  | .arrayToString, [array items, text delimiter] => some (text (delimiter.intercalate items))
  | .toDate, arguments => readBy (fun fields => fields.date?.map date) arguments
  | .toTimestamp, arguments => readBy (fun fields => fields.dateTime?.map dateTime) arguments
  | _, _ => none

/-- The time that a template reads of a text. -/
def timeOf : List Datum → Option Datum := readBy fun fields => fields.time?.map time

/-- The seconds since midnight. -/
def epoch : Datum → Option Datum
  | null => some null
  | time clock => some (number clock.seconds)
  | _ => none

/-- The elements of an array; `NULL` has none. -/
def elements? : Datum → Option (List String)
  | null => some []
  | array items => some items
  | _ => none

def text? : Datum → Option String
  | text content => some content
  | _ => none

def ordinal? : Datum → Option Nat
  | ordinal place => some place
  | _ => none

end Datum

/-- The columns within a row: those of the table, and the ones outside it. -/
def Columns.within (columns : Columns) (table element ordinal : String) (row : String × Nat) :
    Columns := fun path =>
  if path = [table, element] then some (.text row.1)
  else if path = [table, ordinal] then some (.ordinal row.2)
  else columns path

mutual

/-- The value of a term; none if evaluation fails. -/
def evaluate : Term → Columns → Option Datum
  | .null, _ => some .null
  | .truth holds, _ => some (.truth holds)
  | .text content, _ => some (.text content)
  | .column path, columns => columns path
  -- A time stands in no date, so it is read as a time at once.
  | .cast (.call .toTimestamp arguments) .time, columns => do
    Datum.timeOf (← evaluateAll arguments columns)
  | .cast value target, columns => do Datum.castTo target (← evaluate value columns)
  | .call f arguments, columns => do Datum.apply f (← evaluateAll arguments columns)
  | .case arms otherwise, columns => evaluateArms arms columns (evaluate otherwise columns)
  | .memberOf value items, columns => do
    Datum.memberOf (← evaluate value columns) (← evaluateAll items columns)
  | .like value pattern, columns => do
    Datum.like (← evaluate value columns) (← evaluate pattern columns)
  | .epoch value, columns => do Datum.epoch (← evaluate value columns)
  | .array item rows table element ordinal condition key, columns => do
    let rows ← (← evaluate rows columns).elements?
    let kept ← (rows.zipIdx 1).mapM fun row => do
      let within := columns.within table element ordinal row
      if (← evaluate condition within) = .truth true then
        let key ← (← evaluate key within).ordinal?
        let item ← (← evaluate item within).text?
        return some (key, item)
      else return none
    let ordered := (kept.filterMap id).mergeSort fun a b => a.1 ≤ b.1
    return .array (ordered.map Prod.snd)

/-- The values of terms. -/
def evaluateAll : List Term → Columns → Option (List Datum)
  | [], _ => some []
  | t :: ts, columns => do return (← evaluate t columns) :: (← evaluateAll ts columns)

/-- The value of the first arm whose condition is true, else the last value. -/
def evaluateArms : List (Term × Term) → Columns → Option Datum → Option Datum
  | [], _, last => last
  | (condition, result) :: arms, columns, last => do
    if (← evaluate condition columns) = .truth true then evaluate result columns
    else evaluateArms arms columns last

end

section Constants

-- The three functions are defined together, and their equations are long in the making. Asking for
-- them here makes them once, before the proofs that rewrite with them.
attribute [local simp] evaluate evaluateAll evaluateArms

@[simp]
theorem evaluate_null (columns : Columns) : evaluate .null columns = some .null := rfl

@[simp]
theorem evaluate_truth (holds : Bool) (columns : Columns) :
    evaluate (.truth holds) columns = some (.truth holds) := rfl

@[simp]
theorem evaluate_text (content : String) (columns : Columns) :
    evaluate (.text content) columns = some (.text content) := rfl

end Constants

/-- Which arm decides, if one does. -/
def firstTrue? : List (Term × Term) → Columns → Option (Option Nat)
  | [], _ => some none
  | (condition, _) :: arms, columns => do
    if (← evaluate condition columns) = .truth true then return some 0
    else return (← firstTrue? arms columns).map (· + 1)

/-! ### Cascades -/

section Arms

variable {columns : Columns}

/-- The arm is passed over: its condition has a value that is not true. -/
def Passes (columns : Columns) (arm : Term × Term) : Prop :=
  ∃ value, evaluate arm.1 columns = some value ∧ value ≠ .truth true

/-- One arm whose condition is known. -/
theorem evaluateArms_cons {condition : Term} {holds : Bool}
    (value : evaluate condition columns = some (.truth holds)) (result : Term)
    (arms : List (Term × Term)) (last : Option Datum) :
    evaluateArms ((condition, result) :: arms) columns last
      = if holds then evaluate result columns else evaluateArms arms columns last := by
  rw [evaluateArms, value]
  cases holds <;> rfl

theorem evaluateArms_append {before : List (Term × Term)}
    (passes : ∀ arm ∈ before, Passes columns arm) (arms : List (Term × Term))
    (last : Option Datum) :
    evaluateArms (before ++ arms) columns last = evaluateArms arms columns last := by
  induction before with
  | nil => rfl
  | cons arm before ih =>
      obtain ⟨value, found, other⟩ := passes arm List.mem_cons_self
      rw [List.cons_append, evaluateArms, found]
      simp only [Option.bind_eq_bind, Option.bind_some, other, if_false]
      exact ih fun a mem => passes a (List.mem_cons_of_mem _ mem)

theorem firstTrue?_append {before : List (Term × Term)}
    (passes : ∀ arm ∈ before, Passes columns arm) (arms : List (Term × Term)) :
    firstTrue? (before ++ arms) columns
      = (firstTrue? arms columns).map (Option.map (· + before.length)) := by
  induction before with
  | nil => simp
  | cons arm before ih =>
      obtain ⟨value, found, other⟩ := passes arm List.mem_cons_self
      rw [List.cons_append, firstTrue?, found,
        ih fun a mem => passes a (List.mem_cons_of_mem _ mem)]
      simp only [Option.bind_eq_bind, Option.bind_some, other, if_false]
      cases firstTrue? arms columns with
      | none => rfl
      | some index => cases index <;> simp [Nat.add_assoc]

/-- **The first arm that is true decides**, whatever stands behind it. -/
theorem evaluate_case {before : List (Term × Term)} (passes : ∀ arm ∈ before, Passes columns arm)
    {arm : Term × Term} (holds : evaluate arm.1 columns = some (.truth true))
    (after : List (Term × Term)) (otherwise : Term) :
    evaluate (.case (before ++ arm :: after) otherwise) columns = evaluate arm.2 columns
      ∧ firstTrue? (before ++ arm :: after) columns = some (some before.length) := by
  constructor
  · rw [evaluate, evaluateArms_append passes, evaluateArms, holds]
    simp
  · rw [firstTrue?_append passes, firstTrue?, holds]
    simp

/-- Where no arm is true the last part is the value. -/
theorem evaluate_case_of_passes {arms : List (Term × Term)}
    (passes : ∀ arm ∈ arms, Passes columns arm) (otherwise : Term) :
    evaluate (.case arms otherwise) columns = evaluate otherwise columns
      ∧ firstTrue? arms columns = some none := by
  have all := firstTrue?_append passes []
  have value := evaluateArms_append passes [] (evaluate otherwise columns)
  rw [List.append_nil] at all value
  refine ⟨?_, all⟩
  rw [evaluate, value, evaluateArms]

end Arms

end ColumnCast.Sql
