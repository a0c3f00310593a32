import ColumnCast.Calendar

/-!
# `ColumnCast.Calendar.Template`: how a date or a time is laid out

A template such as `DD/MM/YYYY` is a list of `Item`s: fields to be read
and characters that stand for themselves. `Template.ofToken` scans a
token of the SQL functions `TO_DATE` and `TO_TIMESTAMP` from left to
right and takes the longest field name at each point; `strftime` writes
the same items with percent signs.

`Template.read?` reads a text by a template and answers the `Fields` it
found, if the template covers the text exactly. A field that occurs twice
must have one value. `Fields.date?` and `Fields.time?` put the fields
together, and refuse a day or a time that does not exist.
-/

set_option autoImplicit false

namespace ColumnCast

/-! ### Templates -/

/-- A part of a date or of a time, as a template names it. -/
inductive Field
  | year
  /-- The last two digits of a year. -/
  | shortYear
  | month
  /-- A month by the first three letters of its English name. -/
  | monthAbbreviation
  /-- A month by its English name or the first three letters of it. -/
  | monthName
  | day
  | hour24
  | hour12
  | minute
  | second
  /-- A point and a fraction of a second; nothing where no point stands. -/
  | fraction
  /-- `AM` or `PM`. -/
  | meridiem
  deriving DecidableEq, Repr

/-- One step of a template. -/
inductive Item
  | field (f : Field)
  /-- A character that stands for itself; a blank stands for any blanks, or for none. -/
  | literal (c : Char)
  deriving DecidableEq, Repr

/-- A layout of dates or times. -/
abbrev Template := List Item

namespace Template

/-- The field names of a token; of two that begin alike the longer comes first. -/
def fieldNames : List (List Char × Field) :=
  [ ("YYYY".toList, .year),
    ("Month".toList, .monthName),
    ("Mon".toList, .monthAbbreviation),
    ("HH24".toList, .hour24),
    ("HH12".toList, .hour12),
    ("HH".toList, .hour12),
    ("YY".toList, .shortYear),
    ("MM".toList, .month),
    ("DD".toList, .day),
    ("MI".toList, .minute),
    ("SS".toList, .second),
    ("AM".toList, .meridiem),
    ("PM".toList, .meridiem) ]

/-- The first name in the list that `text` begins with, and how many characters follow
its first one. -/
def leadingField? (text : List Char) : Option (Field × Nat) :=
  fieldNames.findSome? fun (name, f) =>
    if name.isPrefixOf text then some (f, name.length - 1) else none

/-- The items of a token, the first `skipped` characters of which belong to a name
already taken. -/
def scan (skipped : Nat) : List Char → Template
  | [] => []
  | c :: rest =>
    match skipped with
    | skipped + 1 => scan skipped rest
    | 0 =>
      match leadingField? (c :: rest) with
      | some (f, following) => .field f :: scan following rest
      | none => .literal c :: scan 0 rest

/-- The template that a token stands for. -/
def ofToken (token : String) : Template := scan 0 token.toList

/-- The letter of a field after a percent sign. -/
def Field.letter : Field → Char
  | .year => 'Y'
  | .shortYear => 'y'
  | .month => 'm'
  | .monthAbbreviation => 'b'
  | .monthName => 'B'
  | .day => 'd'
  | .hour24 => 'H'
  | .hour12 => 'I'
  | .minute => 'M'
  | .second => 'S'
  | .fraction => 'f'
  | .meridiem => 'p'

/-- The template with percent signs; a percent sign of its own is written twice. -/
def strftime (template : Template) : String :=
  String.ofList
    (template.flatMap fun
      | .field f => ['%', Field.letter f]
      | .literal c => if c = '%' then ['%', '%'] else [c])

end Template

/-! ### Fields -/

/-- The fields read so far. -/
structure Fields where
  year : Option Int := none
  shortYear : Option Nat := none
  month : Option Nat := none
  day : Option Nat := none
  /-- 0 before noon, 1 from noon on. -/
  half : Option Nat := none
  /-- The hour within its half of the day, 0 to 11. -/
  hour : Option Nat := none
  minute : Option Nat := none
  second : Option Nat := none
  nanosecond : Option Nat := none

/-- The new value of a field that has `old`; none if the two differ. -/
def settle {α : Type} [DecidableEq α] (old : Option α) (new : α) : Option (Option α) :=
  match old with
  | none => some (some new)
  | some value => if value = new then some (some new) else none

namespace Fields

/-- The fields with one more, whose value must be in range. -/
def put (fields : Fields) (f : Field) (value : Int) : Option Fields :=
  let number := value.toNat
  match f with
  | .year =>
    if -2147483648 ≤ value ∧ value ≤ 2147483647 then do
      return { fields with year := ← settle fields.year value }
    else none
  | .shortYear =>
    if number ≤ 99 then do return { fields with shortYear := ← settle fields.shortYear number }
    else none
  | .month | .monthAbbreviation | .monthName =>
    if 1 ≤ number ∧ number ≤ 12 then do
      return { fields with month := ← settle fields.month number }
    else none
  | .day =>
    if 1 ≤ number ∧ number ≤ 31 then do return { fields with day := ← settle fields.day number }
    else none
  | .hour24 =>
    if number ≤ 23 then do
      return { fields with
        half := ← settle fields.half (number / 12)
        hour := ← settle fields.hour (number % 12) }
    else none
  | .hour12 =>
    if 1 ≤ number ∧ number ≤ 12 then do
      return { fields with hour := ← settle fields.hour (number % 12) }
    else none
  | .minute =>
    if number ≤ 59 then do return { fields with minute := ← settle fields.minute number }
    else none
  | .second =>
    if number ≤ 60 then do return { fields with second := ← settle fields.second number }
    else none
  | .fraction => do return { fields with nanosecond := ← settle fields.nanosecond number }
  | .meridiem => do return { fields with half := ← settle fields.half number }

/-- The year the fields speak of. Two digits alone mean a year from 1970 to 2069; beside a
full year they must be its last two. -/
def fullYear? (fields : Fields) : Option Int :=
  match fields.year, fields.shortYear with
  | some year, none => some year
  | some year, some short => if 0 ≤ year ∧ year % 100 = short then some year else none
  | none, some short => some (if short < 70 then 2000 + short else 1900 + short)
  | none, none => none

/-- The date of the fields, if they name one. -/
def date? (fields : Fields) : Option Date := do
  Date.ofParts? (← fields.fullYear?) (← fields.month) (← fields.day)

/-- The time of the fields, if they name one. Seconds may be missing; second 60 is the
leap second after second 59. -/
def time? (fields : Fields) : Option TimeOfDay := do
  let hour := (← fields.half) * 12 + (← fields.hour)
  let minute ← fields.minute
  let nanosecond := fields.nanosecond.getD 0
  match fields.second with
  | some 60 => TimeOfDay.ofParts? hour minute 59 (nanosPerSecond + nanosecond)
  | some second => TimeOfDay.ofParts? hour minute second nanosecond
  | none => TimeOfDay.ofParts? hour minute 0 0

/-- Date and time of the fields, if they name both. -/
def dateTime? (fields : Fields) : Option DateTime := do
  return ⟨← fields.date?, ← fields.time?⟩

end Fields

/-! ### Reading by a template -/

namespace Template

/-- The English month names, as their first three letters and the others. -/
def monthNames : List (List Char × List Char) :=
  [ ("jan".toList, "uary".toList), ("feb".toList, "ruary".toList), ("mar".toList, "ch".toList),
    ("apr".toList, "il".toList), ("may".toList, []), ("jun".toList, "e".toList),
    ("jul".toList, "y".toList), ("aug".toList, "ust".toList), ("sep".toList, "tember".toList),
    ("oct".toList, "ober".toList), ("nov".toList, "ember".toList),
    ("dec".toList, "ember".toList) ]

/-- What follows `word` in `text`, ASCII case aside. -/
def afterWord? (word text : List Char) : Option (List Char) :=
  if (text.take word.length).map Char.toLower = word then some (text.drop word.length) else none

/-- The number of up to `width` digits, one at least, and what follows them. -/
def readDigits? (width : Nat) (text : List Char) : Option (Nat × List Char) :=
  let digits := (text.take width).takeWhile Char.isDigit
  if digits.isEmpty then none else some (Text.digitsValue digits, text.drop digits.length)

/-- The number of all digits that stand first, one at least, and what follows them. -/
def readAllDigits? (text : List Char) : Option (Nat × List Char) :=
  readDigits? text.length text

/-- A month by its name, with `longNames` by the whole name where that stands. -/
def readMonth? (longNames : Bool) (text : List Char) : Option (Nat × List Char) := do
  let month ← monthNames.findIdx? fun (abbreviation, _) => (afterWord? abbreviation text).isSome
  let rest := text.drop 3
  let others := (monthNames.map Prod.snd).getD month []
  if longNames then return (month + 1, (afterWord? others rest).getD rest)
  else return (month + 1, rest)

/-- A year: up to four digits, or a sign and any number of them. -/
def readYear? (text : List Char) : Option (Int × List Char) :=
  match text with
  | '-' :: rest => (readAllDigits? rest).map fun (number, rest) => (-(number : Int), rest)
  | '+' :: rest => (readAllDigits? rest).map fun (number, rest) => ((number : Int), rest)
  | _ => (readDigits? 4 text).map fun (number, rest) => ((number : Int), rest)

/-- A fraction of a second in nanoseconds, from up to nine digits; further digits are
skipped. -/
def readFraction? (text : List Char) : Option (Nat × List Char) := do
  let (number, rest) ← readDigits? 9 text
  return (number * Nat.pow 10 (9 - (text.length - rest.length)), rest.dropWhile Char.isDigit)

/-- Reads one field. Blanks may stand before a number. -/
def readField? (f : Field) (fields : Fields) (text : List Char) :
    Option (Fields × List Char) :=
  match f with
  | .year => do
    let (value, rest) ← readYear? (Text.trimStart text)
    return (← fields.put f value, rest)
  | .monthAbbreviation => do
    let (value, rest) ← readMonth? false text
    return (← fields.put f value, rest)
  | .monthName => do
    let (value, rest) ← readMonth? true text
    return (← fields.put f value, rest)
  | .meridiem =>
    match afterWord? ['a', 'm'] text, afterWord? ['p', 'm'] text with
    | some rest, _ => (fields.put f 0).map (·, rest)
    | none, some rest => (fields.put f 1).map (·, rest)
    | none, none => none
  | .fraction =>
    match text with
    | '.' :: digits => do
      let (value, rest) ← readFraction? digits
      return (← fields.put f value, rest)
    | _ => some (fields, text)
  | .shortYear | .month | .day | .hour24 | .hour12 | .minute | .second => do
    let (value, rest) ← readDigits? 2 (Text.trimStart text)
    return (← fields.put f value, rest)

/-- Reads a text that the template covers exactly. -/
def readFrom? (template : Template) (fields : Fields) (text : List Char) : Option Fields :=
  match template with
  | [] => if text.isEmpty then some fields else none
  | .field f :: items => do
    let (fields, rest) ← readField? f fields text
    readFrom? items fields rest
  | .literal c :: items =>
    if Text.isBlank c then readFrom? items fields (Text.trimStart text)
    else
      match text with
      | d :: rest => if d = c then readFrom? items fields rest else none
      | [] => none

/-- The fields of a text in the layout of the template. -/
def read? (template : Template) (text : String) : Option Fields :=
  readFrom? template {} text.toList

/-! ### ISO 8601 -/

/-- A layout in which blanks may stand before each separator and at the end. -/
def spaced (separator : Char) (fields : List Field) : Template :=
  (fields.map Item.field).intersperse (.literal separator) |>.flatMap fun
    | .literal c => [.literal ' ', .literal c]
    | item => [item]

/-- Year, month and day. -/
def isoDate : Template := spaced '-' [.year, .month, .day]

/-- Hour and minute. -/
def isoMinutes : Template := spaced ':' [.hour24, .minute]

/-- Hour, minute, second and a fraction of it. -/
def isoSeconds : Template := spaced ':' [.hour24, .minute, .second] ++ [.field .fraction]

end Template

/-- The date of an ISO 8601 text. -/
def Date.ofText? (text : String) : Option Date := do
  (← Template.read? (Template.isoDate ++ [.literal ' ']) text).date?

/-- The time of an ISO 8601 text; seconds may be missing. -/
def TimeOfDay.ofText? (text : String) : Option TimeOfDay := do
  let fields ← Template.read? (Template.isoSeconds ++ [.literal ' ']) text
    <|> Template.read? (Template.isoMinutes ++ [.literal ' ']) text
  fields.time?

/-- The date and time of an ISO 8601 text. -/
def DateTime.ofText? (text : String) : Option DateTime := do
  let template :=
    Template.isoDate ++ [.literal ' ', .literal 'T'] ++ Template.isoSeconds ++ [.literal ' ']
  (← Template.read? template text).dateTime?

end ColumnCast
