import ColumnCast.Decimal.Text

/-!
# `ColumnCast.Calendar`: dates and times of day

Dates of the proleptic Gregorian calendar, with the years this library
can hold, and times of day to the nanosecond. A leap second is the last
second of its minute with a billion nanoseconds or more, so every minute
has room for one. Both types carry the proof that their parts are real:
there is no thirtieth of February to be handled anywhere.

Text is ISO 8601. Years outside 0 to 9999 carry a sign.
-/

set_option autoImplicit false

namespace ColumnCast

/-! ### Dates -/

/-- Has the year a February 29? -/
def isLeapYear (year : Int) : Bool :=
  year % 4 = 0 && (year % 100 ≠ 0 || year % 400 = 0)

/-- The number of days of a month; none for a number that is no month. -/
def daysInMonth (year : Int) (month : Nat) : Nat :=
  match month with
  | 1 | 3 | 5 | 7 | 8 | 10 | 12 => 31
  | 4 | 6 | 9 | 11 => 30
  | 2 => if isLeapYear year then 29 else 28
  | _ => 0

/-- Is there such a day, in a year within range? -/
abbrev IsDay (year : Int) (month day : Nat) : Prop :=
  -262143 ≤ year ∧ year ≤ 262142 ∧ 1 ≤ day ∧ day ≤ daysInMonth year month

/-- A day of the calendar. -/
structure Date where
  year : Int
  month : Nat
  day : Nat
  isDay : IsDay year month day
  deriving DecidableEq

namespace Date

/-- The date of these parts, if there is one. -/
def ofParts? (year : Int) (month day : Nat) : Option Date :=
  if h : IsDay year month day then some ⟨year, month, day, h⟩ else none

/-- A year as at least four digits, with a sign outside 0 to 9999. -/
def yearText (year : Int) : String :=
  if 0 ≤ year ∧ year ≤ 9999 then Text.padded 4 year.natAbs
  else (if year < 0 then "-" else "+") ++ Text.padded 4 year.natAbs

/-- Year, month and day, with hyphens between. -/
def toText (d : Date) : String :=
  yearText d.year ++ "-" ++ Text.padded 2 d.month ++ "-" ++ Text.padded 2 d.day

end Date

/-! ### Times of day -/

/-- How many nanoseconds a second has. -/
def nanosPerSecond : Nat := 1000000000

/-- Is there such a time? Only the last second of a minute runs on into a leap second. -/
abbrev IsTime (hour minute second nanosecond : Nat) : Prop :=
  hour < 24 ∧ minute < 60 ∧ second < 60 ∧ nanosecond < 2000000000
    ∧ (nanosecond < 1000000000 ∨ second = 59)

/-- A time of day. -/
structure TimeOfDay where
  hour : Nat
  minute : Nat
  second : Nat
  nanosecond : Nat
  isTime : IsTime hour minute second nanosecond
  deriving DecidableEq

namespace TimeOfDay

/-- The time of these parts, if there is one. -/
def ofParts? (hour minute second nanosecond : Nat) : Option TimeOfDay :=
  if h : IsTime hour minute second nanosecond then some ⟨hour, minute, second, nanosecond, h⟩
  else none

/-- Hours, minutes and seconds, with colons between; a leap second is number 60. -/
def clockText (t : TimeOfDay) : String :=
  Text.padded 2 t.hour ++ ":" ++ Text.padded 2 t.minute ++ ":"
    ++ Text.padded 2 (t.second + t.nanosecond / nanosPerSecond)

/-- The fraction of the second in 3, 6 or 9 digits, whichever are enough; empty for none. -/
def fractionText (t : TimeOfDay) : String :=
  let nanos := t.nanosecond % nanosPerSecond
  if nanos = 0 then ""
  else if nanos % 1000000 = 0 then "." ++ Text.padded 3 (nanos / 1000000)
  else if nanos % 1000 = 0 then "." ++ Text.padded 6 (nanos / 1000)
  else "." ++ Text.padded 9 nanos

/-- The whole time, with its fraction of a second. -/
def toText (t : TimeOfDay) : String := t.clockText ++ t.fractionText

/-- The seconds since midnight. A leap second adds the one it runs on into. -/
def sinceMidnight (t : TimeOfDay) : Decimal :=
  Decimal.normalize
    { coefficient :=
        (((t.hour * 60 + t.minute) * 60 + t.second) * nanosPerSecond + t.nanosecond : Nat)
      places := 9
      coefficient_lt := by
        have h := t.isTime
        unfold IsTime at h
        simp only [Int.natAbs_natCast, nanosPerSecond, Decimal.coefficientBound]
        omega
      places_le := by decide }

end TimeOfDay

/-- A date and a time of day. -/
structure DateTime where
  date : Date
  time : TimeOfDay
  deriving DecidableEq

namespace DateTime

/-- Date and time with a space between, to the second. -/
def clockText (dt : DateTime) : String := dt.date.toText ++ " " ++ dt.time.clockText

/-- Date and time with a `T` between, and the fraction of the second. -/
def toText (dt : DateTime) : String := dt.date.toText ++ "T" ++ dt.time.toText

end DateTime

end ColumnCast
