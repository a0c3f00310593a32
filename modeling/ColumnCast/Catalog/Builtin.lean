import ColumnCast.Catalog

/-!
# `ColumnCast.Catalog.Builtin`: the formats that are always there

The recognizers of the built-in catalog admit only days that exist and
times that exist, so what one of them matches has a value. `calendar`
says which days exist with four alternatives: days 1 to 28 in any month,
the 29th and 30th outside February, the 31st in long months, and
February 29 in leap years.
-/

set_option autoImplicit false

namespace ColumnCast.Catalog

/-- Expressions for the years of a layout, and for the leap years among them. -/
structure YearPatterns where
  any : String
  leap : String

/-- An expression for any of the alternatives. -/
def anyOf (alternatives : List String) : String := "(" ++ "|".intercalate alternatives ++ ")"

/-- Two digits that four divides, `zeros` those that begin with a zero. -/
def fourthYears (zeros : String) : String := anyOf [zeros, "[2468][048]", "[13579][26]"]

/-- Years of four digits. -/
def fourDigitYears : YearPatterns where
  any := "[0-9]\x7b4\x7d"
  leap :=
    anyOf
      ["[0-9]\x7b2\x7d" ++ fourthYears "0[48]",
        anyOf ["[02468][048]", "[13579][26]"] ++ "00"]

/-- Years of two digits. All of them lie between 1970 and 2069, where every fourth year is a
leap year. -/
def twoDigitYears : YearPatterns := ⟨"[0-9]\x7b2\x7d", fourthYears "0[048]"⟩

/-- Expressions for the days and months of a layout. -/
structure DayPatterns where
  /-- Days that every month has. -/
  day : String
  month : String
  /-- Months of 30 days or more. -/
  month30 : String
  /-- Months of 31 days. -/
  month31 : String
  february : String

/-- Days and months as numbers, `padding` before those of one digit. -/
def numericDays (padding : String) : DayPatterns where
  day := "(" ++ padding ++ "[1-9]|1[0-9]|2[0-8])"
  month := "(" ++ padding ++ "[1-9]|1[0-2])"
  month30 := "(" ++ padding ++ "[13-9]|1[0-2])"
  month31 := "(" ++ padding ++ "[13578]|1[02])"
  february := padding ++ "2"

/-- Days as numbers, months by the first three letters of their names in any case. -/
def namedMonths : DayPatterns where
  day := "(0?[1-9]|1[0-9]|2[0-8])"
  month :=
    anyOf ["[Jj][Aa][Nn]", "[Ff][Ee][Bb]", "[Mm][Aa][Rr]", "[Aa][Pp][Rr]", "[Mm][Aa][Yy]",
      "[Jj][Uu][Nn]", "[Jj][Uu][Ll]", "[Aa][Uu][Gg]", "[Ss][Ee][Pp]", "[Oo][Cc][Tt]",
      "[Nn][Oo][Vv]", "[Dd][Ee][Cc]"]
  month30 :=
    anyOf ["[Jj][Aa][Nn]", "[Mm][Aa][Rr]", "[Aa][Pp][Rr]", "[Mm][Aa][Yy]", "[Jj][Uu][Nn]",
      "[Jj][Uu][Ll]", "[Aa][Uu][Gg]", "[Ss][Ee][Pp]", "[Oo][Cc][Tt]", "[Nn][Oo][Vv]",
      "[Dd][Ee][Cc]"]
  month31 :=
    anyOf ["[Jj][Aa][Nn]", "[Mm][Aa][Rr]", "[Mm][Aa][Yy]", "[Jj][Uu][Ll]", "[Aa][Uu][Gg]",
      "[Oo][Cc][Tt]", "[Dd][Ee][Cc]"]
  february := "[Ff][Ee][Bb]"

/-- In which order day, month and year stand. -/
inductive DayOrder
  | dayFirst
  | monthFirst
  | yearFirst

/-- Day, month and year in order, with the separator between. -/
def DayOrder.arrange (order : DayOrder) (separator day month year : String) : String :=
  separator.intercalate
    (match order with
    | dayFirst => [day, month, year]
    | monthFirst => [month, day, year]
    | yearFirst => [year, month, day])

/-- An expression for the days that exist. -/
def calendar (days : DayPatterns) (years : YearPatterns) (order : DayOrder)
    (separator : String) : String :=
  anyOf
    ([ order.arrange separator days.day days.month years.any,
        order.arrange separator "(29|30)" days.month30 years.any,
        order.arrange separator "31" days.month31 years.any,
        order.arrange separator "29" days.february years.leap ].map
      fun alternative => anyOf [alternative])

/-- Numbers that may have a leading zero. -/
def flexibleDays : DayPatterns := numericDays "0?"

/-- Numbers of two digits. -/
def fixedDays : DayPatterns := numericDays "0"

/-- The formats of dates in European order. -/
def dayFirstFormats : List Format :=
  [ ⟨"DD/MM/YYYY", calendar flexibleDays fourDigitYears .dayFirst "/"⟩,
    ⟨"DD-MM-YYYY", calendar flexibleDays fourDigitYears .dayFirst "-"⟩,
    ⟨"DD.MM.YYYY", calendar flexibleDays fourDigitYears .dayFirst "\\."⟩,
    ⟨"DD/MM/YY", calendar flexibleDays twoDigitYears .dayFirst "/"⟩,
    ⟨"YYYY-MM-DD", calendar flexibleDays fourDigitYears .yearFirst "-"⟩,
    ⟨"DD Mon YYYY", calendar namedMonths fourDigitYears .dayFirst " "⟩ ]

/-- The formats of dates in American order. -/
def monthFirstFormats : List Format :=
  [ ⟨"MM/DD/YYYY", calendar flexibleDays fourDigitYears .monthFirst "/"⟩,
    ⟨"MM-DD-YYYY", calendar flexibleDays fourDigitYears .monthFirst "-"⟩,
    ⟨"MM/DD/YY", calendar flexibleDays twoDigitYears .monthFirst "/"⟩,
    ⟨"YYYY-MM-DD", calendar flexibleDays fourDigitYears .yearFirst "-"⟩,
    ⟨"Mon DD YYYY", calendar namedMonths fourDigitYears .monthFirst " "⟩ ]

/-- The formats of dates that begin with the year. -/
def yearFirstFormats : List Format :=
  [ ⟨"YYYY-MM-DD", calendar flexibleDays fourDigitYears .yearFirst "-"⟩,
    ⟨"YYYY/MM/DD", calendar flexibleDays fourDigitYears .yearFirst "/"⟩,
    ⟨"YYYY.MM.DD", calendar flexibleDays fourDigitYears .yearFirst "\\."⟩,
    ⟨"YYYYMMDD", calendar fixedDays fourDigitYears .yearFirst ""⟩ ]

/-- An hour from 0 to 23. -/
def hour24 : String := "([01]?[0-9]|2[0-3])"

/-- An hour from 1 to 12. -/
def hour12 : String := "(0?[1-9]|1[0-2])"

/-- A minute or a second. -/
def minute : String := "[0-5][0-9]"

/-- Before noon or after. -/
def meridiem : String := "[AaPp][Mm]"

/-- The formats of times. -/
def clockFormats : List Format :=
  [ ⟨"HH24:MI:SS", hour24 ++ ":" ++ minute ++ ":" ++ minute⟩,
    ⟨"HH24:MI", hour24 ++ ":" ++ minute⟩,
    ⟨"HH12:MI:SS AM", hour12 ++ ":" ++ minute ++ ":" ++ minute ++ " " ++ meridiem⟩,
    ⟨"HH12:MI AM", hour12 ++ ":" ++ minute ++ " " ++ meridiem⟩ ]

/-- The date sequences of the built-in catalog. -/
def builtinDates : DateSequences :=
  [("dmy", dayFirstFormats), ("mdy", monthFirstFormats), ("ymd", yearFirstFormats)]

/-- Every built-in format has a recognizer. -/
theorem builtin_recognizers :
    ((clockFormats ++ builtinDates.flatMap Prod.snd).all
      fun format => (Regex.limitedOfChars? ('^' :: (format.pattern.toList ++ ['$']))).isSome) = true := by
  simp only [builtinDates, dayFirstFormats, monthFirstFormats, yearFirstFormats, clockFormats,
    calendar, anyOf, DayOrder.arrange, numericDays, flexibleDays, fixedDays, namedMonths,
    fourthYears, fourDigitYears, twoDigitYears, hour24, hour12, minute, meridiem,
    List.flatMap_cons, List.flatMap_nil, List.cons_append, List.nil_append, List.append_nil,
    List.map_cons, List.map_nil, List.all_cons, List.all_nil,
    String.toList_append, String.toList_intercalate]
  decide +kernel

/-- The built-in formats are those of a catalog. -/
theorem builtin_checked : check builtinDates clockFormats = .ok () := by
  refine check_eq_ok_of_recognized (List.cons_ne_nil _ _) (fun entry mem => ?_)
    (List.cons_ne_nil _ _) builtin_recognizers
  simp only [builtinDates, List.mem_cons, List.not_mem_nil, or_false] at mem
  rcases mem with rfl | rfl | rfl <;> exact List.cons_ne_nil _ _

/-- The catalog that holds where no other is named. -/
def builtin : Catalog := ⟨builtinDates, clockFormats, builtin_checked⟩

end ColumnCast.Catalog
