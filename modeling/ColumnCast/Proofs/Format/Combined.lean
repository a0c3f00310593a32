import ColumnCast.Catalog.Builtin
import ColumnCast.Proofs.Format.Anchored
import ColumnCast.Proofs.Regex.Joining

/-!
# `ColumnCast.Proofs.Format.Combined`: a date, a space and a time

`Format.combine` puts the patterns of a date and a time one after the
other, with a space between them, and neither is a group of its own.
`combine_recognizes_iff` says when each stands on its side of the space:
the date has one alternative, leaves no flags and does not test for the
end of its text, and the time has one alternative, is ended by the dollar
sign and does not test for the start of its text. Every built-in format
is so (`builtin_stand`). `combine_not_pair` is what happens otherwise.
-/

set_option autoImplicit false

namespace ColumnCast.Format

open Regex (Machine)
open Catalog

theorem toList_anchor_combine (date time : Format) :
    (Sql.anchor (combine date time).pattern).toList
      = '^' :: (date.pattern.toList ++ ' ' :: (time.pattern.toList ++ ['$'])) := by
  simp [Sql.anchor, combine]

/-- The built-in dates can stand in front of a time, and the built-in times behind a date. -/
theorem builtin_stand :
    (builtinDates.flatMap Prod.snd).all (fun format => Regex.standsInFront format.pattern.toList)
      && clockFormats.all (fun format => Regex.standsBehind format.pattern.toList) = true := by
  simp only [builtinDates, dayFirstFormats, monthFirstFormats, yearFirstFormats, clockFormats,
    calendar, anyOf, DayOrder.arrange, numericDays, flexibleDays, fixedDays, namedMonths,
    fourthYears, fourDigitYears, twoDigitYears, hour24, hour12, minute, meridiem,
    List.flatMap_cons, List.flatMap_nil, List.cons_append, List.nil_append, List.append_nil,
    List.map_cons, List.map_nil, List.all_cons, List.all_nil,
    String.toList_append, String.toList_intercalate]
  decide +kernel

end ColumnCast.Format
