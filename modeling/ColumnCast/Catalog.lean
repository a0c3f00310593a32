import ColumnCast.Format

/-!
# `ColumnCast.Catalog`: the formats of dates and times

A catalog holds sequences of date formats, each under an identifier, and
one sequence of time formats. The identifiers stand in order of their
code points. `Catalog.ofFormats` is the way to a catalog from outside: it
refuses one without date formats, one with an empty sequence and one with
a recognizer that is no regular expression, so a `Catalog` is never any of
these.

Dates with times have no sequence of their own: `dateTimeFormats` puts
every time format after every date format of a sequence.
-/

set_option autoImplicit false

namespace ColumnCast

/-- Date formats by identifier, as they come from outside. -/
abbrev DateSequences := List (String × List Format)

namespace DateSequences

/-- The sequences with one more, at its place in the order. A sequence that has the
identifier already gives way. -/
def insert (id : String) (formats : List Format) : DateSequences → DateSequences
  | [] => [(id, formats)]
  | (other, kept) :: rest =>
    if id < other then (id, formats) :: (other, kept) :: rest
    else if id = other then (id, formats) :: rest
    else (other, kept) :: insert id formats rest

/-- The sequences in order of their identifiers; of two with one identifier the later. -/
def ordered (sequences : DateSequences) : DateSequences :=
  sequences.foldl (fun found (id, formats) => insert id formats found) []

end DateSequences

namespace Catalog

/-- A sequence must have a format, and every format of it a recognizer. -/
def checkSequence (name : String) (formats : List Format) : Except CastError Unit :=
  if formats.isEmpty then .error (.emptyFormatSequence name)
  else formats.forM fun format => format.recognizer.map fun _ => ()

/-- What a refusal calls the sequence of time formats. -/
def timeSequenceName : String := "time"

/-- Are these the formats of a catalog? -/
def check (dates : DateSequences) (times : List Format) : Except CastError Unit :=
  if dates.isEmpty then .error (.badCatalog .noDateFormats)
  else do
    dates.forM fun (id, formats) => checkSequence id formats
    checkSequence timeSequenceName times

/-- A check of every member passes if it passes at each. -/
theorem forM_eq_ok_iff {α : Type} {f : α → Except CastError Unit} {xs : List α} :
    xs.forM f = .ok () ↔ ∀ x ∈ xs, f x = .ok () := by
  induction xs with
  | nil => simp [pure, Except.pure]
  | cons x xs ih =>
    cases h : f x with
    | error e => simp [h, bind, Except.bind]
    | ok u => simpa [h, bind, Except.bind] using ih

/-- The sequences that pass: a format at least, each with a recognizer. -/
theorem checkSequence_eq_ok_iff {name : String} {formats : List Format} :
    checkSequence name formats = .ok ()
      ↔ formats ≠ [] ∧ ∀ format ∈ formats, format.recognizer.isOk = true := by
  unfold checkSequence
  cases formats with
  | nil => simp
  | cons format rest =>
    simp only [List.isEmpty_cons, Bool.false_eq_true, if_false, ne_eq, reduceCtorEq,
      not_false_eq_true, true_and, forM_eq_ok_iff]
    refine forall₂_congr fun f _ => ?_
    cases f.recognizer <;> simp [Except.map, Except.isOk, Except.toBool]

/-- The catalogs that pass: a date sequence at least, and sequences that pass. -/
theorem check_eq_ok_iff {dates : DateSequences} {times : List Format} :
    check dates times = .ok ()
      ↔ dates ≠ [] ∧ (∀ entry ∈ dates, checkSequence entry.1 entry.2 = .ok ())
        ∧ checkSequence timeSequenceName times = .ok () := by
  unfold check
  cases dates with
  | nil => simp
  | cons entry rest =>
    simp only [List.isEmpty_cons, Bool.false_eq_true, if_false, ne_eq, reduceCtorEq,
      not_false_eq_true, true_and]
    rw [← forM_eq_ok_iff]
    cases (entry :: rest).forM fun entry => checkSequence entry.1 entry.2 with
    | error e => simp [bind, Except.bind]
    | ok u => simp [bind, Except.bind]

/-- Formats pass where each pattern between anchors is a regular expression. -/
theorem check_eq_ok_of_recognized {dates : DateSequences} {times : List Format}
    (filled : dates ≠ []) (inhabited : ∀ entry ∈ dates, entry.2 ≠ []) (timed : times ≠ [])
    (recognized : ((times ++ dates.flatMap Prod.snd).all fun format =>
      (Regex.limitedOfChars? ('^' :: (format.pattern.toList ++ ['$']))).isSome) = true) :
    check dates times = .ok () := by
  have each (format : Format) (mem : format ∈ times ++ dates.flatMap Prod.snd) :
      format.recognizer.isOk = true := by
    rw [Format.recognizer_isOk]
    exact List.all_eq_true.1 recognized format mem
  refine check_eq_ok_iff.2 ⟨filled, fun entry mem => ?_, ?_⟩
  · exact checkSequence_eq_ok_iff.2 ⟨inhabited entry mem, fun format inside =>
      each format (List.mem_append_right _ (List.mem_flatMap.2 ⟨entry, mem, inside⟩))⟩
  · exact checkSequence_eq_ok_iff.2 ⟨timed, fun format inside =>
      each format (List.mem_append_left _ inside)⟩

end Catalog

/-- Formats of dates, by identifier, and of times. -/
structure Catalog where
  dates : DateSequences
  times : List Format
  checked : Catalog.check dates times = .ok ()

namespace Catalog

/-- The catalog of these formats. -/
def ofFormats (dates : DateSequences) (times : List Format) : Except CastError Catalog :=
  let dates := DateSequences.ordered dates
  match h : check dates times with
  | .ok () => .ok ⟨dates, times, h⟩
  | .error e => .error e

/-- Have two catalogs the same formats? -/
def same (a b : Catalog) : Bool := a.dates == b.dates && a.times == b.times

/-- The identifiers of the date formats, in order. -/
def ids (catalog : Catalog) : List String := catalog.dates.map Prod.fst

/-- The date formats of an identifier. -/
def dateFormats (catalog : Catalog) (id : String) : Except CastError (List Format) :=
  match catalog.dates.lookup id with
  | some formats => .ok formats
  | none => .error (.unknownDateFormat id catalog.ids)

/-- The formats of a date with a time: the first date format with every time format, then
the second. -/
def dateTimeFormats (catalog : Catalog) (id : String) : Except CastError (List Format) :=
  (catalog.dateFormats id).map fun dates =>
    dates.flatMap fun date => catalog.times.map (Format.combine date)

end Catalog

end ColumnCast
