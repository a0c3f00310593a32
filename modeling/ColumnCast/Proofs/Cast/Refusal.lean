import ColumnCast.Cast
import ColumnCast.Proofs.Catalog.Order
import ColumnCast.Proofs.Format

/-!
# `ColumnCast.Proofs.Cast.Refusal`: which requests are refused

A request is refused when its column is compiled and when one of its
cells is read. `compile_eq_error_iff` lists the refusals of the first
kind; they do not depend on a cell.

For a catalog's own formats a cell adds nothing: the catalog has checked
that each of them has a recognizer (`Catalog.recognizer_isOk_of_mem_times`
and its companion for dates). A date with a time is read by combined
formats, which nothing has checked, so there a cell can be refused though
its column compiles. `coerce_eq_error_iff` is the exact condition: the
search comes to a combined format that has no recognizer.
-/

set_option autoImplicit false

namespace ColumnCast

namespace Catalog

/-- Every time format of a catalog has a recognizer. -/
theorem recognizer_isOk_of_mem_times (catalog : Catalog) {f : Format} (mem : f ∈ catalog.times) :
    f.recognizer.isOk = true :=
  (checkSequence_eq_ok_iff.mp (check_eq_ok_iff.mp catalog.checked).2.2).2 f mem

theorem dateFormats_eq_ok_iff {catalog : Catalog} {id : String} {formats : List Format} :
    catalog.dateFormats id = .ok formats ↔ catalog.dates.lookup id = some formats := by
  unfold dateFormats
  cases catalog.dates.lookup id with
  | none => simp
  | some found => simp

/-- The date formats of an identifier have passed the check. -/
theorem checkSequence_eq_ok (catalog : Catalog) {id : String} {formats : List Format}
    (known : catalog.dateFormats id = .ok formats) : checkSequence id formats = .ok () := by
  have found := dateFormats_eq_ok_iff.mp known
  obtain ⟨before, after, split, -⟩ := List.lookup_eq_some_iff.mp found
  have entry : (id, formats) ∈ catalog.dates := by
    rw [split]
    exact List.mem_append_right _ List.mem_cons_self
  exact (check_eq_ok_iff.mp catalog.checked).2.1 (id, formats) entry

/-- Every date format of a catalog has a recognizer. -/
theorem recognizer_isOk_of_mem_dates (catalog : Catalog) {id : String} {formats : List Format}
    (known : catalog.dateFormats id = .ok formats) {f : Format} (mem : f ∈ formats) :
    f.recognizer.isOk = true :=
  (checkSequence_eq_ok_iff.mp (catalog.checkSequence_eq_ok known)).2 f mem

/-- A catalog has a time format. -/
theorem times_ne_nil (catalog : Catalog) : catalog.times ≠ [] :=
  (checkSequence_eq_ok_iff.mp (check_eq_ok_iff.mp catalog.checked).2.2).1

/-- An identifier of a catalog has a date format. -/
theorem dateFormats_ne_nil {catalog : Catalog} {id : String} {formats : List Format}
    (known : catalog.dateFormats id = .ok formats) : formats ≠ [] :=
  (checkSequence_eq_ok_iff.mp (catalog.checkSequence_eq_ok known)).1

theorem dateTimeFormats_eq_ok_iff {catalog : Catalog} {id : String} {formats : List Format} :
    catalog.dateTimeFormats id = .ok formats ↔ ∃ dates, catalog.dateFormats id = .ok dates
      ∧ formats = dates.flatMap fun date => catalog.times.map (Format.combine date) := by
  refine map_eq_ok_iff.trans (exists_congr fun dates => and_congr_right fun _ => ?_)
  exact eq_comm

theorem dateTimeFormats_eq_error_iff {catalog : Catalog} {id : String} {e : CastError} :
    catalog.dateTimeFormats id = .error e ↔ catalog.dateFormats id = .error e :=
  map_eq_error_iff

end Catalog

namespace Temporal

/-- The formats of a catalog's own never refuse a cell. -/
theorem readTime_ne_error (catalog : Catalog) (cell : String) (e : CastError) :
    readTime catalog cell ≠ .error e := by
  intro h
  have reached : readFields catalog.times cell = .error e := by
    unfold readTime at h
    cases found : readFields catalog.times cell with
    | ok fields => simp [found, bind, Except.bind, pure, Except.pure] at h
    | error e' => simpa [found, bind, Except.bind] using h
  exact Format.firstFor_ne_error (fun f mem => catalog.recognizer_isOk_of_mem_times mem) e
    (readFields_eq_error_iff.mp reached)

theorem readDuration_ne_error (catalog : Catalog) (cell : String) (e : CastError) :
    readDuration catalog cell ≠ .error e := by
  unfold readDuration
  split
  · simp
  · cases h : readTime catalog cell with
    | ok time => simp [Except.map]
    | error e' => exact absurd h (readTime_ne_error catalog cell e')

theorem readDate_eq_error_iff (catalog : Catalog) (id cell : String) (e : CastError) :
    readDate catalog id cell = .error e ↔ catalog.dateFormats id = .error e := by
  unfold readDate
  cases known : catalog.dateFormats id with
  | error e' => simp [bind, Except.bind]
  | ok formats =>
      cases found : readFields formats cell with
      | ok fields => simp [found, bind, Except.bind, pure, Except.pure]
      | error e' =>
          have reached := readFields_eq_error_iff.mp found
          exact absurd reached (Format.firstFor_ne_error
            (fun f mem => catalog.recognizer_isOk_of_mem_dates known mem) e')

/-- A cell with a date and a time is refused for its identifier, or for a combined format. -/
theorem readDateTime_eq_error_iff (catalog : Catalog) (id cell : String) (e : CastError) :
    readDateTime catalog id cell = .error e ↔
      catalog.dateTimeFormats id = .error e
        ∨ ∃ formats, catalog.dateTimeFormats id = .ok formats
          ∧ Format.firstFor cell formats = .error e := by
  unfold readDateTime
  cases known : catalog.dateTimeFormats id with
  | error e' => simp [bind, Except.bind]
  | ok formats =>
      have reached : readFields formats cell = .error e ↔ Format.firstFor cell formats = .error e :=
        readFields_eq_error_iff
      cases found : readFields formats cell with
      | ok fields =>
          rw [found] at reached
          simpa [found, bind, Except.bind, pure, Except.pure] using reached
      | error e' =>
          rw [found] at reached
          simpa [found, bind, Except.bind] using reached

end Temporal

namespace CastRequest

/-- Is the type one whose cells are read by the formats of an identifier? -/
def namesFormats (type : SemanticType) : Prop := type = .date ∨ type = .dateTime

/-- A column does not compile for its limit, or else for the identifier of its formats. -/
theorem compile_eq_error_iff {catalog : Catalog} {request : CastRequest} {e : CastError} :
    request.compile catalog = .error e ↔
      request.checkLimit = .error e
        ∨ (request.checkLimit = .ok () ∧ namesFormats request.type
          ∧ catalog.dateFormats request.dateFormatId = .error e) := by
  unfold compile namesFormats
  cases limit : request.checkLimit with
  | error e' => simp [bind, Except.bind]
  | ok u =>
      cases type : request.type
      case date | dateTime =>
        simp only [bind, Except.bind, Temporal.castDate, Temporal.castDateTime,
          Catalog.dateTimeFormats]
        cases catalog.dateFormats request.dateFormatId with
        | ok formats => simp [Except.map]
        | error e' => simp [Except.map]
      all_goals simp [bind, Except.bind, pure, Except.pure]

/-- **What a cell adds to the refusals**: beyond the requests that do not compile, a date with
a time is refused when the search for its format comes to one without a recognizer. -/
theorem coerce_eq_error_iff (catalog : Catalog) (request : CastRequest) (cell : String)
    (e : CastError) :
    request.coerce catalog cell = .error e ↔
      request.compile catalog = .error e
        ∨ (request.type = .dateTime ∧ request.checkLimit = .ok ()
          ∧ ∃ before f after,
            catalog.dateTimeFormats request.dateFormatId = .ok (before ++ f :: after)
              ∧ (∀ b ∈ before, b.recognizes cell = .ok false)
              ∧ f.recognizer = .error e) := by
  rw [compile_eq_error_iff]
  unfold coerce namesFormats
  cases limit : request.checkLimit with
  | error e' => simp [bind, Except.bind]
  | ok u =>
      -- Each format of a catalog compiles on its own. So a date fails only for its identifier, a
      -- time or a duration never, and of combined formats one can name a group twice.
      cases type : request.type
      case date =>
        have read := Temporal.readDate_eq_error_iff catalog request.dateFormatId cell e
        cases found : Temporal.readDate catalog request.dateFormatId cell with
        | ok day => simpa [found, bind, Except.bind, pure, Except.pure] using read
        | error e' => simpa [found, bind, Except.bind] using read
      case dateTime =>
        have read := Temporal.readDateTime_eq_error_iff catalog request.dateFormatId cell e
        rw [Catalog.dateTimeFormats_eq_error_iff] at read
        simp only [Format.firstFor_eq_error_iff] at read
        -- The formats that the catalog gives are those that the failing one splits.
        have reached : (∃ formats, catalog.dateTimeFormats request.dateFormatId = .ok formats
              ∧ ∃ before f after, formats = before ++ f :: after
                ∧ (∀ b ∈ before, b.recognizes cell = .ok false) ∧ f.recognizer = .error e)
            ↔ ∃ before f after,
              catalog.dateTimeFormats request.dateFormatId = .ok (before ++ f :: after)
                ∧ (∀ b ∈ before, b.recognizes cell = .ok false) ∧ f.recognizer = .error e := by
          constructor
          · rintro ⟨_, known, before, f, after, rfl, passed, refused⟩
            exact ⟨before, f, after, known, passed, refused⟩
          · rintro ⟨before, f, after, known, passed, refused⟩
            exact ⟨_, known, before, f, after, rfl, passed, refused⟩
        rw [reached] at read
        cases found : Temporal.readDateTime catalog request.dateFormatId cell with
        | ok moment => simpa [found, bind, Except.bind, pure, Except.pure] using read
        | error e' => simpa [found, bind, Except.bind] using read
      case time =>
        have never := Temporal.readTime_ne_error catalog cell
        cases found : Temporal.readTime catalog cell with
        | ok clock => simp [bind, Except.bind, pure, Except.pure]
        | error e' => exact absurd found (never e')
      case duration =>
        have never := Temporal.readDuration_ne_error catalog cell
        cases found : Temporal.readDuration catalog cell with
        | ok seconds => simp [bind, Except.bind, pure, Except.pure]
        | error e' => exact absurd found (never e')
      all_goals simp [bind, Except.bind, pure, Except.pure]

/-! ### Two patterns with one group name -/

/-- Date formats whose only pattern names a group. -/
def clashingDates : DateSequences := [("d", [⟨"DD", "(?P<_>x)"⟩])]

/-- Time formats whose only pattern gives a group the same name. -/
def clashingTimes : List Format := [⟨"HH24", "(?P<_>y)"⟩]

/-- Each pattern is an expression by itself. -/
theorem clashing_checked : Catalog.check clashingDates clashingTimes = .ok () := by
  have dates : ∀ f ∈ [(⟨"DD", "(?P<_>x)"⟩ : Format)], f.recognizer.isOk = true := by
    intro f mem
    rw [List.mem_singleton.mp mem, Format.recognizer_isOk]
    decide +kernel
  have times : ∀ f ∈ clashingTimes, f.recognizer.isOk = true := by
    intro f mem
    rw [List.mem_singleton.mp mem, Format.recognizer_isOk]
    decide +kernel
  refine Catalog.check_eq_ok_iff.mpr ⟨List.cons_ne_nil _ _, fun entry mem => ?_, ?_⟩
  · rw [List.mem_singleton.mp mem]
    exact Catalog.checkSequence_eq_ok_iff.mpr ⟨List.cons_ne_nil _ _, dates⟩
  · exact Catalog.checkSequence_eq_ok_iff.mpr ⟨List.cons_ne_nil _ _, times⟩

def clashingCatalog : Catalog := ⟨clashingDates, clashingTimes, clashing_checked⟩

def clashingRequest : CastRequest := { type := .dateTime, source := "c", dateFormat := some "d" }

/-- One after the other they are none, for the name would stand twice. -/
theorem clashing_recognizer :
    (⟨"DD HH24", "(?P<_>x) (?P<_>y)"⟩ : Format).recognizer
      = .error (.invalidPattern "DD HH24" "(?P<_>x) (?P<_>y)") := by
  have refused : Regex.read? (Sql.anchor "(?P<_>x) (?P<_>y)") = none := by
    unfold Regex.read? Sql.anchor
    rw [String.toList_append, String.toList_append]
    exact Option.isNone_iff_eq_none.mp (by decide +kernel)
  unfold Format.recognizer
  rw [refused]

/-- The catalog is accepted and the column compiles, but its cells are refused. -/
theorem coerce_refuses_compiled :
    Catalog.ofFormats clashingDates clashingTimes = .ok clashingCatalog
      ∧ (clashingRequest.compile clashingCatalog).isOk = true
      ∧ clashingRequest.coerce clashingCatalog "z"
        = .error (.invalidPattern "DD HH24" "(?P<_>x) (?P<_>y)") := by
  refine ⟨?_, rfl, ?_⟩
  · exact Catalog.ofFormats_eq_ok clashingDates clashingTimes clashing_checked
  · have read : Temporal.readDateTime clashingCatalog "d" "z"
        = .error (.invalidPattern "DD HH24" "(?P<_>x) (?P<_>y)") :=
      (Temporal.readDateTime_eq_error_iff clashingCatalog "d" "z" _).mpr
        (Or.inr ⟨[⟨"DD HH24", "(?P<_>x) (?P<_>y)"⟩], rfl,
          Format.firstFor_eq_error_iff.mpr
            ⟨[], _, [], rfl, fun b mem => absurd mem List.not_mem_nil, clashing_recognizer⟩⟩)
    show (Temporal.readDateTime clashingCatalog "d" "z" >>= fun moment =>
      (pure (moment.map Value.dateTime) : Except CastError (Option Value))) = _
    rw [read]
    rfl

end CastRequest

end ColumnCast
