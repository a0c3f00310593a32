import ColumnCast.Temporal
import ColumnCast.Proofs.Traversal

/-!
# `ColumnCast.Proofs.Format`: which format decides

`Format.firstFor` has three outcomes, and each is a statement about the
sequence as a whole:

* `firstFor_eq_some_iff`: the format that decides recognizes the cell,
  and no format before it does.
* `firstFor_eq_none_iff`: no format recognizes the cell.
* `firstFor_eq_error_iff`: a format without a recognizer is reached
  because no format before it recognizes the cell. Formats behind one
  that recognizes the cell are never built.

`FirstAt` is the place of the format that decides.
`readFields_append_cons` says the same of the fields that are read.
-/

set_option autoImplicit false

namespace ColumnCast.Format

/-- A format refuses a cell only because it has no recognizer. -/
theorem recognizes_eq_error_iff {format : Format} {cell : String} {e : CastError} :
    format.recognizes cell = .error e ↔ format.recognizer = .error e := map_eq_error_iff

/-- What a format says of a cell is whether its expression matches. -/
theorem exists_isMatch_of_recognizes {format : Format} {cell : String} {recognized : Bool}
    (h : format.recognizes cell = .ok recognized) :
    ∃ nested, Regex.ofChars? (Sql.anchor format.pattern).toList = some nested
      ∧ nested.regex.isMatch cell = recognized := by
  unfold recognizes recognizer Regex.read? Regex.limitedOfChars? at h
  cases read : Regex.ofChars? (Sql.anchor format.pattern).toList with
  | none => simp [read, Except.map] at h
  | some nested =>
      refine ⟨nested, rfl, ?_⟩
      cases small : nested.isWithinLimits with
      | false => simp [read, Option.filter, small, Except.map] at h
      | true => simpa [read, Option.filter, small, Except.map] using h

/-- Formats that do not recognize the cell are passed over. -/
theorem firstFor_append {cell : String} {before : List Format}
    (passed : ∀ b ∈ before, b.recognizes cell = .ok false) (rest : List Format) :
    firstFor cell (before ++ rest) = firstFor cell rest := by
  induction before with
  | nil => rfl
  | cons b before ih =>
      rw [List.cons_append, firstFor, passed b List.mem_cons_self]
      exact ih fun b' mem => passed b' (List.mem_cons_of_mem _ mem)

/-- The outcome is made by one format, unless every format is passed over. -/
theorem firstFor_cases (cell : String) (formats : List Format) :
    (∀ f ∈ formats, f.recognizes cell = .ok false) ∨
      ∃ before f after, formats = before ++ f :: after
        ∧ (∀ b ∈ before, b.recognizes cell = .ok false)
        ∧ f.recognizes cell ≠ .ok false := by
  induction formats with
  | nil => exact Or.inl fun f mem => absurd mem List.not_mem_nil
  | cons f rest ih =>
      by_cases passed : f.recognizes cell = .ok false
      · rcases ih with all | ⟨before, g, after, rfl, passedBefore, decides⟩
        · exact Or.inl fun g mem => by
            rcases List.mem_cons.mp mem with rfl | mem
            · exact passed
            · exact all g mem
        · refine Or.inr ⟨f :: before, g, after, rfl, fun b mem => ?_, decides⟩
          rcases List.mem_cons.mp mem with rfl | mem
          · exact passed
          · exact passedBefore b mem
      · exact Or.inr ⟨[], f, rest, rfl, fun b mem => absurd mem List.not_mem_nil, passed⟩

theorem firstFor_eq_none {cell : String} {formats : List Format}
    (passed : ∀ f ∈ formats, f.recognizes cell = .ok false) :
    firstFor cell formats = .ok none := by
  have skip := firstFor_append passed []
  rwa [List.append_nil] at skip

/-- The format that is not passed over makes the outcome. -/
theorem firstFor_decided {cell : String} {before : List Format} {f : Format}
    (passed : ∀ b ∈ before, b.recognizes cell = .ok false)
    (decides : f.recognizes cell ≠ .ok false) (after : List Format) :
    firstFor cell (before ++ f :: after) = (f.recognizes cell).map fun _ => some f := by
  rw [firstFor_append passed, firstFor]
  match found : f.recognizes cell with
  | .ok true => rfl
  | .ok false => exact absurd found decides
  | .error e => rfl

/-- The format that decides recognizes the cell, and none before it does. -/
theorem firstFor_eq_some_iff {cell : String} {formats : List Format} {f : Format} :
    firstFor cell formats = .ok (some f) ↔
      ∃ before after, formats = before ++ f :: after
        ∧ (∀ b ∈ before, b.recognizes cell = .ok false)
        ∧ f.recognizes cell = .ok true := by
  constructor
  · intro h
    rcases firstFor_cases cell formats with all | ⟨before, g, after, rfl, passed, decides⟩
    · rw [firstFor_eq_none all] at h
      exact absurd h (by simp)
    · rw [firstFor_decided passed decides] at h
      obtain ⟨recognized, found, eq⟩ := map_eq_ok_iff.mp h
      obtain rfl : g = f := Option.some.inj eq
      cases recognized with
      | true => exact ⟨before, after, rfl, passed, found⟩
      | false => exact absurd found decides
  · rintro ⟨before, after, rfl, passed, found⟩
    rw [firstFor_decided passed (by rw [found]; simp), found]
    rfl

theorem firstFor_eq_none_iff {cell : String} {formats : List Format} :
    firstFor cell formats = .ok none ↔ ∀ f ∈ formats, f.recognizes cell = .ok false := by
  refine ⟨fun h => ?_, firstFor_eq_none⟩
  rcases firstFor_cases cell formats with all | ⟨before, g, after, rfl, passed, decides⟩
  · exact all
  · rw [firstFor_decided passed decides] at h
    obtain ⟨recognized, -, eq⟩ := map_eq_ok_iff.mp h
    exact absurd eq (by simp)

/-- A refusal comes from a format without a recognizer that the search reaches. -/
theorem firstFor_eq_error_iff {cell : String} {formats : List Format} {e : CastError} :
    firstFor cell formats = .error e ↔
      ∃ before f after, formats = before ++ f :: after
        ∧ (∀ b ∈ before, b.recognizes cell = .ok false)
        ∧ f.recognizer = .error e := by
  constructor
  · intro h
    rcases firstFor_cases cell formats with all | ⟨before, g, after, rfl, passed, decides⟩
    · rw [firstFor_eq_none all] at h
      exact absurd h (by simp)
    · rw [firstFor_decided passed decides] at h
      exact ⟨before, g, after, rfl, passed, recognizes_eq_error_iff.mp (map_eq_error_iff.mp h)⟩
  · rintro ⟨before, f, after, rfl, passed, refused⟩
    have found : f.recognizes cell = .error e := recognizes_eq_error_iff.mpr refused
    rw [firstFor_decided passed (by rw [found]; simp), found]
    rfl

/-- Where every format has a recognizer, the search never fails. -/
theorem firstFor_ne_error {cell : String} {formats : List Format}
    (built : ∀ f ∈ formats, f.recognizer.isOk = true) (e : CastError) :
    firstFor cell formats ≠ .error e := by
  intro h
  obtain ⟨before, f, after, rfl, -, refused⟩ := firstFor_eq_error_iff.mp h
  have ok := built f (by simp)
  rw [refused] at ok
  exact absurd ok (by simp [Except.isOk, Except.toBool])

/-- The place of the first format that recognizes the cell, if any does. -/
def FirstAt (cell : String) (formats : List Format) : Option Nat → Prop
  | none => ∀ f ∈ formats, f.recognizes cell = .ok false
  | some index => ∃ before f after, formats = before ++ f :: after ∧ before.length = index
    ∧ (∀ b ∈ before, b.recognizes cell = .ok false) ∧ f.recognizes cell = .ok true

/-- A search that does not fail comes to a place. -/
theorem exists_firstAt {cell : String} {formats : List Format} {decided : Option Format}
    (found : firstFor cell formats = .ok decided) :
    ∃ index, FirstAt cell formats index ∧ decided = index.bind (formats[·]?) := by
  cases decided with
  | none => exact ⟨none, firstFor_eq_none_iff.mp found, rfl⟩
  | some f =>
      obtain ⟨before, after, rfl, passed, recognized⟩ := firstFor_eq_some_iff.mp found
      exact ⟨some before.length, ⟨before, f, after, rfl, rfl, passed, recognized⟩, by simp⟩

end ColumnCast.Format

namespace ColumnCast.Temporal

/-- The first format that recognizes the cell reads it, and no other. -/
theorem readFields_append_cons {cell : String} {before : List Format} {f : Format}
    (passed : ∀ b ∈ before, b.recognizes cell = .ok false)
    (found : f.recognizes cell = .ok true) (after : List Format) :
    readFields (before ++ f :: after) cell
      = .ok (Template.read? (Template.ofToken f.token) cell) := by
  have decides := Format.firstFor_eq_some_iff.mpr ⟨before, after, rfl, passed, found⟩
  unfold readFields
  rw [decides]
  rfl

theorem readFields_eq_error_iff {cell : String} {formats : List Format} {e : CastError} :
    readFields formats cell = .error e ↔ Format.firstFor cell formats = .error e :=
  map_eq_error_iff

theorem readFields_eq_ok_iff {cell : String} {formats : List Format} {fields : Option Fields} :
    readFields formats cell = .ok fields ↔ ∃ decided, Format.firstFor cell formats = .ok decided
      ∧ fields = decided.bind fun format =>
        Template.read? (Template.ofToken format.token) cell := by
  refine map_eq_ok_iff.trans (exists_congr fun decided => and_congr_right fun _ => ?_)
  exact eq_comm

/-! ### Cells that are read -/

variable {catalog : Catalog} {id cell : String}

theorem readDate_eq_ok_iff {date : Option Date} :
    readDate catalog id cell = .ok date ↔
      ∃ formats fields, catalog.dateFormats id = .ok formats
        ∧ readFields formats cell = .ok fields ∧ fields.bind Fields.date? = date := by
  unfold readDate
  simp only [bind_eq_ok_iff, pure, Except.pure, Except.ok.injEq, exists_and_left]

theorem readDateTime_eq_ok_iff {moment : Option DateTime} :
    readDateTime catalog id cell = .ok moment ↔
      ∃ formats fields, catalog.dateTimeFormats id = .ok formats
        ∧ readFields formats cell = .ok fields ∧ fields.bind Fields.dateTime? = moment := by
  unfold readDateTime
  simp only [bind_eq_ok_iff, pure, Except.pure, Except.ok.injEq, exists_and_left]

theorem readTime_eq_ok_iff {time : Option TimeOfDay} :
    readTime catalog cell = .ok time ↔
      ∃ fields, readFields catalog.times cell = .ok fields ∧ fields.bind Fields.time? = time := by
  unfold readTime
  simp only [bind_eq_ok_iff, pure, Except.pure, Except.ok.injEq]

end ColumnCast.Temporal
