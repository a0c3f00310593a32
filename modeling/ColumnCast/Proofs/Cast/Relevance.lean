import ColumnCast.Catalog.Builtin
import ColumnCast.Proofs.Cast.Refusal

/-!
# `ColumnCast.Proofs.Cast.Relevance`: what a request depends on

A request has a field for every type, and a type reads few of them: a
limit for texts and ratings, the identifier of the formats for dates, the
options for selections. Of a catalog it reads the formats of that one
identifier and the formats of times. `SameInputs` says that two requests,
each with its catalog, have in common what their type reads.

Then nothing else matters. `sameAnswers_of_sameInputs` compares the two
runs: the requests compile to the same expression, every cell has the same
value under both, and where one is refused the other is, by the same
error. The one thing that may differ is the list of known identifiers that
an unknown one is answered with, for it names the whole catalog
(`SameAnswer`).
-/

set_option autoImplicit false

namespace ColumnCast

/-! ### Answers up to the identifiers they list -/

/-- An error without the identifiers that it lists as known. -/
def CastError.unlisted : CastError → CastError
  | .unknownDateFormat id _ => .unknownDateFormat id []
  | e => e

/-- Two answers are the same: one value, or one error up to the identifiers it lists. -/
inductive SameAnswer {α : Type} : Except CastError α → Except CastError α → Prop
  | value (a : α) : SameAnswer (.ok a) (.ok a)
  | refusal {e e' : CastError} (same : e.unlisted = e'.unlisted) : SameAnswer (.error e) (.error e')

namespace SameAnswer

variable {α β : Type}

theorem refl (answer : Except CastError α) : SameAnswer answer answer := by
  cases answer with
  | ok a => exact value a
  | error e => exact refusal rfl

/-- What follows a step may use its value, but learns nothing of its error. -/
theorem bind {answer answer' : Except CastError α} {next next' : α → Except CastError β}
    (first : SameAnswer answer answer') (rest : ∀ a, SameAnswer (next a) (next' a)) :
    SameAnswer (answer >>= next) (answer' >>= next') := by
  cases first with
  | value a => exact rest a
  | refusal same => exact refusal same

theorem map {answer answer' : Except CastError α} (f : α → β)
    (answers : SameAnswer answer answer') : SameAnswer (answer.map f) (answer'.map f) := by
  cases answers with
  | value a => exact value (f a)
  | refusal same => exact refusal same

end SameAnswer

/-! ### The formats of one identifier -/

namespace Catalog

variable {catalog catalog' : Catalog} {id : String}

theorem dateFormats_sameAnswer (dates : catalog.dates.lookup id = catalog'.dates.lookup id) :
    SameAnswer (catalog.dateFormats id) (catalog'.dateFormats id) := by
  unfold dateFormats
  rw [← dates]
  cases catalog.dates.lookup id with
  | some formats => exact .value formats
  | none => exact .refusal rfl

theorem dateTimeFormats_sameAnswer (dates : catalog.dates.lookup id = catalog'.dates.lookup id)
    (times : catalog.times = catalog'.times) :
    SameAnswer (catalog.dateTimeFormats id) (catalog'.dateTimeFormats id) := by
  unfold dateTimeFormats
  rw [← times]
  exact (dateFormats_sameAnswer dates).map _

end Catalog

namespace CastRequest

/-! ### The limits -/

/-- Both limits that are meant where none is given are allowed, by every type. -/
theorem allowsLimit_default (type : SemanticType) :
    allowsLimit type defaultTextLimit = true ∧ allowsLimit type defaultRatingLimit = true := by
  cases type <;> decide

/-- The check is one of the limit that is meant, for a limit by default passes. -/
theorem checkLimit_eq (request : CastRequest) {byDefault : UInt32}
    (allowed : allowsLimit request.type byDefault = true) :
    request.checkLimit =
      if allowsLimit request.type (request.limit.getD byDefault) then .ok ()
      else .error (.invalidLimit request.type (request.limit.getD byDefault)) := by
  unfold checkLimit
  cases request.limit with
  | none =>
      show Except.ok () = if allowsLimit request.type byDefault then _ else _
      rw [if_pos allowed]
  | some limit => rfl

/-- A type that is neither a text nor a rating allows every limit. -/
theorem checkLimit_eq_ok {request : CastRequest} (text : request.type.category ≠ .text)
    (rating : request.type ≠ .rating) : request.checkLimit = .ok () := by
  have allowed (limit : UInt32) : allowsLimit request.type limit = true := by
    unfold allowsLimit
    rw [if_neg rating, if_neg text]
  rw [request.checkLimit_eq (allowed defaultTextLimit), if_pos (allowed _)]

/-! ### Two requests -/

/-- Two requests, each with its catalog, have in common what their type reads: the type itself,
the source, and the fields and formats that are listed with the types they are for. A limit or
an identifier that is left out counts as the one by default. -/
structure SameInputs (catalog catalog' : Catalog) (request request' : CastRequest) : Prop where
  type : request.type = request'.type
  source : request.source = request'.source
  textLimit : request.type.category = .text → request.textLimit = request'.textLimit
  ratingLimit : request.type = .rating → request.ratingLimit = request'.ratingLimit
  dateFormatId : namesFormats request.type → request.dateFormatId = request'.dateFormatId
  dates : namesFormats request.type →
    catalog.dates.lookup request.dateFormatId = catalog'.dates.lookup request.dateFormatId
  times : request.type ∈ [.dateTime, .time, .duration] → catalog.times = catalog'.times
  options : request.type ∈ [.singleSelect, .multiSelect] → request.options = request'.options

namespace SameInputs

variable {catalog catalog' : Catalog} {request request' : CastRequest}

/-- A limit that the type does not read cannot be refused either. -/
theorem checkLimit_eq (inputs : SameInputs catalog catalog' request request') :
    request.checkLimit = request'.checkLimit := by
  -- Only the limits that are meant are equal, so both checks are put in terms of these.
  have ⟨text, rating⟩ := allowsLimit_default request.type
  have ⟨text', rating'⟩ := allowsLimit_default request'.type
  by_cases isText : request.type.category = .text
  · have limit := inputs.textLimit isText
    unfold CastRequest.textLimit at limit
    rw [request.checkLimit_eq text, request'.checkLimit_eq text', limit, inputs.type]
  · by_cases isRating : request.type = .rating
    · have limit := inputs.ratingLimit isRating
      unfold CastRequest.ratingLimit at limit
      rw [request.checkLimit_eq rating, request'.checkLimit_eq rating', limit, inputs.type]
    · rw [checkLimit_eq_ok isText isRating,
        checkLimit_eq_ok (inputs.type ▸ isText) (inputs.type ▸ isRating)]

/-- The formats of the identifier, for a date or a date with a time. -/
theorem dateFormats (inputs : SameInputs catalog catalog' request request')
    (named : namesFormats request.type) :
    SameAnswer (catalog.dateFormats request.dateFormatId)
      (catalog'.dateFormats request'.dateFormatId) := by
  rw [← inputs.dateFormatId named]
  exact Catalog.dateFormats_sameAnswer (inputs.dates named)

/-- The combined formats of the identifier, for a date with a time. -/
theorem dateTimeFormats (inputs : SameInputs catalog catalog' request request')
    (kind : request.type = .dateTime) :
    SameAnswer (catalog.dateTimeFormats request.dateFormatId)
      (catalog'.dateTimeFormats request'.dateFormatId) := by
  have named : namesFormats request.type := Or.inr kind
  rw [← inputs.dateFormatId named]
  exact Catalog.dateTimeFormats_sameAnswer (inputs.dates named)
    (inputs.times (by rw [kind]; decide))

theorem bestRating (inputs : SameInputs catalog catalog' request request')
    (kind : request.type = .rating) : request.bestRating = request'.bestRating := by
  unfold CastRequest.bestRating
  rw [inputs.ratingLimit kind]

theorem compile (inputs : SameInputs catalog catalog' request request') :
    SameAnswer (request.compile catalog) (request'.compile catalog') := by
  unfold CastRequest.compile
  rw [← inputs.checkLimit_eq, ← inputs.type, ← inputs.source]
  refine (SameAnswer.refl request.checkLimit).bind fun _ => ?_
  -- Each type needs the one fact about the field it reads; the other types read none.
  cases kind : request.type
  case longText | singleLineText | email | phoneNumber | url =>
    rw [inputs.textLimit (by rw [kind]; rfl)]
    exact .refl _
  case rating =>
    rw [inputs.bestRating kind]
    exact .refl _
  case date => exact (inputs.dateFormats (Or.inl kind)).map _
  case dateTime => exact (inputs.dateTimeFormats kind).map _
  case time | duration =>
    have times := inputs.times (by rw [kind]; decide)
    simp only [Temporal.castTime, Temporal.castDuration, times]
    exact .refl _
  case singleSelect | multiSelect =>
    rw [inputs.options (by rw [kind]; decide)]
    exact .refl _
  all_goals exact .refl _

theorem coerce (inputs : SameInputs catalog catalog' request request') (cell : String) :
    SameAnswer (request.coerce catalog cell) (request'.coerce catalog' cell) := by
  unfold CastRequest.coerce
  rw [← inputs.checkLimit_eq, ← inputs.type]
  refine (SameAnswer.refl request.checkLimit).bind fun _ => ?_
  cases kind : request.type
  case longText | singleLineText | email | phoneNumber | url =>
    rw [inputs.textLimit (by rw [kind]; rfl)]
    exact .refl _
  case rating =>
    rw [inputs.bestRating kind]
    exact .refl _
  case date =>
    -- The catalog is asked for the formats alone; the cell is read by these.
    have read := (inputs.dateFormats (Or.inl kind)).bind fun formats =>
      SameAnswer.refl (do return (← Temporal.readFields formats cell).bind Fields.date?)
    exact read.bind fun day => .refl _
  case dateTime =>
    have read := (inputs.dateTimeFormats kind).bind fun formats =>
      SameAnswer.refl (do return (← Temporal.readFields formats cell).bind Fields.dateTime?)
    exact read.bind fun moment => .refl _
  case time | duration =>
    have times := inputs.times (by rw [kind]; decide)
    simp only [Temporal.readDuration, Temporal.readTime, times]
    exact .refl _
  case singleSelect | multiSelect =>
    rw [inputs.options (by rw [kind]; decide)]
    exact .refl _
  all_goals exact .refl _

end SameInputs

/-- **Fields that a type does not use have no effect**: requests that have in common what their
type reads compile to the same expression, give every cell the same value, and are refused by
the same errors, whatever else they and their catalogs hold. -/
theorem sameAnswers_of_sameInputs {catalog catalog' : Catalog} {request request' : CastRequest}
    (inputs : SameInputs catalog catalog' request request') :
    SameAnswer (request.compile catalog) (request'.compile catalog')
      ∧ ∀ cell, SameAnswer (request.coerce catalog cell) (request'.coerce catalog' cell) :=
  ⟨inputs.compile, inputs.coerce⟩

/-- A date reads neither a limit nor options, so both requests are refused for the identifier
alone, and each refusal lists what its catalog knows. -/
theorem sameAnswers_of_unknownFormat :
    let request : CastRequest :=
      { type := .date, source := "c", limit := some 0, dateFormat := some "week",
        options := ["a"] }
    let request' : CastRequest := { type := .date, source := "c", dateFormat := some "week" }
    (SameAnswer (request.compile clashingCatalog) (request'.compile Catalog.builtin)
      ∧ ∀ cell, SameAnswer (request.coerce clashingCatalog cell)
        (request'.coerce Catalog.builtin cell))
      ∧ request.compile clashingCatalog = .error (.unknownDateFormat "week" ["d"])
      ∧ request'.compile Catalog.builtin
        = .error (.unknownDateFormat "week" ["dmy", "mdy", "ymd"]) := by
  intro request request'
  have inputs : SameInputs clashingCatalog Catalog.builtin request request' := by
    constructor
    case type | source => rfl
    case dateFormatId | dates => exact fun _ => rfl
    all_goals
      intro other
      exact absurd other (by decide)
  exact ⟨sameAnswers_of_sameInputs inputs, rfl, rfl⟩

end CastRequest

end ColumnCast
