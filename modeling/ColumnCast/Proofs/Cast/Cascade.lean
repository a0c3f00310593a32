import ColumnCast.Cast
import ColumnCast.Proofs.Cast.Refusal
import ColumnCast.Proofs.Sql.Locality
import ColumnCast.Proofs.Sql.Parts

/-!
# `ColumnCast.Proofs.Cast.Cascade`: one format decides, in both places

A date, a time or both are read by the first format that recognizes the
cell. In the database this is a cascade with an arm for each format, here
it is a search. `Commits` says that both stop at the same place: the arm
whose condition is the first true one stands where the first format that
recognizes the cell stands, and the value is what the token of that format
reads, or none if it does not fit. Arms behind it have no say, whatever
they are; some of them may even have a pattern that is no expression.

The formats of a date with a time are all pairs, so there the place is
the least pair in lexicographic order (`LeastPair`).
-/

set_option autoImplicit false

namespace ColumnCast

namespace CastRequest

/-- Is the type one whose cells are dates, times or both? -/
def isMoment (type : SemanticType) : Prop := type = .date ∨ type = .dateTime ∨ type = .time

/-- The formats that the cells of a column are read by. -/
def formats (catalog : Catalog) (request : CastRequest) : Except CastError (List Format) :=
  match request.type with
  | .date => catalog.dateFormats request.dateFormatId
  | .dateTime => catalog.dateTimeFormats request.dateFormatId
  | .time => .ok catalog.times
  | _ => .ok []

end CastRequest

namespace Temporal

open Sql (Term Datum Columns evaluate)

/-- What a token reads of a cell that is to be of a type. -/
def readAs (type : SemanticType) (token cell : String) : Option Value :=
  let fields := Template.read? (Template.ofToken token) cell
  match type with
  | .date => (fields.bind Fields.date?).map .date
  | .dateTime => (fields.bind Fields.dateTime?).map .dateTime
  | .time => (fields.bind Fields.time?).map .time
  | _ => none

/-- The expression of the value in the layout of a token. -/
def valueExpr (type : SemanticType) (source : Sql.Expr) (token : String) : Sql.Expr :=
  match type with
  | .date => .toDate source token
  | .dateTime => .toTimestamp source token
  | _ => timeOf source token

/-- The term of the value in the layout of a token. -/
def valueTerm (type : SemanticType) (t : Term) (token : String) : Term :=
  match type with
  | .date => .call .toDate [t, .text token]
  | .dateTime => .call .toTimestamp [t, .text token]
  | _ => .cast (.call .toTimestamp [t, .text token]) .time

/-- The arm of a format. -/
def armTerm (type : SemanticType) (t : Term) (format : Format) : Term × Term :=
  (.like t (.text (Sql.anchor format.pattern)), valueTerm type t format.token)

section Arms

variable {type : SemanticType} {source : Sql.Expr} {t : Term} {columns : Columns} {cell : String}

theorem writesOperand_valueExpr (h : Sql.WritesOperand source.render t) (token : String) :
    Sql.WritesOperand (valueExpr type source token).render (valueTerm type t token) := by
  unfold valueExpr valueTerm
  split
  · exact Sql.writesOperand_toDate h.value token
  · exact Sql.writesOperand_toTimestamp h.value token
  · exact Sql.writesOperand_cast (Sql.writesOperand_toTimestamp h.value token).value .time

/-- The cascade is read as one arm for each format. -/
theorem writesOperand_arms (type : SemanticType) (h : Sql.WritesOperand source.render t) {formats : List Format}
    (inhabited : formats ≠ []) :
    Sql.WritesOperand (Sql.Expr.cascade (arms source (valueExpr type source) formats)).render
      (.case (formats.map (armTerm type t)) .null) := by
  unfold arms
  exact Sql.writesOperand_cascade _ (armTerm type t) inhabited fun format _ =>
    ⟨Sql.writesValue_recognized h format.pattern,
      (writesOperand_valueExpr h format.token).value⟩

/-- The condition of an arm is what the format says of the cell. -/
theorem evaluate_condition (raw : evaluate t columns = some (.text cell)) {format : Format}
    {recognized : Bool} (known : format.recognizes cell = .ok recognized) :
    evaluate (armTerm type t format).1 columns = some (.truth recognized) := by
  obtain ⟨nested, read, rfl⟩ := Format.exists_isMatch_of_recognizes known
  exact Sql.evaluate_like read raw

/-- A template reads the same in both places. -/
theorem readBy_eq {α : Type} (value? : Fields → Option α) {value : α → Value} {datum : α → Datum}
    (same : ∀ a, Datum.ofCell? (some (value a)) = some (datum a)) (token cell : String) :
    ∃ d, Datum.ofCell?
          (((Template.read? (Template.ofToken token) cell).bind value?).map value) = some d
      ∧ Datum.readBy (fun fields => (value? fields).map datum) [.text cell, .text token]
        = some d := by
  rw [Datum.readBy]
  cases Template.read? (Template.ofToken token) cell with
  | none => exact ⟨.null, rfl, rfl⟩
  | some fields =>
      simp only [Option.bind_some]
      cases value? fields with
      | none => exact ⟨.null, rfl, rfl⟩
      | some a => exact ⟨datum a, same a, rfl⟩

/-- The result of an arm is what its token reads. -/
theorem evaluate_valueTerm (kind : CastRequest.isMoment type)
    (raw : evaluate t columns = some (.text cell)) (token : String) :
    ∃ datum, Datum.ofCell? (readAs type token cell) = some datum
      ∧ evaluate (valueTerm type t token) columns = some datum := by
  have arguments : Sql.evaluateAll [t, .text token] columns
      = some [.text cell, .text token] := by
    rw [Sql.evaluateAll, raw, Sql.evaluateAll, Sql.evaluate_text, Sql.evaluateAll]
    rfl
  rcases kind with rfl | rfl | rfl
  · unfold valueTerm
    rw [evaluate, arguments]
    exact readBy_eq Fields.date? (fun _ => rfl) token cell
  · unfold valueTerm
    rw [evaluate, arguments]
    exact readBy_eq Fields.dateTime? (fun _ => rfl) token cell
  · unfold valueTerm
    rw [evaluate, arguments]
    exact readBy_eq Fields.time? (fun _ => rfl) token cell

/-- Both stop at the same place, and what is read there is the value. -/
theorem evaluate_arms (kind : CastRequest.isMoment type)
    (raw : evaluate t columns = some (.text cell)) {formats : List Format} {index : Option Nat}
    (first : Format.FirstAt cell formats index) :
    Sql.firstTrue? (formats.map (armTerm type t)) columns = some index
      ∧ ∃ datum, Datum.ofCell? ((index.bind (formats[·]?)).bind fun format =>
          readAs type format.token cell) = some datum
        ∧ evaluate (.case (formats.map (armTerm type t)) .null) columns = some datum
        ∧ ∀ i, index = some i → ∀ more last,
          evaluate (.case ((formats.map (armTerm type t)).take (i + 1) ++ more) last) columns
            = some datum := by
  have passes : ∀ {before : List Format}, (∀ b ∈ before, b.recognizes cell = .ok false) →
      ∀ arm ∈ before.map (armTerm type t), Sql.Passes columns arm := by
    intro before passed arm mem
    obtain ⟨format, inside, rfl⟩ := List.mem_map.mp mem
    exact ⟨_, evaluate_condition raw (passed format inside), by simp⟩
  cases index with
  | none =>
      obtain ⟨value, place⟩ := Sql.evaluate_case_of_passes (passes first) .null
      rw [Sql.evaluate_null] at value
      exact ⟨place, .null, rfl, value, fun i eq => absurd eq (by simp)⟩
  | some i =>
      obtain ⟨before, format, after, rfl, rfl, passed, recognized⟩ := first
      have holds : evaluate (armTerm type t format).1 columns = some (.truth true) :=
        evaluate_condition raw recognized
      have decides (more : List (Term × Term)) (last : Term) :=
        Sql.evaluate_case (passes passed) holds more last
      obtain ⟨datum, here, there⟩ := evaluate_valueTerm kind raw format.token
      rw [List.map_append, List.map_cons]
      obtain ⟨value, place⟩ := decides (after.map (armTerm type t)) .null
      rw [List.length_map] at place
      refine ⟨place, datum, by simpa using here, value.trans there, ?_⟩
      rintro _ ⟨⟩ more last
      -- What stands behind the arm that decides is not looked at, and so may be anything.
      have stop : ((before.map (armTerm type t) ++ armTerm type t format
            :: after.map (armTerm type t)).take (before.length + 1) ++ more)
          = before.map (armTerm type t) ++ armTerm type t format :: more := by
        simp [List.take_append, List.take_of_length_le]
      rw [stop]
      exact (decides more last).1.trans there

end Arms

end Temporal

namespace CastRequest

variable {catalog : Catalog} {request : CastRequest} {cell : String} {value : Option Value}

/-- What is read of a cell: what the token of the first format makes of it. -/
theorem exists_formats_of_coerce (kind : isMoment request.type)
    (coerced : request.coerce catalog cell = .ok value) :
    request.checkLimit = .ok ()
      ∧ ∃ formats decided, request.formats catalog = .ok formats
        ∧ Format.firstFor cell formats = .ok decided
        ∧ value = decided.bind fun format => Temporal.readAs request.type format.token cell := by
  unfold coerce at coerced
  obtain ⟨⟨⟩, limit, coerced⟩ := bind_eq_ok_iff.mp coerced
  refine ⟨limit, ?_⟩
  unfold CastRequest.formats
  -- The three types differ in where their formats come from.
  rcases kind with type | type | type
  · rw [type] at coerced ⊢
    obtain ⟨day, read, eq⟩ := bind_eq_ok_iff.mp coerced
    obtain ⟨formats, fields, known, fieldsRead, rfl⟩ := Temporal.readDate_eq_ok_iff.mp read
    obtain ⟨decided, found, rfl⟩ := Temporal.readFields_eq_ok_iff.mp fieldsRead
    obtain rfl := Except.ok.inj eq
    refine ⟨formats, decided, known, found, ?_⟩
    cases decided <;> rfl
  · rw [type] at coerced ⊢
    obtain ⟨moment, read, eq⟩ := bind_eq_ok_iff.mp coerced
    obtain ⟨formats, fields, known, fieldsRead, rfl⟩ := Temporal.readDateTime_eq_ok_iff.mp read
    obtain ⟨decided, found, rfl⟩ := Temporal.readFields_eq_ok_iff.mp fieldsRead
    obtain rfl := Except.ok.inj eq
    refine ⟨formats, decided, known, found, ?_⟩
    cases decided <;> rfl
  · rw [type] at coerced ⊢
    obtain ⟨clock, read, eq⟩ := bind_eq_ok_iff.mp coerced
    obtain ⟨fields, fieldsRead, rfl⟩ := Temporal.readTime_eq_ok_iff.mp read
    obtain ⟨decided, found, rfl⟩ := Temporal.readFields_eq_ok_iff.mp fieldsRead
    obtain rfl := Except.ok.inj eq
    refine ⟨catalog.times, decided, rfl, found, ?_⟩
    cases decided <;> rfl

/-- The expression is the cascade of the formats. -/
theorem compile_eq_cascade (kind : isMoment request.type)
    (limit : request.checkLimit = .ok ()) {formats : List Format}
    (known : request.formats catalog = .ok formats) :
    request.compile catalog = .ok (.cascade (Temporal.arms (.source request.source)
      (Temporal.valueExpr request.type (.source request.source)) formats)) := by
  unfold compile
  unfold CastRequest.formats at known
  rw [limit]
  rcases kind with type | type | type
  · rw [type] at known ⊢
    replace known : catalog.dateFormats request.dateFormatId = .ok formats := known
    show Temporal.castDate catalog request.dateFormatId _ = _
    rw [Temporal.castDate, known]
    rfl
  · rw [type] at known ⊢
    replace known : catalog.dateTimeFormats request.dateFormatId = .ok formats := known
    show Temporal.castDateTime catalog request.dateFormatId _ = _
    rw [Temporal.castDateTime, known]
    rfl
  · rw [type] at known ⊢
    obtain rfl := Except.ok.inj known
    rfl

theorem formats_ne_nil (kind : isMoment request.type)
    {formats : List Format} (known : request.formats catalog = .ok formats) : formats ≠ [] := by
  unfold CastRequest.formats at known
  rcases kind with type | type | type
  · rw [type] at known
    exact Catalog.dateFormats_ne_nil known
  · rw [type] at known
    obtain ⟨dates, found, rfl⟩ := Catalog.dateTimeFormats_eq_ok_iff.mp known
    obtain ⟨date, more, rfl⟩ := List.exists_cons_of_ne_nil (Catalog.dateFormats_ne_nil found)
    simp [catalog.times_ne_nil]
  · rw [type] at known
    obtain rfl := Except.ok.inj known
    exact catalog.times_ne_nil

end CastRequest

/-! ### Pairs of formats -/

namespace Format

variable {dates times : List Format}

/-- The combined formats stand in the lexicographic order of their pairs. -/
theorem getElem?_combine (dates : List Format) (i : Nat) {j : Nat} (small : j < times.length) :
    (dates.flatMap fun date => times.map (combine date))[i * times.length + j]?
      = dates[i]?.bind fun date => times[j]?.map (combine date) := by
  -- Each date takes as many places as there are times, and those of the others follow.
  induction dates generalizing i with
  | nil => rfl
  | cons date dates ih =>
      rw [List.flatMap_cons]
      cases i with
      | zero =>
          rw [Nat.zero_mul, Nat.zero_add, List.getElem?_append_left (by simpa using small)]
          simp
      | succ i =>
          have past : (times.map (combine date)).length ≤ (i + 1) * times.length + j := by
            rw [List.length_map, Nat.succ_mul]
            omega
          have rest : (i + 1) * times.length + j - (times.map (combine date)).length
              = i * times.length + j := by
            rw [List.length_map, Nat.succ_mul]
            omega
          rw [List.getElem?_append_right past, rest, ih i]
          simp

/-- The date format `i` with the time format `j` recognizes the cell, and no pair before it in
lexicographic order does. -/
def LeastPair (dates times : List Format) (cell : String) (i j : Nat) : Prop :=
  ∃ date time, dates[i]? = some date ∧ times[j]? = some time
    ∧ (combine date time).recognizes cell = .ok true
    ∧ ∀ i' j' date' time', (i' < i ∨ i' = i ∧ j' < j) → dates[i']? = some date' →
      times[j']? = some time' → (combine date' time').recognizes cell = .ok false

/-- Pairs in lexicographic order are in the order of their places. -/
theorem place_lt_place {n i j i' j' : Nat} (small : j' < n) (less : i' < i ∨ i' = i ∧ j' < j) :
    i' * n + j' < i * n + j := by
  rcases less with less | ⟨rfl, less⟩
  · have next : (i' + 1) * n ≤ i * n := Nat.mul_le_mul_right n less
    rw [Nat.succ_mul] at next
    omega
  · omega

/-- The first combined format that recognizes a cell is that of the least pair. -/
theorem leastPair_of_firstAt {cell : String} {k : Nat}
    (first : FirstAt cell (dates.flatMap fun date => times.map (combine date)) (some k)) :
    ∃ i j, k = i * times.length + j ∧ LeastPair dates times cell i j := by
  obtain ⟨before, f, after, all, rfl, passed, recognized⟩ := first
  have here : (dates.flatMap fun date => times.map (combine date))[before.length]? = some f := by
    rw [all]
    simp
  have inhabited : 0 < times.length := by
    by_contra empty
    obtain rfl : times = [] := List.length_eq_zero_iff.mp (by omega)
    have nothing : (dates.flatMap fun date => [].map (combine date)) = [] :=
      List.flatMap_eq_nil_iff.mpr fun _ _ => rfl
    rw [nothing] at here
    exact absurd here (by simp)
  -- The quotient counts the dates before it, and the remainder the times.
  have place : before.length
      = before.length / times.length * times.length + before.length % times.length :=
    (Nat.div_add_mod' _ _).symm
  have small : before.length % times.length < times.length := Nat.mod_lt _ inhabited
  refine ⟨before.length / times.length, before.length % times.length, place, ?_⟩
  rw [place, getElem?_combine dates _ small] at here
  obtain ⟨date, isDate, found⟩ := Option.bind_eq_some_iff.mp here
  obtain ⟨time, isTime, rfl⟩ := Option.map_eq_some_iff.mp found
  refine ⟨date, time, isDate, isTime, recognized, fun i j date' time' less isDate' isTime' => ?_⟩
  have small' : j < times.length := (List.getElem?_eq_some_iff.mp isTime').1
  -- A smaller pair has an earlier place, and was passed over there.
  have earlier : i * times.length + j < before.length := by
    rw [place]
    exact place_lt_place small' less
  have there := getElem?_combine dates i small'
  rw [all, List.getElem?_append_left earlier, isDate', isTime'] at there
  exact passed _ (List.mem_of_getElem? there)

end Format

namespace CastRequest

/-- The search and the cascade stop at the same place, and both come to the value. -/
structure Commits (catalog : Catalog) (request : CastRequest) (columns : Sql.Columns)
    (cell : String) (formats : List Format) (arms : List (Sql.Term × Sql.Term))
    (index : Option Nat) (value : Option Value) : Prop where
  /-- The search stops at the first format that recognizes the cell. -/
  search : Format.FirstAt cell formats index
  /-- The cascade has an arm for each format, and the one at that place is the first that is
  true. -/
  cascade : arms.length = formats.length ∧ Sql.firstTrue? arms columns = some index
  /-- The value is what the token at that place reads, or none if it does not fit. -/
  reads : value = (index.bind (formats[·]?)).bind fun format =>
    Temporal.readAs request.type format.token cell
  /-- The cascade is worth the value, whatever arms stand behind that place. -/
  worth : ∃ datum, Sql.Datum.ofCell? value = some datum
    ∧ Sql.evaluate (.case arms .null) columns = some datum
    ∧ ∀ i, index = some i → ∀ more last,
      Sql.evaluate (.case (arms.take (i + 1) ++ more) last) columns = some datum
  /-- The place of a date with a time is that of the least pair. -/
  pair : request.type = .dateTime → ∃ dates,
    catalog.dateFormats request.dateFormatId = .ok dates
      ∧ ∀ k, index = some k → ∃ i j, k = i * catalog.times.length + j
        ∧ Format.LeastPair dates catalog.times cell i j

/-- **The database and the preview commit to the same format** and give the same value, for
every catalog and every cell that is not refused. -/
theorem cascade_commits (catalog : Catalog) {request : CastRequest}
    (kind : isMoment request.type) {cell : String} {value : Option Value}
    (coerced : request.coerce catalog cell = .ok value) {columns : Sql.Columns} {t : Sql.Term}
    (source : Sql.readOperand? request.source = some t)
    (raw : Sql.evaluate t columns = some (.text cell)) :
    ∃ expr formats arms index, request.compile catalog = .ok expr
      ∧ Sql.read? expr.render = some (.case arms .null)
      ∧ request.formats catalog = .ok formats
      ∧ request.Commits catalog columns cell formats arms index value := by
  obtain ⟨limit, formats, decided, known, found, rfl⟩ := exists_formats_of_coerce kind coerced
  obtain ⟨index, first, rfl⟩ := Format.exists_firstAt found
  have writes := Temporal.writesOperand_arms request.type
    (Sql.writesOperand_iff.mpr source).source (formats_ne_nil kind known)
  obtain ⟨place, worth⟩ := Temporal.evaluate_arms kind raw first
  refine ⟨_, formats, formats.map (Temporal.armTerm request.type t), index,
    compile_eq_cascade kind limit known, writes.value.read?_eq, known, ?_⟩
  exact {
    search := first
    cascade := ⟨List.length_map _, place⟩
    reads := rfl
    worth := worth
    pair := fun type => by
      unfold CastRequest.formats at known
      rw [type] at known
      obtain ⟨dates, isDates, rfl⟩ := Catalog.dateTimeFormats_eq_ok_iff.mp known
      refine ⟨dates, isDates, fun k eq => ?_⟩
      subst eq
      exact Format.leastPair_of_firstAt first }

/-! ### Two date formats that recognize the same cells -/

/-- Days and months can be taken for each other, so the first date format decides. -/
def ambiguousCatalog : Catalog :=
  ⟨[("d", [⟨"DD/MM/YYYY", "[0-9/]+"⟩, ⟨"MM/DD/YYYY", "[0-9/]+"⟩])], [⟨"HH24:MI", "[0-9:]+"⟩],
    by decide +kernel⟩

def ambiguousRequest : CastRequest :=
  { type := .dateTime, source := Sql.quoteIdent "seen", dateFormat := some "d" }

/-- A cell with the month first has no value, though the second date format would fit. -/
theorem cascade_commits_ambiguous :
    ∃ expr formats arms index, ambiguousRequest.compile ambiguousCatalog = .ok expr
      ∧ Sql.read? expr.render = some (.case arms .null)
      ∧ ambiguousRequest.formats ambiguousCatalog = .ok formats
      ∧ ambiguousRequest.Commits ambiguousCatalog
        (fun path => if path = ["seen"] then some (.text "02/13/2024 9:05") else none)
        "02/13/2024 9:05" formats arms index none :=
  cascade_commits ambiguousCatalog (Or.inr (Or.inl rfl)) (by decide +kernel)
    (Sql.writesOperand_iff.mp (Sql.writesOperand_quoteIdent "seen"))
    (by rw [Sql.evaluate, if_pos rfl])

end CastRequest

end ColumnCast
