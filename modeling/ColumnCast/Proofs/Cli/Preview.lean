import ColumnCast.Proofs.Cli.Run

/-!
# `ColumnCast.Proofs.Cli.Preview`: previews and their rows

`spec_preview` says what a preview prints and when it fails, step by step
in the order of the steps: the plan and its catalog, a request for every
column, the encoding (`Prepared`), the bytes of the input, the texts of
the headers, the columns among them (`Opens`), and then row after row
(`Opened.shown`). `PreviewFails` has a case for each step, and a case
holds only if the steps before it succeed. Of the columns, and of the rows
and the cells in them, the first that fails decides what is said.
-/

set_option autoImplicit false

namespace ColumnCast.Cli

/-! ### Steps of a preview -/

/-- What a preview is asked for, beside the number of rows. -/
structure PreviewArguments where
  plan : String
  input : String
  delimiter : Option UInt8
  encoding : Option String
  catalog : Option String

namespace PreviewArguments

/-- The command that asks for so many rows. -/
def command (arguments : PreviewArguments) (rows : Nat) : Command :=
  .preview arguments.plan arguments.input rows arguments.delimiter arguments.encoding
    arguments.catalog

/-- The byte that parts the fields. -/
def separator (arguments : PreviewArguments) : UInt8 :=
  arguments.delimiter.getD (Csv.Delimiter.ofPath arguments.input)

end PreviewArguments

/-- An input consists of these bytes. -/
def HasInput (host : Host Id) (input : String) (bytes : List UInt8) : Prop :=
  if Path.isDash input then host.input = bytes else host.read input = .ok bytes

/-- Why an input has no bytes. -/
inductive NoInput (host : Host Id) (input : String) : String → Prop
  | opening {fault : FileFault} (named : Path.isDash input = false)
      (refused : host.read input = .error fault) (unopened : fault ≠ .isDirectory) :
      NoInput host input (within ("Opening input file " ++ Text.shownPath input) fault.message)
  | reading (named : Path.isDash input = false)
      (refused : host.read input = .error .isDirectory) :
      NoInput host input FileFault.isDirectory.message

theorem spec_readInput (host : Host Id) (input : String) :
    (readInput host input).Spec (HasInput host input) (NoInput host input) := by
  unfold readInput HasInput
  cases named : Path.isDash input with
  | true =>
      refine (Run.Spec.lift host.input).congr (fun bytes => eq_comm) fun message => ?_
      refine iff_of_false id ?_
      -- Standard input is never refused.
      rintro (⟨named', -, -⟩ | ⟨named', -⟩) <;> exact absurd (named.symm.trans named') (by simp)
  | false =>
      refine ((Run.Spec.lift (host.read input)).bind fun result _ =>
        Run.Spec.orFail _ result).congr (fun bytes => exists_eq_left) fun message => ?_
      simp only [false_or, exists_eq_left]
      constructor
      · rintro ⟨fault, refused, rfl⟩
        cases fault with
        | isDirectory => exact .reading named refused
        | _ => exact .opening named refused (by simp)
      · rintro (⟨-, refused, unopened⟩ | ⟨-, refused⟩)
        · refine ⟨_, refused, ?_⟩
          split
          · exact absurd rfl unopened
          · rfl
        · exact ⟨_, refused, rfl⟩

theorem readInput_eq {host : Host Id} {input : String} {bytes : List UInt8} (has : HasInput host input bytes) :
    readInput host input = pure bytes := by
  unfold HasInput at has
  unfold readInput
  split at has
  · next dash =>
    rw [if_pos dash]
    show (pure host.input : Run Id _) = pure bytes
    rw [has]
  · next named =>
    rw [if_neg named]
    show (pure (host.read input) >>= fun result => _) = (_ : Run Id _)
    rw [pure_bind, has]
    rfl

/-! ### Fields as texts -/

/-- Some field is no text in the encoding. -/
def Undecodable (encoding : Encoding) (fields : List Csv.Field) : Prop :=
  ∃ field ∈ fields, encoding.decode? field = none

/-- What is said of fields that are no texts. -/
def undecodableMessage (encoding : Encoding) : String :=
  "Failed to decode text with encoding " ++ encoding.name

variable {encoding : Encoding} {fields : List Csv.Field}

theorem decodeFields_eq_error_iff {message : String} :
    decodeFields encoding fields = .error message
      ↔ Undecodable encoding fields ∧ message = undecodableMessage encoding := by
  unfold decodeFields Undecodable
  rw [← option_mapM_eq_none_iff]
  cases fields.mapM encoding.decode? with
  | none => exact ⟨fun same => ⟨rfl, (Except.error.inj same).symm⟩, fun ⟨_, same⟩ => same ▸ rfl⟩
  | some texts => simp

theorem length_of_decodeFields {texts : List String}
    (decoded : decodeFields encoding fields = .ok texts) : texts.length = fields.length := by
  unfold decodeFields at decoded
  split at decoded
  · rename_i all
    obtain rfl := Except.ok.inj decoded
    exact length_of_option_mapM all
  · exact absurd decoded (by simp)

/-! ### Columns -/

/-- A column of a plan has no request. -/
def NoRequest (plan : Plan) (column : ColumnPlan) (message : String) : Prop :=
  ∃ cause, column.request plan.dateFormat = .error cause
    ∧ message = "Column '" ++ column.name ++ "': " ++ cause.message

theorem requests_eq_error_iff {plan : Plan} {message : String} :
    (∃ e, plan.requests = .error e ∧ message = e.message)
      ↔ FirstFailure (NoRequest plan) plan.columns message := by
  simp only [Plan.requests, mapM_eq_error_iff]
  rw [FirstFailure.wording_iff]
  refine FirstFailure.congr fun column _ other => ?_
  simp only [mapError_eq_error_iff]
  constructor
  · rintro ⟨_, ⟨cause, refused, rfl⟩, rfl⟩
    exact ⟨cause, refused, rfl⟩
  · rintro ⟨cause, refused, rfl⟩
    exact ⟨_, ⟨cause, refused, rfl⟩, rfl⟩

/-- A column of a plan is not among the headers of an input. -/
def NotFound (input : String) (headers : List String) (column : ColumnPlan)
    (message : String) : Prop :=
  column.name ∉ headers
    ∧ message = "Column '" ++ column.name ++ "' not found in " ++ Text.shownPath input

theorem positions_eq_error_iff {input : String} {headers : List String}
    {columns : List ColumnPlan} {message : String} :
    positions input headers columns = .error message
      ↔ FirstFailure (NotFound input headers) columns message := by
  unfold positions
  rw [mapM_eq_error_iff]
  refine FirstFailure.congr fun column _ other => ?_
  cases found : headers.idxOf? column.name with
  | none =>
      have missing := List.idxOf?_eq_none_iff.mp found
      exact ⟨fun same => ⟨missing, (Except.error.inj same).symm⟩, fun ⟨_, same⟩ => same ▸ rfl⟩
  | some position =>
      have present : column.name ∈ headers := by
        rw [← List.isSome_idxOf?, found]
        rfl
      exact iff_of_false (by simp) fun ⟨missing, _⟩ => missing present

/-! ### Up to the input -/

theorem chooseEncoding_eq_error_iff {label : Option String} {message : String} :
    chooseEncoding label = .error message ↔ ∃ name, label = some name
      ∧ Encoding.ofLabel? name = none ∧ message = "Unknown encoding '" ++ name ++ "'" := by
  cases label with
  | none => simp [chooseEncoding]
  | some name =>
      unfold chooseEncoding
      constructor
      · intro refused
        cases found : Encoding.ofLabel? name with
        | none =>
            simp only [found] at refused
            exact ⟨name, rfl, found, (Except.error.inj refused).symm⟩
        | some encoding =>
            simp only [found] at refused
            exact absurd refused (by simp)
      · rintro ⟨_, same, unknown, rfl⟩
        obtain rfl := Option.some.inj same
        simp only [unknown]

/-- The steps of a preview that need no input succeed. -/
structure Prepared (host : Host Id) (a : PreviewArguments) (plan : Plan) (catalog : Catalog)
    (requests : List CastRequest) (encoding : Encoding) : Prop where
  configured : Configured host a.plan a.catalog plan catalog
  requested : plan.requests = .ok requests
  encoded : chooseEncoding a.encoding = .ok encoding

/-- One of these steps fails: the plan or the catalog, the request of a column, the label of the
encoding. -/
inductive Unprepared (host : Host Id) (a : PreviewArguments) : String → Prop
  | configuration {message : String} (failed : Unconfigured host a.plan a.catalog message) :
      Unprepared host a message
  | request {plan : Plan} {catalog : Catalog} {message : String}
      (configured : Configured host a.plan a.catalog plan catalog)
      (failed : FirstFailure (NoRequest plan) plan.columns message) : Unprepared host a message
  | encoding {plan : Plan} {catalog : Catalog} {requests : List CastRequest} {label : String}
      (configured : Configured host a.plan a.catalog plan catalog)
      (requested : plan.requests = .ok requests) (named : a.encoding = some label)
      (unknown : Encoding.ofLabel? label = none) :
      Unprepared host a ("Unknown encoding '" ++ label ++ "'")

theorem spec_prepared {α : Type} {host : Host Id} {a : PreviewArguments}
    {next : Plan → Catalog → List CastRequest → Encoding → Run Id α}
    {gives : Plan → Catalog → List CastRequest → Encoding → α → Prop}
    {fails : Plan → Catalog → List CastRequest → Encoding → String → Prop}
    (rest : ∀ plan catalog requests encoding, (next plan catalog requests encoding).Spec
      (gives plan catalog requests encoding) (fails plan catalog requests encoding)) :
    Run.Spec (do
        let plan ← loadPlan host a.plan
        let catalog ← chooseCatalog host a.catalog a.plan plan
        let requests ← orFail PlanError.message plan.requests
        let encoding ← orFail id (chooseEncoding a.encoding)
        next plan catalog requests encoding)
      (fun b => ∃ plan catalog requests encoding, Prepared host a plan catalog requests encoding
        ∧ gives plan catalog requests encoding b)
      (fun message => Unprepared host a message
        ∨ ∃ plan catalog requests encoding, Prepared host a plan catalog requests encoding
          ∧ fails plan catalog requests encoding message) := by
  refine (spec_configured fun plan catalog =>
    (Run.Spec.orFail PlanError.message plan.requests).bind fun requests _ =>
    (Run.Spec.orFail id (chooseEncoding a.encoding)).bind fun encoding _ =>
      rest plan catalog requests encoding).congr (fun b => ?_) fun message => ?_
  -- The steps are specified one inside the other, so a failure of one comes with the results of
  -- all before it. What is left is to give these cases the names of `Unprepared`.
  · constructor
    · rintro ⟨plan, catalog, configured, requests, requested, encoding, encoded, result⟩
      exact ⟨plan, catalog, requests, encoding, ⟨configured, requested, encoded⟩, result⟩
    · rintro ⟨plan, catalog, requests, encoding, ⟨configured, requested, encoded⟩, result⟩
      exact ⟨plan, catalog, configured, requests, requested, encoding, encoded, result⟩
  · constructor
    · rintro (failed | ⟨plan, catalog, configured, refused | ⟨requests, requested,
        ⟨_, unknown, rfl⟩ | ⟨encoding, encoded, failed⟩⟩⟩)
      · exact Or.inl (.configuration failed)
      · exact Or.inl (.request configured (requests_eq_error_iff.mp refused))
      · obtain ⟨label, named, none, said⟩ := chooseEncoding_eq_error_iff.mp unknown
        exact Or.inl (said ▸ .encoding configured requested named none)
      · exact Or.inr ⟨plan, catalog, requests, encoding, ⟨configured, requested, encoded⟩, failed⟩
    · rintro ((failed | ⟨configured, refused⟩ | ⟨configured, requested, named, unknown⟩) |
        ⟨plan, catalog, requests, encoding, ⟨configured, requested, encoded⟩, failed⟩)
      · exact Or.inl failed
      · exact Or.inr ⟨_, _, configured, Or.inl (requests_eq_error_iff.mpr refused)⟩
      · exact Or.inr ⟨_, _, configured, Or.inr ⟨_, requested, Or.inl
          ⟨_, chooseEncoding_eq_error_iff.mpr ⟨_, named, unknown, rfl⟩, rfl⟩⟩⟩
      · exact Or.inr ⟨plan, catalog, configured, Or.inr ⟨requests, requested, Or.inr
          ⟨encoding, encoded, failed⟩⟩⟩

/-! ### Rows -/

section

variable (catalog : Catalog) (columns : List (CastRequest × Nat)) (encoding : Encoding)
  {table : Csv.Table} (number : Nat) {record : List Csv.Field}

theorem previewRow_of_length (equal : record.length = table.headers.length) :
    previewRow catalog columns encoding table number record
      = (decodeFields encoding record >>= fun texts =>
        (CastRequest.previewRow catalog columns texts).mapError CastError.message) := by
  unfold previewRow Csv.Table.row
  rw [if_pos equal]
  rfl

theorem previewRow_of_length_ne (unequal : record.length ≠ table.headers.length) :
    previewRow catalog columns encoding table number record
      = .error (within ("Reading row " ++ toString number) "CSV error") := by
  unfold previewRow Csv.Table.row
  rw [if_neg unequal]
  rfl

end

/-- What a preview knows when it comes to its rows. -/
structure Opened where
  plan : Plan
  catalog : Catalog
  requests : List CastRequest
  encoding : Encoding
  table : Csv.Table
  headers : List String
  positions : List Nat

namespace Opened

/-- The records that a preview shows, each with its number. -/
def records (o : Opened) (rows : Nat) : List (List Csv.Field × Nat) :=
  (o.table.records.take rows).zipIdx firstRow

/-- One record as it is shown. -/
def row (o : Opened) (record : List Csv.Field × Nat) : Except String (List String) :=
  previewRow o.catalog (o.requests.zip o.positions) o.encoding o.table record.2 record.1

/-- The rows that a preview shows. -/
def shown (o : Opened) (rows : Nat) : Except String (List (List String)) :=
  (o.records rows).mapM o.row

/-- The names of the columns that a preview shows. -/
def names (o : Opened) : List String := o.plan.columns.map ColumnPlan.outputName

/-- A record is not shown: it has more or fewer fields than the headers, a field is no text, or
a cell of it is refused. -/
inductive RowFails (o : Opened) : List Csv.Field × Nat → String → Prop
  | width {record : List Csv.Field} {number : Nat}
      (unequal : record.length ≠ o.table.headers.length) :
      RowFails o (record, number) (within ("Reading row " ++ toString number) "CSV error")
  | decoding {record : List Csv.Field} {number : Nat}
      (equal : record.length = o.table.headers.length)
      (undecodable : Undecodable o.encoding record) :
      RowFails o (record, number) (undecodableMessage o.encoding)
  | cell {record : List Csv.Field} {number : Nat} {texts : List String} {e : CastError}
      (equal : record.length = o.table.headers.length)
      (decoded : decodeFields o.encoding record = .ok texts)
      (refused : FirstFailure
        (fun (column : CastRequest × Nat) e =>
          column.1.coerce o.catalog (texts.getD column.2 "") = .error e)
        (o.requests.zip o.positions) e) :
      RowFails o (record, number) e.message

theorem cells_eq_error_iff {catalog : Catalog} {columns : List (CastRequest × Nat)}
    {texts : List String} {e : CastError} :
    CastRequest.previewRow catalog columns texts = .error e
      ↔ FirstFailure (fun (column : CastRequest × Nat) e =>
        column.1.coerce catalog (texts.getD column.2 "") = .error e) columns e := by
  unfold CastRequest.previewRow
  rw [mapM_eq_error_iff]
  exact FirstFailure.congr fun _ _ _ => map_eq_error_iff

theorem row_eq_error_iff (o : Opened) (record : List Csv.Field × Nat) (message : String) :
    o.row record = .error message ↔ o.RowFails record message := by
  obtain ⟨record, number⟩ := record
  unfold row
  by_cases equal : record.length = o.table.headers.length
  · rw [previewRow_of_length _ _ _ _ equal, bind_eq_error_iff, decodeFields_eq_error_iff]
    constructor
    · rintro (⟨field, rfl⟩ | ⟨texts, decoded, refused⟩)
      · exact .decoding equal field
      · obtain ⟨e, cell, rfl⟩ := mapError_eq_error_iff.mp refused
        exact .cell equal decoded (cells_eq_error_iff.mp cell)
    · rintro (unequal | ⟨-, field⟩ | ⟨-, decoded, refused⟩)
      · exact absurd equal unequal
      · exact Or.inl ⟨field, rfl⟩
      · exact Or.inr ⟨_, decoded, mapError_eq_error_iff.mpr
          ⟨_, cells_eq_error_iff.mpr refused, rfl⟩⟩
  · rw [previewRow_of_length_ne _ _ _ _ equal]
    constructor
    · rintro same
      exact Except.error.inj same ▸ .width equal
    · rintro (_ | ⟨same, -⟩ | ⟨same, -⟩)
      · rfl
      · exact absurd same equal
      · exact absurd same equal

theorem shown_eq_error_iff {o : Opened} {rows : Nat} {message : String} :
    o.shown rows = .error message ↔ FirstFailure o.RowFails (o.records rows) message := by
  unfold shown
  rw [mapM_eq_error_iff]
  exact FirstFailure.congr fun record _ => o.row_eq_error_iff record

end Opened

/-! ### Whole previews -/

/-- The input of a preview is this table. -/
def HasTable (host : Host Id) (a : PreviewArguments) (table : Csv.Table) : Prop :=
  ∃ bytes, HasInput host a.input bytes ∧ table = Csv.Table.ofBytes a.separator bytes

/-- Every step of a preview before its rows succeeds. -/
structure Opens (host : Host Id) (a : PreviewArguments) (o : Opened) : Prop extends
    Prepared host a o.plan o.catalog o.requests o.encoding where
  read : HasTable host a o.table
  titled : decodeFields o.encoding o.table.headers = .ok o.headers
  found : positions a.input o.headers o.plan.columns = .ok o.positions

/-- The first step of a preview that fails, and what is said of it. -/
inductive PreviewFails (host : Host Id) (a : PreviewArguments) (rows : Nat) : String → Prop
  | preparation {message : String} (failed : Unprepared host a message) :
      PreviewFails host a rows message
  | input {plan : Plan} {catalog : Catalog} {requests : List CastRequest} {encoding : Encoding}
      {message : String} (prepared : Prepared host a plan catalog requests encoding)
      (failed : NoInput host a.input message) : PreviewFails host a rows message
  | headers {plan : Plan} {catalog : Catalog} {requests : List CastRequest} {encoding : Encoding}
      {table : Csv.Table} (prepared : Prepared host a plan catalog requests encoding)
      (read : HasTable host a table) (undecodable : Undecodable encoding table.headers) :
      PreviewFails host a rows (undecodableMessage encoding)
  | column {plan : Plan} {catalog : Catalog} {requests : List CastRequest} {encoding : Encoding}
      {table : Csv.Table} {headers : List String} {message : String}
      (prepared : Prepared host a plan catalog requests encoding) (read : HasTable host a table)
      (titled : decodeFields encoding table.headers = .ok headers)
      (failed : FirstFailure (NotFound a.input headers) plan.columns message) :
      PreviewFails host a rows message
  | row {o : Opened} {message : String} (opens : Opens host a o)
      (failed : FirstFailure o.RowFails (o.records rows) message) :
      PreviewFails host a rows message

theorem spec_preview (host : Host Id) (a : PreviewArguments) (rows : Nat) :
    ((a.command rows).run host).Spec
      (fun text => ∃ o shown, Opens host a o ∧ o.shown rows = .ok shown
        ∧ text = Table.render o.names shown)
      (PreviewFails host a rows) := by
  refine (spec_prepared fun plan catalog requests encoding =>
    (spec_readInput host a.input).bind fun bytes _ =>
    (Run.Spec.orFail id
      (decodeFields encoding (Csv.Table.ofBytes a.separator bytes).headers)).bind fun headers _ =>
    (Run.Spec.orFail id (positions a.input headers plan.columns)).bind fun positions _ =>
    (Run.Spec.orFail id (Opened.shown ⟨plan, catalog, requests, encoding,
      Csv.Table.ofBytes a.separator bytes, headers, positions⟩ rows)).bind fun shown _ =>
    (Run.Spec.log .info .preview _).bind fun _ _ => .pure _).congr
      (fun text => ?_) fun message => ?_
  -- As in `spec_prepared`. The last two cases are none: neither the log nor printing fails.
  · constructor
    · rintro ⟨plan, catalog, requests, encoding, prepared, bytes, input, headers, titled, positions,
        found, shown, all, _, -, rfl⟩
      exact ⟨⟨plan, catalog, requests, encoding, _, headers, positions⟩, shown,
        ⟨prepared, ⟨bytes, input, rfl⟩, titled, found⟩, all, rfl⟩
    · rintro ⟨⟨plan, catalog, requests, encoding, _, headers, positions⟩, shown,
        ⟨prepared, ⟨bytes, input, rfl⟩, titled, found⟩, all, rfl⟩
      exact ⟨plan, catalog, requests, encoding, prepared, bytes, input, headers, titled, positions,
        found, shown, all, (), trivial, rfl⟩
  · constructor
    · rintro (failed | ⟨plan, catalog, requests, encoding, prepared, failed | ⟨bytes, input,
        ⟨_, undecodable, rfl⟩ | ⟨headers, titled, ⟨_, missing, rfl⟩ | ⟨positions, found,
        ⟨_, failed, rfl⟩ | ⟨shown, -, none | ⟨_, -, none⟩⟩⟩⟩⟩⟩)
      · exact .preparation failed
      · exact .input prepared failed
      · obtain ⟨field, said⟩ := decodeFields_eq_error_iff.mp undecodable
        exact said ▸ .headers prepared ⟨bytes, input, rfl⟩ field
      · exact .column prepared ⟨bytes, input, rfl⟩ titled (positions_eq_error_iff.mp missing)
      · exact .row (o := ⟨plan, catalog, requests, encoding, _, headers, positions⟩)
          ⟨prepared, ⟨bytes, input, rfl⟩, titled, found⟩ (Opened.shown_eq_error_iff.mp failed)
      · exact none.elim
      · exact none.elim
    · rintro (failed | ⟨prepared, failed⟩ | ⟨prepared, ⟨bytes, input, rfl⟩, undecodable⟩ |
        ⟨prepared, ⟨bytes, input, rfl⟩, titled, missing⟩ | @⟨o, _, opens, failed⟩)
      · exact Or.inl failed
      · exact Or.inr ⟨_, _, _, _, prepared, Or.inl failed⟩
      · exact Or.inr ⟨_, _, _, _, prepared, Or.inr ⟨bytes, input, Or.inl
          ⟨_, decodeFields_eq_error_iff.mpr ⟨undecodable, rfl⟩, rfl⟩⟩⟩
      · exact Or.inr ⟨_, _, _, _, prepared, Or.inr ⟨bytes, input, Or.inr ⟨_, titled, Or.inl
          ⟨_, positions_eq_error_iff.mpr missing, rfl⟩⟩⟩⟩
      · obtain ⟨plan, catalog, requests, encoding, _, headers, positions⟩ := o
        obtain ⟨prepared, ⟨bytes, input, rfl⟩, titled, found⟩ := opens
        exact Or.inr ⟨_, _, _, _, prepared, Or.inr ⟨bytes, input, Or.inr ⟨_, titled, Or.inr
          ⟨_, found, Or.inl ⟨_, Opened.shown_eq_error_iff.mpr failed, rfl⟩⟩⟩⟩⟩

end ColumnCast.Cli
