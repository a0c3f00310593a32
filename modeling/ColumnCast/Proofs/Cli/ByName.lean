import Mathlib.Data.List.Nodup
import ColumnCast.Proofs.Cli.Preview

/-!
# `ColumnCast.Proofs.Cli.ByName`: previews know columns by name

A preview looks up the positions of its columns once and then goes by
position. `cellUnder` goes by name instead, and the position of a name
leads to the same cell (`cellUnder_of_position`). So the rows of a preview
(`previewRows`) depend on an input through the cells under the names of
the plan (`previewRows_congr`), and picking columns out of an input, in
whatever order, keeps these if it keeps the names (`Keeps`,
`previewRows_pick`). A permutation of the columns is one way to pick, and
an input is picked out of any that has further columns.

`previewRows_eq_ok_iff` gives every cell that is shown. The run of the
program is that of its rows (`run_eq_of_reads`), and
`run_preview_byName` says all of this of the program.
-/

set_option autoImplicit false

namespace ColumnCast.Cli

/-! ### Cells under names -/

/-- The cell of a row under a name. -/
def cellUnder (headers row : List String) (name : String) : Option String :=
  (headers.zip row).lookup name

variable {headers row : List String} {name : String}

/-- The cell at the position of a name is the one under the name. -/
theorem cellUnder_of_position {position : Nat} (complete : row.length = headers.length)
    (found : headers.idxOf? name = some position) :
    cellUnder headers row name = some (row.getD position "") := by
  induction headers generalizing row position with
  | nil => exact absurd found (by simp)
  | cons header headers ih =>
      obtain ⟨cell, row, rfl⟩ := List.exists_cons_of_length_eq_add_one complete
      rw [List.idxOf?_cons] at found
      unfold cellUnder
      rw [List.zip_cons_cons, List.lookup_cons]
      by_cases same : header = name
      · subst same
        obtain rfl : 0 = position := by simpa using found
        simp
      · rw [if_neg (by simpa using same)] at found
        obtain ⟨behind, inner, rfl⟩ := Option.map_eq_some_iff.mp found
        rw [beq_eq_false_iff_ne.mpr (Ne.symm same)]
        exact ih (by simpa using complete) inner

theorem mem_of_lookup {entries : List (String × String)} {value : String}
    (found : entries.lookup name = some value) : (name, value) ∈ entries := by
  obtain ⟨before, after, rfl, -⟩ := List.lookup_eq_some_iff.mp found
  simp

theorem exists_lookup {entries : List (String × String)} {value : String}
    (mem : (name, value) ∈ entries) : ∃ value', entries.lookup name = some value' := by
  cases found : entries.lookup name with
  | some value' => exact ⟨value', rfl⟩
  | none => exact absurd (List.lookup_eq_none_iff.mp found _ mem) (by simp)

/-- Where no two entries have one key, a value is found if its entry is there. -/
theorem lookup_of_mem {entries : List (String × String)}
    (distinct : (entries.map Prod.fst).Nodup) {value : String} (mem : (name, value) ∈ entries) :
    entries.lookup name = some value := by
  obtain ⟨value', found⟩ := exists_lookup mem
  have same := List.inj_on_of_nodup_map distinct mem (mem_of_lookup found) rfl
  obtain rfl := (Prod.mk.inj same).2
  exact found

/-- What is found under a name depends on the entries under it only. -/
theorem lookup_congr {entries entries' : List (String × String)}
    (distinct : (entries.map Prod.fst).Nodup)
    (same : ∀ value, (name, value) ∈ entries ↔ (name, value) ∈ entries') :
    entries.lookup name = entries'.lookup name := by
  -- The other list may hold more entries under the name, but none with another value.
  refine Option.ext fun value => ⟨fun found => ?_, fun found =>
    lookup_of_mem distinct ((same value).mpr (mem_of_lookup found))⟩
  obtain ⟨value', found'⟩ := exists_lookup ((same value).mp (mem_of_lookup found))
  have other := lookup_of_mem distinct ((same value').mpr (mem_of_lookup found'))
  rw [found', ← other, found]

/-! ### Columns picked out -/

/-- The cells at these positions. -/
def pick (positions : List Nat) (cells : List String) : List String :=
  positions.map fun position => cells.getD position ""

theorem pick_range (cells : List String) : pick (List.range cells.length) cells = cells := by
  refine List.ext_getElem (by simp [pick]) fun i _ inside => ?_
  simp [pick, inside]

theorem zip_pick (positions : List Nat) (headers row : List String) :
    (pick positions headers).zip (pick positions row)
      = positions.map fun position => (headers.getD position "", row.getD position "") :=
  List.zip_map'

/-- The columns at these positions are there, have different names, and hold all the names that
are asked for. -/
structure Keeps (names headers : List String) (kept : List Nat) : Prop where
  inside : ∀ position ∈ kept, position < headers.length
  distinct : (pick kept headers).Nodup
  others : ∀ position < headers.length, position ∉ kept → headers.getD position "" ∉ names

namespace Keeps

variable {names : List String} {kept : List Nat}

theorem mem_pick (keeps : Keeps names headers kept) (asked : name ∈ names) :
    name ∈ pick kept headers ↔ name ∈ headers := by
  constructor
  · intro mem
    obtain ⟨position, among, rfl⟩ := List.mem_map.mp mem
    have inside := keeps.inside position among
    simp [inside]
  · intro mem
    obtain ⟨position, inside, rfl⟩ := List.mem_iff_getElem.mp mem
    refine List.mem_map.mpr ⟨position, ?_, by simp [inside]⟩
    by_contra dropped
    exact keeps.others position inside dropped (by simpa [inside] using asked)

/-- Under the names that are asked for there are the same cells. -/
theorem cellUnder_pick (keeps : Keeps names headers kept) (asked : name ∈ names)
    (complete : row.length = headers.length) :
    cellUnder (pick kept headers) (pick kept row) name = cellUnder headers row name := by
  -- Headers and cells are picked at the same positions: all of them on one side, the kept ones on
  -- the other. Those that are dropped have other names.
  have whole : headers.zip row = (List.range headers.length).map fun position =>
      (headers.getD position "", row.getD position "") := by
    rw [← zip_pick, pick_range, ← complete, pick_range]
  unfold cellUnder
  rw [zip_pick, whole]
  refine lookup_congr ?_ fun cell => ?_
  · have names : (kept.map fun position => (headers.getD position "", row.getD position "")).map
        Prod.fst = pick kept headers := by simp [pick]
    rw [names]
    exact keeps.distinct
  · simp only [List.mem_map, List.mem_range, Prod.mk.injEq]
    constructor
    · rintro ⟨position, among, found⟩
      exact ⟨position, keeps.inside position among, found⟩
    · rintro ⟨position, inside, rfl, found⟩
      refine ⟨position, ?_, rfl, found⟩
      by_contra dropped
      exact keeps.others position inside dropped asked

/-- Putting the columns into another order keeps all names. -/
theorem of_perm {order : List Nat} (perm : order.Perm (List.range headers.length))
    (distinct : headers.Nodup) : Keeps names headers order where
  inside _ mem := List.mem_range.mp (perm.mem_iff.mp mem)
  distinct := by
    refine (List.Perm.nodup_iff ?_).mpr distinct
    exact (perm.map _).trans (List.Perm.of_eq (pick_range headers))
  others _ inside dropped :=
    absurd (perm.mem_iff.mpr (List.mem_range.mpr inside)) dropped

/-- So does leaving out columns that nothing asks for. -/
theorem of_sublist (part : kept.Sublist (List.range headers.length))
    (distinct : (pick kept headers).Nodup)
    (others : ∀ position < headers.length, position ∉ kept → headers.getD position "" ∉ names) :
    Keeps names headers kept where
  inside _ mem := List.mem_range.mp (part.subset mem)
  distinct := distinct
  others := others

end Keeps

/-! ### Rows by name -/

variable {plan : Plan} {catalog : Catalog} {input : String} {headers' : List String}
  {cells cells' : List (List String)}

/-- The rows of a preview, from the texts of an input. -/
def previewRows (plan : Plan) (catalog : Catalog) (input : String) (headers : List String)
    (cells : List (List String)) : Except String (List (List String)) := do
  let requests ← plan.requests.mapError PlanError.message
  let positions ← positions input headers plan.columns
  cells.mapM fun row =>
    (CastRequest.previewRow catalog (requests.zip positions) row).mapError CastError.message

/-- The positions of the columns. -/
def AreAt (headers : List String) (columns : List ColumnPlan) (places : List Nat) : Prop :=
  List.Forall₂ (fun column place => headers.idxOf? column.name = some place) columns places

theorem positions_eq_ok_iff {columns : List ColumnPlan} {places : List Nat} :
    positions input headers columns = .ok places ↔ AreAt headers columns places := by
  unfold positions AreAt
  rw [mapM_eq_ok_iff]
  refine iff_of_eq (congrArg (List.Forall₂ · _ _) (funext fun column => funext fun place => ?_))
  cases headers.idxOf? column.name <;> simp

/-- Rows are alike if they have the same cells under the names of the columns. -/
structure Alike (columns : List ColumnPlan) (headers headers' row row' : List String) : Prop where
  complete : row.length = headers.length
  complete' : row'.length = headers'.length
  same : ∀ column ∈ columns,
    cellUnder headers row column.name = cellUnder headers' row' column.name

theorem Alike.previewRow_eq {columns : List ColumnPlan} {row' : List String}
    (alike : Alike columns headers headers' row row') {places places' : List Nat}
    (areAt : AreAt headers columns places) (areAt' : AreAt headers' columns places')
    (requests : List CastRequest) :
    CastRequest.previewRow catalog (requests.zip places) row
      = CastRequest.previewRow catalog (requests.zip places') row' := by
  obtain ⟨complete, complete', same⟩ := alike
  refine mapM_congr ?_
  -- Columns, positions and requests go in step; the induction is on the columns.
  induction areAt generalizing requests places' with
  | nil =>
      obtain rfl := List.forall₂_nil_left_iff.mp areAt'
      simp
  | @cons column place columns places first _ ih =>
      obtain ⟨place', places', first', rest', rfl⟩ := List.forall₂_cons_left_iff.mp areAt'
      cases requests with
      | nil => simp
      | cons request requests =>
          have cell := same column List.mem_cons_self
          rw [cellUnder_of_position complete first, cellUnder_of_position complete' first',
            Option.some.injEq] at cell
          refine .cons (congrArg (fun cell => (request.coerce catalog cell).map Value.displayOrNull)
            cell) ?_
          exact ih rest' requests fun column mem => same column (List.mem_cons_of_mem _ mem)

/-- Inputs with the same cells under the names of the columns give the same rows. -/
theorem previewRows_congr
    (members : ∀ column ∈ plan.columns, column.name ∈ headers ↔ column.name ∈ headers')
    (alike : List.Forall₂ (Alike plan.columns headers headers') cells cells') :
    previewRows plan catalog input headers cells
      = previewRows plan catalog input headers' cells' := by
  unfold previewRows
  refine bind_congr fun requests => ?_
  -- A column that is missing here is missing there, and the first one decides the message.
  have missing : ∀ message, positions input headers plan.columns = .error message
      ↔ positions input headers' plan.columns = .error message := by
    intro message
    rw [positions_eq_error_iff, positions_eq_error_iff]
    refine FirstFailure.congr fun column mem other => ?_
    exact and_congr_left fun _ => not_congr (members column mem)
  cases found : positions input headers plan.columns with
  | error message =>
      rw [(missing message).mp found]
      rfl
  | ok places =>
      cases found' : positions input headers' plan.columns with
      | error message => exact absurd (found.symm.trans ((missing message).mpr found')) (by simp)
      | ok places' =>
          have areAt := positions_eq_ok_iff.mp found
          have areAt' := positions_eq_ok_iff.mp found'
          refine mapM_congr (alike.imp fun row row' rowsAlike => ?_)
          rw [rowsAlike.previewRow_eq areAt areAt' requests]

/-- Picking out columns changes no row if all names of the plan stay. -/
theorem previewRows_pick {kept : List Nat}
    (keeps : Keeps (plan.columns.map ColumnPlan.name) headers kept)
    (complete : ∀ row ∈ cells, row.length = headers.length) :
    previewRows plan catalog input (pick kept headers) (cells.map (pick kept))
      = previewRows plan catalog input headers cells := by
  have asked : ∀ column ∈ plan.columns, column.name ∈ plan.columns.map ColumnPlan.name :=
    fun column mem => List.mem_map_of_mem mem
  refine previewRows_congr (fun column mem => keeps.mem_pick (asked column mem)) ?_
  refine List.forall₂_map_left_iff.mpr (List.forall₂_same.mpr fun row mem => ?_)
  exact ⟨by simp [pick], complete row mem,
    fun column among => keeps.cellUnder_pick (asked column among) (complete row mem)⟩

/-! ### Single cells -/

/-- What is shown of a column in a row: the cell under its name, cast as the column asks. -/
def Shows (plan : Plan) (catalog : Catalog) (headers row : List String) (column : ColumnPlan)
    (cell : String) : Prop :=
  ∃ request raw, column.request plan.dateFormat = .ok request
    ∧ cellUnder headers row column.name = some raw
    ∧ (request.coerce catalog raw).map Value.displayOrNull = .ok cell

/-- The requests of the columns. -/
def AreAsked (plan : Plan) (columns : List ColumnPlan) (requests : List CastRequest) : Prop :=
  List.Forall₂ (fun column request => column.request plan.dateFormat = .ok request)
    columns requests

theorem requests_eq_ok_iff {requests : List CastRequest} :
    plan.requests = .ok requests ↔ AreAsked plan plan.columns requests := by
  unfold Plan.requests AreAsked
  simp only [mapM_eq_ok_iff, mapError_eq_ok_iff]

theorem previewRow_eq_ok_iff {columns : List ColumnPlan} {requests : List CastRequest}
    {places : List Nat} {shown : List String} (complete : row.length = headers.length)
    (areAsked : AreAsked plan columns requests) (areAt : AreAt headers columns places) :
    CastRequest.previewRow catalog (requests.zip places) row = .ok shown
      ↔ List.Forall₂ (Shows plan catalog headers row) columns shown := by
  unfold CastRequest.previewRow
  rw [mapM_eq_ok_iff]
  induction areAsked generalizing places shown with
  | nil => cases areAt; simp
  | cons first _ ih =>
      obtain ⟨place, places, there, rest, rfl⟩ := List.forall₂_cons_left_iff.mp areAt
      have cell := cellUnder_of_position complete there
      rw [List.zip_cons_cons, List.forall₂_cons_left_iff, List.forall₂_cons_left_iff]
      simp only [ih rest, Shows, first, cell, Except.ok.injEq, Option.some.injEq,
        exists_eq_left', exists_and_left]

/-- The rows that a preview shows. Every column has a request and is found, even if there is no
row. -/
structure Shown (plan : Plan) (catalog : Catalog) (headers : List String)
    (cells shown : List (List String)) : Prop where
  asked : ∀ column ∈ plan.columns, ∃ request, column.request plan.dateFormat = .ok request
  found : ∀ column ∈ plan.columns, column.name ∈ headers
  each : List.Forall₂ (fun row => List.Forall₂ (Shows plan catalog headers row) plan.columns)
    cells shown

theorem previewRows_eq_ok_iff {shown : List (List String)}
    (complete : ∀ row ∈ cells, row.length = headers.length) :
    previewRows plan catalog input headers cells = .ok shown
      ↔ Shown plan catalog headers cells shown := by
  unfold previewRows
  simp only [bind_eq_ok_iff, mapError_eq_ok_iff, requests_eq_ok_iff, positions_eq_ok_iff,
    mapM_eq_ok_iff]
  -- Which requests and places there are, the plan and the headers say before any row is read.
  have rows : ∀ {requests places}, AreAsked plan plan.columns requests →
      AreAt headers plan.columns places →
      (List.Forall₂ (fun row result =>
          CastRequest.previewRow catalog (requests.zip places) row = .ok result) cells shown
        ↔ List.Forall₂ (fun row => List.Forall₂ (Shows plan catalog headers row) plan.columns)
          cells shown) := fun areAsked areAt =>
    forall₂_iff_of_mem fun row mem result => previewRow_eq_ok_iff (complete row mem) areAsked areAt
  have places : (∃ places, AreAt headers plan.columns places)
      ↔ ∀ column ∈ plan.columns, column.name ∈ headers := by
    refine exists_forall₂_iff.trans (forall₂_congr fun column _ => ?_)
    rw [← List.isSome_idxOf?, Option.isSome_iff_exists]
  constructor
  · rintro ⟨requests, areAsked, positions, areAt, each⟩
    exact ⟨exists_forall₂_iff.mp ⟨_, areAsked⟩, places.mp ⟨_, areAt⟩, (rows areAsked areAt).mp each⟩
  · rintro ⟨asked, found, each⟩
    obtain ⟨requests, areAsked⟩ := exists_forall₂_iff.mpr asked
    obtain ⟨positions, areAt⟩ := places.mpr found
    exact ⟨requests, areAsked, positions, areAt, (rows areAsked areAt).mpr each⟩

/-! ### The program -/

variable {host host' : Host Id} {a : PreviewArguments} {rows : Nat} {encoding : Encoding}
  {table : Csv.Table}

/-- The texts that a preview of so many rows reads from its input: the headers, and in each row a
cell under each of them. -/
structure Reads (host : Host Id) (a : PreviewArguments) (rows : Nat) (encoding : Encoding)
    (table : Csv.Table) (headers : List String) (cells : List (List String)) : Prop where
  encoded : chooseEncoding a.encoding = .ok encoding
  read : HasTable host a table
  titled : decodeFields encoding table.headers = .ok headers
  decoded : List.Forall₂ (fun record row => record.length = table.headers.length
    ∧ decodeFields encoding record = .ok row) (table.records.take rows) cells

theorem Reads.complete (reads : Reads host a rows encoding table headers cells) :
    ∀ row ∈ cells, row.length = headers.length := by
  obtain ⟨-, -, titled, decoded⟩ := reads
  intro row mem
  obtain ⟨i, inside, rfl⟩ := List.mem_iff_getElem.mp mem
  obtain ⟨lengths, each⟩ := List.forall₂_iff_get.mp decoded
  obtain ⟨wide, texts⟩ := each i (lengths ▸ inside) inside
  exact (length_of_decodeFields texts).trans (wide.trans (length_of_decodeFields titled).symm)

/-- Prints rows, or says why there are none. -/
def printRows (a : PreviewArguments) (plan : Plan)
    (result : Except String (List (List String))) : Run Id String := do
  let shown ← orFail id result
  log .info .preview
    ("Previewed " ++ counted shown.length "row" ++ " from " ++ Text.shownPath a.input)
  return Table.render (plan.columns.map ColumnPlan.outputName) shown

theorem Reads.rows_eq (reads : Reads host a rows encoding table headers cells)
    (catalog : Catalog) (columns : List (CastRequest × Nat)) :
    (((table.records.take rows).zipIdx firstRow).mapM fun (record, number) =>
        previewRow catalog columns encoding table number record)
      = cells.mapM fun row =>
        (CastRequest.previewRow catalog columns row).mapError CastError.message := by
  refine mapM_congr ?_
  have numbered := reads.decoded
  rw [← List.zipIdx_map_fst firstRow (table.records.take rows), List.forall₂_map_left_iff]
    at numbered
  refine numbered.imp fun (record, number) row ⟨wide, texts⟩ => ?_
  show previewRow catalog columns encoding table number record = _
  rw [previewRow_of_length _ _ _ _ wide, texts]
  rfl

theorem run_eq_of_reads (configured : Configured host a.plan a.catalog plan catalog)
    (configured' : Configured host' a.plan a.catalog plan catalog)
    (reads : Reads host a rows encoding table headers cells) :
    (a.command rows).run host = (do
      let plan ← loadPlan host' a.plan
      let catalog ← chooseCatalog host' a.catalog a.plan plan
      printRows a plan (previewRows plan catalog a.input headers cells)) := by
  refine configured.run_congr configured' ?_
  have each := reads.rows_eq catalog
  obtain ⟨encoded, ⟨bytes, input, rfl⟩, titled, -⟩ := reads
  unfold PreviewArguments.separator at titled each
  simp only [printRows, previewRows, readInput_eq input, encoded, titled, each, orFail_ok,
    orFail_mapError, orFail_bind, bind_assoc, pure_bind]

theorem spec_printRows (a : PreviewArguments) (plan : Plan)
    (result : Except String (List (List String))) :
    (printRows a plan result).Spec
      (fun text => ∃ shown, result = .ok shown
        ∧ text = Table.render (plan.columns.map ColumnPlan.outputName) shown)
      (fun message => result = .error message) := by
  refine ((Run.Spec.orFail id result).bind fun shown _ =>
    (Run.Spec.log .info .preview _).bind fun _ _ => .pure _).congr (fun text => ?_) fun message => ?_
  · simp
  · simp

/-- A run ends with the rows of the texts it reads, or as they do. -/
theorem ends_of_reads (configured : Configured host a.plan a.catalog plan catalog)
    (reads : Reads host a rows encoding table headers cells) :
    ((a.command rows).run host).Ends ((previewRows plan catalog a.input headers cells).map
      (Table.render (plan.columns.map ColumnPlan.outputName))) := by
  rw [run_eq_of_reads configured configured reads]
  cases result : previewRows plan catalog a.input headers cells with
  | ok shown =>
      refine ((spec_configured fun plan catalog => spec_printRows a plan _).ok _).mpr ?_
      exact ⟨plan, catalog, configured, shown, result, rfl⟩
  | error message =>
      refine ((spec_configured fun plan catalog => spec_printRows a plan _).error _).mpr ?_
      exact Or.inr ⟨plan, catalog, configured, result⟩

/-- **A preview knows columns by name.** Let it read headers that are all different. Then an input
with its columns in another order gives the same outcome, and so does one with further columns
whose names the plan does not use. And it succeeds if every cell does, each shown as the request
of its column casts the cell under the name of the column. -/
theorem run_preview_byName (filter : Option String) {arguments : List String}
    (asked : Command.ofArguments? arguments = some (a.command rows))
    (configured : Configured host a.plan a.catalog plan catalog)
    (reads : Reads host a rows encoding table headers cells) (distinct : headers.Nodup) :
    (∀ (order : List Nat) (host' : Host Id) (table' : Csv.Table),
        order.Perm (List.range headers.length) →
        Configured host' a.plan a.catalog plan catalog →
        Reads host' a rows encoding table' (pick order headers) (cells.map (pick order)) →
        run host' filter arguments = run host filter arguments)
      ∧ (∀ (wide : List String) (cells' : List (List String)) (kept : List Nat) (host' : Host Id)
          (table' : Csv.Table), kept.Sublist (List.range wide.length) →
        pick kept wide = headers → cells'.map (pick kept) = cells →
        (∀ position < wide.length, position ∉ kept →
          wide.getD position "" ∉ plan.columns.map ColumnPlan.name) →
        Configured host' a.plan a.catalog plan catalog →
        Reads host' a rows encoding table' wide cells' →
        run host' filter arguments = run host filter arguments)
      ∧ ((run host filter arguments).run.code = 0 ↔ ∃ shown, Shown plan catalog headers cells shown)
      ∧ ∀ shown, Shown plan catalog headers cells shown →
        (run host filter arguments).run.stdout
          = Table.render (plan.columns.map ColumnPlan.outputName) shown := by
  have alike : ∀ {host' table' headers' cells'}, Configured host' a.plan a.catalog plan catalog →
      Reads host' a rows encoding table' headers' cells' →
      previewRows plan catalog a.input headers' cells'
        = previewRows plan catalog a.input headers cells →
      run host' filter arguments = run host filter arguments := by
    intro host' table' headers' cells' configured' reads' same
    refine run_congr asked ((run_eq_of_reads configured' configured' reads').trans ?_)
    rw [run_eq_of_reads configured configured' reads]
    exact configured'.run_congr configured' (congrArg (printRows a plan) same)
  have ends := ends_of_reads configured reads
  have shows : ∀ {shown}, Shown plan catalog headers cells shown →
      (run host filter arguments).run.code = 0 ∧ (run host filter arguments).run.stdout
        = Table.render (plan.columns.map ColumnPlan.outputName) shown := by
    intro shown all
    rw [(previewRows_eq_ok_iff reads.complete).mpr all] at ends
    exact outcome_of_ok asked ends
  refine ⟨fun order host' table' perm configured' reads' => ?_,
    fun wide cells' kept host' table' part titles rest unused configured' reads' => ?_,
    ⟨fun succeeded => ?_, fun ⟨shown, all⟩ => (shows all).1⟩, fun shown all => (shows all).2⟩
  · exact alike configured' reads' (previewRows_pick (.of_perm perm distinct) reads.complete)
  · subst titles rest
    exact alike configured' reads'
      (previewRows_pick (.of_sublist part distinct unused) reads'.complete).symm
  · cases result : previewRows plan catalog a.input headers cells with
    | ok shown => exact ⟨shown, (previewRows_eq_ok_iff reads.complete).mp result⟩
    | error message =>
        rw [result] at ends
        obtain ⟨failure, -⟩ := outcome_of_error asked ends
        exact absurd (succeeded.symm.trans failure) (by decide)

/-- A plan of two columns. -/
def twoColumns : Plan where
  source := "raw"
  columns := [{ name := "n", typeName := "Number" }, { name := "t", typeName := "Text" }]

/-- A host with that plan and an input. -/
def twoColumnsHost (input : String) : Host Id := .ofFiles
  [("plan.yaml", Host.textBytes
      "source: raw\ncolumns:\n- name: n\n  datatype: Number\n- name: t\n  datatype: Text\n"),
    ("in.csv", Host.textBytes input)]

/-- What is asked for: a preview of the input. -/
def twoColumnsPreview : PreviewArguments := ⟨"plan.yaml", "in.csv", none, none, none⟩

/-- The table of an input. -/
def twoColumnsTable (input : String) : Csv.Table :=
  .ofBytes twoColumnsPreview.separator (Host.textBytes input)

theorem configured_twoColumnsHost (input : String) :
    Configured (twoColumnsHost input) "plan.yaml" none twoColumns .builtin :=
  ⟨⟨_, Host.hasText_ofFiles rfl, by decide +kernel⟩, rfl⟩

theorem hasTable_twoColumnsHost (input : String) :
    HasTable (twoColumnsHost input) twoColumnsPreview (twoColumnsTable input) :=
  ⟨_, (if_neg (by decide : ¬Path.isDash "in.csv" = true)).mpr rfl, rfl⟩

theorem run_preview_byName_reordered :
    ∃ arguments, run (twoColumnsHost "t,n\na,1\n") none arguments
        = run (twoColumnsHost "n,t\n1,a\n") none arguments
      ∧ run (twoColumnsHost "x,n,y,t\n,1,?,a\n") none arguments
        = run (twoColumnsHost "n,t\n1,a\n") none arguments
      ∧ (run (twoColumnsHost "n,t\n1,a\n") none arguments).run.code = 0
      ∧ (run (twoColumnsHost "n,t\n1,a\n") none arguments).run.stdout
        = Table.render ["n", "t"] [["1", "a"]] := by
  have asked : Command.ofArguments? ["preview", "-p", "plan.yaml", "-i", "in.csv"]
      = some (twoColumnsPreview.command 10) := by decide +kernel
  have reads : Reads (twoColumnsHost "n,t\n1,a\n") twoColumnsPreview 10 .utf8
      (twoColumnsTable "n,t\n1,a\n") ["n", "t"] [["1", "a"]] :=
    ⟨rfl, hasTable_twoColumnsHost _, by decide +kernel,
      .cons (by decide +kernel) (by decide +kernel)⟩
  have reordered : Reads (twoColumnsHost "t,n\na,1\n") twoColumnsPreview 10 .utf8
      (twoColumnsTable "t,n\na,1\n") ["t", "n"] [["a", "1"]] :=
    ⟨rfl, hasTable_twoColumnsHost _, by decide +kernel,
      .cons (by decide +kernel) (by decide +kernel)⟩
  have widened : Reads (twoColumnsHost "x,n,y,t\n,1,?,a\n") twoColumnsPreview 10 .utf8
      (twoColumnsTable "x,n,y,t\n,1,?,a\n") ["x", "n", "y", "t"] [["", "1", "?", "a"]] :=
    ⟨rfl, hasTable_twoColumnsHost _, by decide +kernel,
      .cons (by decide +kernel) (by decide +kernel)⟩
  have shown : Shown twoColumns .builtin ["n", "t"] [["1", "a"]] [["1", "a"]] :=
    (previewRows_eq_ok_iff reads.complete).mp
      (by decide +kernel : previewRows twoColumns .builtin "in.csv" _ _ = .ok _)
  obtain ⟨permuted, inserted, succeeds, prints⟩ := run_preview_byName none asked
    (configured_twoColumnsHost _) reads (by decide)
  exact ⟨_, permuted [1, 0] _ _ (by decide) (configured_twoColumnsHost _) reordered,
    inserted ["x", "n", "y", "t"] [["", "1", "?", "a"]] [1, 3] _ _ (by decide) rfl rfl (by decide)
      (configured_twoColumnsHost _) widened,
    succeeds.mpr ⟨_, shown⟩, prints _ shown⟩

end ColumnCast.Cli
