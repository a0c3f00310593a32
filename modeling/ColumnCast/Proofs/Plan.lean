import ColumnCast.Catalog.Builtin
import ColumnCast.Plan.Yaml
import ColumnCast.Proofs.Cast.Quotation
import ColumnCast.Proofs.Sql.Items
import ColumnCast.Proofs.Traversal

/-!
# `ColumnCast.Proofs.Plan`: statements keep columns aligned

An insertion gives names and values in two lists, and what belongs
together is told by position alone. `statements_aligned` divides both lists
of the text again, at the commas outside parentheses and quotations: the
items are as many as the columns of the plan, each in its place, and no
two columns come out under one name.
-/

set_option autoImplicit false

namespace ColumnCast

open Sql (quoteIdent items tokens? Token)

namespace Plan

/-! ### Plans that are accepted -/

theorem nodup_of_firstRepeated? {names : List String} (none : firstRepeated? names = none) :
    names.Nodup := by
  induction names with
  | nil => exact List.nodup_nil
  | cons name rest ih =>
      rw [firstRepeated?] at none
      split at none
      · exact absurd none (by simp)
      · rename_i fresh
        exact List.nodup_cons.mpr ⟨by simpa using fresh, ih none⟩

/-- A plan that is read has columns, and they come out under different names. -/
theorem columns_of_ofYaml {text : String} {plan : Plan} (read : ofYaml text = .ok plan) :
    plan.columns ≠ [] ∧ (plan.columns.map ColumnPlan.outputName).Nodup := by
  unfold ofYaml at read
  split at read
  · unfold ofDocument at read
    split at read
    · rename_i shaped _
      unfold check at read
      split at read
      · exact absurd read (by simp)
      · rename_i filled
        split at read
        · exact absurd read (by simp)
        · rename_i distinct
          obtain rfl : shaped = plan := Except.ok.inj read
          exact ⟨by simpa using filled, nodup_of_firstRepeated? distinct⟩
    · exact absurd read (by simp)
  · exact absurd read (by simp)

/-! ### Columns that are compiled -/

variable {plan : Plan} {catalog : Catalog}

theorem forall₂_of_compileUntil {compile : ColumnPlan → Except PlanError CompiledColumn}
    {plans : List ColumnPlan} {columns : List CompiledColumn}
    (compiled : compileUntil compile plans = (columns, none)) :
    List.Forall₂ (fun plan column => compile plan = .ok column) plans columns := by
  induction plans generalizing columns with
  | nil =>
      obtain rfl := (Prod.mk.inj compiled).1
      exact .nil
  | cons plan plans ih =>
      rw [compileUntil] at compiled
      cases first : compile plan with
      | error e =>
          rw [first] at compiled
          exact absurd (Prod.mk.inj compiled).2 (by simp)
      | ok column =>
          rw [first] at compiled
          obtain ⟨rfl, none⟩ := Prod.mk.inj compiled
          exact .cons first (ih (Prod.ext rfl none))

/-- The columns of a plan are compiled one by one. -/
theorem forall₂_of_compile {columns : List CompiledColumn}
    (compiled : plan.compile catalog = .ok columns) :
    List.Forall₂ (fun part column => plan.compileColumn catalog part = .ok column)
      plan.columns columns := by
  unfold compile at compiled
  split at compiled
  · rename_i all
    obtain rfl := Except.ok.inj compiled
    exact forall₂_of_compileUntil all
  · exact absurd compiled (by simp)

/-- A compiled column has the names of its part of the plan, and the only names in its
expression are that of the column. -/
theorem quotes_of_compileColumn {part : ColumnPlan} {column : CompiledColumn}
    (compiled : plan.compileColumn catalog part = .ok column) :
    column.name = part.name ∧ column.outputName = part.outputName
      ∧ ∃ allowed, column.expression.Quotes part.name allowed := by
  obtain ⟨request, asked, compiled⟩ := bind_eq_ok_iff.mp compiled
  obtain ⟨expression, cast, compiled⟩ := bind_eq_ok_iff.mp compiled
  obtain rfl := Except.ok.inj compiled
  obtain ⟨source, -⟩ := CastRequest.eq_of_request (mapError_eq_ok_iff.mp asked)
  obtain ⟨_, -, quotes⟩ := CastRequest.quotes_of_compile source (mapError_eq_ok_iff.mp cast)
  exact ⟨rfl, rfl, _, quotes⟩

end Plan

/-! ### Lists in statements -/

namespace CompiledColumn

/-- The item of a column in a projection: blanks, its expression and the name it gets. The
expression has its own tokens, and the quoted names among them are that of the column. -/
structure IsItem (column : CompiledColumn) (item : List Char) : Prop where
  text : ∃ blanks, blanks.all Text.isBlank = true ∧ item = blanks
    ++ (column.expression.render ++ " AS " ++ quoteIdent column.outputName).toList
  scans : ∃ ts, tokens? column.expression.render.toList = some ts
    ∧ (∀ name, .name name ∈ ts → name = column.name)
    ∧ tokens? item = some (ts ++ [.word "as".toList, .name column.outputName])

/-- The line of a column in a projection. -/
def line (column : CompiledColumn) : String :=
  "  " ++ column.expression.render ++ " AS " ++ quoteIdent column.outputName

variable {column : CompiledColumn} {allowed : String → Prop}

theorem keeps_line (quotes : column.expression.Quotes column.name allowed) :
    Sql.Spot.Keeps column.line.toList := by
  unfold line
  simp only [String.toList_append]
  exact (((Sql.Spot.keeps_of_climb (by decide)).append quotes.keeps.1).append
    (Sql.Spot.keeps_of_climb (by decide))).append (Sql.Spot.keeps_ident _)

theorem isItem_line (quotes : column.expression.Quotes column.name allowed) {gap : List Char}
    (blank : gap.all Text.isBlank = true) (closed : Sql.Closed gap []) :
    column.IsItem (gap ++ column.line.toList) := by
  have lexes := quotes.lexed.1 []
  have front : Sql.Closed "  ".toList [] := by decide
  have middle : Sql.Closed " AS ".toList [.word "as".toList] := by decide
  constructor
  · refine ⟨gap ++ "  ".toList, ?_, by simp [line]⟩
    rw [List.all_append, blank]
    decide
  · refine ⟨_, lexes.scans, fun name mem => lexes.origin _ mem, ?_⟩
    have scans := closed.append (front.append (lexes.scans.between middle (by decide)
      (Sql.scans_quoteIdent column.outputName)))
    simpa [line, Sql.Scans] using scans

end CompiledColumn

namespace Plan

variable {plan : Plan} {catalog : Catalog} {columns : List CompiledColumn}

/-- The items of a list of lines, the first and those behind a comma. -/
theorem forall₂_isItem
    (quotes : ∀ column ∈ columns, ∃ allowed, column.expression.Quotes column.name allowed)
    (filled : columns ≠ []) :
    List.Forall₂ CompiledColumn.IsItem columns
      (items .top (",\n".intercalate (columns.map CompiledColumn.line)).toList) := by
  obtain ⟨first, others, rfl⟩ := List.exists_cons_of_ne_nil filled
  have gap : Sql.Spot.Keeps ['\n'] := Sql.Spot.keeps_of_climb (by decide)
  have keeps : ∀ text ∈ ((first :: others).map CompiledColumn.line).map String.toList,
      Sql.Spot.Keeps text := by
    simp only [List.map_map, List.mem_map, Function.comp_apply, forall_exists_index, and_imp]
    rintro _ column mem rfl
    obtain ⟨_, isColumn⟩ := quotes column mem
    exact CompiledColumn.keeps_line isColumn
  have parts := Sql.items_intercalate gap keeps
  rw [String.toList_intercalate]
  show List.Forall₂ _ _ (items .top ([',', '\n'].intercalate _))
  rw [List.map_cons, List.map_cons, parts, List.map_map, List.map_map]
  obtain ⟨_, isFirst⟩ := quotes first List.mem_cons_self
  refine .cons (@CompiledColumn.isItem_line _ _ isFirst [] rfl rfl) ?_
  refine List.forall₂_map_right_iff.mpr (List.forall₂_same.mpr fun column mem => ?_)
  obtain ⟨_, isColumn⟩ := quotes column (List.mem_cons_of_mem _ mem)
  exact CompiledColumn.isItem_line isColumn (by decide) (by decide)

/-- The items of a list of names. -/
theorem forall₂_tokens (filled : columns ≠ []) :
    List.Forall₂ (fun column item => tokens? item = some [.name column.outputName]) columns
      (items .top (", ".intercalate
        (columns.map fun column => quoteIdent column.outputName)).toList) := by
  obtain ⟨first, others, rfl⟩ := List.exists_cons_of_ne_nil filled
  have gap : Sql.Spot.Keeps [' '] := Sql.Spot.keeps_of_climb (by decide)
  have keeps : ∀ text ∈ ((first :: others).map fun column =>
      quoteIdent column.outputName).map String.toList, Sql.Spot.Keeps text := by
    simp only [List.map_map, List.mem_map, Function.comp_apply, forall_exists_index, and_imp]
    rintro _ column - rfl
    exact Sql.Spot.keeps_ident column.outputName
  have parts := Sql.items_intercalate gap keeps
  rw [String.toList_intercalate]
  show List.Forall₂ _ _ (items .top ([',', ' '].intercalate _))
  rw [List.map_cons, List.map_cons, parts, List.map_map, List.map_map]
  refine .cons (Sql.scans_quoteIdent first.outputName) ?_
  refine List.forall₂_map_right_iff.mpr (List.forall₂_same.mpr fun column _ => ?_)
  have blank : Sql.Closed [' '] [] := by decide
  exact blank.append (Sql.scans_quoteIdent column.outputName)

/-- **The columns of a statement stay aligned.** The projection and, in an insertion, the list
of names have one item for each column of the plan, in its order: the item of a column is its
expression, in which no other column is named, and the name under which it comes out. -/
theorem statements_aligned {text : String} (read : ofYaml text = .ok plan)
    (compiled : plan.compile catalog = .ok columns) :
    List.Forall₂ (fun part column => plan.compileColumn catalog part = .ok column
        ∧ column.name = part.name ∧ column.outputName = part.outputName) plan.columns columns
      ∧ (columns.map CompiledColumn.outputName).Nodup
      ∧ (∃ projection : String,
        plan.selectStatement columns = "SELECT\n" ++ projection ++ "\nFROM " ++ plan.source
          ∧ List.Forall₂ CompiledColumn.IsItem columns (items .top projection.toList))
      ∧ match plan.target with
        | none => plan.insertStatement columns = plan.selectStatement columns
        | some target => ∃ names : String,
          plan.insertStatement columns = "INSERT INTO " ++ target ++ " (" ++ names ++ ")\n"
              ++ plan.selectStatement columns
            ∧ List.Forall₂ (fun column item => tokens? item = some [.name column.outputName])
              columns (items .top names.toList) := by
  obtain ⟨filled, distinct⟩ := columns_of_ofYaml read
  have each := forall₂_of_compile compiled
  have aligned : List.Forall₂ (fun part column => plan.compileColumn catalog part = .ok column
      ∧ column.name = part.name ∧ column.outputName = part.outputName) plan.columns columns := by
    refine each.imp fun part column cast => ?_
    obtain ⟨name, outputName, -⟩ := quotes_of_compileColumn cast
    exact ⟨cast, name, outputName⟩
  have names : columns.map CompiledColumn.outputName = plan.columns.map ColumnPlan.outputName :=
    List.forall₂_eq_eq_eq ▸ (List.forall₂_map_left_iff.mpr (List.forall₂_map_right_iff.mpr
      (aligned.flip.imp fun _ _ same => same.2.2)))
  have filled' : columns ≠ [] := by
    rintro rfl
    exact filled (List.forall₂_nil_right_iff.mp each)
  have quotes : ∀ column ∈ columns,
      ∃ allowed, column.expression.Quotes column.name allowed := by
    intro column mem
    obtain ⟨index, inside, rfl⟩ := List.mem_iff_getElem.mp mem
    obtain ⟨lengths, corresponding⟩ := List.forall₂_iff_get.mp each
    obtain ⟨name, -, isColumn⟩ :=
      quotes_of_compileColumn (corresponding index (lengths ▸ inside) inside)
    exact name ▸ isColumn
  refine ⟨aligned, names ▸ distinct, ⟨_, ?_, forall₂_isItem quotes filled'⟩, ?_⟩
  · exact congrArg
      (fun lines => "SELECT\n" ++ ",\n".intercalate lines ++ "\nFROM " ++ plan.source) List.map_map
  · unfold insertStatement
    cases plan.target with
    | none => rfl
    | some target => exact ⟨_, rfl, forall₂_tokens filled'⟩

/-- Two columns with commas, quotation marks and parentheses in their names and options. -/
def commaText : String :=
  "source: raw\ntarget: typed\ncolumns:\n- name: 'a, (\"b'\n  datatype: Year\n"
    ++ "- name: c\n  datatype: MultiSelect\n  name_mapping: 'd)'\n  options: ['x,''y', 'z)']\n"

/-- The plan of that text. -/
def commaPlan : Plan where
  source := "raw"
  target := some "typed"
  columns :=
    [ { name := "a, (\"b", typeName := "Year" },
      { name := "c", typeName := "MultiSelect", rename := some "d)", options := ["x,'y", "z)"] } ]

theorem statements_aligned_commas :
    ofYaml commaText = .ok commaPlan ∧ ∃ columns names,
      commaPlan.compile Catalog.builtin = .ok columns
        ∧ commaPlan.insertStatement columns
          = "INSERT INTO " ++ "typed" ++ " (" ++ names ++ ")\n" ++ commaPlan.selectStatement columns
        ∧ (items .top names.toList).length = 2 := by
  have read : ofYaml commaText = .ok commaPlan := by decide +kernel
  have compiled : ∃ columns, commaPlan.compile Catalog.builtin = .ok columns := ⟨_, rfl⟩
  obtain ⟨columns, compiled⟩ := compiled
  obtain ⟨aligned, -, -, names, text, each⟩ := statements_aligned read compiled
  exact ⟨read, columns, names, compiled, text, each.length_eq.symm.trans aligned.length_eq.symm⟩

end Plan

end ColumnCast
