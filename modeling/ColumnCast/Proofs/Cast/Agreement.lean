import ColumnCast.Cast
import ColumnCast.Catalog.Builtin
import ColumnCast.Proofs.Cast.Selection
import ColumnCast.Proofs.Sql.Locality
import ColumnCast.Proofs.Sql.Parts

/-!
# `ColumnCast.Proofs.Cast.Agreement`: the database and the preview agree

A request is carried out twice: in the database, by the expression it is
compiled to, and here, cell by cell. `Agrees` says of one cell that both
come to the same: the text of the expression is read by the grammar, the
term that is read has a value, and it is what the cell is worth here.

The source is text from outside. It is assumed to be an operand whose
value is the cell, as a quoted column is.
-/

set_option autoImplicit false

namespace ColumnCast.CastRequest

/-- What the request makes of the cell here is what its expression is worth in a row where the
columns have these values. -/
def Agrees (catalog : Catalog) (request : CastRequest) (columns : Sql.Columns) (cell : String) :
    Prop :=
  ∃ expr term value datum, request.compile catalog = .ok expr
    ∧ Sql.read? expr.render = some term
    ∧ request.coerce catalog cell = .ok value
    ∧ Sql.Datum.ofCell? value = some datum
    ∧ Sql.evaluate term columns = some datum

section Terms

variable {catalog : Catalog} {request : CastRequest} {columns : Sql.Columns} {cell : String}
  {source : Sql.Expr} {t : Sql.Term}

open Sql

/-! ### Texts -/

theorem evaluate_truncated (raw : evaluate t columns = some (.text cell)) (limit : UInt32) :
    evaluate (.cast t (.varchar limit)) columns = some (.text (truncated limit cell)) := by
  rw [evaluate, raw]
  · rfl
  · simp

/-! ### Checkboxes -/

/-- The words of either state. -/
def checkboxWords : List (List String × Bool) :=
  [(Checkbox.checked, true), (Checkbox.unchecked, false)]

/-- The arm of a list of words. -/
def wordsArm (t : Term) (words : List String × Bool) : Term × Term :=
  (.memberOf t (words.1.map .text), .truth words.2)

theorem writesOperand_checkbox (h : WritesOperand source.render t) :
    WritesOperand (Checkbox.cast source).render
      (.case (checkboxWords.map (wordsArm t)) .null) := by
  have arms : ∀ words ∈ checkboxWords,
      WritesValue (source.memberOf (.texts words.1)).render (wordsArm t words).1
        ∧ WritesValue (Expr.truth words.2).render (wordsArm t words).2 := by
    intro words mem
    have inhabited : words.1 ≠ [] := by
      revert words
      decide
    exact ⟨writesValue_memberOf h inhabited, (writesOperand_truth words.2).value⟩
  have expr : Checkbox.cast source = .cascade (checkboxWords.map fun words =>
      (source.memberOf (.texts words.1), .truth words.2)) := rfl
  rw [expr]
  exact writesOperand_cascade _ _ (List.cons_ne_nil _ _) arms

theorem evaluate_checkbox (raw : evaluate t columns = some (.text cell)) :
    ∃ datum, Datum.ofCell? ((Checkbox.read? cell).map .boolean) = some datum
      ∧ evaluate (.case (checkboxWords.map (wordsArm t)) .null) columns = some datum := by
  simp only [checkboxWords, List.map_cons, List.map_nil, wordsArm]
  rw [evaluate, evaluateArms_cons (evaluate_memberOf_texts raw Checkbox.checked),
    evaluateArms_cons (evaluate_memberOf_texts raw Checkbox.unchecked), Checkbox.read?]
  cases Checkbox.checked.contains cell with
  | true => exact ⟨.truth true, rfl, evaluate_truth true columns⟩
  | false =>
      cases Checkbox.unchecked.contains cell with
      | true => exact ⟨.truth false, rfl, evaluate_truth false columns⟩
      | false => exact ⟨.null, rfl, evaluate_null columns⟩

/-! ### Selects -/

theorem writesOperand_single (h : WritesOperand source.render t) {options : List String}
    (inhabited : options ≠ []) :
    WritesOperand (Select.castSingle source options).render
      (.case [(.memberOf t (options.map .text), t)] .null) := by
  have arms : ∀ choices ∈ [options],
      WritesValue (source.memberOf (.texts choices)).render (.memberOf t (choices.map .text))
        ∧ WritesValue source.render t := by
    intro choices mem
    obtain rfl := List.mem_singleton.mp mem
    exact ⟨writesValue_memberOf h inhabited, h.value⟩
  have cascade := writesOperand_cascade
    (fun choices => (source.memberOf (.texts choices), source))
    (fun choices => (.memberOf t (choices.map .text), t)) (List.cons_ne_nil _ _) arms
  rw [List.map_singleton, List.map_singleton] at cascade
  simpa only [Select.castSingle, List.isEmpty_iff, inhabited, if_false] using cascade

theorem evaluate_single (raw : evaluate t columns = some (.text cell)) (options : List String) :
    ∃ datum, Datum.ofCell? ((Select.readSingle? options cell).map .text) = some datum
      ∧ evaluate (.case [(.memberOf t (options.map .text), t)] .null) columns = some datum := by
  rw [evaluate, evaluateArms_cons (evaluate_memberOf_texts raw options), raw, Select.readSingle?]
  cases options.contains cell with
  | true => exact ⟨.text cell, rfl, rfl⟩
  | false => exact ⟨.null, rfl, rfl⟩

theorem writesOperand_multi (h : WritesOperand source.render t) {options : List String}
    (inhabited : options ≠ []) :
    WritesOperand (Select.castMulti source options).render
      (.call .nullIf [keptParts t (String.singleton Select.delimiter)
        (Select.optionPattern options), .text ""]) := by
  have kept := writesOperand_keptParts h.value (String.singleton Select.delimiter)
    (Select.optionPattern options)
  simpa only [Select.castMulti, List.isEmpty_iff, inhabited, if_false]
    using writesOperand_nullIfEmpty kept.value

/-- The empty text is no list for the database, and one empty part here; nothing is kept of
either. -/
theorem intercalate_choices (options : List String) (cell : String) :
    (String.singleton Select.delimiter).intercalate
        ((Datum.elements cell Select.delimiter).filter options.contains)
      = String.ofList (Text.joinWith Select.delimiter (Select.choices options cell)) := by
  rw [Select.choices, Text.splitOn_eq, Text.joinWith_eq, ← String.toList_inj,
    String.toList_intercalate, String.toList_ofList, Datum.elements]
  split
  · rename_i empty
    subst empty
    by_cases member : "" ∈ options <;> simp [member]
  · rw [List.filter_map, List.map_map]
    simp [Function.comp_def]

theorem evaluate_multi (raw : evaluate t columns = some (.text cell)) {options : List String}
    (inhabited : options ≠ []) :
    ∃ datum, Datum.ofCell? ((Select.readMulti? options cell).map .text) = some datum
      ∧ evaluate (.call .nullIf [keptParts t (String.singleton Select.delimiter)
          (Select.optionPattern options), .text ""]) columns = some datum := by
  obtain ⟨nested, known, matching⟩ := Select.isMatch_optionPattern inhabited
  have kept := evaluate_keptParts known raw Select.delimiter
  rw [funext matching, intercalate_choices] at kept
  rw [evaluate, evaluateAll, kept, evaluateAll, evaluate_text, evaluateAll, Select.readMulti?]
  generalize String.ofList (Text.joinWith Select.delimiter (Select.choices options cell)) = text
  by_cases empty : text = ""
  · subst empty
    exact ⟨.null, rfl, rfl⟩
  · refine ⟨.text text, by simp [empty, Datum.ofCell?], ?_⟩
    simp [Datum.apply, Datum.equals, empty]

end Terms

/-! ### Requests -/

section Requests

variable {catalog : Catalog} {request : CastRequest} {columns : Sql.Columns} {cell : String}
  {t : Sql.Term}

theorem agrees_intro {expr : Sql.Expr} {term : Sql.Term} {value : Option Value}
    (compiled : request.compile catalog = .ok expr) (writes : Sql.WritesOperand expr.render term)
    (coerced : request.coerce catalog cell = .ok value)
    (worth : ∃ datum, Sql.Datum.ofCell? value = some datum
      ∧ Sql.evaluate term columns = some datum) : request.Agrees catalog columns cell := by
  obtain ⟨datum, here, there⟩ := worth
  exact ⟨expr, term, value, datum, compiled, writes.value.read?_eq, coerced, here, there⟩

section Kinds

variable (catalog) (limit : request.checkLimit = .ok ())
  (source : Sql.WritesOperand request.source t) (raw : Sql.evaluate t columns = some (.text cell))

include limit source raw

theorem agrees_of_text (kind : request.type.category = .text) :
    request.Agrees catalog columns cell := by
  have compiled : request.compile catalog
      = .ok (.cast (.source request.source) (.varchar request.textLimit)) := by
    unfold compile
    rw [limit]
    cases type : request.type
    all_goals first
      | rfl
      | simp [type, SemanticType.category] at kind
  have coerced : request.coerce catalog cell
      = .ok (some (.text (truncated request.textLimit cell))) := by
    unfold coerce
    rw [limit]
    cases type : request.type
    all_goals first
      | rfl
      | simp [type, SemanticType.category] at kind
  exact agrees_intro compiled (Sql.writesOperand_cast source.source.value _) coerced
    ⟨_, rfl, evaluate_truncated raw request.textLimit⟩

theorem agrees_of_checkbox (kind : request.type = .checkbox) :
    request.Agrees catalog columns cell := by
  have compiled : request.compile catalog = .ok (Checkbox.cast (.source request.source)) := by
    unfold compile
    rw [limit, kind]
    rfl
  have coerced : request.coerce catalog cell = .ok ((Checkbox.read? cell).map .boolean) := by
    unfold coerce
    rw [limit, kind]
    rfl
  exact agrees_intro compiled (writesOperand_checkbox source.source) coerced
    (evaluate_checkbox raw)

theorem agrees_of_singleSelect (kind : request.type = .singleSelect) :
    request.Agrees catalog columns cell := by
  have compiled : request.compile catalog
      = .ok (Select.castSingle (.source request.source) request.options) := by
    unfold compile
    rw [limit, kind]
    rfl
  have coerced := coerce_singleSelect catalog kind cell
  by_cases inhabited : request.options = []
  · rw [inhabited] at compiled coerced
    exact agrees_intro compiled Sql.writesOperand_null coerced
      ⟨.null, rfl, Sql.evaluate_null columns⟩
  · exact agrees_intro compiled (writesOperand_single source.source inhabited) coerced
      (evaluate_single raw request.options)

theorem agrees_of_multiSelect (kind : request.type = .multiSelect) :
    request.Agrees catalog columns cell := by
  have compiled : request.compile catalog
      = .ok (Select.castMulti (.source request.source) request.options) := by
    unfold compile
    rw [limit, kind]
    rfl
  have coerced := coerce_multiSelect catalog kind cell
  by_cases inhabited : request.options = []
  · have nothing : Select.readMulti? [] cell = none := by
      simp [Select.readMulti?, Select.choices, Text.joinWith]
    rw [inhabited] at compiled coerced
    rw [nothing] at coerced
    exact agrees_intro compiled Sql.writesOperand_null coerced
      ⟨.null, rfl, Sql.evaluate_null columns⟩
  · exact agrees_intro compiled (writesOperand_multi source.source inhabited) coerced
      (evaluate_multi raw inhabited)

end Kinds

/-- **The database and the preview agree** on texts, checkboxes and selects: for every cell, every
list of options and every limit that is allowed. -/
theorem evaluate_compile_eq_coerce (catalog : Catalog) {request : CastRequest}
    (kind : request.type.category ∈ [Category.text, .logical, .enumerated])
    (limit : request.checkLimit = .ok ()) {columns : Sql.Columns} {cell : String} {t : Sql.Term}
    (source : Sql.readOperand? request.source = some t)
    (raw : Sql.evaluate t columns = some (.text cell)) : request.Agrees catalog columns cell := by
  have source := Sql.writesOperand_iff.mpr source
  cases type : request.type
  case checkbox => exact agrees_of_checkbox catalog limit source raw type
  case singleSelect => exact agrees_of_singleSelect catalog limit source raw type
  case multiSelect => exact agrees_of_multiSelect catalog limit source raw type
  case longText | singleLineText | email | phoneNumber | url =>
    exact agrees_of_text catalog limit source raw (by rw [type]; rfl)
  all_goals simp [type, SemanticType.category] at kind

/-- A list with a quote mark in one option and a bar in another. -/
theorem evaluate_compile_tags :
    CastRequest.Agrees Catalog.builtin
      { type := .multiSelect, source := "\"tags\"", options := ["it's", "a|b", ""] }
      (fun path => if path = ["tags"] then some (.text "a|b,?,it's") else none) "a|b,?,it's" :=
  evaluate_compile_eq_coerce Catalog.builtin (by decide) rfl
    (Sql.writesOperand_iff.mp (Sql.writesOperand_quoteIdent "tags"))
    (by rw [Sql.evaluate, if_pos rfl])

end Requests

end ColumnCast.CastRequest
