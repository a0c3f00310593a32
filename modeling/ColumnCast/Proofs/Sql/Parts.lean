import ColumnCast.Proofs.Sql.Evaluation
import ColumnCast.Proofs.Sql.Rendering

/-!
# `ColumnCast.Proofs.Sql.Parts`: texts in lists, and lists in texts

What two forms of expression are worth that choose among texts. `IN`
before literals is membership (`evaluate_memberOf_texts`). A delimited
list that is taken apart, filtered and put together again has exactly the
parts that the regular expression matches, in their order, although they
are sorted in between (`evaluate_keptParts`).
-/

set_option autoImplicit false

namespace ColumnCast.Sql

variable {columns : Columns}

/-! ### Membership -/

theorem evaluateAll_texts (texts : List String) :
    evaluateAll (texts.map .text) columns = some (texts.map .text) := by
  induction texts with
  | nil => rfl
  | cons text texts ih =>
      rw [List.map_cons, evaluateAll, evaluate, ih]
      rfl

theorem Datum.memberOf_texts (content : String) (texts : List String) :
    Datum.memberOf (.text content) (texts.map .text) = some (.truth (texts.contains content)) := by
  induction texts with
  | nil => rfl
  | cons text texts ih =>
      rw [List.map_cons, Datum.memberOf, ih, List.contains_cons]
      simp only [Datum.equals, Option.bind_eq_bind, Option.bind_some]
      cases content == text <;> cases texts.contains content <;> rfl

/-- **`IN` before literals is membership.** -/
theorem evaluate_memberOf_texts {t : Term} {content : String}
    (value : evaluate t columns = some (.text content)) (texts : List String) :
    evaluate (.memberOf t (texts.map .text)) columns
      = some (.truth (texts.contains content)) := by
  rw [evaluate, value, evaluateAll_texts]
  exact Datum.memberOf_texts content texts

/-! ### Parts of a list -/

section Rows

variable (keeps : String → Bool)

/-- The number and the element of a row that is kept. -/
def keptRow (row : String × Nat) : Option (Nat × String) :=
  if keeps row.1 then some (row.2, row.1) else none

theorem filterMap_keptRow (rows : List String) (start : Nat) :
    ((rows.zipIdx start).filterMap (keptRow keeps)).map Prod.snd = rows.filter keeps := by
  induction rows generalizing start with
  | nil => rfl
  | cons row rows ih =>
      rw [List.zipIdx_cons, List.filterMap_cons, List.filter_cons, keptRow]
      cases keeps row with
      | false => exact ih (start + 1)
      | true => exact congrArg (row :: ·) (ih (start + 1))

/-- The rows that are kept are in order already. -/
theorem pairwise_keptRow (rows : List String) (start : Nat) :
    ((rows.zipIdx start).filterMap (keptRow keeps)).Pairwise
      fun a b => decide (a.1 ≤ b.1) = true := by
  have numbered : (rows.zipIdx start).Pairwise fun a b => a.2 < b.2 := by
    rw [← List.pairwise_map, List.zipIdx_map_snd]
    exact List.pairwise_lt_range'
  refine List.pairwise_filterMap.mpr (numbered.imp fun {a b} before x foundA y foundB => ?_)
  obtain rfl := Option.some.inj (Option.ite_none_right_eq_some.mp foundA).2
  obtain rfl := Option.some.inj (Option.ite_none_right_eq_some.mp foundB).2
  exact decide_eq_true (Nat.le_of_lt before)

end Rows

section Segments

variable (row : String × Nat)

/-- The columns within a row of the parts. -/
abbrev Columns.withinSegment (columns : Columns) : Columns :=
  columns.within "__segment" "__value" "__ordinal" row

theorem evaluate_segmentValue :
    evaluate segmentValue (columns.withinSegment row) = some (.text row.1) := by
  rw [segmentValue, evaluate]
  exact if_pos rfl

theorem evaluate_segmentOrdinal :
    evaluate segmentOrdinal (columns.withinSegment row) = some (.ordinal row.2) := by
  rw [segmentOrdinal, evaluate]
  exact (if_neg (by decide)).trans (if_pos rfl)

end Segments

variable {pattern : String} {nested : Regex.Nested}

theorem evaluate_like (known : Regex.ofChars? pattern.toList = some nested) {t : Term}
    {content : String} (value : evaluate t columns = some (.text content)) :
    evaluate (.like t (.text pattern)) columns
      = some (.truth (nested.regex.isMatch content)) := by
  rw [evaluate, value, evaluate]
  simp only [Option.bind_eq_bind, Option.bind_some, Datum.like, known, Option.map_some]

/-- The rows that match, in their order. -/
theorem evaluate_array (known : Regex.ofChars? pattern.toList = some nested) {t : Term}
    {rows : List String} (value : evaluate t columns = some (.array rows)) :
    evaluate (.array segmentValue t "__segment" "__value" "__ordinal"
        (.like segmentValue (.text pattern)) segmentOrdinal) columns
      = some (.array (rows.filter nested.regex.isMatch)) := by
  have kept (row : String × Nat) : (do
      if (← evaluate (.like segmentValue (.text pattern)) (columns.withinSegment row))
          = .truth true then
        let key ← (← evaluate segmentOrdinal (columns.withinSegment row)).ordinal?
        let item ← (← evaluate segmentValue (columns.withinSegment row)).text?
        return some (key, item)
      else return none) = some (keptRow nested.regex.isMatch row) := by
    rw [evaluate_like known (evaluate_segmentValue row), evaluate_segmentValue,
      evaluate_segmentOrdinal, keptRow]
    cases nested.regex.isMatch row.1 <;> rfl
  rw [evaluate, value]
  simp only [Option.bind_eq_bind, Option.bind_some, Datum.elements?] at kept ⊢
  have mapped : (rows.zipIdx 1).mapM (fun row => some (keptRow nested.regex.isMatch row))
      = some ((rows.zipIdx 1).map (keptRow nested.regex.isMatch)) := List.mapM_pure
  simp only [kept, mapped, Option.bind_some]
  rw [List.filterMap_map, Function.id_comp, List.mergeSort_of_pairwise (pairwise_keptRow _ _ _),
    filterMap_keptRow]
  rfl

/-- **The parts that match, joined again.** -/
theorem evaluate_keptParts (known : Regex.ofChars? pattern.toList = some nested) {t : Term}
    {content : String} (value : evaluate t columns = some (.text content)) (delimiter : Char) :
    evaluate (keptParts t (String.singleton delimiter) pattern) columns
      = some (.text ((String.singleton delimiter).intercalate
          ((Datum.elements content delimiter).filter nested.regex.isMatch))) := by
  have single : (String.singleton delimiter).toList = [delimiter] := by simp
  have rows : evaluate (.call .stringToArray [t, .text (String.singleton delimiter)]) columns
      = some (.array (Datum.elements content delimiter)) := by
    rw [evaluate, evaluateAll, value, evaluateAll, evaluate, evaluateAll]
    simp only [Option.bind_eq_bind, Option.bind_some, Option.pure_def, Datum.apply, single]
  rw [keptParts, evaluate, evaluateAll, evaluate_array known rows, evaluateAll, evaluate,
    evaluateAll]
  rfl

end ColumnCast.Sql
