import ColumnCast.Proofs.Sql.Reader

/-!
# `ColumnCast.Proofs.Sql.Rendering`: expressions are read as they are meant

Each form of expression that is written with `Expr.render` is read back
as one term of the grammar. `WritesOperand` and `WritesValue` say so of a
text; the lemmas build them up as `render` builds up the text, from that
of the source on. Quoted names and literals, the usual sources, are
operands for every text they may hold.
-/

set_option autoImplicit false

namespace ColumnCast.Sql

/-- The text is read as one operand wherever it stands between blanks, commas or parentheses. -/
def WritesOperand (text : String) (t : Term) : Prop :=
  ∃ ts, Scans text.toList ts ∧ IsOperand ts t

/-- The text is read as one operand or comparison wherever it stands between keywords, commas
or parentheses. -/
def WritesValue (text : String) (t : Term) : Prop :=
  ∃ ts, Scans text.toList ts ∧ IsValue ts t

theorem WritesOperand.value {text : String} {t : Term} (h : WritesOperand text t) :
    WritesValue text t := by
  obtain ⟨ts, scans, operand⟩ := h
  exact ⟨ts, scans, operand.isValue⟩

/-- A text that writes a value is read as that value. -/
theorem WritesValue.read?_eq {text : String} {t : Term} (h : WritesValue text t) :
    read? text = some t := by
  obtain ⟨ts, scans, value⟩ := h
  exact Sql.read?_eq scans value

/-! ### Constants, names and sources -/

theorem writesOperand_quoteLiteral (text : String) :
    WritesOperand (quoteLiteral text) (.text text) :=
  ⟨_, scans_quoteLiteral text, isOperand_literal text⟩

theorem writesOperand_quoteIdent (name : String) :
    WritesOperand (quoteIdent name) (.column [name]) :=
  ⟨_, scans_quoteIdent name, isOperand_name name⟩

theorem WritesOperand.source {sql : String} {t : Term} (h : WritesOperand sql t) :
    WritesOperand (Expr.source sql).render t := by
  rwa [Expr.render_source]

theorem writesOperand_null : WritesOperand Expr.null.render .null := by
  rw [Expr.render]
  exact ⟨[.word "null".toList], by decide, isOperand_null⟩

theorem writesOperand_truth (holds : Bool) :
    WritesOperand (Expr.truth holds).render (.truth holds) := by
  rw [Expr.render]
  cases holds
  · exact ⟨[.word "false".toList], by decide, isOperand_truth (by decide)⟩
  · exact ⟨[.word "true".toList], by decide, isOperand_truth (by decide)⟩

/-! ### Casts -/

/-- The tokens of a type. -/
def Target.tokens : Target → List Token
  | varchar limit => [.word "varchar".toList, .symbol '(', .number limit.toNat, .symbol ')']
  | decimal => [.word "decimal".toList]
  | bigint => [.word "bigint".toList]
  | integer => [.word "integer".toList]
  | time => [.word "time".toList]
  | text => [.word "text".toList]

theorem scans_target (target : Target) : Scans target.render.toList target.tokens := by
  cases target with
  | varchar limit =>
      have opening : Closed "VARCHAR(".toList [.word "varchar".toList, .symbol '('] := by decide
      have closing : Closed ")".toList [.symbol ')'] := by decide
      rw [Target.render, String.toList_append, String.toList_append, List.append_assoc]
      exact opening.append ((scans_toString _).append closing.scans (by decide))
  | decimal | bigint | integer | time | text => decide

/-- A type is known by its tokens. -/
theorem target?_tokens (target : Target) (more : List Token) :
    target? (target.tokens ++ .symbol ')' :: more) = some (target, .symbol ')' :: more) := by
  cases target with
  | varchar limit =>
      have fits : limit.toNat < UInt32.size := limit.toNat_lt
      simp [Target.tokens, target?, fits]
  | decimal | bigint | integer | time | text => rfl

theorem writesOperand_cast {value : Expr} {t : Term} (h : WritesValue value.render t)
    (target : Target) : WritesOperand (value.cast target).render (.cast t target) := by
  obtain ⟨ts, scans, isValue⟩ := h
  refine ⟨_, ?_, isOperand_cast isValue (target?_tokens target)⟩
  have opening : Closed "CAST(".toList [.word "cast".toList, .symbol '('] := by decide
  have middle : Closed " AS ".toList [.word "as".toList] := by decide
  have closing : Closed ")".toList [.symbol ')'] := by decide
  simp only [Expr.render, String.toList_append, List.append_assoc]
  exact opening.append (scans.between middle (by decide)
    ((scans_target target).append closing.scans (by decide)))

theorem writesOperand_epoch {value : Expr} {t : Term} (h : WritesValue value.render t) :
    WritesOperand value.epoch.render (.epoch t) := by
  obtain ⟨ts, scans, isValue⟩ := h
  refine ⟨_, ?_, isOperand_epoch isValue⟩
  have opening : Closed "EXTRACT(EPOCH FROM ".toList [.word "extract".toList, .symbol '(',
      .word "epoch".toList, .word "from".toList] := by decide
  have closing : Closed ")".toList [.symbol ')'] := by decide
  simp only [Expr.render, String.toList_append, List.append_assoc]
  exact opening.append (scans.append closing.scans (by decide))

/-! ### Calls -/

/-- A call of a function with two arguments. -/
theorem writesOperand_call {name : String} (letters : List Char) {f : Function}
    (opening : Closed name.toList [.word letters, .symbol '('])
    (leads : leadingWords.lookup letters = some (.call f)) {first second : String} {t u : Term}
    (h : WritesValue first t) (h' : WritesValue second u) :
    WritesOperand (name ++ first ++ ", " ++ second ++ ")") (.call f [t, u]) := by
  obtain ⟨ts, scans, isValue⟩ := h
  obtain ⟨us, scans', isValue'⟩ := h'
  have comma : Closed ", ".toList [.symbol ','] := by decide
  have closing : Closed ")".toList [.symbol ')'] := by decide
  have call := isOperand_call leads (List.cons_ne_nil (ts, t) [(us, u)])
    (by simpa using ⟨isValue, isValue'⟩)
  refine ⟨_, ?_, call⟩
  simp only [String.toList_append, List.append_assoc, List.map_cons, List.map_nil,
    List.intercalate_cons_cons, List.intercalate_singleton]
  exact opening.append (scans.between comma (by decide)
    (scans'.append closing.scans (by decide)))

/-- The empty text is quoted as every text is. -/
theorem Expr.render_nullIfEmpty (value : Expr) :
    value.nullIfEmpty.render = "NULLIF(" ++ value.render ++ ", " ++ quoteLiteral "" ++ ")" := by
  rw [Expr.render, ← String.toList_inj]
  simp [quoteLiteral, quoted, doubled]

theorem writesOperand_nullIfEmpty {value : Expr} {t : Term} (h : WritesValue value.render t) :
    WritesOperand value.nullIfEmpty.render (.call .nullIf [t, .text ""]) := by
  rw [Expr.render_nullIfEmpty]
  exact writesOperand_call "nullif".toList (by decide) (by decide) h
    (writesOperand_quoteLiteral "").value

theorem writesOperand_toDate {value : Expr} {t : Term} (h : WritesValue value.render t)
    (template : String) :
    WritesOperand (value.toDate template).render (.call .toDate [t, .text template]) := by
  rw [Expr.render]
  exact writesOperand_call "to_date".toList (by decide) (by decide) h
    (writesOperand_quoteLiteral template).value

theorem writesOperand_toTimestamp {value : Expr} {t : Term} (h : WritesValue value.render t)
    (template : String) :
    WritesOperand (value.toTimestamp template).render (.call .toTimestamp [t, .text template]) := by
  rw [Expr.render]
  exact writesOperand_call "to_timestamp".toList (by decide) (by decide) h
    (writesOperand_quoteLiteral template).value

/-! ### Comparisons -/

theorem writesValue_recognized {value : Expr} {t : Term} (h : WritesOperand value.render t)
    (pattern : String) :
    WritesValue (value.recognized pattern).render (.like t (.text (anchor pattern))) := by
  obtain ⟨ts, scans, operand⟩ := h
  have middle : Closed " ~ ".toList [.symbol '~'] := by decide
  refine ⟨_, ?_, isValue_like operand (isOperand_literal (anchor pattern))⟩
  simp only [Expr.render, String.toList_append, List.append_assoc]
  exact scans.between middle (by decide) (scans_quoteLiteral _)

/-- A list of literals is as many tokens with commas between. -/
theorem scans_literalList {texts : List String} (inhabited : texts ≠ []) :
    Scans (literalList texts).toList
      ([Token.symbol ','].intercalate (texts.map fun text => [Token.literal text])) := by
  have comma : Closed ", ".toList [.symbol ','] := by decide
  unfold literalList
  rw [String.toList_intercalate]
  induction texts with
  | nil => exact absurd rfl inhabited
  | cons text texts ih =>
      cases texts with
      | nil =>
          simp only [List.map_cons, List.map_nil, List.intercalate_singleton]
          exact scans_quoteLiteral text
      | cons next texts =>
          have rest := ih (List.cons_ne_nil _ _)
          simp only [List.map_cons, List.intercalate_cons_cons, List.append_assoc] at rest ⊢
          exact (scans_quoteLiteral text).between comma (by decide) rest

theorem writesValue_memberOf {value : Expr} {t : Term} (h : WritesOperand value.render t)
    {texts : List String} (inhabited : texts ≠ []) :
    WritesValue (value.memberOf (.texts texts)).render (.memberOf t (texts.map .text)) := by
  obtain ⟨ts, scans, operand⟩ := h
  have opening : Closed " IN (".toList [.word "in".toList, .symbol '('] := by decide
  have closing : Closed ")".toList [.symbol ')'] := by decide
  have notNil : (texts.map fun text => ([Token.literal text], Term.text text)) ≠ [] := by
    simpa using inhabited
  have items := isValue_memberOf operand notNil fun a mem => by
    obtain ⟨text, -, rfl⟩ := List.mem_map.mp mem
    exact isOperand_literal text
  simp only [List.map_map, Function.comp_def] at items
  refine ⟨_, ?_, items⟩
  simp only [Expr.render, Choices.render, String.toList_append, List.append_assoc]
  exact scans.between opening (by decide)
    ((scans_literalList inhabited).append closing.scans (by decide))

/-! ### Cascades -/

section Cascade

/-- What follows the result of an arm begins with a blank. -/
theorem breaks_renderArms (e : Expr) : Breaks e.renderArms.toList := by
  cases e
  all_goals
    simp only [Expr.renderArms, String.toList_append]
    exact (by decide : Mode.StopsAt ' ')

theorem render_cascade_cons (arm : Expr × Expr) (arms : List (Expr × Expr)) :
    (Expr.cascade (arm :: arms)).render = "CASE" ++ (Expr.cascade (arm :: arms)).renderArms := by
  simp only [Expr.cascade, List.foldr_cons, Expr.render, Expr.renderArms, ← String.append_assoc]
  rfl

variable {α : Type} {items : List α} {expr : α → Expr × Expr} {term : α → Term × Term}

/-- The arms of a cascade and its end, read one arm after the other. -/
theorem exists_arms (h : ∀ a ∈ items, WritesValue (expr a).1.render (term a).1
      ∧ WritesValue (expr a).2.render (term a).2) :
    ∃ arms : List Arm, arms.map Arm.terms = items.map term
      ∧ (∀ arm ∈ arms, IsValue arm.condition.1 arm.condition.2
        ∧ IsValue arm.result.1 arm.result.2)
      ∧ Scans (Expr.cascade (items.map expr)).renderArms.toList
        (arms.flatMap Arm.tokens
          ++ [.word "else".toList, .word "null".toList, .word "end".toList]) := by
  induction items with
  | nil =>
      refine ⟨[], rfl, fun _ mem => absurd mem List.not_mem_nil, ?_⟩
      simp only [Expr.cascade, List.map_nil, List.foldr_nil, Expr.renderArms, Expr.render]
      decide
  | cons a items ih =>
      obtain ⟨arms, terms, values, scans⟩ := ih fun b mem => h b (List.mem_cons_of_mem _ mem)
      obtain ⟨⟨ts, scansCondition, isCondition⟩, us, scansResult, isResult⟩ :=
        h a List.mem_cons_self
      have opening : Closed " WHEN ".toList [.word "when".toList] := by decide
      have middle : Closed " THEN ".toList [.word "then".toList] := by decide
      refine ⟨⟨(ts, (term a).1), (us, (term a).2)⟩ :: arms, ?_, fun arm mem => ?_, ?_⟩
      · rw [List.map_cons, List.map_cons, terms]
        rfl
      · rcases List.mem_cons.mp mem with rfl | mem
        · exact ⟨isCondition, isResult⟩
        · exact values arm mem
      · have text : (Expr.cascade ((a :: items).map expr)).renderArms.toList
            = " WHEN ".toList ++ ((expr a).1.render.toList ++ (" THEN ".toList
              ++ ((expr a).2.render.toList
                ++ (Expr.cascade (items.map expr)).renderArms.toList))) := by
          simp only [Expr.cascade, List.map_cons, List.foldr_cons, Expr.renderArms,
            String.toList_append, List.append_assoc]
        have all := opening.append (scansCondition.between middle (by decide)
          (scansResult.append scans (breaks_renderArms _)))
        rw [text]
        simpa [Arm.tokens, armTokens] using all

variable (expr term) in
/-- **A cascade is read as its arms**, in their order. -/
theorem writesOperand_cascade (inhabited : items ≠ [])
    (h : ∀ a ∈ items, WritesValue (expr a).1.render (term a).1
      ∧ WritesValue (expr a).2.render (term a).2) :
    WritesOperand (Expr.cascade (items.map expr)).render (.case (items.map term) .null) := by
  obtain ⟨arms, terms, values, scans⟩ := exists_arms h
  obtain ⟨a, more, rfl⟩ := List.exists_cons_of_ne_nil inhabited
  have notNil : arms ≠ [] := by
    rintro rfl
    exact absurd terms (by simp)
  have opening : Scans "CASE".toList [.word "case".toList] := by decide
  have operand := isOperand_case notNil values isOperand_null.isValue
  rw [terms] at operand
  refine ⟨_, ?_, operand⟩
  rw [List.map_cons, render_cascade_cons, String.toList_append, ← List.map_cons]
  exact opening.append scans (breaks_renderArms _)

end Cascade

/-! ### Parts of a list -/

/-- The columns of the rows that a list is taken apart into. -/
def segmentValue : Term := .column ["__segment", "__value"]

def segmentOrdinal : Term := .column ["__segment", "__ordinal"]

/-- The list taken apart at the delimiter, without the parts that do not match, in one text
again. -/
def keptParts (value : Term) (delimiter pattern : String) : Term :=
  .call .arrayToString
    [.array segmentValue (.call .stringToArray [value, .text delimiter]) "__segment" "__value"
      "__ordinal" (.like segmentValue (.text pattern)) segmentOrdinal, .text delimiter]

/-- The tokens in front of the list. -/
def partsFront : List Token :=
  [.word "array_to_string".toList, .symbol '(', .word "array".toList, .symbol '(',
    .word "select".toList, .word "__segment".toList, .symbol '.', .word "__value".toList,
    .word "from".toList, .word "unnest".toList, .symbol '(', .word "string_to_array".toList,
    .symbol '(']

/-- The tokens between the delimiter and the pattern. -/
def partsRows : List Token :=
  [.symbol ')', .symbol ')', .word "with".toList, .word "ordinality".toList, .word "as".toList,
    .word "__segment".toList, .symbol '(', .word "__value".toList, .symbol ',',
    .word "__ordinal".toList, .symbol ')', .word "where".toList, .word "__segment".toList,
    .symbol '.', .word "__value".toList, .symbol '~']

/-- The tokens between the pattern and the delimiter. -/
def partsOrder : List Token :=
  [.word "order".toList, .word "by".toList, .word "__segment".toList, .symbol '.',
    .word "__ordinal".toList, .symbol ')', .symbol ',']

theorem closed_partsFront : Closed
    "ARRAY_TO_STRING(ARRAY(SELECT __segment.__value FROM UNNEST(STRING_TO_ARRAY(".toList
    partsFront := by decide

theorem closed_partsRows : Closed
    ")) WITH ORDINALITY AS __segment(__value, __ordinal) WHERE __segment.__value ~ ".toList
    partsRows := by decide

theorem closed_partsOrder : Closed " ORDER BY __segment.__ordinal), ".toList partsOrder := by decide

theorem writesOperand_keptParts {value : Expr} {t : Term} (h : WritesValue value.render t)
    (delimiter pattern : String) :
    WritesOperand (value.keptParts delimiter pattern).render (keptParts t delimiter pattern) := by
  obtain ⟨ts, scans, isValue⟩ := h
  have leadsToArray : leadingWords.lookup "string_to_array".toList
      = some (.call .stringToArray) := by decide
  have leadsToString : leadingWords.lookup "array_to_string".toList
      = some (.call .arrayToString) := by decide
  have column (name : List Char) : IsOperand [.word "__segment".toList, .symbol '.', .word name]
      (.column ["__segment", String.ofList name]) := isOperand_path name (by decide)
  have rows := isOperand_call leadsToArray
    (List.cons_ne_nil (ts, t) [([.literal delimiter], .text delimiter)])
    (by simpa using ⟨isValue, (isOperand_literal delimiter).isValue⟩)
  have array := isOperand_array "__segment".toList "__value".toList "__ordinal".toList
    (column "__value".toList).isValue rows.isValue
    (isValue_like (column "__value".toList) (isOperand_literal pattern))
    (column "__ordinal".toList).isValue
  have call := isOperand_call leadsToString
    (List.cons_ne_nil (_, _) [([.literal delimiter], .text delimiter)])
    (by simpa using ⟨array.isValue, (isOperand_literal delimiter).isValue⟩)
  refine ⟨_, ?_, call⟩
  have comma : Closed ", ".toList [.symbol ','] := by decide
  have closing : Closed ")".toList [.symbol ')'] := by decide
  have all := closed_partsFront.append (scans.between comma (by decide)
    ((scans_quoteLiteral delimiter).between closed_partsRows (by decide)
      ((scans_quoteLiteral pattern).between closed_partsOrder (by decide)
        ((scans_quoteLiteral delimiter).append closing.scans (by decide)))))
  simp only [Expr.render, String.toList_append, List.append_assoc]
  simpa [partsFront, partsRows, partsOrder, arrayTokens, rowTokens, orderTokens] using all

end ColumnCast.Sql
