import ColumnCast.Plan
import ColumnCast.Proofs.Cast.Cascade
import ColumnCast.Proofs.Sql.Hollow

/-!
# `ColumnCast.Proofs.Cast.Quotation`: text from outside stays quoted

The name of a column, its options and the formats of a catalog are text
from outside, and all of it is written into one expression. In the tokens
of that expression, those of SQL, each such text is the content of one
literal or name (`Literal`), and nothing else depends on it.

`quotes_of_compile` goes through the types once and says which texts the
expression of a column holds; that its text is scanned to tokens with
these contents is then a fact about expressions (`Sql.Expr.Quotes.lexed`).
`hollow_of_compile` goes through them for two columns at once: where type,
limit, number of options and number of formats agree, only contents differ.
-/

set_option autoImplicit false

namespace ColumnCast

open Sql (quoteIdent anchor Expr)

/-! ### Which texts an expression holds -/

/-- The literals that take a number from its text. -/
def Numeral.literals : List String :=
  ["", "g", ".", marker, "\\.", "\\1" ++ marker, noisePattern, separatorPattern]

/-- The literals that stand in expressions whatever comes from outside. -/
def fixedLiterals : List String :=
  String.singleton Select.delimiter :: Numeral.literals
    ++ (Checkbox.checked ++ Checkbox.unchecked)

/-- The contents of the literals in the expression of a column. -/
inductive Literal (type : SemanticType) (options : List String) (formats : List Format) :
    String → Prop
  | fixed {text : String} : text ∈ fixedLiterals → Literal type options formats text
  | option {text : String} : text ∈ options → Literal type options formats text
  | optionPattern : Literal type options formats (Select.optionPattern options)
  | token {format : Format} : format ∈ formats → Literal type options formats format.token
  | recognizer {format : Format} :
    format ∈ formats → Literal type options formats (anchor format.pattern)
  | seconds : type = .duration → Literal type options formats (anchor Temporal.secondsPattern)

section Quotes

variable {column : String} {allowed : String → Prop}

theorem quotes_source : (Expr.source (quoteIdent column)).Quotes column allowed := rfl

/-- Each of the four replacements has fixed patterns. -/
theorem quotes_extract {value : Expr} (isValue : value.Quotes column allowed)
    (fixed : ∀ text ∈ Numeral.literals, allowed text) :
    (Numeral.extract value).Quotes column allowed := by
  have replaces : ∀ {value : Expr} {pattern replacement : String} {scope : Sql.Scope},
      value.Quotes column allowed → pattern ∈ Numeral.literals →
      replacement ∈ Numeral.literals →
      (value.replace pattern replacement scope).Quotes column allowed :=
    fun isValue isPattern isReplacement =>
      ⟨isValue, fixed _ isPattern, fixed _ isReplacement, fun _ => fixed "g" (by decide)⟩
  refine ⟨?_, fixed "" (by decide)⟩
  refine replaces (replaces (replaces (replaces isValue ?_ ?_) ?_ ?_) ?_ ?_) ?_ ?_
  all_goals decide

/-- The arms of formats hold their patterns, and what `value` makes of their tokens. -/
theorem quotes_arms {source : Expr} {value : String → Expr} {formats : List Format}
    (isSource : source.Quotes column allowed)
    (isValue : ∀ format ∈ formats, (value format.token).Quotes column allowed)
    (isPattern : ∀ format ∈ formats, allowed (anchor format.pattern)) :
    ∀ a ∈ Temporal.arms source value formats,
      a.1.Quotes column allowed ∧ a.2.Quotes column allowed := by
  intro a mem
  obtain ⟨format, inside, rfl⟩ := List.mem_map.mp mem
  exact ⟨⟨isSource, isPattern format inside⟩, isValue format inside⟩

end Quotes

namespace CastRequest

/-- The formats whose texts stand in the expression of a column: those that its cells are read
by, for a date with a time the combined ones. A duration may also be a time. -/
def formatsUsed (catalog : Catalog) (request : CastRequest) : Except CastError (List Format) :=
  if request.type = .duration then .ok catalog.times else request.formats catalog

variable {catalog : Catalog} {request : CastRequest} {column : String} {expr : Expr}

theorem formatsUsed_of_isMoment (kind : isMoment request.type) :
    request.formatsUsed catalog = request.formats catalog := by
  have notDuration : request.type ≠ .duration := by
    rcases kind with type | type | type <;> simp [type]
  rw [formatsUsed, if_neg notDuration]

/-- A column of dates, times or both has formats if it compiles, and its expression is their
cascade. -/
theorem exists_formats_of_compile (kind : isMoment request.type)
    (compiled : request.compile catalog = .ok expr) :
    ∃ formats, request.formats catalog = .ok formats
      ∧ expr = .cascade (Temporal.arms (.source request.source)
        (Temporal.valueExpr request.type (.source request.source)) formats) := by
  obtain ⟨⟨⟩, limit, -⟩ := bind_eq_ok_iff.mp compiled
  cases known : request.formats catalog with
  | ok formats =>
      refine ⟨formats, rfl, ?_⟩
      exact Except.ok.inj (compiled.symm.trans (compile_eq_cascade kind limit known))
  | error e =>
      have refused : request.compile catalog = .error e := by
        refine compile_eq_error_iff.mpr (Or.inr ⟨limit, ?_⟩)
        unfold CastRequest.formats at known
        rcases kind with type | type | type
        · rw [type] at known ⊢
          exact ⟨Or.inl rfl, known⟩
        · rw [type] at known ⊢
          exact ⟨Or.inr rfl, Catalog.dateTimeFormats_eq_error_iff.mp known⟩
        · rw [type] at known
          exact absurd known (by simp)
      exact absurd (compiled.symm.trans refused) (by simp)

theorem quotes_valueExpr {allowed : String → Prop} (type : SemanticType) {source : Expr}
    (isSource : source.Quotes column allowed) {token : String} (isToken : allowed token) :
    (Temporal.valueExpr type source token).Quotes column allowed := by
  unfold Temporal.valueExpr
  split <;> exact ⟨isSource, isToken⟩

/-- **The expression of a column holds its name, and no literals but the listed ones.** -/
theorem quotes_of_compile (source : request.source = quoteIdent column)
    (compiled : request.compile catalog = .ok expr) :
    ∃ formats, request.formatsUsed catalog = .ok formats
      ∧ expr.Quotes column (Literal request.type request.options formats) := by
  obtain ⟨type, sql, limit, dateFormat, options⟩ := request
  obtain rfl : sql = quoteIdent column := source
  by_cases kind : isMoment type
  · -- An arm for each format holds the texts of that format.
    obtain ⟨formats, known, rfl⟩ := exists_formats_of_compile kind compiled
    refine ⟨formats, (formatsUsed_of_isMoment kind).trans known, ?_⟩
    exact Expr.quotes_cascade (quotes_arms quotes_source
      (fun format inside => quotes_valueExpr _ quotes_source (.token inside))
      fun format inside => .recognizer inside)
  · -- The other types hold what is fixed, and their options.
    obtain ⟨⟨⟩, -, compiled⟩ := bind_eq_ok_iff.mp compiled
    have fixed : ∀ text ∈ fixedLiterals, Literal type options [] text := fun _ mem => .fixed mem
    have digits : (Numeral.extract (.source (quoteIdent column))).Quotes column
        (Literal type options []) :=
      quotes_extract rfl fun text mem =>
        fixed text (List.mem_cons_of_mem _ (List.mem_append_left _ mem))
    cases type
    case date | dateTime | time => exact absurd kind (by simp [isMoment])
    case duration =>
      obtain rfl := Except.ok.inj compiled
      refine ⟨catalog.times, rfl, Expr.quotes_cascade (List.forall_mem_cons.mpr ⟨?_, ?_⟩)⟩
      · exact ⟨⟨rfl, .seconds rfl⟩, rfl⟩
      · exact quotes_arms rfl (fun format inside => ⟨rfl, .token inside⟩)
          fun format inside => .recognizer inside
    all_goals
      obtain rfl := Except.ok.inj compiled
      refine ⟨[], rfl, ?_⟩
    case longText | singleLineText | email | phoneNumber | url => exact rfl
    case decimal | currency => exact digits
    case number => exact ⟨digits, trivial, trivial, trivial⟩
    case percent | rating => exact ⟨digits, trivial, digits⟩
    case year => exact ⟨⟨digits, digits⟩, trivial, digits⟩
    case checkbox =>
      refine Expr.quotes_cascade fun a mem => ?_
      have words : ∀ text ∈ Checkbox.checked ++ Checkbox.unchecked,
          Literal .checkbox options [] text := fun text mem =>
        fixed text (List.mem_append_right _ mem)
      rcases List.mem_pair.mp mem with rfl | rfl
      · exact ⟨⟨rfl, fun text mem => words text (List.mem_append_left _ mem)⟩, trivial⟩
      · exact ⟨⟨rfl, fun text mem => words text (List.mem_append_right _ mem)⟩, trivial⟩
    case singleSelect =>
      show (Select.castSingle _ options).Quotes column _
      unfold Select.castSingle
      split
      · exact trivial
      · exact ⟨⟨rfl, fun text mem => .option mem⟩, rfl, trivial⟩
    case multiSelect =>
      show (Select.castMulti _ options).Quotes column _
      unfold Select.castMulti
      split
      · exact trivial
      · exact ⟨⟨rfl, fixed _ (by decide), .optionPattern⟩, fixed "" (by decide)⟩

/-! ### What does not depend on the texts -/

/-- The texts of two columns may differ, and those of their formats. -/
structure SameShape (request request' : CastRequest) (formats formats' : List Format) :
    Prop where
  type : request.type = request'.type
  limit : request.limit = request'.limit
  options : request.options.length = request'.options.length
  formats : formats.length = formats'.length

/-- Without their texts the arms of formats are all alike. -/
theorem hollow_arms {source : Expr} {value : String → Expr} {blank : Expr}
    (isBlank : ∀ token, (value token).hollow = blank) (formats : List Format) :
    (Temporal.arms source value formats).map (fun a => (a.1.hollow, a.2.hollow))
      = List.replicate formats.length (.recognized source.hollow "", blank) := by
  unfold Temporal.arms
  rw [List.map_map, ← List.map_const']
  refine List.map_congr_left fun format _ => ?_
  show (_, (value format.token).hollow) = _
  rw [isBlank]
  rfl

theorem hollow_valueExpr (type : SemanticType) (source : Expr) (token : String) :
    (Temporal.valueExpr type source token).hollow = Temporal.valueExpr type source.hollow "" := by
  cases type <;> rfl

theorem isEmpty_of_length {options options' : List String}
    (same : options.length = options'.length) : options.isEmpty = options'.isEmpty := by
  rw [Bool.eq_iff_iff, List.isEmpty_iff_length_eq_zero, List.isEmpty_iff_length_eq_zero, same]

/-- **Columns of one shape have expressions that differ in their texts alone.** -/
theorem hollow_of_compile {catalog' : Catalog} {request' : CastRequest} {column' : String}
    {expr' : Expr} {formats formats' : List Format} (source : request.source = quoteIdent column)
    (compiled : request.compile catalog = .ok expr)
    (used : request.formatsUsed catalog = .ok formats)
    (source' : request'.source = quoteIdent column')
    (compiled' : request'.compile catalog' = .ok expr')
    (used' : request'.formatsUsed catalog' = .ok formats')
    (same : SameShape request request' formats formats') : expr.hollow = expr'.hollow := by
  obtain ⟨type, sql, limit, dateFormat, options⟩ := request
  obtain ⟨type', sql', limit', dateFormat', options'⟩ := request'
  obtain ⟨rfl, rfl, sameOptions, sameFormats⟩ := same
  obtain rfl : sql = quoteIdent column := source
  obtain rfl : sql' = quoteIdent column' := source'
  by_cases kind : isMoment type
  · obtain ⟨_, known, rfl⟩ := exists_formats_of_compile kind compiled
    obtain ⟨_, known', rfl⟩ := exists_formats_of_compile kind compiled'
    rw [formatsUsed_of_isMoment kind] at used used'
    obtain rfl := Except.ok.inj (known.symm.trans used)
    obtain rfl := Except.ok.inj (known'.symm.trans used')
    rw [Expr.hollow_cascade, Expr.hollow_cascade, hollow_arms (hollow_valueExpr type _),
      hollow_arms (hollow_valueExpr type _), sameFormats]
    rfl
  · obtain ⟨⟨⟩, -, compiled⟩ := bind_eq_ok_iff.mp compiled
    obtain ⟨⟨⟩, -, compiled'⟩ := bind_eq_ok_iff.mp compiled'
    cases type
    case date | dateTime | time => exact absurd kind (by simp [isMoment])
    -- What is fixed is the same in both, so only formats and options are left to be counted.
    all_goals
      obtain rfl := Except.ok.inj compiled
      obtain rfl := Except.ok.inj compiled'
    case duration =>
      have blank : ∀ column token,
          (Expr.epoch (Temporal.timeOf (.source (quoteIdent column)) token)).hollow
            = .epoch (Temporal.timeOf (.source (quoteIdent "")) "") := fun _ _ => rfl
      obtain rfl := Except.ok.inj used
      obtain rfl := Except.ok.inj used'
      show (Temporal.castDuration catalog _).hollow = (Temporal.castDuration catalog' _).hollow
      unfold Temporal.castDuration
      rw [Expr.hollow_cascade, Expr.hollow_cascade, List.map_cons, List.map_cons,
        hollow_arms (blank column), hollow_arms (blank column'), sameFormats]
      rfl
    case multiSelect =>
      show (Select.castMulti _ options).hollow = (Select.castMulti _ options').hollow
      unfold Select.castMulti
      rw [isEmpty_of_length sameOptions]
      split <;> rfl
    case singleSelect =>
      show (Select.castSingle _ options).hollow = (Select.castSingle _ options').hollow
      unfold Select.castSingle
      rw [isEmpty_of_length sameOptions]
      split
      · rfl
      · have counted : options.map (fun _ => "") = options'.map fun _ => "" := by
          rw [List.map_const', List.map_const', sameOptions]
        exact congrArg (fun texts => Expr.cascade
          [(.memberOf (.source (quoteIdent "")) (.texts texts), .source (quoteIdent ""))]) counted
    all_goals rfl

/-! ### The tokens of a column -/

/-- The text is scanned to the tokens; each quoted name among them is that of the column, each
literal is a listed one, and brackets are closed in the order in which they are opened. -/
structure Contained (plan : ColumnPlan) (type : SemanticType) (formats : List Format)
    (text : List Char) (ts : List Sql.Token) : Prop where
  scans : Sql.tokens? text = some ts
  /-- No literal has a prefix, and none stands directly behind another. -/
  opens : Sql.Mode.between.admitsAll text = true
  names : ∀ name, .name name ∈ ts → name = plan.name
  literals : ∀ content, .literal content ∈ ts → Literal type plan.options formats content
  symbols : ∀ c, .symbol c ∈ ts → c ∈ Sql.punctuation
  nests : Sql.openedBy [] ts = some []

variable {dateFormat : String} {plan : ColumnPlan}

/-- A column asks for its name and its options. -/
theorem eq_of_request (asked : plan.request dateFormat = .ok request) :
    request.source = quoteIdent plan.name ∧ request.options = plan.options := by
  unfold ColumnPlan.request CastRequest.ofName at asked
  cases named : SemanticType.ofName plan.typeName with
  | error e =>
      rw [named] at asked
      exact absurd asked (by simp [Except.map])
  | ok type =>
      rw [named] at asked
      obtain rfl := Except.ok.inj asked
      exact ⟨rfl, rfl⟩

theorem contained_of_compile (asked : plan.request dateFormat = .ok request)
    (compiled : request.compile catalog = .ok expr) :
    ∃ formats, request.formatsUsed catalog = .ok formats
      ∧ Contained plan request.type formats expr.render.toList expr.tokens := by
  obtain ⟨source, options⟩ := eq_of_request asked
  obtain ⟨formats, used, quotes⟩ := quotes_of_compile source compiled
  refine ⟨formats, used, ?_⟩
  have lexes := quotes.lexed.1 []
  rw [options] at lexes
  exact {
    scans := lexes.scans
    opens := lexes.opens
    names := fun name mem => lexes.origin _ mem
    literals := fun content mem => lexes.origin _ mem
    symbols := fun c mem => List.contains_iff_mem.mp (lexes.origin _ mem)
    nests := lexes.nests }

/-- **No text from outside leaves its quotes**: in the tokens of the expression of a column each
is the content of a name or a literal, and for columns of one shape nothing else differs. -/
theorem compile_contained {plan : ColumnPlan} {dateFormat : String} {catalog : Catalog}
    {request : CastRequest} {expr : Expr} (asked : plan.request dateFormat = .ok request)
    (compiled : request.compile catalog = .ok expr) :
    ∃ formats ts, request.formatsUsed catalog = .ok formats
      ∧ Contained plan request.type formats expr.render.toList ts
      ∧ ∀ (plan' : ColumnPlan) (dateFormat' : String) (catalog' : Catalog)
        (request' : CastRequest) (expr' : Expr) (formats' : List Format),
        plan'.request dateFormat' = .ok request' → request'.compile catalog' = .ok expr' →
        request'.formatsUsed catalog' = .ok formats' →
        SameShape request request' formats formats' →
        ∃ ts', Sql.tokens? expr'.render.toList = some ts'
          ∧ ts'.map Sql.Token.hollow = ts.map Sql.Token.hollow := by
  obtain ⟨formats, used, contained⟩ := contained_of_compile asked compiled
  refine ⟨formats, expr.tokens, used, contained, ?_⟩
  intro plan' dateFormat' catalog' request' expr' formats' asked' compiled' used' same
  obtain ⟨source, -⟩ := eq_of_request asked
  obtain ⟨source', -⟩ := eq_of_request asked'
  obtain ⟨_, -, contained'⟩ := contained_of_compile asked' compiled'
  obtain ⟨_, -, quotes⟩ := quotes_of_compile source compiled
  obtain ⟨_, -, quotes'⟩ := quotes_of_compile source' compiled'
  have hollow : expr.hollow = expr'.hollow :=
    hollow_of_compile source compiled used source' compiled' used' same
  refine ⟨expr'.tokens, contained'.scans, ?_⟩
  rw [← quotes.hollow_tokens.1, ← quotes'.hollow_tokens.1, hollow]

/-- Formats whose texts have quotation marks in them. -/
def markedCatalog : Catalog :=
  ⟨[("d", [⟨"DD' OR '", "[0-9'\"]+"⟩])], [⟨"HH24'", "'"⟩], by decide +kernel⟩

/-- A column whose name has them. -/
def markedPlan : ColumnPlan :=
  { name := "a\") FROM \"b'", typeName := "DateTime", dateFormat := some "d" }

theorem compile_contained_marks :
    ∃ request expr, markedPlan.request CastRequest.defaultDateFormat = .ok request
      ∧ request.compile markedCatalog = .ok expr
      ∧ ∃ formats ts, request.formatsUsed markedCatalog = .ok formats
        ∧ Contained markedPlan request.type formats expr.render.toList ts
        ∧ ∀ (plan' : ColumnPlan) (dateFormat' : String) (catalog' : Catalog)
          (request' : CastRequest) (expr' : Expr) (formats' : List Format),
          plan'.request dateFormat' = .ok request' → request'.compile catalog' = .ok expr' →
          request'.formatsUsed catalog' = .ok formats' →
          SameShape request request' formats formats' →
          ∃ ts', Sql.tokens? expr'.render.toList = some ts'
            ∧ ts'.map Sql.Token.hollow = ts.map Sql.Token.hollow :=
  ⟨_, _, rfl, rfl, compile_contained rfl rfl⟩

end CastRequest

end ColumnCast
