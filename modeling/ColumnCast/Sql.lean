/-!
# `ColumnCast.Sql`: quoted text and cast expressions

The SQL this library writes is an `Expr` first and text second:
`Expr.render` is the only place where an expression becomes characters.
Text that comes from outside (a column name, an option, a recognizer, a
template) enters an expression as data and is quoted on the way out, by
`quoteLiteral` or `quoteIdent`, which write every quote mark twice.

A cascade is a chain of `Expr.arm`s: each holds its condition, its
result and what follows when the condition does not hold. The chain
renders as one `CASE WHEN … THEN … ELSE … END`; with no arm at all,
what is left is the `ELSE` part alone.
-/

set_option autoImplicit false

namespace ColumnCast.Sql

/-! ### Quoting -/

/-- The text with every `mark` written twice. -/
def doubled (mark : Char) : List Char → List Char
  | [] => []
  | c :: rest => if c = mark then mark :: mark :: doubled mark rest else c :: doubled mark rest

/-- The text between two marks, every mark inside written twice. -/
def quoted (mark : Char) (text : String) : String :=
  String.ofList (mark :: (doubled mark text.toList ++ [mark]))

/-- A string literal. -/
def quoteLiteral (text : String) : String := quoted '\'' text

/-- A quoted identifier. -/
def quoteIdent (name : String) : String := quoted '"' name

/-- Comma-separated string literals, as they stand in `IN (…)`. -/
def literalList (texts : List String) : String :=
  ", ".intercalate (texts.map quoteLiteral)

/-! ### Regular expressions in SQL -/

/-- The characters that mean something in a regular expression. -/
def isMetacharacter (c : Char) : Bool := "\\.^$|?*+()[]\x7b\x7d".toList.contains c

/-- The text with a backslash before each metacharacter. -/
def escaped (text : List Char) : List Char :=
  text.flatMap fun c => if isMetacharacter c then ['\\', c] else [c]

/-- A regular expression that matches exactly `text`. -/
def escapeRegex (text : String) : String := String.ofList (escaped text.toList)

/-- A recognizer made to span the whole value. -/
def anchor (pattern : String) : String := "^" ++ pattern ++ "$"

/-! ### Expressions -/

/-- The types a value is cast to. -/
inductive Target
  | varchar (limit : UInt32)
  | decimal
  | bigint
  | integer
  | time
  | text
  deriving DecidableEq, Repr

/-- The name of a type, as it stands after `AS`. -/
def Target.render : Target → String
  | varchar limit => "VARCHAR(" ++ toString limit.toNat ++ ")"
  | decimal => "DECIMAL"
  | bigint => "BIGINT"
  | integer => "INTEGER"
  | time => "TIME"
  | text => "TEXT"

/-- How many matches are replaced. -/
inductive Scope
  | first
  | all
  deriving DecidableEq, Repr

/-- The constants of an `IN (…)` list. -/
inductive Choices
  | texts (items : List String)
  | numbers (items : List Int)
  deriving DecidableEq, Repr

/-- The list between the parentheses of `IN (…)`. -/
def Choices.render : Choices → String
  | texts items => literalList items
  | numbers items => ", ".intercalate (items.map toString)

/-- A SQL expression over one source expression. -/
inductive Expr
  /-- SQL text given from outside, written as it is. -/
  | source (sql : String)
  /-- The number bound by the enclosing `withNumber`. -/
  | number
  | null
  /-- The `ELSE` part of a cascade that has none: `NULL`, without text. -/
  | noElse
  | truth (holds : Bool)
  | text (value : String)
  | cast (value : Expr) (target : Target)
  /-- `NULL` for the empty text, else the text. -/
  | nullIfEmpty (value : Expr)
  /-- Matches of `pattern` turned into `replacement`. -/
  | replace (value : Expr) (pattern replacement : String) (scope : Scope)
  /-- The value, or the bound it lies beyond. -/
  | saturate (value : Expr) (low high : Int)
  /-- Does the rounded value lie between the bounds? -/
  | roundsWithin (value : Expr) (low high : Int)
  | isNull (value : Expr)
  | either (left right : Expr)
  | memberOf (value : Expr) (choices : Choices)
  /-- Does the recognizer match the whole value? -/
  | recognized (value : Expr) (pattern : String)
  | toDate (value : Expr) (template : String)
  | toTimestamp (value : Expr) (template : String)
  /-- The seconds since midnight of a time. -/
  | epoch (value : Expr)
  /-- `result` where `condition` holds, else `otherwise`. -/
  | arm (condition result otherwise : Expr)
  /-- `body` with `value`, evaluated once, as its number. -/
  | withNumber (value body : Expr)
  /-- The parts of a delimited list that the pattern matches, joined again. -/
  | keptParts (value : Expr) (delimiter pattern : String)
  deriving DecidableEq, Repr

namespace Expr

mutual

/-- The SQL text of an expression. -/
def render : Expr → String
  | source sql => sql
  | number => "__number.__value"
  | null => "NULL"
  | noElse => ""
  | truth holds => if holds then "TRUE" else "FALSE"
  | text value => quoteLiteral value
  | cast value target => "CAST(" ++ value.render ++ " AS " ++ target.render ++ ")"
  | nullIfEmpty value => "NULLIF(" ++ value.render ++ ", '')"
  | replace value pattern replacement scope =>
    "REGEXP_REPLACE(" ++ value.render ++ ", " ++ quoteLiteral pattern ++ ", "
      ++ quoteLiteral replacement
      ++ (match scope with | .first => ")" | .all => ", 'g')")
  | saturate value low high =>
    "LEAST(GREATEST(" ++ value.render ++ ", " ++ toString low ++ "), " ++ toString high ++ ")"
  | roundsWithin value low high =>
    "ROUND(" ++ value.render ++ ") BETWEEN " ++ toString low ++ " AND " ++ toString high
  | isNull value => value.render ++ " IS NULL"
  | either left right => left.render ++ " OR " ++ right.render
  | memberOf value choices => value.render ++ " IN (" ++ choices.render ++ ")"
  | recognized value pattern => value.render ++ " ~ " ++ quoteLiteral (anchor pattern)
  | toDate value template => "TO_DATE(" ++ value.render ++ ", " ++ quoteLiteral template ++ ")"
  | toTimestamp value template =>
    "TO_TIMESTAMP(" ++ value.render ++ ", " ++ quoteLiteral template ++ ")"
  | epoch value => "EXTRACT(EPOCH FROM " ++ value.render ++ ")"
  | arm condition result otherwise =>
    "CASE WHEN " ++ condition.render ++ " THEN " ++ result.render ++ otherwise.renderArms
  | withNumber value body =>
    "(SELECT " ++ body.render ++ " FROM (SELECT " ++ value.render
      ++ " AS __value) AS __number)"
  | keptParts value delimiter pattern =>
    "ARRAY_TO_STRING(ARRAY(SELECT __segment.__value FROM UNNEST(STRING_TO_ARRAY("
      ++ value.render ++ ", " ++ quoteLiteral delimiter
      ++ ")) WITH ORDINALITY AS __segment(__value, __ordinal) WHERE __segment.__value ~ "
      ++ quoteLiteral pattern ++ " ORDER BY __segment.__ordinal), "
      ++ quoteLiteral delimiter ++ ")"

/-- What follows the result of an arm: the next arm, or the end of the cascade. -/
def renderArms : Expr → String
  | arm condition result otherwise =>
    " WHEN " ++ condition.render ++ " THEN " ++ result.render ++ otherwise.renderArms
  | noElse => " END"
  | last => " ELSE " ++ last.render ++ " END"

end

@[simp]
theorem render_source (sql : String) : (source sql).render = sql := by
  rw [render]

/-- The cascade of the arms in order, `NULL` when none applies. -/
def cascade (arms : List (Expr × Expr)) : Expr :=
  arms.foldr (fun (condition, result) otherwise => arm condition result otherwise) null

end Expr

/-- The test that a recognizer matches all of `source`. -/
def regexMatch (source pattern : String) : String :=
  (Expr.recognized (.source source) pattern).render

/-- The cascade of condition and result texts, in order. -/
def caseCascade (arms : List (String × String)) : String :=
  (Expr.cascade (arms.map fun (condition, result) => (.source condition, .source result))).render

end ColumnCast.Sql
