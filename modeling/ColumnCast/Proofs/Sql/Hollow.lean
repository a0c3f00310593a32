import ColumnCast.Proofs.Sql.Lexing

/-!
# `ColumnCast.Proofs.Sql.Hollow`: expressions without their texts

`Token.hollow` forgets what stands between quotation marks, `Expr.hollow`
the texts that an expression holds. What is left of the tokens depends on
what is left of the expression (`Expr.Quotes.hollow_tokens`): two
expressions that differ in their texts alone have the same tokens but for
these texts.
-/

set_option autoImplicit false

namespace ColumnCast.Sql

/-- The token without the text it holds. -/
def Token.hollow : Token → Token
  | name _ => name ""
  | literal _ => literal ""
  | t => t

namespace Expr

/-- The expression with no text left in it. -/
def hollow : Expr → Expr
  | source _ => source (quoteIdent "")
  | number => number
  | null => null
  | noElse => noElse
  | truth holds => truth holds
  | text _ => text ""
  | cast value target => cast value.hollow target
  | nullIfEmpty value => nullIfEmpty value.hollow
  | replace value _ _ scope => replace value.hollow "" "" scope
  | saturate value low high => saturate value.hollow low high
  | roundsWithin value low high => roundsWithin value.hollow low high
  | isNull value => isNull value.hollow
  | either left right => either left.hollow right.hollow
  | memberOf value (.texts items) => memberOf value.hollow (.texts (items.map fun _ => ""))
  | memberOf value (.numbers items) => memberOf value.hollow (.numbers items)
  | recognized value _ => recognized value.hollow ""
  | toDate value _ => toDate value.hollow ""
  | toTimestamp value _ => toTimestamp value.hollow ""
  | epoch value => epoch value.hollow
  | arm condition result otherwise => arm condition.hollow result.hollow otherwise.hollow
  | withNumber value body => withNumber value.hollow body.hollow
  | keptParts value _ _ => keptParts value.hollow "" ""

/-- It keeps its place in a cascade. -/
theorem isLast_hollow (e : Expr) : e.hollow.isLast = e.isLast := by
  cases e
  case memberOf value choices => cases choices <;> rfl
  all_goals rfl

/-- A list of literals is known by its length. -/
theorem hollow_literals (items : List String) :
    ([Token.symbol ','].intercalate ((items.map fun _ => "").map fun text => [.literal text])).map
        Token.hollow
      = ([Token.symbol ','].intercalate (items.map fun text => [.literal text])).map
        Token.hollow := by
  induction items with
  | nil => rfl
  | cons item items ih =>
      cases items with
      | nil => simp [Token.hollow]
      | cons next items =>
          simp only [List.map_cons, List.intercalate_cons_cons, List.map_append] at ih ⊢
          rw [ih]
          rfl

/-- **The tokens without their texts are those of the expression without its texts.** -/
theorem Quotes.hollow_tokens {column : String} {allowed : String → Prop} {e : Expr}
    (quotes : e.Quotes column allowed) :
    e.hollow.tokens.map Token.hollow = e.tokens.map Token.hollow
      ∧ e.hollow.armTokens.map Token.hollow = e.armTokens.map Token.hollow := by
  -- Behind the last `ELSE` stands the expression itself, between the same two words.
  have last : ∀ {e : Expr}, e.isLast = true →
      e.hollow.tokens.map Token.hollow = e.tokens.map Token.hollow →
      e.hollow.tokens.map Token.hollow = e.tokens.map Token.hollow
        ∧ e.hollow.armTokens.map Token.hollow = e.armTokens.map Token.hollow := by
    intro e isLast same
    refine ⟨same, ?_⟩
    rw [(renderArms_of_isLast isLast).2,
      (renderArms_of_isLast ((isLast_hollow e).trans isLast)).2]
    simp only [List.map_append, same]
  induction e with
  | source sql =>
      obtain rfl : sql = quoteIdent column := quotes
      have scans : ∀ name, tokens? (quoteIdent name).toList = some [.name name] := scans_quoteIdent
      refine last rfl ?_
      simp only [hollow, tokens, scans]
      rfl
  | number | null | truth => exact last rfl rfl
  | text content =>
      refine last rfl ?_
      simp only [hollow, tokens]
      rfl
  | noElse => exact ⟨rfl, rfl⟩
  | cast value _ ih | saturate value _ _ ih | roundsWithin value _ _ ih | isNull value ih
  | epoch value ih =>
      refine last rfl ?_
      simp only [hollow, tokens, List.map_append, (ih quotes).1]
  | nullIfEmpty value ih =>
      refine last rfl ?_
      simp only [hollow, tokens, List.map_append, (ih quotes.1).1]
  | recognized value _ ih | toDate value _ ih | toTimestamp value _ ih | keptParts value _ _ ih =>
      refine last rfl ?_
      simp only [hollow, tokens, List.map_append, (ih quotes.1).1]
      rfl
  | replace value pattern replacement scope ih =>
      refine last rfl ?_
      cases scope <;> simp only [hollow, tokens, List.map_append, (ih quotes.1).1] <;> rfl
  | either left right ihLeft ihRight =>
      refine last rfl ?_
      simp only [hollow, tokens, List.map_append, (ihLeft quotes.1).1, (ihRight quotes.2).1]
  | memberOf value choices ih =>
      refine last rfl ?_
      cases choices with
      | texts items =>
          simp only [hollow, tokens, Choices.tokens, List.map_append, (ih quotes.1).1,
            hollow_literals]
      | numbers items => simp only [hollow, tokens, List.map_append, (ih quotes).1]
  | arm condition result otherwise ihCondition ihResult ihOtherwise =>
      obtain ⟨isCondition, isResult, isOtherwise⟩ := quotes
      constructor
      · simp only [hollow, tokens, List.map_append, (ihCondition isCondition).1,
          (ihResult isResult).1, (ihOtherwise isOtherwise).2]
      · simp only [hollow, armTokens, List.map_append, (ihCondition isCondition).1,
          (ihResult isResult).1, (ihOtherwise isOtherwise).2]
  | withNumber value body ihValue ihBody =>
      refine last rfl ?_
      simp only [hollow, tokens, List.map_append, (ihValue quotes.1).1, (ihBody quotes.2).1]

theorem hollow_cascade (arms : List (Expr × Expr)) :
    (cascade arms).hollow = cascade (arms.map fun a => (a.1.hollow, a.2.hollow)) := by
  induction arms with
  | nil => rfl
  | cons a arms ih => exact congrArg (arm a.1.hollow a.2.hollow) ih

end Expr

end ColumnCast.Sql
