import ColumnCast.Proofs.Sql.Lexing

/-!
# `ColumnCast.Proofs.Sql.Items`: a list of expressions falls apart where it was put together

A list in a statement is divided at its commas, but not at those between
parentheses or quotation marks. `items` divides it so, one character at a
time; all it remembers is a `Spot`, how deep in parentheses and between
which marks a character stands.

`Spot.Keeps` is what the induction over expressions carries: read from
some depth, the text comes back to that depth, and has no comma at the
top on the way (`Expr.Quotes.keeps`). Texts with this property are the
items of the list that is made of them (`items_intercalate`).
-/

set_option autoImplicit false

namespace ColumnCast.Sql

/-! ### Dividing a list -/

/-- Where a character of a list stands: inside so many parentheses, and in a quotation that
its mark will end, if in any. -/
structure Spot where
  depth : Nat
  mark : Option Char
  deriving DecidableEq

namespace Spot

/-- Outside everything. -/
def top : Spot := ⟨0, none⟩

def step (spot : Spot) (c : Char) : Spot :=
  match spot.mark with
  -- A mark that is written twice ends the quotation and begins it again.
  | some mark => if c = mark then ⟨spot.depth, none⟩ else spot
  | none =>
    if isMark c then ⟨spot.depth, some c⟩
    else if c = '(' then ⟨spot.depth + 1, none⟩
    else if c = ')' then ⟨spot.depth - 1, none⟩
    else spot

/-- The spot behind a text. -/
def after (spot : Spot) : List Char → Spot
  | [] => spot
  | c :: rest => (spot.step c).after rest

/-- Has the text no comma outside everything? -/
def undivided (spot : Spot) : List Char → Bool
  | [] => true
  | c :: rest => !(c == ',' && spot == top) && (spot.step c).undivided rest

end Spot

/-- The parts of a text between the commas that stand outside everything. -/
def items (spot : Spot) : List Char → List (List Char)
  | [] => [[]]
  | c :: rest =>
    if c = ',' ∧ spot = Spot.top then [] :: items spot rest
    else (items (spot.step c) rest).modifyHead (c :: ·)

theorem items_append {spot : Spot} {u : List Char} (whole : spot.undivided u = true)
    (v : List Char) : items spot (u ++ v) = (items (spot.after u) v).modifyHead (u ++ ·) := by
  induction u generalizing spot with
  | nil => exact (List.modifyHead_id ▸ rfl)
  | cons c u ih =>
      rw [Spot.undivided, Bool.and_eq_true] at whole
      have inside : ¬ (c = ',' ∧ spot = Spot.top) := fun outside => by
        simp [outside.1, outside.2] at whole
      rw [List.cons_append, items, if_neg inside, ih whole.2, List.modifyHead_modifyHead]
      rfl

namespace Spot

/-- Read from the depth `before`, the text leads to the depth `behind`, and has no comma
outside everything. -/
structure Leads (before behind : Nat) (text : List Char) : Prop where
  after_eq : after ⟨before, none⟩ text = ⟨behind, none⟩
  whole : undivided ⟨before, none⟩ text = true

/-- From every depth the text leads back to it. -/
def Keeps (text : List Char) : Prop := ∀ depth, Leads depth depth text

theorem after_append (spot : Spot) (u v : List Char) :
    spot.after (u ++ v) = (spot.after u).after v := by
  induction u generalizing spot with
  | nil => rfl
  | cons c u ih => exact ih (spot.step c)

theorem undivided_append (spot : Spot) (u v : List Char) :
    spot.undivided (u ++ v) = (spot.undivided u && (spot.after u).undivided v) := by
  induction u generalizing spot with
  | nil => rfl
  | cons c u ih => rw [List.cons_append, undivided, ih, undivided, after, Bool.and_assoc]

section Compose

variable {a b c : Nat} {u v : List Char}

theorem Leads.append (first : Leads a b u) (second : Leads b c v) : Leads a c (u ++ v) where
  after_eq := by rw [after_append, first.after_eq, second.after_eq]
  whole := by rw [undivided_append, first.whole, first.after_eq, second.whole]; rfl

theorem Keeps.append (first : Keeps u) (second : Keeps v) : Keeps (u ++ v) := fun depth =>
  (first depth).append (second depth)

end Compose

/-! ### Texts that keep the depth -/

/-- How far up from its beginning a text without marks leads, if it begins so far up that it has
no comma at the bottom and closes nothing below it. -/
def climb (height : Nat) : List Char → Option Nat
  | [] => some height
  | c :: rest =>
    if isMark c then none
    else if c = '(' then climb (height + 1) rest
    else if height = 0 then if c = ')' ∨ c = ',' then none else climb 0 rest
    else climb (if c = ')' then height - 1 else height) rest

/-- What holds from the bottom up holds at every depth. -/
theorem leads_of_climb {a b : Nat} {text : List Char} (climbs : climb a text = some b)
    (depth : Nat) : Leads (depth + a) (depth + b) text := by
  induction text generalizing a with
  | nil =>
      obtain rfl := Option.some.inj climbs
      exact ⟨rfl, rfl⟩
  | cons c text ih =>
      rw [climb] at climbs
      split at climbs
      · exact absurd climbs (by simp)
      · rename_i noMark
        -- One character goes to another depth, and is no comma outside everything.
        have onward : ∀ {next : Nat}, climb next text = some b →
            step ⟨depth + a, none⟩ c = ⟨depth + next, none⟩ → (c = ',' → depth + a ≠ 0) →
            Leads (depth + a) (depth + b) (c :: text) := by
          intro next climbs goes inside
          have rest := ih climbs
          refine ⟨by rw [after, goes, rest.after_eq], ?_⟩
          have notDivided : ¬ (c = ',' ∧ (⟨depth + a, none⟩ : Spot) = top) := by
            rintro ⟨isComma, outside⟩
            exact inside isComma (congrArg Spot.depth outside)
          simpa [undivided, goes, rest.whole] using not_and_or.mp notDivided
        split at climbs
        · rename_i isOpen
          subst isOpen
          exact onward climbs rfl fun isComma => absurd isComma (by decide)
        · rename_i notOpen
          split at climbs
          · rename_i atBottom
            subst atBottom
            split at climbs
            · exact absurd climbs (by simp)
            · rename_i other
              rw [not_or] at other
              exact onward climbs (by simp [step, noMark, notOpen, other.1])
                fun isComma => absurd isComma other.2
          · rename_i above
            refine onward climbs ?_ fun _ => by omega
            by_cases isClose : c = ')'
            · subst isClose
              show (⟨depth + a - 1, none⟩ : Spot) = _
              rw [if_pos rfl, Nat.add_sub_assoc (by omega)]
            · simp [step, noMark, notOpen, isClose]

theorem keeps_of_climb {text : List Char} (climbs : climb 0 text = some 0) : Keeps text :=
  leads_of_climb climbs

/-- The characters that a list is divided by, or that hide a comma. -/
def isDivider (c : Char) : Bool := isMark c || c == '(' || c == ')' || c == ','

theorem keeps_of_plain {text : List Char} (plain : ∀ c ∈ text, isDivider c = false) :
    Keeps text := by
  refine keeps_of_climb ?_
  induction text with
  | nil => rfl
  | cons c text ih =>
      have noDivider := plain c List.mem_cons_self
      simp only [isDivider, Bool.or_eq_false_iff, beq_eq_false_iff_ne] at noDivider
      obtain ⟨⟨⟨noMark, notOpen⟩, notClose⟩, noComma⟩ := noDivider
      simp only [climb, noMark, notOpen, notClose, noComma, Bool.false_eq_true, or_self, if_false]
      exact ih fun d mem => plain d (List.mem_cons_of_mem _ mem)

/-- Between two marks nothing counts but the mark, and that is written twice. -/
theorem leads_doubled (mark : Mark) (depth : Nat) (text : List Char) :
    after ⟨depth, some mark.char⟩ (doubled mark.char text) = ⟨depth, some mark.char⟩
      ∧ undivided ⟨depth, some mark.char⟩ (doubled mark.char text) = true := by
  have again : step ⟨depth, none⟩ mark.char = ⟨depth, some mark.char⟩ := by cases mark <;> rfl
  have noComma : (mark.char == ',') = false := by cases mark <;> rfl
  induction text with
  | nil => exact ⟨rfl, rfl⟩
  | cons c text ih =>
      rw [doubled]
      split
      · have closed : step ⟨depth, some mark.char⟩ mark.char = ⟨depth, none⟩ := if_pos rfl
        simp only [after, undivided, closed, again, ih, noComma, Bool.false_and, Bool.not_false,
          Bool.and_self, and_self]
      · rename_i other
        have stays : step ⟨depth, some mark.char⟩ c = ⟨depth, some mark.char⟩ := if_neg other
        have hidden : ((⟨depth, some mark.char⟩ : Spot) == top) = false := by
          simp [top]
        simp only [after, undivided, stays, ih, hidden, Bool.and_false, Bool.not_false,
          Bool.and_self, and_self]

theorem keeps_quoted (mark : Mark) (text : String) : Keeps (quoted mark.char text).toList := by
  intro depth
  have opened : step ⟨depth, none⟩ mark.char = ⟨depth, some mark.char⟩ := by cases mark <;> rfl
  have closed : step ⟨depth, some mark.char⟩ mark.char = ⟨depth, none⟩ := if_pos rfl
  have noComma : (mark.char == ',') = false := by cases mark <;> rfl
  obtain ⟨inside, hidden⟩ := leads_doubled mark depth text.toList
  unfold quoted
  rw [String.toList_ofList]
  constructor
  · rw [after, opened, after_append, inside, after, closed, after]
  · rw [undivided, opened, undivided_append, inside, hidden, undivided, noComma]
    rfl

theorem keeps_literal (text : String) : Keeps (quoteLiteral text).toList :=
  keeps_quoted .single text

theorem keeps_ident (name : String) : Keeps (quoteIdent name).toList := keeps_quoted .double name

theorem keeps_toString (n : Nat) : Keeps (toString n).toList := by
  refine keeps_of_plain fun c mem => ?_
  have differs (d : Char) : d.isDigit = false → c ≠ d :=
    Text.ne_of_isDigit (Text.areDigits_toString n c mem)
  simp [isDivider, isMark, differs '\'' rfl, differs '"' rfl, differs '(' rfl, differs ')' rfl,
    differs ',' rfl]

theorem keeps_int (n : Int) : Keeps (toString n).toList := by
  cases n with
  | ofNat n => exact keeps_toString n
  | negSucc n =>
      rw [toList_toString_negSucc]
      exact (keeps_of_climb (by decide)).append (keeps_toString (n + 1))

/-- Within parentheses a comma divides nothing. -/
theorem leads_comma (depth : Nat) : Leads (depth + 1) (depth + 1) ", ".toList :=
  leads_of_climb (by decide) depth

/-- The end of a call. -/
theorem leads_close (depth : Nat) : Leads (depth + 1) depth ")".toList :=
  leads_of_climb (a := 1) (b := 0) (by decide) depth

theorem leads_separated {α : Type} {text : α → String} (depth : Nat) {list : List α}
    (each : ∀ a ∈ list, Keeps (text a).toList) :
    Leads (depth + 1) (depth + 1) (", ".intercalate (list.map text)).toList := by
  rw [String.toList_intercalate]
  induction list with
  | nil => exact ⟨rfl, rfl⟩
  | cons a list ih =>
      have first := each a List.mem_cons_self (depth + 1)
      cases list with
      | nil => simpa using first
      | cons b list =>
          have rest := ih fun c mem => each c (List.mem_cons_of_mem _ mem)
          simp only [List.map_cons, List.intercalate_cons_cons, List.append_assoc] at rest ⊢
          exact first.append ((leads_comma depth).append rest)

theorem keeps_target (target : Target) : Keeps target.render.toList := by
  cases target with
  | varchar limit =>
      intro depth
      have opening : Leads depth (depth + 1) "VARCHAR(".toList :=
        leads_of_climb (a := 0) (by decide) depth
      rw [Target.render, String.toList_append, String.toList_append]
      exact (opening.append (keeps_toString _ _)).append (leads_close depth)
  | decimal | bigint | integer | time | text => exact keeps_of_climb (by decide)

end Spot

/-! ### Expressions -/

namespace Expr

open Spot (Keeps Leads leads_comma leads_of_climb keeps_of_climb)

section Forms

variable {value : Expr} {depth : Nat} {name content : String}

/-- A call with two arguments, the second of them a literal. -/
theorem leads_call (h : Keeps value.render.toList) (opening : Leads depth (depth + 1) name.toList) :
    Leads depth depth (name ++ value.render ++ ", " ++ quoteLiteral content ++ ")").toList := by
  simp only [String.toList_append]
  exact (((opening.append (h _)).append (leads_comma _)).append (Spot.keeps_literal _ _)).append
    (Spot.leads_close depth)

theorem keeps_cast (h : Keeps value.render.toList) (target : Target) :
    Keeps (value.cast target).render.toList := by
  intro depth
  have opening : Leads depth (depth + 1) "CAST(".toList := leads_of_climb (a := 0) (by decide) depth
  have word : Keeps " AS ".toList := keeps_of_climb (by decide)
  rw [render]
  simp only [String.toList_append]
  exact (((opening.append (h _)).append (word _)).append (Spot.keeps_target target _)).append
    (Spot.leads_close depth)

theorem keeps_nullIfEmpty (h : Keeps value.render.toList) :
    Keeps value.nullIfEmpty.render.toList := by
  intro depth
  rw [render_nullIfEmpty]
  exact leads_call h (leads_of_climb (a := 0) (by decide) depth)

theorem keeps_replace (h : Keeps value.render.toList) (pattern replacement : String)
    (scope : Scope) : Keeps (value.replace pattern replacement scope).render.toList := by
  intro depth
  have opening : Leads depth (depth + 1) "REGEXP_REPLACE(".toList :=
    leads_of_climb (a := 0) (by decide) depth
  have arguments := (((opening.append (h _)).append (leads_comma _)).append
    (Spot.keeps_literal pattern _)).append (leads_comma _)
  have replaced := arguments.append (Spot.keeps_literal replacement _)
  cases scope with
  | first =>
      rw [render, String.toList_append]
      simp only [String.toList_append]
      exact replaced.append (Spot.leads_close depth)
  | all =>
      have flagged : ", 'g')" = ", " ++ quoteLiteral "g" ++ ")" := by decide
      rw [render, flagged]
      simp only [String.toList_append]
      exact replaced.append
        (((leads_comma _).append (Spot.keeps_literal _ _)).append (Spot.leads_close depth))

theorem keeps_saturate (h : Keeps value.render.toList) (low high : Int) :
    Keeps (value.saturate low high).render.toList := by
  intro depth
  have opening : Leads depth (depth + 2) "LEAST(GREATEST(".toList :=
    leads_of_climb (a := 0) (by decide) depth
  have middle : Leads (depth + 2) (depth + 1) "), ".toList :=
    leads_of_climb (a := 2) (b := 1) (by decide) depth
  rw [render]
  simp only [String.toList_append]
  exact (((((opening.append (h _)).append (leads_comma _)).append (Spot.keeps_int low _)).append
    middle).append (Spot.keeps_int high _)).append (Spot.leads_close depth)

theorem keeps_roundsWithin (h : Keeps value.render.toList) (low high : Int) :
    Keeps (value.roundsWithin low high).render.toList := by
  intro depth
  have opening : Leads depth (depth + 1) "ROUND(".toList :=
    leads_of_climb (a := 0) (by decide) depth
  have middle : Leads (depth + 1) depth ") BETWEEN ".toList :=
    leads_of_climb (a := 1) (b := 0) (by decide) depth
  have word : Keeps " AND ".toList := keeps_of_climb (by decide)
  rw [render]
  simp only [String.toList_append]
  exact ((((opening.append (h _)).append middle).append (Spot.keeps_int low _)).append
    (word _)).append (Spot.keeps_int high _)

theorem keeps_memberOf (h : Keeps value.render.toList) (choices : Choices) :
    Keeps (value.memberOf choices).render.toList := by
  intro depth
  have opening : Leads depth (depth + 1) " IN (".toList := leads_of_climb (a := 0) (by decide) depth
  have list : Leads (depth + 1) (depth + 1) choices.render.toList := by
    cases choices with
    | texts texts => exact Spot.leads_separated depth fun text _ => Spot.keeps_literal text
    | numbers numbers => exact Spot.leads_separated depth fun n _ => Spot.keeps_int n
  rw [render]
  simp only [String.toList_append]
  exact (((h depth).append opening).append list).append (Spot.leads_close depth)

theorem keeps_withNumber {body : Expr} (h : Keeps value.render.toList)
    (h' : Keeps body.render.toList) : Keeps (value.withNumber body).render.toList := by
  intro depth
  have opening : Leads depth (depth + 1) "(SELECT ".toList :=
    leads_of_climb (a := 0) (by decide) depth
  have middle : Leads (depth + 1) (depth + 2) " FROM (SELECT ".toList :=
    leads_of_climb (a := 1) (by decide) depth
  have closing : Leads (depth + 2) depth " AS __value) AS __number)".toList :=
    leads_of_climb (a := 2) (b := 0) (by decide) depth
  rw [render]
  simp only [String.toList_append]
  exact (((opening.append (h' _)).append middle).append (h _)).append closing

theorem keeps_keptParts (h : Keeps value.render.toList) (delimiter pattern : String) :
    Keeps (value.keptParts delimiter pattern).render.toList := by
  intro depth
  have front : Leads depth (depth + 4)
      "ARRAY_TO_STRING(ARRAY(SELECT __segment.__value FROM UNNEST(STRING_TO_ARRAY(".toList :=
      leads_of_climb (a := 0) (by decide) depth
  have rows : Leads (depth + 4) (depth + 2)
      ")) WITH ORDINALITY AS __segment(__value, __ordinal) WHERE __segment.__value ~ ".toList :=
    leads_of_climb (a := 4) (b := 2) (by decide) depth
  have order : Leads (depth + 2) (depth + 1) " ORDER BY __segment.__ordinal), ".toList :=
    leads_of_climb (a := 2) (by decide) depth
  rw [render]
  simp only [String.toList_append]
  exact (((((((front.append (h _)).append (leads_comma _)).append
    (Spot.keeps_literal delimiter _)).append rows).append (Spot.keeps_literal pattern _)).append
    order).append (Spot.keeps_literal delimiter _)).append (Spot.leads_close depth)

/-- Behind its first keyword a cascade is as it is behind another arm. -/
theorem keeps_arms {front : String} {condition result otherwise : Expr}
    (isFront : Keeps front.toList) (isCondition : Keeps condition.render.toList)
    (isResult : Keeps result.render.toList) (isOtherwise : Keeps otherwise.renderArms.toList) :
    Keeps (front ++ condition.render ++ " THEN " ++ result.render
      ++ otherwise.renderArms).toList := by
  simp only [String.toList_append]
  exact (((isFront.append isCondition).append (keeps_of_climb (by decide))).append
    isResult).append isOtherwise

end Forms

/-- **No expression has a comma outside its parentheses and quotations**, and it closes all that
it opens. -/
theorem Quotes.keeps {column : String} {allowed : String → Prop} {e : Expr}
    (quotes : e.Quotes column allowed) :
    Keeps e.render.toList ∧ Keeps e.renderArms.toList := by
  -- What ends a cascade is the expression itself between two words.
  have last : ∀ {e : Expr}, e.isLast = true → Keeps e.render.toList →
      Keeps e.render.toList ∧ Keeps e.renderArms.toList := by
    intro e isLast keeps
    refine ⟨keeps, ?_⟩
    rw [(renderArms_of_isLast isLast).1]
    simp only [String.toList_append]
    exact ((keeps_of_climb (by decide)).append keeps).append (keeps_of_climb (by decide))
  induction e with
  | source sql =>
      obtain rfl : sql = quoteIdent column := quotes
      refine last rfl ?_
      rw [render_source]
      exact Spot.keeps_ident column
  | number | null =>
      refine last rfl ?_
      rw [render]
      exact keeps_of_climb (by decide)
  | truth holds =>
      refine last rfl ?_
      rw [render]
      cases holds <;> exact keeps_of_climb (by decide)
  | noElse =>
      constructor
      · rw [render]
        exact keeps_of_climb (by decide)
      · rw [renderArms]
        exact keeps_of_climb (by decide)
  | text content =>
      refine last rfl ?_
      rw [render]
      exact Spot.keeps_literal content
  | cast value target ih => exact last rfl (keeps_cast (ih quotes).1 target)
  | nullIfEmpty value ih => exact last rfl (keeps_nullIfEmpty (ih quotes.1).1)
  | replace value pattern replacement scope ih =>
      exact last rfl (keeps_replace (ih quotes.1).1 pattern replacement scope)
  | saturate value low high ih => exact last rfl (keeps_saturate (ih quotes).1 low high)
  | roundsWithin value low high ih => exact last rfl (keeps_roundsWithin (ih quotes).1 low high)
  | isNull value ih =>
      refine last rfl ?_
      rw [render, String.toList_append]
      exact (ih quotes).1.append (keeps_of_climb (by decide))
  | either left right ihLeft ihRight =>
      refine last rfl ?_
      rw [render, String.toList_append, String.toList_append]
      exact ((ihLeft quotes.1).1.append (keeps_of_climb (by decide))).append (ihRight quotes.2).1
  | memberOf value choices ih =>
      cases choices with
      | texts texts => exact last rfl (keeps_memberOf (ih quotes.1).1 _)
      | numbers numbers => exact last rfl (keeps_memberOf (ih quotes).1 _)
  | recognized value pattern ih =>
      refine last rfl ?_
      rw [render, String.toList_append, String.toList_append]
      exact ((ih quotes.1).1.append (keeps_of_climb (by decide))).append (Spot.keeps_literal _)
  | toDate value template ih | toTimestamp value template ih =>
      refine last rfl fun depth => ?_
      rw [render]
      exact leads_call (ih quotes.1).1 (leads_of_climb (a := 0) (by decide) depth)
  | epoch value ih =>
      refine last rfl fun depth => ?_
      have opening : Leads depth (depth + 1) "EXTRACT(EPOCH FROM ".toList :=
        leads_of_climb (a := 0) (by decide) depth
      rw [render, String.toList_append, String.toList_append]
      exact (opening.append ((ih quotes).1 _)).append (Spot.leads_close depth)
  | arm condition result otherwise ihCondition ihResult ihOtherwise =>
      obtain ⟨isCondition, isResult, isOtherwise⟩ := quotes
      rw [render, renderArms]
      have isRest := (ihOtherwise isOtherwise).2
      constructor
      · exact keeps_arms (keeps_of_climb (by decide)) (ihCondition isCondition).1
          (ihResult isResult).1 isRest
      · exact keeps_arms (keeps_of_climb (by decide)) (ihCondition isCondition).1
          (ihResult isResult).1 isRest
  | withNumber value body ihValue ihBody =>
      exact last rfl (keeps_withNumber (ihValue quotes.1).1 (ihBody quotes.2).1)
  | keptParts value delimiter pattern ih =>
      exact last rfl (keeps_keptParts (ih quotes.1).1 delimiter pattern)

end Expr

/-! ### Lists -/

/-- **A list falls apart into the texts that it was made of**; what stands between a comma and
the next text goes with that. -/
theorem items_intercalate {gap : List Char} (isGap : Spot.Keeps gap)
    {first : List Char} {others : List (List Char)}
    (keeps : ∀ text ∈ first :: others, Spot.Keeps text) :
    items .top ((',' :: gap).intercalate (first :: others))
      = first :: others.map (gap ++ ·) := by
  have isFirst := keeps first List.mem_cons_self 0
  induction others generalizing first with
  | nil =>
      have whole := items_append isFirst.whole []
      rw [isFirst.after_eq, List.append_nil] at whole
      show items ⟨0, none⟩ _ = _
      simpa [items] using whole
  | cons next others ih =>
      have isNext := keeps next (by simp) 0
      have rest := ih (fun text mem => keeps text (List.mem_cons_of_mem _ mem)) isNext
      rw [List.intercalate_cons_cons, List.append_assoc]
      show items ⟨0, none⟩ _ = _
      rw [items_append isFirst.whole, isFirst.after_eq, List.cons_append, items, if_pos ⟨rfl, rfl⟩]
      show _ :: items ⟨0, none⟩ (gap ++ _) = _
      rw [items_append (isGap 0).whole, (isGap 0).after_eq]
      show _ :: (items .top _).modifyHead _ = _
      rw [rest]
      simp

end ColumnCast.Sql
