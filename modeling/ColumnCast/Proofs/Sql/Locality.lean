import ColumnCast.Proofs.Sql.Rendering

/-!
# `ColumnCast.Proofs.Sql.Locality`: operands on their own

A source is text from outside that is written into an expression as it
is. `readOperand?` reads it alone. What it reads there stays an operand
wherever the text stands: the grammar looks at no more than the next
token behind an operand, and more rounds change nothing
(`writesOperand_iff`).

`Extends` is what each rule of the grammar hands on from the rules it
is made of.
-/

set_option autoImplicit false

namespace ColumnCast.Sql

/-- What `p` reads `q` reads as well, with more tokens behind that what follows allows. -/
def Extends {α : Type} (p q : Parser α) (follow : List Token → Prop) : Prop :=
  ∀ ts a rest more, p ts = some (a, rest) → follow (rest ++ more) →
    q (ts ++ more) = some (a, rest ++ more)

/-- The term of a text that is one operand. -/
def readOperand? (text : String) : Option Term := do
  let ts ← tokens? text.toList
  match operand ts.length ts with
  | some (t, []) => some t
  | _ => none

section Tokens

variable {ts rest : List Token} (more : List Token)

theorem eq_of_symbol? {c : Char} (h : symbol? c ts = some rest) : ts = .symbol c :: rest := by
  unfold symbol? at h
  split at h
  · rename_i d us
    obtain ⟨rfl, eq⟩ := Option.ite_none_right_eq_some.mp h
    rw [Option.some.inj eq]
  · exact absurd h (by simp)

theorem eq_of_word? {keyword : String} (h : word? keyword ts = some rest) :
    ts = .word keyword.toList :: rest := by
  unfold word? at h
  split at h
  · rename_i letters us
    obtain ⟨rfl, eq⟩ := Option.ite_none_right_eq_some.mp h
    rw [Option.some.inj eq]
  · exact absurd h (by simp)

theorem name?_append {text : String} (h : name? ts = some (text, rest)) :
    name? (ts ++ more) = some (text, rest ++ more) := by
  unfold name? at h
  split at h
  · obtain ⟨rfl, rfl⟩ := Prod.mk.inj (Option.some.inj h)
    rfl
  · obtain ⟨rfl, rfl⟩ := Prod.mk.inj (Option.some.inj h)
    rfl
  · exact absurd h (by simp)

/-- Behind a type stands the end of the cast, so that nothing further is its limit. -/
theorem target?_append {target : Target}
    (h : target? ts = some (target, .symbol ')' :: rest)) :
    target? (ts ++ more) = some (target, .symbol ')' :: (rest ++ more)) := by
  unfold target? at h
  split at h
  · rename_i letters limit us
    obtain ⟨fits, eq⟩ := Option.ite_none_right_eq_some.mp h
    obtain ⟨rfl, rfl⟩ := Prod.mk.inj (Option.some.inj eq)
    simp [target?, fits]
  · rename_i letters us _
    obtain ⟨found, lookup, eq⟩ := Option.map_eq_some_iff.mp h
    obtain ⟨rfl, rfl⟩ := Prod.mk.inj eq
    simp [target?, lookup]
  · exact absurd h (by simp)

theorem points_append (ts : List Token) {more : List Token}
    (stop : NoPoint ((points ts).2 ++ more)) :
    points (ts ++ more) = ((points ts).1, (points ts).2 ++ more) := by
  induction ts using points.induct with
  | case1 text ts ih =>
      simp only [points, List.cons_append] at stop ⊢
      rw [ih stop]
  | case2 letters ts ih =>
      simp only [points, List.cons_append] at stop ⊢
      rw [ih stop]
  | case3 ts other other' =>
      have noPoint : points ts = ([], ts) := by
        unfold points
        split
        · exact absurd rfl (other _ _)
        · exact absurd rfl (other' _ _)
        · rfl
      rw [noPoint] at stop ⊢
      exact points_of_noPoint stop

end Tokens

namespace Extends

section Lists

variable {α : Type} {item item' : Parser α} {follow : List Token → Prop}

theorem separated (comma : ∀ more, follow (.symbol ',' :: more)) (h : Extends item item' follow)
    {n m : Nat} (le : n ≤ m) :
    Extends (Sql.separated item n) (Sql.separated item' m)
      (fun more => follow more ∧ symbol? ',' more = none) := by
  induction n generalizing m with
  | zero => exact fun ts a rest more read _ => absurd read (by simp [Sql.separated])
  | succ n ih =>
      obtain ⟨m, rfl⟩ := Nat.exists_eq_add_of_le' (Nat.le_trans (Nat.succ_pos _) le)
      rintro ts a rest more read ⟨stop, noComma⟩
      rw [Sql.separated] at read ⊢
      obtain ⟨⟨first, us⟩, readFirst, read⟩ := Option.bind_eq_some_iff.mp read
      cases found : symbol? ',' us with
      | none =>
          simp only [found, Option.pure_def, Option.some.injEq, Prod.mk.injEq] at read
          obtain ⟨rfl, rfl⟩ := read
          rw [h ts first us more readFirst stop]
          simp [noComma]
      | some vs =>
          obtain rfl := eq_of_symbol? found
          simp only [found] at read
          obtain ⟨⟨others, ws⟩, readOthers, read⟩ := Option.bind_eq_some_iff.mp read
          obtain ⟨rfl, rfl⟩ := Prod.mk.inj (Option.some.inj read)
          rw [h ts first _ more readFirst (comma _)]
          have tail := ih (Nat.le_of_succ_le_succ le) vs others ws more readOthers ⟨stop, noComma⟩
          simp [tail]

end Lists

section Values

variable {value value' : Parser Term} (h : Extends value value' NoOperator) {n m : Nat}
  (le : n ≤ m)

/-- Behind a result stands another arm, or what stands behind the arms. -/
theorem noOperator_of_armsOf {ts rest more : List Token} {arms : List (Term × Term)}
    (read : Sql.armsOf value n ts = some (arms, rest)) (stop : NoOperator (rest ++ more)) :
    NoOperator (ts ++ more) := by
  cases n with
  | zero => exact absurd read (by simp [Sql.armsOf])
  | succ n =>
      rw [Sql.armsOf] at read
      cases found : word? "when" ts with
      | none =>
          simp only [found, Option.some.injEq, Prod.mk.injEq] at read
          rwa [read.2]
      | some us =>
          obtain rfl := eq_of_word? found
          exact ⟨rfl, rfl, rfl⟩

include h le

theorem armsOf : Extends (Sql.armsOf value n) (Sql.armsOf value' m)
    (fun more => NoOperator more ∧ word? "when" more = none) := by
  induction n generalizing m with
  | zero => exact fun ts a rest more read _ => absurd read (by simp [Sql.armsOf])
  | succ n ih =>
      obtain ⟨m, rfl⟩ := Nat.exists_eq_add_of_le' (Nat.le_trans (Nat.succ_pos _) le)
      rintro ts a rest more read ⟨stop, noArm⟩
      rw [Sql.armsOf] at read ⊢
      cases found : word? "when" ts with
      | none =>
          simp only [found, Option.some.injEq, Prod.mk.injEq] at read
          obtain ⟨rfl, rfl⟩ := read
          rw [noArm]
      | some us =>
          obtain rfl := eq_of_word? found
          simp only [found] at read
          obtain ⟨⟨condition, vs⟩, readCondition, read⟩ := Option.bind_eq_some_iff.mp read
          obtain ⟨ws, isThen, read⟩ := Option.bind_eq_some_iff.mp read
          obtain ⟨⟨result, xs⟩, readResult, read⟩ := Option.bind_eq_some_iff.mp read
          obtain ⟨⟨others, ys⟩, readOthers, read⟩ := Option.bind_eq_some_iff.mp read
          obtain ⟨rfl, rfl⟩ := Prod.mk.inj (Option.some.inj read)
          obtain rfl := eq_of_word? isThen
          have first := h us condition _ more readCondition ⟨rfl, rfl, rfl⟩
          have second := h ws result xs more readResult (noOperator_of_armsOf readOthers stop)
          have tail := ih (Nat.le_of_succ_le_succ le) xs others ys more readOthers ⟨stop, noArm⟩
          simp only [List.cons_append, word?_self, Option.bind_eq_bind, Option.bind_some, first,
            second, tail]
          rfl

theorem cascade : Extends (Sql.cascade value n) (Sql.cascade value' m) fun _ => True := by
  rintro ts a rest more read -
  unfold Sql.cascade at read ⊢
  obtain ⟨⟨arms, us⟩, readArms, read⟩ := Option.bind_eq_some_iff.mp read
  simp only at read
  cases inhabited : arms.isEmpty with
  | true => exact absurd read (by simp [inhabited])
  | false =>
      simp only [inhabited, Bool.false_eq_true, if_false] at read
      cases found : word? "else" us with
      | none =>
          simp only [found] at read
          obtain ⟨vs, isEnd, read⟩ := Option.bind_eq_some_iff.mp read
          obtain ⟨rfl, rfl⟩ := Prod.mk.inj (Option.some.inj read)
          obtain rfl := eq_of_word? isEnd
          have all := h.armsOf le ts arms _ more readArms ⟨⟨rfl, rfl, rfl⟩, rfl⟩
          simp only [Option.bind_eq_bind, Option.bind_some, all, inhabited, Bool.false_eq_true,
            if_false]
          rfl
      | some vs =>
          simp only [found] at read
          obtain ⟨⟨last, ws⟩, readLast, read⟩ := Option.bind_eq_some_iff.mp read
          obtain ⟨xs, isEnd, read⟩ := Option.bind_eq_some_iff.mp read
          obtain ⟨rfl, rfl⟩ := Prod.mk.inj (Option.some.inj read)
          obtain rfl := eq_of_word? found
          obtain rfl := eq_of_word? isEnd
          have all := h.armsOf le ts arms _ more readArms ⟨⟨rfl, rfl, rfl⟩, rfl⟩
          have final := h vs last _ more readLast ⟨rfl, rfl, rfl⟩
          simp only [List.cons_append, Option.bind_eq_bind, Option.bind_some, all, inhabited,
            Bool.false_eq_true, if_false, word?_self, final]
          rfl

theorem callOf (f : Function) :
    Extends (Sql.callOf f value n) (Sql.callOf f value' m) fun _ => True := by
  rintro ts a rest more read -
  unfold Sql.callOf at read ⊢
  obtain ⟨us, isOpen, read⟩ := Option.bind_eq_some_iff.mp read
  obtain ⟨⟨arguments, vs⟩, readArguments, read⟩ := Option.bind_eq_some_iff.mp read
  obtain ⟨ws, isClose, read⟩ := Option.bind_eq_some_iff.mp read
  obtain ⟨rfl, rfl⟩ := Prod.mk.inj (Option.some.inj read)
  obtain rfl := eq_of_symbol? isOpen
  obtain rfl := eq_of_symbol? isClose
  have list := h.separated (fun _ => ⟨rfl, rfl, rfl⟩) le us arguments _ more readArguments
    ⟨⟨rfl, rfl, rfl⟩, rfl⟩
  simp [list]

omit le

theorem castOf : Extends (Sql.castOf value) (Sql.castOf value') fun _ => True := by
  rintro ts a rest more read -
  unfold Sql.castOf at read ⊢
  obtain ⟨us, isOpen, read⟩ := Option.bind_eq_some_iff.mp read
  obtain ⟨⟨inner, vs⟩, readInner, read⟩ := Option.bind_eq_some_iff.mp read
  obtain ⟨ws, isAs, read⟩ := Option.bind_eq_some_iff.mp read
  obtain ⟨⟨target, xs⟩, readTarget, read⟩ := Option.bind_eq_some_iff.mp read
  obtain ⟨ys, isClose, read⟩ := Option.bind_eq_some_iff.mp read
  obtain ⟨rfl, rfl⟩ := Prod.mk.inj (Option.some.inj read)
  obtain rfl := eq_of_symbol? isOpen
  obtain rfl := eq_of_word? isAs
  obtain rfl := eq_of_symbol? isClose
  have first := h us inner _ more readInner ⟨rfl, rfl, rfl⟩
  have second := target?_append more readTarget
  simp only [List.cons_append, symbol?_self, word?_self, Option.bind_eq_bind, Option.bind_some,
    first, second]
  rfl

theorem extractOf : Extends (Sql.extractOf value) (Sql.extractOf value') fun _ => True := by
  rintro ts a rest more read -
  unfold Sql.extractOf at read ⊢
  obtain ⟨us, isOpen, read⟩ := Option.bind_eq_some_iff.mp read
  obtain ⟨vs, isEpoch, read⟩ := Option.bind_eq_some_iff.mp read
  obtain ⟨ws, isFrom, read⟩ := Option.bind_eq_some_iff.mp read
  obtain ⟨⟨inner, xs⟩, readInner, read⟩ := Option.bind_eq_some_iff.mp read
  obtain ⟨ys, isClose, read⟩ := Option.bind_eq_some_iff.mp read
  obtain ⟨rfl, rfl⟩ := Prod.mk.inj (Option.some.inj read)
  obtain rfl := eq_of_symbol? isOpen
  obtain rfl := eq_of_word? isEpoch
  obtain rfl := eq_of_word? isFrom
  obtain rfl := eq_of_symbol? isClose
  have first := h ws inner _ more readInner ⟨rfl, rfl, rfl⟩
  simp only [List.cons_append, symbol?_self, word?_self, Option.bind_eq_bind, Option.bind_some,
    first]
  rfl

theorem rowsOf : Extends (Sql.rowsOf value) (Sql.rowsOf value') fun _ => True := by
  rintro ts a rest more read -
  unfold Sql.rowsOf at read ⊢
  -- The rows are read as before, since `)` stands behind them; all else is words and names.
  obtain ⟨t₁, isFrom, read⟩ := Option.bind_eq_some_iff.mp read
  obtain ⟨t₂, isUnnest, read⟩ := Option.bind_eq_some_iff.mp read
  obtain ⟨t₃, isOpen, read⟩ := Option.bind_eq_some_iff.mp read
  obtain ⟨⟨rows, t₄⟩, readRows, read⟩ := Option.bind_eq_some_iff.mp read
  obtain ⟨t₅, isClose, read⟩ := Option.bind_eq_some_iff.mp read
  obtain ⟨t₆, isWith, read⟩ := Option.bind_eq_some_iff.mp read
  obtain ⟨t₇, isOrdinality, read⟩ := Option.bind_eq_some_iff.mp read
  obtain ⟨t₈, isAs, read⟩ := Option.bind_eq_some_iff.mp read
  obtain ⟨⟨table, t₉⟩, isTable, read⟩ := Option.bind_eq_some_iff.mp read
  obtain ⟨u₁, isOpen', read⟩ := Option.bind_eq_some_iff.mp read
  obtain ⟨⟨element, u₂⟩, isElement, read⟩ := Option.bind_eq_some_iff.mp read
  obtain ⟨u₃, isComma, read⟩ := Option.bind_eq_some_iff.mp read
  obtain ⟨⟨ordinal, u₄⟩, isOrdinal, read⟩ := Option.bind_eq_some_iff.mp read
  obtain ⟨u₅, isClose', read⟩ := Option.bind_eq_some_iff.mp read
  obtain ⟨rfl, rfl⟩ := Prod.mk.inj (Option.some.inj read)
  obtain rfl := eq_of_word? isFrom
  obtain rfl := eq_of_word? isUnnest
  obtain rfl := eq_of_symbol? isOpen
  obtain rfl := eq_of_symbol? isClose
  obtain rfl := eq_of_word? isWith
  obtain rfl := eq_of_word? isOrdinality
  obtain rfl := eq_of_word? isAs
  obtain rfl := eq_of_symbol? isOpen'
  obtain rfl := eq_of_symbol? isComma
  obtain rfl := eq_of_symbol? isClose'
  have first := h t₃ rows _ more readRows ⟨rfl, rfl, rfl⟩
  have second := name?_append more isTable
  have third := name?_append more isElement
  have fourth := name?_append more isOrdinal
  simp only [List.cons_append] at second third fourth
  simp only [List.cons_append, symbol?_self, word?_self, Option.bind_eq_bind, Option.bind_some,
    first, second, third, fourth]
  rfl

theorem orderOf : Extends (Sql.orderOf value) (Sql.orderOf value') NoOperator := by
  rintro ts a rest more read stop
  unfold Sql.orderOf at read ⊢
  obtain ⟨us, isWhere, read⟩ := Option.bind_eq_some_iff.mp read
  obtain ⟨⟨condition, vs⟩, readCondition, read⟩ := Option.bind_eq_some_iff.mp read
  obtain ⟨ws, isOrder, read⟩ := Option.bind_eq_some_iff.mp read
  obtain ⟨xs, isBy, read⟩ := Option.bind_eq_some_iff.mp read
  obtain ⟨⟨key, ys⟩, readKey, read⟩ := Option.bind_eq_some_iff.mp read
  obtain ⟨rfl, rfl⟩ := Prod.mk.inj (Option.some.inj read)
  obtain rfl := eq_of_word? isWhere
  obtain rfl := eq_of_word? isOrder
  obtain rfl := eq_of_word? isBy
  have first := h us condition _ more readCondition ⟨rfl, rfl, rfl⟩
  have second := h xs key ys more readKey stop
  simp only [List.cons_append, word?_self, Option.bind_eq_bind, Option.bind_some, first, second]
  rfl

theorem arrayOf : Extends (Sql.arrayOf value) (Sql.arrayOf value') fun _ => True := by
  rintro ts a rest more read -
  unfold Sql.arrayOf at read ⊢
  obtain ⟨t₁, isOpen, read⟩ := Option.bind_eq_some_iff.mp read
  obtain ⟨t₂, isSelect, read⟩ := Option.bind_eq_some_iff.mp read
  obtain ⟨⟨item, t₃⟩, readItem, read⟩ := Option.bind_eq_some_iff.mp read
  obtain ⟨⟨⟨rows, table, element, ordinal⟩, t₄⟩, readRows, read⟩ :=
    Option.bind_eq_some_iff.mp read
  obtain ⟨⟨⟨condition, key⟩, t₅⟩, readOrder, read⟩ := Option.bind_eq_some_iff.mp read
  obtain ⟨t₆, isClose, read⟩ := Option.bind_eq_some_iff.mp read
  obtain ⟨rfl, rfl⟩ := Prod.mk.inj (Option.some.inj read)
  obtain rfl := eq_of_symbol? isOpen
  obtain rfl := eq_of_word? isSelect
  obtain rfl := eq_of_symbol? isClose
  have second := h.rowsOf t₃ _ t₄ more readRows trivial
  have third := h.orderOf t₄ _ _ more readOrder ⟨rfl, rfl, rfl⟩
  -- Rows begin with a keyword that is no operator.
  obtain ⟨t₇, isFrom, _⟩ := Option.bind_eq_some_iff.mp readRows
  obtain rfl := eq_of_word? isFrom
  have first := h t₂ item _ more readItem ⟨rfl, rfl, rfl⟩
  simp only [List.cons_append] at second
  simp only [List.cons_append, symbol?_self, word?_self, Option.bind_eq_bind, Option.bind_some,
    first, second, third]
  rfl

end Values

/-! ### Operands -/

theorem comparison {operand operand' : Parser Term} (h : Extends operand operand' NoPoint)
    {n m : Nat} (le : n ≤ m) :
    Extends (Sql.comparison operand n) (Sql.comparison operand' m) NoOperator := by
  rintro ts a rest more read ⟨stop, notIn, notLike⟩
  unfold Sql.comparison at read ⊢
  -- Which of the three kinds it is, the token behind the first operand says. Where there is
  -- none in the text, the one that is added says so by `stop`.
  obtain ⟨⟨value, us⟩, readValue, read⟩ := Option.bind_eq_some_iff.mp read
  simp only at read
  cases isIn : word? "in" us with
  | some vs =>
      simp only [isIn] at read
      obtain ⟨ws, isOpen, read⟩ := Option.bind_eq_some_iff.mp read
      obtain ⟨⟨items, xs⟩, readItems, read⟩ := Option.bind_eq_some_iff.mp read
      obtain ⟨ys, isClose, read⟩ := Option.bind_eq_some_iff.mp read
      obtain ⟨rfl, rfl⟩ := Prod.mk.inj (Option.some.inj read)
      obtain rfl := eq_of_word? isIn
      obtain rfl := eq_of_symbol? isOpen
      obtain rfl := eq_of_symbol? isClose
      have first := h ts value _ more readValue rfl
      have list := h.separated (fun _ => rfl) le ws items _ more readItems ⟨rfl, rfl⟩
      simp only [List.cons_append, symbol?_self, word?_self, Option.bind_eq_bind,
        Option.bind_some, first, list]
      rfl
  | none =>
      cases isLike : symbol? '~' us with
      | some vs =>
          simp only [isIn, isLike] at read
          obtain ⟨⟨pattern, ws⟩, readPattern, read⟩ := Option.bind_eq_some_iff.mp read
          obtain ⟨rfl, rfl⟩ := Prod.mk.inj (Option.some.inj read)
          obtain rfl := eq_of_symbol? isLike
          have first := h ts value _ more readValue rfl
          have second := h vs pattern ws more readPattern stop
          simp only [List.cons_append, Option.bind_eq_bind, Option.bind_some, first]
          show (operand' (vs ++ more)).bind _ = _
          rw [second]
          rfl
      | none =>
          simp only [isIn, isLike] at read
          obtain ⟨rfl, rfl⟩ := Prod.mk.inj (Option.some.inj read)
          rw [h ts value us more readValue stop]
          simp only [Option.bind_eq_bind, Option.bind_some, notIn, notLike]
          rfl

theorem led {value value' : Parser Term} (h : Extends value value' NoOperator) {n m : Nat}
    (le : n ≤ m) (leading : Leading) :
    Extends (Sql.led value n leading) (Sql.led value' m leading) fun _ => True := by
  cases leading with
  | null =>
      intro ts a rest more read _
      obtain ⟨rfl, rfl⟩ := Prod.mk.inj (Option.some.inj read)
      rfl
  | truth holds =>
      intro ts a rest more read _
      obtain ⟨rfl, rfl⟩ := Prod.mk.inj (Option.some.inj read)
      rfl
  | case => exact h.cascade le
  | cast => exact h.castOf
  | array => exact h.arrayOf
  | extract => exact h.extractOf
  | call f => exact h.callOf le f

theorem operand {n m : Nat} (le : n ≤ m) : Extends (Sql.operand n) (Sql.operand m) NoPoint := by
  -- On the rounds: an operand in parentheses, and each leading word, is over a value that is read
  -- with one round fewer.
  induction n generalizing m with
  | zero => exact fun ts a rest more read _ => absurd read (by simp [Sql.operand])
  | succ n ih =>
      obtain ⟨m, rfl⟩ := Nat.exists_eq_add_of_le' (Nat.le_trans (Nat.succ_pos _) le)
      have le : n ≤ m := Nat.le_of_succ_le_succ le
      have value := (ih le).comparison le
      intro ts a rest more read stop
      unfold Sql.operand at read
      split at read
      · rename_i text us
        obtain ⟨rfl, rfl⟩ := Prod.mk.inj (Option.some.inj read)
        rfl
      · rename_i us
        obtain ⟨⟨inner, vs⟩, readInner, read⟩ := Option.bind_eq_some_iff.mp read
        obtain ⟨ws, isClose, read⟩ := Option.bind_eq_some_iff.mp read
        obtain ⟨rfl, rfl⟩ := Prod.mk.inj (Option.some.inj read)
        obtain rfl := eq_of_symbol? isClose
        have first := value us inner _ more readInner ⟨rfl, rfl, rfl⟩
        rw [List.cons_append, Sql.operand]
        simp only [List.cons_append, symbol?_self, Option.bind_eq_bind, Option.bind_some, first]
        rfl
      · rename_i name us
        obtain ⟨rfl, rfl⟩ := Prod.mk.inj (Option.some.inj read)
        rw [List.cons_append, Sql.operand, points_append us stop]
      · rename_i letters us
        rw [List.cons_append, Sql.operand]
        cases leading : leadingWords.lookup letters with
        | none =>
            simp only [leading] at read ⊢
            obtain ⟨plain, read⟩ := Option.ite_none_left_eq_some.mp read
            obtain ⟨rfl, rfl⟩ := Prod.mk.inj (Option.some.inj read)
            rw [if_neg plain, points_append us stop]
        | some leading' =>
            simp only [leading] at read ⊢
            exact value.led le leading' us a rest more read trivial
      · exact absurd read (by simp)

end Extends

/-- **A text that is one operand on its own is one wherever it stands.** -/
theorem writesOperand_iff {text : String} {t : Term} :
    WritesOperand text t ↔ readOperand? text = some t := by
  constructor
  · rintro ⟨ts, scans, isOperand⟩
    have alone := isOperand ts.length (Nat.le_refl _) [] rfl
    rw [List.append_nil] at alone
    unfold readOperand?
    rw [scans]
    simp only [Option.bind_eq_bind, Option.bind_some, alone]
  · intro read
    obtain ⟨ts, scans, read⟩ := Option.bind_eq_some_iff.mp read
    refine ⟨ts, scans, fun rounds le more stop => ?_⟩
    split at read
    · rename_i alone
      obtain rfl := Option.some.inj read
      exact Extends.operand le ts _ [] more alone stop
    · exact absurd read (by simp)

end ColumnCast.Sql
