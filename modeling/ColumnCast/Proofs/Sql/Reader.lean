import ColumnCast.Proofs.Sql.Token

/-!
# `ColumnCast.Proofs.Sql.Reader`: tokens as terms

The grammar of the expressions, read from left to right. A `Term` says
which parts belong together and has no text any more: every literal in it
is decoded, every name as well.

An operand is what stands between operators: a constant, a column, a
call, a cast, a cascade, a list made from rows, or anything in
parentheses. A comparison is an operand, alone or before `IN` or `~`.
Operands nest, so `operand` counts down; as many rounds as there are
tokens are enough.

`IsOperand` and `IsValue` say of tokens that they are read as a term
wherever they stand; one lemma for each form of the grammar puts such
tokens together. `read?_eq` is what comes of it for a whole text.
-/

set_option autoImplicit false

namespace ColumnCast.Sql

/-! ### Terms -/

/-- The functions that are called by name. -/
inductive Function
  | nullIf
  | stringToArray
  | arrayToString
  | toDate
  | toTimestamp
  deriving DecidableEq

/-- An expression as it is read. -/
inductive Term
  | null
  | truth (holds : Bool)
  | text (content : String)
  /-- A column by its name, or by those of its table and its own. -/
  | column (path : List String)
  | cast (value : Term) (target : Target)
  | call (f : Function) (arguments : List Term)
  /-- The result of the first arm whose condition holds. -/
  | case (arms : List (Term × Term)) (otherwise : Term)
  | memberOf (value : Term) (items : List Term)
  | like (value pattern : Term)
  /-- The list of `item` over the rows of an array in the order of `key`, those for which
  `condition` holds. A row is the table `table`, with the element and its number as columns. -/
  | array (item rows : Term) (table element ordinal : String) (condition key : Term)
  /-- The seconds of a time. -/
  | epoch (value : Term)

/-! ### The grammar -/

/-- Reads from the first token on; what is not read is left. -/
abbrev Parser (α : Type) := List Token → Option (α × List Token)

/-- What follows the keyword, if it stands first. -/
def word? (keyword : String) : List Token → Option (List Token)
  | .word letters :: ts => if letters = keyword.toList then some ts else none
  | _ => none

/-- What follows the symbol, if it stands first. -/
def symbol? (c : Char) : List Token → Option (List Token)
  | .symbol d :: ts => if d = c then some ts else none
  | _ => none

/-- A name, quoted or plain. -/
def name? : Parser String
  | .name text :: ts => some (text, ts)
  | .word letters :: ts => some (String.ofList letters, ts)
  | _ => none

/-- The names that follow, each with a point before it. -/
def points : List Token → List String × List Token
  | .symbol '.' :: .name text :: ts => (text :: (points ts).1, (points ts).2)
  | .symbol '.' :: .word letters :: ts => (String.ofList letters :: (points ts).1, (points ts).2)
  | ts => ([], ts)

/-- Items with commas between. -/
def separated {α : Type} (item : Parser α) : Nat → Parser (List α)
  | 0, _ => none
  | rounds + 1, ts => do
    let (first, ts) ← item ts
    match symbol? ',' ts with
    | none => return ([first], ts)
    | some ts =>
      let (more, ts) ← separated item rounds ts
      return (first :: more, ts)

/-- The arms of a cascade. -/
def armsOf (value : Parser Term) : Nat → Parser (List (Term × Term))
  | 0, _ => none
  | rounds + 1, ts =>
    match word? "when" ts with
    | none => some ([], ts)
    | some ts => do
      let (condition, ts) ← value ts
      let ts ← word? "then" ts
      let (result, ts) ← value ts
      let (more, ts) ← armsOf value rounds ts
      return ((condition, result) :: more, ts)

/-- A cascade behind its first keyword. Without an `ELSE` part that part is `NULL`. -/
def cascade (value : Parser Term) (rounds : Nat) : Parser Term := fun ts => do
  let (arms, ts) ← armsOf value rounds ts
  if arms.isEmpty then none
  else
    match word? "else" ts with
    | none =>
      let ts ← word? "end" ts
      return (.case arms .null, ts)
    | some ts =>
      let (last, ts) ← value ts
      let ts ← word? "end" ts
      return (.case arms last, ts)

/-- The type names without a limit. -/
def targets : List (List Char × Target) :=
  [("decimal".toList, .decimal), ("bigint".toList, .bigint), ("integer".toList, .integer),
    ("time".toList, .time), ("text".toList, .text)]

/-- A type. -/
def target? : Parser Target
  | .word letters :: .symbol '(' :: .number limit :: .symbol ')' :: ts =>
    if letters = "varchar".toList ∧ limit < UInt32.size then
      some (.varchar (UInt32.ofNat limit), ts)
    else none
  | .word letters :: ts => (targets.lookup letters).map (·, ts)
  | _ => none

/-- A cast behind its first keyword. -/
def castOf (value : Parser Term) : Parser Term := fun ts => do
  let ts ← symbol? '(' ts
  let (value, ts) ← value ts
  let ts ← word? "as" ts
  let (target, ts) ← target? ts
  let ts ← symbol? ')' ts
  return (.cast value target, ts)

/-- The seconds of a time, behind the keyword that asks for a part of it. -/
def extractOf (value : Parser Term) : Parser Term := fun ts => do
  let ts ← symbol? '(' ts
  let ts ← word? "epoch" ts
  let ts ← word? "from" ts
  let (value, ts) ← value ts
  let ts ← symbol? ')' ts
  return (.epoch value, ts)

/-- The arguments of a call. -/
def callOf (f : Function) (value : Parser Term) (rounds : Nat) : Parser Term := fun ts => do
  let ts ← symbol? '(' ts
  let (arguments, ts) ← separated value rounds ts
  let ts ← symbol? ')' ts
  return (.call f arguments, ts)

/-- The rows of an array, with the names of the table and of its two columns. -/
def rowsOf (value : Parser Term) : Parser (Term × String × String × String) := fun ts => do
  let ts ← word? "from" ts
  let ts ← word? "unnest" ts
  let ts ← symbol? '(' ts
  let (rows, ts) ← value ts
  let ts ← symbol? ')' ts
  let ts ← word? "with" ts
  let ts ← word? "ordinality" ts
  let ts ← word? "as" ts
  let (table, ts) ← name? ts
  let ts ← symbol? '(' ts
  let (element, ts) ← name? ts
  let ts ← symbol? ',' ts
  let (ordinal, ts) ← name? ts
  let ts ← symbol? ')' ts
  return ((rows, table, element, ordinal), ts)

/-- The condition on rows and the key of their order. -/
def orderOf (value : Parser Term) : Parser (Term × Term) := fun ts => do
  let ts ← word? "where" ts
  let (condition, ts) ← value ts
  let ts ← word? "order" ts
  let ts ← word? "by" ts
  let (key, ts) ← value ts
  return ((condition, key), ts)

/-- A list made from rows, behind its first keyword. -/
def arrayOf (value : Parser Term) : Parser Term := fun ts => do
  let ts ← symbol? '(' ts
  let ts ← word? "select" ts
  let (item, ts) ← value ts
  let ((rows, table, element, ordinal), ts) ← rowsOf value ts
  let ((condition, key), ts) ← orderOf value ts
  let ts ← symbol? ')' ts
  return (.array item rows table element ordinal condition key, ts)

/-- What a word begins that is no name. -/
inductive Leading
  | null
  | truth (holds : Bool)
  | case
  | cast
  | array
  | extract
  | call (f : Function)
  deriving DecidableEq

/-- The words that begin an operand and are no names. -/
def leadingWords : List (List Char × Leading) :=
  [("null".toList, .null), ("true".toList, .truth true), ("false".toList, .truth false),
    ("case".toList, .case), ("cast".toList, .cast), ("array".toList, .array),
    ("extract".toList, .extract),
    ("nullif".toList, .call .nullIf), ("string_to_array".toList, .call .stringToArray),
    ("array_to_string".toList, .call .arrayToString), ("to_date".toList, .call .toDate),
    ("to_timestamp".toList, .call .toTimestamp)]

/-- The keywords that stand behind an operand, so that none of them is a name. -/
def reserved : List (List Char) :=
  ["when".toList, "then".toList, "else".toList, "end".toList, "as".toList, "in".toList,
    "select".toList, "from".toList, "with".toList, "where".toList, "order".toList]

/-- An operand, alone or compared. -/
def comparison (operand : Parser Term) (rounds : Nat) : Parser Term := fun ts => do
  let (value, ts) ← operand ts
  match word? "in" ts, symbol? '~' ts with
  | some ts, _ =>
    let ts ← symbol? '(' ts
    let (items, ts) ← separated operand rounds ts
    let ts ← symbol? ')' ts
    return (.memberOf value items, ts)
  | none, some ts =>
    let (pattern, ts) ← operand ts
    return (.like value pattern, ts)
  | none, none => return (value, ts)

/-- What stands behind a leading word. -/
def led (value : Parser Term) (rounds : Nat) : Leading → Parser Term
  | .null, ts => some (.null, ts)
  | .truth holds, ts => some (.truth holds, ts)
  | .case, ts => cascade value rounds ts
  | .cast, ts => castOf value ts
  | .array, ts => arrayOf value ts
  | .extract, ts => extractOf value ts
  | .call f, ts => callOf f value rounds ts

/-- An operand. -/
def operand : Nat → Parser Term
  | 0, _ => none
  | rounds + 1, ts =>
    let value := comparison (operand rounds) rounds
    match ts with
    | .literal text :: ts => some (.text text, ts)
    | .symbol '(' :: ts => do
      let (inner, ts) ← value ts
      let ts ← symbol? ')' ts
      return (inner, ts)
    | .name first :: ts => some (.column (first :: (points ts).1), (points ts).2)
    | .word letters :: ts =>
      match leadingWords.lookup letters with
      | some leading => led value rounds leading ts
      | none =>
        if reserved.contains letters then none
        else some (.column (String.ofList letters :: (points ts).1), (points ts).2)
    | _ => none

/-- The term of a text. -/
def read? (text : String) : Option Term := do
  let ts ← tokens? text.toList
  match comparison (operand ts.length) ts.length ts with
  | some (t, []) => some t
  | _ => none

/-! ### Tokens that are read as one term -/

/-- The tokens are read as `a` wherever tokens with the property follow. -/
def Parses {α : Type} (p : Parser α) (follow : List Token → Prop) (ts : List Token) (a : α) : Prop :=
  ∀ more, follow more → p (ts ++ more) = some (a, more)

/-- No point follows that a name would go on with. -/
def NoPoint (more : List Token) : Prop := symbol? '.' more = none

/-- Nothing follows that an operand would be compared with. -/
def NoOperator (more : List Token) : Prop :=
  NoPoint more ∧ word? "in" more = none ∧ symbol? '~' more = none

/-- The tokens are an operand wherever they stand. -/
def IsOperand (ts : List Token) (t : Term) : Prop :=
  ∀ rounds, ts.length ≤ rounds → Parses (operand rounds) NoPoint ts t

/-- The tokens are an operand or a comparison wherever they stand. -/
def IsValue (ts : List Token) (t : Term) : Prop :=
  ∀ rounds, ts.length ≤ rounds → Parses (comparison (operand rounds) rounds) NoOperator ts t

@[simp]
theorem word?_self (keyword : String) (ts : List Token) :
    word? keyword (.word keyword.toList :: ts) = some ts := if_pos rfl

@[simp]
theorem symbol?_self (c : Char) (ts : List Token) : symbol? c (.symbol c :: ts) = some ts :=
  if_pos rfl

@[simp]
theorem name?_word (letters : List Char) (ts : List Token) :
    name? (.word letters :: ts) = some (String.ofList letters, ts) := rfl

theorem points_of_noPoint {more : List Token} (h : NoPoint more) : points more = ([], more) := by
  unfold points
  split
  · exact absurd h (by simp [NoPoint, symbol?])
  · exact absurd h (by simp [NoPoint, symbol?])
  · rfl

/-! #### Constants and columns -/

/-- A leading word says what stands behind it. -/
theorem operand_leading {letters : List Char} {leading : Leading}
    (leads : leadingWords.lookup letters = some leading) (rounds : Nat) (ts : List Token) :
    operand (rounds + 1) (.word letters :: ts)
      = led (comparison (operand rounds) rounds) rounds leading ts := by
  rw [operand]
  simp only [leads]

theorem isOperand_literal (content : String) : IsOperand [.literal content] (.text content) := by
  intro rounds le more _
  obtain ⟨rounds, rfl⟩ := Nat.exists_eq_add_of_le' le
  rfl

theorem isOperand_null : IsOperand [.word "null".toList] .null := by
  intro rounds le more _
  obtain ⟨rounds, rfl⟩ := Nat.exists_eq_add_of_le' le
  rfl

theorem isOperand_truth {letters : List Char} {holds : Bool}
    (leads : leadingWords.lookup letters = some (.truth holds)) :
    IsOperand [.word letters] (.truth holds) := by
  intro rounds le more _
  obtain ⟨rounds, rfl⟩ := Nat.exists_eq_add_of_le' le
  exact operand_leading leads rounds more

theorem isOperand_name (text : String) : IsOperand [.name text] (.column [text]) := by
  intro rounds le more stop
  obtain ⟨rounds, rfl⟩ := Nat.exists_eq_add_of_le' le
  show operand (rounds + 1) (.name text :: more) = _
  rw [operand, points_of_noPoint stop]

/-- A column by its table and its name, both plain. -/
theorem isOperand_path {table : List Char} (column : List Char)
    (plain : leadingWords.lookup table = none ∧ reserved.contains table = false) :
    IsOperand [.word table, .symbol '.', .word column]
      (.column [String.ofList table, String.ofList column]) := by
  intro rounds le more stop
  obtain ⟨rounds, rfl⟩ := Nat.exists_eq_add_of_le' (Nat.le_trans (Nat.succ_pos _) le)
  show operand (rounds + 1) (.word table :: .symbol '.' :: .word column :: more) = _
  rw [operand]
  simp only [plain, Bool.false_eq_true, if_false, points, points_of_noPoint stop]

theorem IsOperand.isValue {ts : List Token} {t : Term} (h : IsOperand ts t) : IsValue ts t := by
  rintro rounds le more ⟨stop, notIn, notLike⟩
  unfold comparison
  simp only [h rounds le more stop, notIn, notLike, Option.bind_eq_bind, Option.bind_some]
  rfl

/-! #### Comparisons -/

theorem isValue_like {ts us : List Token} {value pattern : Term} (h : IsOperand ts value)
    (h' : IsOperand us pattern) : IsValue (ts ++ .symbol '~' :: us) (.like value pattern) := by
  rintro rounds le more ⟨stop, -, -⟩
  rw [List.length_append, List.length_cons] at le
  have first := h rounds (by omega) (.symbol '~' :: (us ++ more)) rfl
  have second := h' rounds (by omega) more stop
  unfold comparison
  rw [List.append_assoc, List.cons_append, first]
  simp only [Option.bind_eq_bind, Option.bind_some]
  show (operand rounds (us ++ more)).bind _ = _
  rw [second]
  rfl

/-! #### Lists -/

/-- Items that end at a comma, with commas between. -/
theorem parses_separated {α : Type} {item : Parser α} {follow : List Token → Prop}
    (comma : ∀ more, follow (.symbol ',' :: more)) {items : List (List Token × α)}
    (inhabited : items ≠ []) (h : ∀ a ∈ items, Parses item follow a.1 a.2) {rounds : Nat}
    (enough : items.length ≤ rounds) :
    Parses (separated item rounds) (fun more => follow more ∧ symbol? ',' more = none)
      ([Token.symbol ','].intercalate (items.map Prod.fst)) (items.map Prod.snd) := by
  rintro more ⟨stop, noComma⟩
  -- A comma behind an item allows it to end there, and so does what ends the list.
  induction items generalizing rounds with
  | nil => exact absurd rfl inhabited
  | cons a items ih =>
      obtain ⟨rounds, rfl⟩ := Nat.exists_eq_add_of_le' (Nat.le_trans (Nat.succ_pos _) enough)
      have first := h a List.mem_cons_self
      rw [separated]
      cases items with
      | nil =>
          rw [List.map_cons, List.map_nil, List.intercalate_singleton, first more stop]
          simp only [Option.bind_eq_bind, Option.bind_some, noComma]
          rfl
      | cons b items =>
          have rest := ih (List.cons_ne_nil _ _) (fun c mem => h c (List.mem_cons_of_mem _ mem))
            (Nat.le_of_succ_le_succ enough)
          rw [List.map_cons, List.map_cons, List.intercalate_cons_cons, List.append_assoc,
            List.append_assoc, List.singleton_append, first _ (comma _)]
          simp only [Option.bind_eq_bind, Option.bind_some]
          show (separated item rounds _).bind _ = _
          rw [← List.map_cons, rest]
          rfl

/-- A joined list is as long as each of its parts, and has a separator between two. -/
theorem length_intercalate {α : Type} (separator : α) (parts : List (List α)) :
    (∀ part ∈ parts, part.length ≤ ([separator].intercalate parts).length)
      ∧ parts.length ≤ ([separator].intercalate parts).length + 1 := by
  induction parts with
  | nil => simp
  | cons first parts ih =>
      cases parts with
      | nil => simp
      | cons second parts =>
          rw [List.intercalate_cons_cons, List.length_append, List.length_append]
          refine ⟨fun part mem => ?_, ?_⟩
          · rcases List.mem_cons.mp mem with rfl | mem
            · omega
            · exact Nat.le_trans (ih.1 part mem) (by omega)
          · have count := ih.2
            simp only [List.length_cons, List.length_nil] at *
            omega

theorem isValue_memberOf {ts : List Token} {value : Term} (h : IsOperand ts value)
    {items : List (List Token × Term)} (inhabited : items ≠ [])
    (operands : ∀ a ∈ items, IsOperand a.1 a.2) :
    IsValue
      (ts ++ .word "in".toList :: .symbol '('
        :: ([Token.symbol ','].intercalate (items.map Prod.fst) ++ [.symbol ')']))
      (.memberOf value (items.map Prod.snd)) := by
  rintro rounds le more -
  obtain ⟨each, count⟩ := length_intercalate (Token.symbol ',') (items.map Prod.fst)
  simp only [List.length_append, List.length_cons, List.length_nil, List.length_map] at le count
  have first := h rounds (by omega) (.word "in".toList :: .symbol '('
    :: ([Token.symbol ','].intercalate (items.map Prod.fst) ++ .symbol ')' :: more)) rfl
  have list := parses_separated (fun _ => rfl) inhabited
    (fun a mem => operands a mem rounds
      (Nat.le_trans (each a.1 (List.mem_map_of_mem mem)) (by omega)))
    (show items.length ≤ rounds by omega) (.symbol ')' :: more) ⟨rfl, rfl⟩
  have text : (ts ++ .word "in".toList :: .symbol '('
        :: ([Token.symbol ','].intercalate (items.map Prod.fst) ++ [.symbol ')'])) ++ more
      = ts ++ .word "in".toList :: .symbol '('
        :: ([Token.symbol ','].intercalate (items.map Prod.fst) ++ .symbol ')' :: more) := by simp
  unfold comparison
  rw [text, first]
  simp only [Option.bind_eq_bind, Option.bind_some, word?_self, symbol?_self, list]
  rfl

/-! #### Calls and casts -/

theorem isOperand_cast {ts us : List Token} {value : Term} {target : Target} (h : IsValue ts value)
    (h' : ∀ more, target? (us ++ .symbol ')' :: more) = some (target, .symbol ')' :: more)) :
    IsOperand (.word "cast".toList :: .symbol '(' :: (ts ++ .word "as".toList :: (us ++ [.symbol ')'])))
      (.cast value target) := by
  intro rounds le more _
  obtain ⟨rounds, rfl⟩ := Nat.exists_eq_add_of_le' (Nat.le_trans (Nat.succ_pos _) le)
  have first := h rounds (by simp at le; omega)
    (.word "as".toList :: (us ++ .symbol ')' :: more)) ⟨rfl, rfl, rfl⟩
  have second := h' more
  have text : (.word "cast".toList :: .symbol '(' :: (ts ++ .word "as".toList :: (us ++ [.symbol ')'])))
        ++ more
      = (.word "cast".toList :: .symbol '(' :: (ts ++ .word "as".toList :: (us ++ .symbol ')' :: more)) :
        List Token) := by simp
  rw [text, operand_leading (by decide : _ = some Leading.cast), led]
  unfold castOf
  simp only [Option.bind_eq_bind, Option.bind_some, symbol?_self, word?_self, first, second]
  rfl

theorem isOperand_epoch {ts : List Token} {value : Term} (h : IsValue ts value) :
    IsOperand (.word "extract".toList :: .symbol '(' :: .word "epoch".toList
      :: .word "from".toList :: (ts ++ [.symbol ')'])) (.epoch value) := by
  intro rounds le more _
  obtain ⟨rounds, rfl⟩ := Nat.exists_eq_add_of_le' (Nat.le_trans (Nat.succ_pos _) le)
  have inner := h rounds (by simp at le; omega) (.symbol ')' :: more) ⟨rfl, rfl, rfl⟩
  simp only [List.cons_append, List.append_assoc, List.nil_append]
  rw [operand_leading (by decide : _ = some Leading.extract), led]
  unfold extractOf
  simp only [Option.bind_eq_bind, Option.bind_some, symbol?_self, word?_self, inner]
  rfl

theorem isOperand_call {letters : List Char} {f : Function}
    (leads : leadingWords.lookup letters = some (.call f)) {items : List (List Token × Term)}
    (inhabited : items ≠ []) (values : ∀ a ∈ items, IsValue a.1 a.2) :
    IsOperand
      (.word letters :: .symbol '('
        :: ([Token.symbol ','].intercalate (items.map Prod.fst) ++ [.symbol ')']))
      (.call f (items.map Prod.snd)) := by
  intro rounds le more _
  obtain ⟨rounds, rfl⟩ := Nat.exists_eq_add_of_le' (Nat.le_trans (Nat.succ_pos _) le)
  obtain ⟨each, count⟩ := length_intercalate (Token.symbol ',') (items.map Prod.fst)
  simp only [List.length_append, List.length_cons, List.length_nil, List.length_map] at le count
  have list := parses_separated (fun _ => ⟨rfl, rfl, rfl⟩) inhabited
    (fun a mem => values a mem rounds
      (Nat.le_trans (each a.1 (List.mem_map_of_mem mem)) (by omega)))
    (show items.length ≤ rounds by omega) (.symbol ')' :: more) ⟨⟨rfl, rfl, rfl⟩, rfl⟩
  have text : (.word letters :: .symbol '('
        :: ([Token.symbol ','].intercalate (items.map Prod.fst) ++ [.symbol ')'])) ++ more
      = (.word letters :: .symbol '('
        :: ([Token.symbol ','].intercalate (items.map Prod.fst) ++ .symbol ')' :: more) :
        List Token) := by simp
  rw [text, operand_leading leads, led]
  unfold callOf
  simp only [Option.bind_eq_bind, Option.bind_some, symbol?_self, list]
  rfl

/-! #### Cascades -/

/-- The tokens of an arm. -/
def armTokens (condition result : List Token) : List Token :=
  .word "when".toList :: (condition ++ .word "then".toList :: result)

/-- The tokens and the terms of an arm. -/
structure Arm where
  condition : List Token × Term
  result : List Token × Term

namespace Arm

def tokens (arm : Arm) : List Token := armTokens arm.condition.1 arm.result.1

def terms (arm : Arm) : Term × Term := (arm.condition.2, arm.result.2)

end Arm

theorem parses_armsOf {arms : List Arm} {rounds fuel : Nat}
    (values : ∀ arm ∈ arms, IsValue arm.condition.1 arm.condition.2
      ∧ IsValue arm.result.1 arm.result.2)
    (deep : ∀ arm ∈ arms, arm.tokens.length ≤ fuel) (enough : arms.length < rounds) :
    Parses (armsOf (comparison (operand fuel) fuel) rounds)
      (fun more => NoOperator more ∧ word? "when" more = none)
      (arms.flatMap Arm.tokens) (arms.map Arm.terms) := by
  rintro more ⟨stop, noArm⟩
  induction arms generalizing rounds with
  | nil =>
      obtain ⟨rounds, rfl⟩ := Nat.exists_eq_add_of_le' enough
      show armsOf _ (rounds + 1) more = _
      rw [armsOf, noArm]
      rfl
  | cons arm arms ih =>
      obtain ⟨rounds, rfl⟩ := Nat.exists_eq_add_of_le' (Nat.le_trans (Nat.succ_pos _) enough)
      obtain ⟨condition, result⟩ := values arm List.mem_cons_self
      have long := deep arm List.mem_cons_self
      simp only [Arm.tokens, armTokens, List.length_cons, List.length_append] at long
      have rest := ih (fun a mem => values a (List.mem_cons_of_mem _ mem))
        (fun a mem => deep a (List.mem_cons_of_mem _ mem)) (Nat.lt_of_succ_lt_succ enough)
      -- Behind the result stands the next arm, or what stands behind all of them.
      have behind : NoOperator (arms.flatMap Arm.tokens ++ more) := by
        cases arms with
        | nil => exact stop
        | cons next arms => exact ⟨rfl, rfl, rfl⟩
      have first := condition fuel (by omega) (.word "then".toList
        :: (arm.result.1 ++ (arms.flatMap Arm.tokens ++ more))) ⟨rfl, rfl, rfl⟩
      have second := result fuel (by omega) (arms.flatMap Arm.tokens ++ more) behind
      have text : (arm :: arms).flatMap Arm.tokens ++ more
          = .word "when".toList :: (arm.condition.1 ++ .word "then".toList
            :: (arm.result.1 ++ (arms.flatMap Arm.tokens ++ more))) := by
        simp [Arm.tokens, armTokens]
      rw [text, armsOf]
      simp only [Option.bind_eq_bind, Option.bind_some, word?_self, first, second, rest]
      rfl

theorem length_flatMap_tokens (arms : List Arm) :
    (∀ arm ∈ arms, arm.tokens.length ≤ (arms.flatMap Arm.tokens).length)
      ∧ arms.length ≤ (arms.flatMap Arm.tokens).length := by
  induction arms with
  | nil => simp
  | cons first arms ih =>
      have inhabited : 1 ≤ first.tokens.length := by simp [Arm.tokens, armTokens]
      rw [List.flatMap_cons, List.length_append]
      refine ⟨fun arm mem => ?_, ?_⟩
      · rcases List.mem_cons.mp mem with rfl | mem
        · omega
        · exact Nat.le_trans (ih.1 arm mem) (by omega)
      · have count := ih.2
        rw [List.length_cons]
        omega

theorem isOperand_case {arms : List Arm} (inhabited : arms ≠ [])
    (values : ∀ arm ∈ arms, IsValue arm.condition.1 arm.condition.2
      ∧ IsValue arm.result.1 arm.result.2)
    {ts : List Token} {otherwise : Term} (last : IsValue ts otherwise) :
    IsOperand
      (.word "case".toList
        :: (arms.flatMap Arm.tokens ++ .word "else".toList :: (ts ++ [.word "end".toList])))
      (.case (arms.map Arm.terms) otherwise) := by
  intro rounds le more _
  obtain ⟨rounds, rfl⟩ := Nat.exists_eq_add_of_le' (Nat.le_trans (Nat.succ_pos _) le)
  obtain ⟨each, count⟩ := length_flatMap_tokens arms
  simp only [List.length_append, List.length_cons, List.length_nil] at le
  have chain := parses_armsOf values
    (fun arm mem => Nat.le_trans (each arm mem) (show _ ≤ rounds by omega))
    (show arms.length < rounds by omega)
    (.word "else".toList :: (ts ++ .word "end".toList :: more)) ⟨⟨rfl, rfl, rfl⟩, rfl⟩
  have final := last rounds (by omega) (.word "end".toList :: more) ⟨rfl, rfl, rfl⟩
  have text : (.word "case".toList
        :: (arms.flatMap Arm.tokens ++ .word "else".toList :: (ts ++ [.word "end".toList]))) ++ more
      = (.word "case".toList :: (arms.flatMap Arm.tokens ++ .word "else".toList
        :: (ts ++ .word "end".toList :: more)) : List Token) := by simp
  have notEmpty : (arms.map Arm.terms).isEmpty = false := by simpa using inhabited
  rw [text, operand_leading (by decide : _ = some Leading.case), led]
  unfold cascade
  simp only [Option.bind_eq_bind, Option.bind_some, chain, notEmpty, Bool.false_eq_true,
    if_false, word?_self, final]
  rfl

/-! #### Lists made from rows -/

section Rows

variable {item rows condition key : List Token} {i r c k : Term}
  (table element ordinal : List Char)

/-- The tokens of the rows of an array. -/
def rowTokens (rows : List Token) (table element ordinal : List Char) : List Token :=
  .word "from".toList :: .word "unnest".toList :: .symbol '(' :: (rows
    ++ [.symbol ')', .word "with".toList, .word "ordinality".toList, .word "as".toList,
      .word table, .symbol '(', .word element, .symbol ',', .word ordinal, .symbol ')'])

/-- The tokens of the condition on rows and of the key of their order. -/
def orderTokens (condition key : List Token) : List Token :=
  .word "where".toList :: (condition ++ .word "order".toList :: .word "by".toList :: key)

/-- The tokens of a list made from rows. -/
def arrayTokens (item rows : List Token) (table element ordinal : List Char)
    (condition key : List Token) : List Token :=
  .word "array".toList :: .symbol '(' :: .word "select".toList
    :: (item ++ (rowTokens rows table element ordinal
      ++ (orderTokens condition key ++ [.symbol ')'])))

theorem parses_rowsOf {rounds : Nat} (isRows : IsValue rows r) (le : rows.length ≤ rounds) :
    Parses (rowsOf (comparison (operand rounds) rounds)) (fun _ => True)
      (rowTokens rows table element ordinal)
      (r, String.ofList table, String.ofList element, String.ofList ordinal) := by
  intro more _
  have value := isRows rounds le (.symbol ')' :: .word "with".toList :: .word "ordinality".toList
    :: .word "as".toList :: .word table :: .symbol '(' :: .word element :: .symbol ','
    :: .word ordinal :: .symbol ')' :: more) ⟨rfl, rfl, rfl⟩
  unfold rowsOf rowTokens
  simp only [List.cons_append, List.append_assoc, List.nil_append, Option.bind_eq_bind,
    Option.bind_some, symbol?_self, word?_self, name?_word, value]
  rfl

theorem parses_orderOf {rounds : Nat} (isCondition : IsValue condition c) (isKey : IsValue key k)
    (le : condition.length ≤ rounds) (le' : key.length ≤ rounds) :
    Parses (orderOf (comparison (operand rounds) rounds)) NoOperator (orderTokens condition key)
      (c, k) := by
  intro more stop
  have first := isCondition rounds le (.word "order".toList :: .word "by".toList :: (key ++ more))
    ⟨rfl, rfl, rfl⟩
  have second := isKey rounds le' more stop
  unfold orderOf orderTokens
  simp only [List.cons_append, List.append_assoc, Option.bind_eq_bind, Option.bind_some,
    word?_self, first, second]
  rfl

theorem isOperand_array (isItem : IsValue item i) (isRows : IsValue rows r)
    (isCondition : IsValue condition c) (isKey : IsValue key k) :
    IsOperand (arrayTokens item rows table element ordinal condition key)
      (.array i r (String.ofList table) (String.ofList element) (String.ofList ordinal) c k) := by
  intro rounds le more _
  obtain ⟨rounds, rfl⟩ := Nat.exists_eq_add_of_le' (Nat.le_trans (Nat.succ_pos _) le)
  simp only [arrayTokens, rowTokens, orderTokens, List.length_append, List.length_cons,
    List.length_nil] at le
  have third := parses_orderOf isCondition isKey (show _ ≤ rounds by omega) (by omega)
    (.symbol ')' :: more) ⟨rfl, rfl, rfl⟩
  have second := parses_rowsOf table element ordinal isRows (show _ ≤ rounds by omega)
    (orderTokens condition key ++ .symbol ')' :: more) trivial
  have first := isItem rounds (by omega) (rowTokens rows table element ordinal
    ++ (orderTokens condition key ++ .symbol ')' :: more)) ⟨rfl, rfl, rfl⟩
  have text : arrayTokens item rows table element ordinal condition key ++ more
      = .word "array".toList :: .symbol '(' :: .word "select".toList
        :: (item ++ (rowTokens rows table element ordinal
          ++ (orderTokens condition key ++ .symbol ')' :: more))) := by simp [arrayTokens]
  rw [text, operand_leading (by decide : _ = some Leading.array), led]
  unfold arrayOf
  simp only [Option.bind_eq_bind, Option.bind_some, symbol?_self, word?_self, first, second, third]
  rfl

end Rows

/-! ### Texts -/

/-- A text whose tokens are a value is read as that value. -/
theorem read?_eq {text : String} {ts : List Token} {t : Term} (scans : Scans text.toList ts)
    (value : IsValue ts t) : read? text = some t := by
  have parsed := value ts.length (Nat.le_refl _) [] ⟨rfl, rfl, rfl⟩
  rw [List.append_nil] at parsed
  unfold read?
  rw [scans]
  simp only [Option.bind_eq_bind, Option.bind_some, parsed]

end ColumnCast.Sql
