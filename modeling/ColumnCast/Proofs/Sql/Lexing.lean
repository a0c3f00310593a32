import ColumnCast.Proofs.Sql.Rendering

/-!
# `ColumnCast.Proofs.Sql.Lexing`: no text leaves its quotes

`Expr.tokens` is what the text of an expression should be scanned to. It
follows the expression as `Expr.render` does, but holds every text from
outside as the content of one token. `Expr.Quotes` lists these texts: the
sources are a quoted name, and each literal has a content that is allowed.

`Expr.Quotes.lexed` is the induction that shows both to be the same. What
it carries along is `Lexes`: the text is scanned to the tokens, no literal
has a prefix that would change how it is read, each token is one of the
expression's own or holds a text that was listed, and parentheses and
cascades are closed in the order in which they are opened.
-/

set_option autoImplicit false

namespace ColumnCast.Sql

/-! ### Where tokens come from -/

/-- The characters that an expression has outside of words, numbers and quotes. -/
def punctuation : List Char := ['(', ')', ',', '.', '~', '-']

namespace Token

/-- A token of the expression itself. -/
def isPlain : Token → Bool
  | word _ | number _ => true
  | symbol c => punctuation.contains c
  | name _ | literal _ => false

/-- The token is one of the expression itself, the name, or a literal with an allowed text. -/
def From (column : String) (allowed : String → Prop) : Token → Prop
  | name text => text = column
  | literal text => allowed text
  | t => t.isPlain = true

theorem From.of_isPlain {column : String} {allowed : String → Prop} {t : Token}
    (plain : t.isPlain = true) : t.From column allowed := by
  cases t with
  | word | number | symbol => exact plain
  | name | literal => exact absurd plain (by simp [isPlain])

end Token

/-- What is closed again. -/
inductive Bracket
  | parenthesis
  /-- A cascade, from `CASE` to `END`. -/
  | cascade
  deriving DecidableEq

/-- The brackets that are open behind a token, the innermost first; none if it closes what is
not open. -/
def Token.change (opened : List Bracket) : Token → Option (List Bracket)
  | .symbol '(' => some (.parenthesis :: opened)
  | .symbol ')' =>
    match opened with
    | .parenthesis :: outer => some outer
    | _ => none
  | .word letters =>
    if letters = "case".toList then some (.cascade :: opened)
    else if letters = "end".toList then
      match opened with
      | .cascade :: outer => some outer
      | _ => none
    else some opened
  | _ => some opened

/-- The brackets that are open behind the tokens. -/
def openedBy (opened : List Bracket) (ts : List Token) : Option (List Bracket) :=
  ts.foldlM Token.change opened

/-! ### Where quotations open -/

/-- Is the character a quotation mark? -/
def isMark (c : Char) : Bool := c == '\'' || c == '"'

namespace Mode

/-- May the character follow? A mark opens no quotation directly behind a word, which would be
its prefix as in `E'…'`, nor behind a number or another quotation. -/
def admits : Mode → Char → Bool
  | between, _ | .quoted _ _, _ => true
  | word _, c | number _, c => !isMark c
  | ended mark _, c => c == mark.char || !isMark c

/-- The same of every character of a text. -/
def admitsAll (mode : Mode) : List Char → Bool
  | [] => true
  | c :: rest => mode.admits c && (mode.step c).2.admitsAll rest

theorem admitsAll_append (mode : Mode) (u v : List Char) :
    mode.admitsAll (u ++ v) = (mode.admitsAll u && (run mode u).2.admitsAll v) := by
  induction u generalizing mode with
  | nil => rfl
  | cons c u ih => rw [List.cons_append, admitsAll, admitsAll, ih, run, Bool.and_assoc]

theorem admits_of_unmarked (mode : Mode) {c : Char} (unmarked : isMark c = false) :
    mode.admits c = true := by
  cases mode <;> simp [admits, unmarked]

/-- A text without marks may stand anywhere. -/
theorem admitsAll_of_unmarked (mode : Mode) {text : List Char}
    (unmarked : ∀ c ∈ text, isMark c = false) : mode.admitsAll text = true := by
  induction text generalizing mode with
  | nil => rfl
  | cons c text ih =>
      rw [admitsAll, admits_of_unmarked mode (unmarked c List.mem_cons_self),
        ih _ fun d mem => unmarked d (List.mem_cons_of_mem _ mem)]
      rfl

/-- What may stand alone may stand behind a text whose last token does not go on with it. -/
theorem admitsAll_of_breaks {mode : Mode} {done : List Token}
    (finished : mode.finish? = some done) {text : List Char} (breaks : Breaks text)
    (alone : between.admitsAll text = true) : mode.admitsAll text = true := by
  cases text with
  | nil => rfl
  | cons c rest =>
      have next : (mode.step c).2 = (between.step c).2 := by
        rw [step_of_stopsAt finished breaks]
        rfl
      have unmarked : isMark c = false := by
        simp [isMark, breaks.2.1, breaks.2.2]
      rw [admitsAll, admits_of_unmarked mode unmarked, next]
      exact (Bool.and_eq_true_iff.mp alone).2

/-- Inside a quotation every character may follow. -/
theorem admitsAll_doubled (mark : Mark) (taken text : List Char) :
    (Mode.quoted mark taken).admitsAll (doubled mark.char text) = true := by
  induction text generalizing taken with
  | nil => rfl
  | cons c text ih =>
      rw [doubled]
      split
      · -- The first of two marks ends the quotation, the second goes on with it.
        rename_i isMark
        subst isMark
        rw [admitsAll, admitsAll]
        simp only [step, if_true, ih]
        cases mark <;> rfl
      · rename_i other
        rw [admitsAll]
        simp only [step, other, if_false, ih]
        rfl

theorem admitsAll_quoted (mark : Mark) (text : String) :
    between.admitsAll (Sql.quoted mark.char text).toList = true := by
  have opening : (between.step mark.char).2 = .quoted mark [] := by cases mark <;> rfl
  have inside : (run (.quoted mark []) (doubled mark.char text.toList)).2
      = .quoted mark text.toList.reverse := by
    have run := run_doubled mark [] text.toList []
    rw [List.append_nil, List.append_nil] at run
    rw [run]
    rfl
  unfold Sql.quoted
  rw [String.toList_ofList, admitsAll, opening, admitsAll_append, admitsAll_doubled, inside]
  rfl

end Mode

/-! ### Texts and their tokens -/

/-- The text is scanned to tokens that come from the name and the allowed texts, and leads from
the open brackets `before` to those `after`. -/
structure Lexes (column : String) (allowed : String → Prop) (before after : List Bracket)
    (text : List Char) (ts : List Token) : Prop where
  scans : Scans text ts
  opens : Mode.between.admitsAll text = true
  origin : ∀ t ∈ ts, t.From column allowed
  nests : openedBy before ts = some after

/-- The same of a text at whose end no token is open. -/
structure Delimits (column : String) (allowed : String → Prop) (before after : List Bracket)
    (text : List Char) (ts : List Token) : Prop where
  closed : Closed text ts
  opens : Mode.between.admitsAll text = true
  origin : ∀ t ∈ ts, t.From column allowed
  nests : openedBy before ts = some after

section Compose

variable {column : String} {allowed : String → Prop} {s t r q : List Bracket}
  {u v middle : List Char} {ts us ms : List Token}

theorem openedBy_append (first : openedBy s ts = some t) (us : List Token) :
    openedBy s (ts ++ us) = openedBy t us := by
  unfold openedBy at *
  rw [List.foldlM_append, first]
  rfl

theorem origin_append (first : ∀ t ∈ ts, t.From column allowed)
    (second : ∀ t ∈ us, t.From column allowed) : ∀ t ∈ ts ++ us, t.From column allowed := by
  intro t mem
  rcases List.mem_append.mp mem with mem | mem
  · exact first t mem
  · exact second t mem

theorem Lexes.append (first : Lexes column allowed s t u ts) (second : Lexes column allowed t r v us)
    (breaks : Breaks v) : Lexes column allowed s r (u ++ v) (ts ++ us) where
  scans := first.scans.append second.scans breaks
  opens := by
    obtain ⟨done, finished, -⟩ := Option.map_eq_some_iff.mp first.scans
    rw [Mode.admitsAll_append, first.opens, Bool.true_and]
    exact Mode.admitsAll_of_breaks finished breaks second.opens
  origin := origin_append first.origin second.origin
  nests := (openedBy_append first.nests us).trans second.nests

theorem Delimits.append (first : Delimits column allowed s t u ts)
    (second : Lexes column allowed t r v us) : Lexes column allowed s r (u ++ v) (ts ++ us) where
  scans := first.closed.append second.scans
  opens := by
    have reached : (Mode.run .between u).2 = .between := congrArg Prod.snd first.closed
    rw [Mode.admitsAll_append, first.opens, Bool.true_and, reached]
    exact second.opens
  origin := origin_append first.origin second.origin
  nests := (openedBy_append first.nests us).trans second.nests

/-- Two texts with a fixed one between them. -/
theorem Lexes.between (first : Lexes column allowed s t u ts)
    (fixed : Delimits column allowed t r middle ms) (breaks : middle ≠ [] ∧ Breaks middle)
    (second : Lexes column allowed r q v us) :
    Lexes column allowed s q (u ++ (middle ++ v)) (ts ++ (ms ++ us)) := by
  obtain ⟨c, more, rfl⟩ := List.exists_cons_of_ne_nil breaks.1
  exact first.append (fixed.append second) breaks.2

theorem origin_of_plain (plain : ts.all Token.isPlain = true) :
    ∀ t ∈ ts, t.From column allowed := fun t mem =>
  Token.From.of_isPlain (List.all_eq_true.mp plain t mem)

theorem opens_of_unmarked (unmarked : u.all (!isMark ·) = true) :
    Mode.between.admitsAll u = true := by
  refine Mode.admitsAll_of_unmarked _ fun c mem => ?_
  simpa using List.all_eq_true.mp unmarked c mem

/-- A text of the expression itself. -/
theorem Closed.delimits (closed : Closed u ts) (unmarked : u.all (!isMark ·) = true)
    (plain : ts.all Token.isPlain = true) (nests : openedBy s ts = some t) :
    Delimits column allowed s t u ts :=
  ⟨closed, opens_of_unmarked unmarked, origin_of_plain plain, nests⟩

theorem Scans.lexes (scans : Scans u ts) (unmarked : u.all (!isMark ·) = true)
    (plain : ts.all Token.isPlain = true) (nests : openedBy s ts = some t) :
    Lexes column allowed s t u ts :=
  ⟨scans, opens_of_unmarked unmarked, origin_of_plain plain, nests⟩

theorem lexes_literal {text : String} (isAllowed : allowed text) :
    Lexes column allowed s s (quoteLiteral text).toList [.literal text] where
  scans := scans_quoteLiteral text
  opens := Mode.admitsAll_quoted .single text
  origin t mem := by
    rw [List.mem_singleton.mp mem]
    exact isAllowed
  nests := rfl

theorem lexes_name : Lexes column allowed s s (quoteIdent column).toList [.name column] where
  scans := scans_quoteIdent column
  opens := Mode.admitsAll_quoted .double column
  origin t mem := by
    rw [List.mem_singleton.mp mem]
    rfl
  nests := rfl

/-- Items with commas between. -/
theorem lexes_separated {α : Type} {text : α → String} {tokens : α → List Token} {items : List α}
    (h : ∀ a ∈ items, Lexes column allowed s s (text a).toList (tokens a)) :
    Lexes column allowed s s (", ".intercalate (items.map text)).toList
      ([Token.symbol ','].intercalate (items.map tokens)) := by
  have comma : Delimits column allowed s s ", ".toList [.symbol ','] :=
    Closed.delimits (by decide) rfl rfl rfl
  rw [String.toList_intercalate]
  induction items with
  | nil => exact ⟨rfl, rfl, fun t mem => absurd mem (by simp), rfl⟩
  | cons a items ih =>
      have first := h a List.mem_cons_self
      cases items with
      | nil => simpa using first
      | cons b items =>
          have rest := ih fun c mem => h c (List.mem_cons_of_mem _ mem)
          simp only [List.map_cons, List.intercalate_cons_cons, List.append_assoc] at rest ⊢
          exact first.between comma (by decide) rest

end Compose

/-! ### The tokens of an expression -/

/-- The tokens of a whole number. -/
def intTokens : Int → List Token
  | .ofNat n => [.number n]
  | .negSucc n => [.symbol '-', .number (n + 1)]

/-- A negative number is a sign and digits. -/
theorem toList_toString_negSucc (n : Nat) :
    (toString (Int.negSucc n)).toList = "-".toList ++ (toString (n + 1)).toList := by
  rw [← String.toList_append]
  rfl

theorem unmarked_toString (n : Nat) : (toString n).toList.all (!isMark ·) = true := by
  refine List.all_eq_true.mpr fun c mem => ?_
  have differs (d : Char) : d.isDigit = false → c ≠ d :=
    Text.ne_of_isDigit (Text.areDigits_toString n c mem)
  simp [isMark, differs '\'' rfl, differs '"' rfl]

theorem lexes_int {column : String} {allowed : String → Prop} {s : List Bracket} (n : Int) :
    Lexes column allowed s s (toString n).toList (intTokens n) := by
  cases n with
  | ofNat n => exact (scans_toString n).lexes (unmarked_toString n) rfl rfl
  | negSucc n =>
      have minus : Delimits column allowed s s "-".toList [.symbol '-'] :=
        Closed.delimits (by decide) rfl rfl rfl
      rw [toList_toString_negSucc]
      exact minus.append ((scans_toString (n + 1)).lexes (unmarked_toString (n + 1)) rfl rfl)

/-- The tokens between the parentheses of `IN (…)`. -/
def Choices.tokens : Choices → List Token
  | texts items => [Token.symbol ','].intercalate (items.map fun text => [.literal text])
  | numbers items => [Token.symbol ','].intercalate (items.map intTokens)

namespace Expr

mutual

/-- The tokens of an expression. -/
def tokens : Expr → List Token
  | source sql => (tokens? sql.toList).getD []
  | number => [.word "__number".toList, .symbol '.', .word "__value".toList]
  | null => [.word "null".toList]
  | noElse => []
  | truth holds => [.word (if holds then "true".toList else "false".toList)]
  | text value => [.literal value]
  | cast value target =>
    [.word "cast".toList, .symbol '('] ++ (value.tokens
      ++ ([.word "as".toList] ++ (target.tokens ++ [.symbol ')'])))
  | nullIfEmpty value =>
    [.word "nullif".toList, .symbol '('] ++ (value.tokens
      ++ ([.symbol ','] ++ ([.literal ""] ++ [.symbol ')'])))
  | replace value pattern replacement scope =>
    [.word "regexp_replace".toList, .symbol '('] ++ (value.tokens
      ++ ([.symbol ','] ++ ([.literal pattern] ++ ([.symbol ','] ++ ([.literal replacement]
      ++ match scope with
        | .first => [.symbol ')']
        | .all => [.symbol ','] ++ ([.literal "g"] ++ [.symbol ')']))))))
  | saturate value low high =>
    [.word "least".toList, .symbol '(', .word "greatest".toList, .symbol '('] ++ (value.tokens
      ++ ([.symbol ','] ++ (intTokens low ++ ([.symbol ')', .symbol ',']
      ++ (intTokens high ++ [.symbol ')'])))))
  | roundsWithin value low high =>
    [.word "round".toList, .symbol '('] ++ (value.tokens
      ++ ([.symbol ')', .word "between".toList] ++ (intTokens low
      ++ ([.word "and".toList] ++ intTokens high))))
  | isNull value => value.tokens ++ [.word "is".toList, .word "null".toList]
  | either left right => left.tokens ++ ([.word "or".toList] ++ right.tokens)
  | memberOf value choices =>
    value.tokens ++ ([.word "in".toList, .symbol '('] ++ (choices.tokens ++ [.symbol ')']))
  | recognized value pattern => value.tokens ++ ([.symbol '~'] ++ [.literal (anchor pattern)])
  | toDate value template =>
    [.word "to_date".toList, .symbol '('] ++ (value.tokens
      ++ ([.symbol ','] ++ ([.literal template] ++ [.symbol ')'])))
  | toTimestamp value template =>
    [.word "to_timestamp".toList, .symbol '('] ++ (value.tokens
      ++ ([.symbol ','] ++ ([.literal template] ++ [.symbol ')'])))
  | epoch value =>
    [.word "extract".toList, .symbol '(', .word "epoch".toList, .word "from".toList]
      ++ (value.tokens ++ [.symbol ')'])
  | arm condition result otherwise =>
    [.word "case".toList, .word "when".toList] ++ (condition.tokens
      ++ ([.word "then".toList] ++ (result.tokens ++ otherwise.armTokens)))
  | withNumber value body =>
    [.symbol '(', .word "select".toList] ++ (body.tokens
      ++ ([.word "from".toList, .symbol '(', .word "select".toList] ++ (value.tokens
      ++ [.word "as".toList, .word "__value".toList, .symbol ')', .word "as".toList,
        .word "__number".toList, .symbol ')'])))
  | keptParts value delimiter pattern =>
    partsFront ++ (value.tokens ++ ([.symbol ','] ++ ([.literal delimiter] ++ (partsRows
      ++ ([.literal pattern] ++ (partsOrder ++ ([.literal delimiter] ++ [.symbol ')'])))))))

/-- The tokens of what follows the result of an arm. -/
def armTokens : Expr → List Token
  | arm condition result otherwise =>
    [.word "when".toList] ++ (condition.tokens
      ++ ([.word "then".toList] ++ (result.tokens ++ otherwise.armTokens)))
  | noElse => [.word "end".toList]
  | last => [.word "else".toList] ++ (last.tokens ++ [.word "end".toList])

end

/-- The sources of the expression are the quoted name, and its literals have allowed texts. -/
def Quotes (column : String) (allowed : String → Prop) : Expr → Prop
  | source sql => sql = quoteIdent column
  | number | null | noElse | truth _ => True
  | text value => allowed value
  | cast value _ | saturate value _ _ | roundsWithin value _ _ | isNull value | epoch value =>
    value.Quotes column allowed
  | nullIfEmpty value => value.Quotes column allowed ∧ allowed ""
  | replace value pattern replacement scope =>
    value.Quotes column allowed ∧ allowed pattern ∧ allowed replacement
      ∧ (scope = .all → allowed "g")
  | either left right => left.Quotes column allowed ∧ right.Quotes column allowed
  | memberOf value (.texts items) => value.Quotes column allowed ∧ ∀ text ∈ items, allowed text
  | memberOf value (.numbers _) => value.Quotes column allowed
  | recognized value pattern => value.Quotes column allowed ∧ allowed (anchor pattern)
  | toDate value template | toTimestamp value template =>
    value.Quotes column allowed ∧ allowed template
  | arm condition result otherwise =>
    condition.Quotes column allowed ∧ result.Quotes column allowed
      ∧ otherwise.Quotes column allowed
  | withNumber value body => value.Quotes column allowed ∧ body.Quotes column allowed
  | keptParts value delimiter pattern =>
    value.Quotes column allowed ∧ allowed delimiter ∧ allowed pattern

/-- The expression may stand behind the last `ELSE` of a cascade: it is no further arm, and not
the missing part. -/
def isLast : Expr → Bool
  | arm _ _ _ | noElse => false
  | _ => true

theorem renderArms_of_isLast {e : Expr} (h : e.isLast = true) :
    e.renderArms = " ELSE " ++ e.render ++ " END"
      ∧ e.armTokens = [.word "else".toList] ++ (e.tokens ++ [.word "end".toList]) := by
  cases e
  case arm | noElse => exact absurd h (by simp [isLast])
  all_goals simp only [renderArms, armTokens, and_self]

/-! ### The text of an expression is scanned to its tokens -/

/-- The text is scanned to the tokens wherever it stands. -/
def Lexed (column : String) (allowed : String → Prop) (e : Expr) : Prop :=
  ∀ s, Lexes column allowed s s e.render.toList e.tokens

/-- The same of what follows the result of an arm, and it closes the cascade. -/
def LexedArms (column : String) (allowed : String → Prop) (e : Expr) : Prop :=
  ∀ s, Lexes column allowed (.cascade :: s) s e.renderArms.toList e.armTokens

section Forms

variable {column : String} {allowed : String → Prop} {s : List Bracket} {value : Expr}

theorem delimits_comma : Delimits column allowed s s ", ".toList [.symbol ','] :=
  Closed.delimits (by decide) rfl rfl rfl

/-- The end of a call. -/
theorem lexes_close : Lexes column allowed (.parenthesis :: s) s ")".toList [.symbol ')'] :=
  Scans.lexes (by decide) rfl rfl rfl

theorem lexes_target (target : Target) :
    Lexes column allowed s s target.render.toList target.tokens := by
  refine (scans_target target).lexes ?_ ?_ ?_
  · cases target with
    | varchar limit =>
        rw [Target.render, String.toList_append, String.toList_append, List.all_append,
          List.all_append, unmarked_toString]
        rfl
    | decimal | bigint | integer | time | text => rfl
  · cases target <;> rfl
  · cases target <;> rfl

theorem lexed_source : Lexed column allowed (source (quoteIdent column)) := by
  intro s
  have scans : tokens? (quoteIdent column).toList = some [.name column] := scans_quoteIdent column
  rw [render_source, tokens, scans]
  exact lexes_name

theorem lexed_text {content : String} (isAllowed : allowed content) :
    Lexed column allowed (text content) := by
  intro s
  rw [render, tokens]
  exact lexes_literal isAllowed

namespace Lexed

variable (h : Lexed column allowed value)

include h

theorem cast (target : Target) : Lexed column allowed (value.cast target) := by
  intro s
  have opening : Delimits column allowed s (.parenthesis :: s) "CAST(".toList
      [.word "cast".toList, .symbol '('] := Closed.delimits (by decide) rfl rfl rfl
  have middle : Delimits column allowed (.parenthesis :: s) (.parenthesis :: s) " AS ".toList
      [.word "as".toList] := Closed.delimits (by decide) rfl rfl rfl
  rw [render, tokens]
  simp only [String.toList_append, List.append_assoc]
  exact opening.append ((h _).between middle (by decide)
    ((lexes_target target).append lexes_close (by decide)))

/-- A call with two arguments, the second of them a literal. -/
theorem call {name content : String} {front : List Token}
    (opening : Delimits column allowed s (.parenthesis :: s) name.toList front)
    (isAllowed : allowed content) :
    Lexes column allowed s s (name ++ value.render ++ ", " ++ quoteLiteral content ++ ")").toList
      (front ++ (value.tokens ++ ([.symbol ','] ++ ([.literal content] ++ [.symbol ')'])))) := by
  simp only [String.toList_append, List.append_assoc]
  exact opening.append ((h _).between delimits_comma (by decide)
    ((lexes_literal isAllowed).append lexes_close (by decide)))

theorem nullIfEmpty (isAllowed : allowed "") : Lexed column allowed value.nullIfEmpty := by
  intro s
  have opening : Delimits column allowed s (.parenthesis :: s) "NULLIF(".toList
      [.word "nullif".toList, .symbol '('] := Closed.delimits (by decide) rfl rfl rfl
  rw [render_nullIfEmpty, tokens]
  exact h.call opening isAllowed

theorem toDate {template : String} (isAllowed : allowed template) :
    Lexed column allowed (value.toDate template) := by
  intro s
  have opening : Delimits column allowed s (.parenthesis :: s) "TO_DATE(".toList
      [.word "to_date".toList, .symbol '('] := Closed.delimits (by decide) rfl rfl rfl
  rw [render, tokens]
  exact h.call opening isAllowed

theorem toTimestamp {template : String} (isAllowed : allowed template) :
    Lexed column allowed (value.toTimestamp template) := by
  intro s
  have opening : Delimits column allowed s (.parenthesis :: s) "TO_TIMESTAMP(".toList
      [.word "to_timestamp".toList, .symbol '('] := Closed.delimits (by decide) rfl rfl rfl
  rw [render, tokens]
  exact h.call opening isAllowed

theorem replace {pattern replacement : String} {scope : Scope} (isPattern : allowed pattern)
    (isReplacement : allowed replacement) (isScope : scope = .all → allowed "g") :
    Lexed column allowed (value.replace pattern replacement scope) := by
  intro s
  have opening : Delimits column allowed s (.parenthesis :: s) "REGEXP_REPLACE(".toList
      [.word "regexp_replace".toList, .symbol '('] := Closed.delimits (by decide) rfl rfl rfl
  have flagged : ", 'g')" = ", " ++ quoteLiteral "g" ++ ")" := by decide
  cases scope with
  | first =>
      simp only [render, tokens, String.toList_append, List.append_assoc]
      exact opening.append ((h _).between delimits_comma (by decide)
        ((lexes_literal isPattern).between delimits_comma (by decide)
          ((lexes_literal isReplacement).append lexes_close (by decide))))
  | all =>
      simp only [render, tokens, flagged, String.toList_append, List.append_assoc]
      exact opening.append ((h _).between delimits_comma (by decide)
        ((lexes_literal isPattern).between delimits_comma (by decide)
          ((lexes_literal isReplacement).between delimits_comma (by decide)
            ((lexes_literal (isScope rfl)).append lexes_close (by decide)))))

theorem saturate (low high : Int) : Lexed column allowed (value.saturate low high) := by
  intro s
  have opening : Delimits column allowed s (.parenthesis :: .parenthesis :: s)
      "LEAST(GREATEST(".toList
      [.word "least".toList, .symbol '(', .word "greatest".toList, .symbol '('] :=
    Closed.delimits (by decide) rfl rfl rfl
  have middle : Delimits column allowed (.parenthesis :: .parenthesis :: s) (.parenthesis :: s)
      "), ".toList [.symbol ')', .symbol ','] := Closed.delimits (by decide) rfl rfl rfl
  rw [render, tokens]
  simp only [String.toList_append, List.append_assoc]
  exact opening.append ((h _).between delimits_comma (by decide)
    ((lexes_int low).between middle (by decide) ((lexes_int high).append lexes_close (by decide))))

theorem roundsWithin (low high : Int) : Lexed column allowed (value.roundsWithin low high) := by
  intro s
  have opening : Delimits column allowed s (.parenthesis :: s) "ROUND(".toList
      [.word "round".toList, .symbol '('] := Closed.delimits (by decide) rfl rfl rfl
  have middle : Delimits column allowed (.parenthesis :: s) s ") BETWEEN ".toList
      [.symbol ')', .word "between".toList] := Closed.delimits (by decide) rfl rfl rfl
  have conjunction : Delimits column allowed s s " AND ".toList [.word "and".toList] :=
    Closed.delimits (by decide) rfl rfl rfl
  rw [render, tokens]
  simp only [String.toList_append, List.append_assoc]
  exact opening.append ((h _).between middle (by decide)
    ((lexes_int low).between conjunction (by decide) (lexes_int high)))

theorem isNull : Lexed column allowed value.isNull := by
  intro s
  have test : Lexes column allowed s s " IS NULL".toList
      [.word "is".toList, .word "null".toList] := Scans.lexes (by decide) rfl rfl rfl
  rw [render, tokens, String.toList_append]
  exact (h s).append test (by decide)

theorem either {right : Expr} (h' : Lexed column allowed right) :
    Lexed column allowed (value.either right) := by
  intro s
  have middle : Delimits column allowed s s " OR ".toList [.word "or".toList] :=
    Closed.delimits (by decide) rfl rfl rfl
  rw [render, tokens]
  simp only [String.toList_append, List.append_assoc]
  exact (h s).between middle (by decide) (h' s)

theorem memberOf {choices : Choices}
    (isAllowed : ∀ items, choices = .texts items → ∀ text ∈ items, allowed text) :
    Lexed column allowed (value.memberOf choices) := by
  intro s
  have opening : Delimits column allowed s (.parenthesis :: s) " IN (".toList
      [.word "in".toList, .symbol '('] := Closed.delimits (by decide) rfl rfl rfl
  have list : Lexes column allowed (.parenthesis :: s) (.parenthesis :: s) choices.render.toList
      choices.tokens := by
    cases choices with
    | texts items => exact lexes_separated fun text mem => lexes_literal (isAllowed items rfl text mem)
    | numbers items => exact lexes_separated fun n _ => lexes_int n
  rw [render, tokens]
  simp only [String.toList_append, List.append_assoc]
  exact (h s).between opening (by decide) (list.append lexes_close (by decide))

theorem recognized {pattern : String} (isAllowed : allowed (anchor pattern)) :
    Lexed column allowed (value.recognized pattern) := by
  intro s
  have middle : Delimits column allowed s s " ~ ".toList [.symbol '~'] :=
    Closed.delimits (by decide) rfl rfl rfl
  rw [render, tokens]
  simp only [String.toList_append, List.append_assoc]
  exact (h s).between middle (by decide) (lexes_literal isAllowed)

theorem epoch : Lexed column allowed value.epoch := by
  intro s
  have opening : Delimits column allowed s (.parenthesis :: s) "EXTRACT(EPOCH FROM ".toList
      [.word "extract".toList, .symbol '(', .word "epoch".toList, .word "from".toList] :=
    Closed.delimits (by decide) rfl rfl rfl
  rw [render, tokens]
  simp only [String.toList_append, List.append_assoc]
  exact opening.append ((h _).append lexes_close (by decide))

theorem withNumber {body : Expr} (h' : Lexed column allowed body) :
    Lexed column allowed (value.withNumber body) := by
  intro s
  have opening : Delimits column allowed s (.parenthesis :: s) "(SELECT ".toList
      [.symbol '(', .word "select".toList] := Closed.delimits (by decide) rfl rfl rfl
  have middle : Delimits column allowed (.parenthesis :: s) (.parenthesis :: .parenthesis :: s)
      " FROM (SELECT ".toList [.word "from".toList, .symbol '(', .word "select".toList] :=
    Closed.delimits (by decide) rfl rfl rfl
  have closing : Lexes column allowed (.parenthesis :: .parenthesis :: s) s
      " AS __value) AS __number)".toList
      [.word "as".toList, .word "__value".toList, .symbol ')', .word "as".toList,
        .word "__number".toList, .symbol ')'] := Scans.lexes (by decide) rfl rfl rfl
  have text : (value.withNumber body).render = "(SELECT " ++ body.render ++ " FROM (SELECT "
      ++ value.render ++ " AS __value) AS __number)" := by
    rw [render]
  rw [text, tokens]
  simp only [String.toList_append, List.append_assoc]
  exact opening.append ((h' _).between middle (by decide) ((h _).append closing (by decide)))

theorem keptParts {delimiter pattern : String} (isDelimiter : allowed delimiter)
    (isPattern : allowed pattern) : Lexed column allowed (value.keptParts delimiter pattern) := by
  intro s
  have front : Delimits column allowed s
      (.parenthesis :: .parenthesis :: .parenthesis :: .parenthesis :: s) _ partsFront :=
    closed_partsFront.delimits rfl rfl rfl
  have rows : Delimits column allowed
      (.parenthesis :: .parenthesis :: .parenthesis :: .parenthesis :: s)
      (.parenthesis :: .parenthesis :: s) _ partsRows := closed_partsRows.delimits rfl rfl rfl
  have order : Delimits column allowed (.parenthesis :: .parenthesis :: s) (.parenthesis :: s) _
      partsOrder := closed_partsOrder.delimits rfl rfl rfl
  rw [render, tokens]
  simp only [String.toList_append, List.append_assoc]
  exact front.append ((h _).between delimits_comma (by decide)
    ((lexes_literal isDelimiter).between rows (by decide)
      ((lexes_literal isPattern).between order (by decide)
        ((lexes_literal isDelimiter).append lexes_close (by decide)))))

/-- The last part of a cascade. -/
theorem arms (isLast : value.isLast = true) : LexedArms column allowed value := by
  intro s
  have opening : Delimits column allowed (.cascade :: s) (.cascade :: s) " ELSE ".toList
      [.word "else".toList] := Closed.delimits (by decide) rfl rfl rfl
  have closing : Lexes column allowed (.cascade :: s) s " END".toList [.word "end".toList] :=
    Scans.lexes (by decide) rfl rfl rfl
  rw [(renderArms_of_isLast isLast).1, (renderArms_of_isLast isLast).2]
  simp only [String.toList_append, List.append_assoc]
  exact opening.append ((h _).append closing (by decide))

end Lexed

section Arm

variable {condition result otherwise : Expr} (isCondition : Lexed column allowed condition)
  (isResult : Lexed column allowed result) (isOtherwise : LexedArms column allowed otherwise)

include isCondition isResult isOtherwise

/-- Behind its first keyword a cascade is as it is behind another arm. -/
theorem lexes_arm (s : List Bracket) : Lexes column allowed (.cascade :: s) s
    (condition.render.toList ++ (" THEN ".toList
      ++ (result.render.toList ++ otherwise.renderArms.toList)))
    (condition.tokens ++ ([.word "then".toList] ++ (result.tokens ++ otherwise.armTokens))) := by
  have middle : Delimits column allowed (.cascade :: s) (.cascade :: s) " THEN ".toList
      [.word "then".toList] := Closed.delimits (by decide) rfl rfl rfl
  exact (isCondition _).between middle (by decide)
    ((isResult _).append (isOtherwise s) (breaks_renderArms otherwise))

theorem lexed_arm : Lexed column allowed (arm condition result otherwise) := by
  intro s
  have opening : Delimits column allowed s (.cascade :: s) "CASE WHEN ".toList
      [.word "case".toList, .word "when".toList] := Closed.delimits (by decide) rfl rfl rfl
  rw [render, tokens]
  simp only [String.toList_append, List.append_assoc]
  exact opening.append (lexes_arm isCondition isResult isOtherwise s)

theorem lexedArms_arm : LexedArms column allowed (arm condition result otherwise) := by
  intro s
  have opening : Delimits column allowed (.cascade :: s) (.cascade :: s) " WHEN ".toList
      [.word "when".toList] := Closed.delimits (by decide) rfl rfl rfl
  rw [renderArms, armTokens]
  simp only [String.toList_append, List.append_assoc]
  exact opening.append (lexes_arm isCondition isResult isOtherwise s)

end Arm

end Forms

/-- **The text of an expression is scanned to its tokens**, and what follows the result of an
arm is scanned to those of its own. -/
theorem Quotes.lexed {column : String} {allowed : String → Prop} {e : Expr}
    (quotes : e.Quotes column allowed) :
    Lexed column allowed e ∧ LexedArms column allowed e := by
  -- What follows the result of an arm is an induction of its own only for further arms.
  have last : ∀ {e : Expr}, e.isLast = true → Lexed column allowed e →
      Lexed column allowed e ∧ LexedArms column allowed e :=
    fun isLast lexed => ⟨lexed, lexed.arms isLast⟩
  induction e with
  | source sql =>
      obtain rfl : sql = quoteIdent column := quotes
      exact last rfl lexed_source
  | number | null =>
      refine last rfl fun s => ?_
      rw [render, tokens]
      exact Scans.lexes (by decide) rfl rfl rfl
  | truth holds =>
      refine last rfl fun s => ?_
      rw [render, tokens]
      cases holds <;> exact Scans.lexes (by decide) rfl rfl rfl
  | noElse =>
      -- It has no text of its own, but ends the cascade it stands in.
      refine ⟨fun s => ?_, fun s => ?_⟩
      · rw [render, tokens]
        exact Scans.lexes (by decide) rfl rfl rfl
      · rw [renderArms, armTokens]
        exact Scans.lexes (by decide) rfl rfl rfl
  | text content => exact last rfl (lexed_text quotes)
  | cast value target ih => exact last rfl ((ih quotes).1.cast target)
  | nullIfEmpty value ih => exact last rfl ((ih quotes.1).1.nullIfEmpty quotes.2)
  | replace value pattern replacement scope ih =>
      obtain ⟨isValue, isPattern, isReplacement, isScope⟩ := quotes
      exact last rfl ((ih isValue).1.replace isPattern isReplacement isScope)
  | saturate value low high ih => exact last rfl ((ih quotes).1.saturate low high)
  | roundsWithin value low high ih => exact last rfl ((ih quotes).1.roundsWithin low high)
  | isNull value ih => exact last rfl (ih quotes).1.isNull
  | either left right ihLeft ihRight =>
      exact last rfl ((ihLeft quotes.1).1.either (ihRight quotes.2).1)
  | memberOf value choices ih =>
      cases choices with
      | texts items =>
          refine last rfl ((ih quotes.1).1.memberOf ?_)
          rintro _ ⟨⟩
          exact quotes.2
      | numbers items => exact last rfl ((ih quotes).1.memberOf fun _ eq => absurd eq (by simp))
  | recognized value pattern ih => exact last rfl ((ih quotes.1).1.recognized quotes.2)
  | toDate value template ih => exact last rfl ((ih quotes.1).1.toDate quotes.2)
  | toTimestamp value template ih => exact last rfl ((ih quotes.1).1.toTimestamp quotes.2)
  | epoch value ih => exact last rfl (ih quotes).1.epoch
  | arm condition result otherwise ihCondition ihResult ihOtherwise =>
      obtain ⟨isCondition, isResult, isOtherwise⟩ := quotes
      exact ⟨lexed_arm (ihCondition isCondition).1 (ihResult isResult).1 (ihOtherwise isOtherwise).2,
        lexedArms_arm (ihCondition isCondition).1 (ihResult isResult).1
          (ihOtherwise isOtherwise).2⟩
  | withNumber value body ihValue ihBody =>
      exact last rfl ((ihValue quotes.1).1.withNumber (ihBody quotes.2).1)
  | keptParts value delimiter pattern ih =>
      obtain ⟨isValue, isDelimiter, isPattern⟩ := quotes
      exact last rfl ((ih isValue).1.keptParts isDelimiter isPattern)

theorem quotes_cascade {column : String} {allowed : String → Prop} {arms : List (Expr × Expr)}
    (h : ∀ a ∈ arms, a.1.Quotes column allowed ∧ a.2.Quotes column allowed) :
    (cascade arms).Quotes column allowed := by
  induction arms with
  | nil => exact trivial
  | cons a arms ih =>
      have first := h a List.mem_cons_self
      exact ⟨first.1, first.2, ih fun b mem => h b (List.mem_cons_of_mem _ mem)⟩

end Expr

end ColumnCast.Sql
