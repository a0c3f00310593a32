import ColumnCast.Proofs.Yaml.Block

/-!
# `ColumnCast.Proofs.Yaml.Scanner`: what the scanner makes of written text

`Scanner.Leads` says that one scanner finds what another finds, with rounds
to spare. The scanners between which it is shown are all of one form,
`Scanner.spot`: outside brackets, with the tokens so far, the open blocks
and at most one possible key. `Leads.settle` goes over a gap and closes
the blocks that end there, and `Leads.take` takes one token.
-/

set_option autoImplicit false

namespace ColumnCast.Yaml

/-- Is the character none that is gone over on the way to a token? -/
def BeginsToken (c : Char) : Prop := IsApart c ∧ c ≠ '#' ∧ c ≠ '\ufeff'

instance (c : Char) : Decidable (BeginsToken c) := instDecidableAnd

/-- Does the text end, or begin with what can begin a token? -/
def Starts (text : List Char) : Prop := ∀ c ∈ text.head?, BeginsToken c

theorem starts_nil : Starts [] := by
  rintro _ ⟨⟩

theorem starts_cons {c : Char} (begins : BeginsToken c) (rest : List Char) :
    Starts (c :: rest) := by
  rintro _ ⟨⟩
  exact begins

namespace Scanner

variable {tokens : List Token} {indents : List Nat} {allowed : Bool} {p : Place}
  {key : Option PossibleKey} {rest : List Char} {line column : Nat}

/-- A scanner outside brackets. -/
def spot (tokens : List Token) (indents : List Nat) (allowed : Bool) (place : Place)
    (key : Option PossibleKey) : Scanner where
  place := place
  tokens := tokens
  count := tokens.length
  indents := indents
  keyAllowed := allowed
  key := key

/-! ### Going on to a token -/

theorem skipToToken_indentation (count : Nat) (starts : Starts rest) (rounds : Nat) :
    (spot tokens indents allowed ⟨indentation count ++ rest, line, column⟩ key).skipToToken
        (rounds + 1)
      = spot tokens indents allowed ⟨rest, line, column + count⟩ key := by
  -- Only a mark of byte order at the start of a line is gone over, and nothing begins with one.
  have noMark : ¬(column = 0 ∧ (indentation count ++ rest).head? = some '\ufeff') := by
    rintro ⟨-, mark⟩
    cases count with
    | zero => exact (starts _ mark).2.2 rfl
    | succ count => exact absurd mark (by simp [indentation, List.replicate_succ])
  have blanks (allows : Bool) :
      (indentation count ++ rest).takeWhile (fun c => c == ' ' || (allows && c == '\t'))
        = indentation count := by
    have none : rest.takeWhile (fun c => c == ' ' || (allows && c == '\t')) = [] := by
      cases rest with
      | nil => rfl
      | cons c rest =>
          have apart := (starts c rfl).1.1
          simp only [isBlank, Bool.or_eq_false_iff] at apart
          rw [List.takeWhile_cons_of_neg (by simp [apart])]
    rw [List.takeWhile_append_of_pos, none, List.append_nil]
    intro c mem
    rw [List.eq_of_mem_replicate mem]
    rfl
  rw [skipToToken]
  unfold Place.skipWhile
  simp only [spot, inFlow, noMark, if_false, blanks, Place.skip_append]
  cases rest with
  | nil => simp [Place.skipComment, indentation]
  | cons c rest =>
      obtain ⟨apart, noComment, -⟩ := starts c rfl
      have stays : Place.skipComment ⟨c :: rest, line, column + (indentation count).length⟩
          = ⟨c :: rest, line, column + (indentation count).length⟩ := by
        unfold Place.skipComment
        split
        · rename_i eq
          exact absurd (List.cons.inj eq).1 noComment
        · rfl
      rw [stays]
      dsimp only
      rw [apart.2, if_neg (by simp)]
      simp [indentation]

theorem skipToToken_start (starts : Starts p.rest) (rounds : Nat) :
    (spot tokens indents allowed p key).skipToToken (rounds + 1)
      = spot tokens indents allowed p key :=
  skipToToken_indentation 0 starts rounds

theorem skipToToken_line (count : Nat) (starts : Starts rest) (rounds : Nat) :
    (spot tokens indents allowed ⟨'\n' :: (indentation count ++ rest), line, column⟩
        key).skipToToken (rounds + 2)
      = spot tokens indents true ⟨rest, line + 1, count⟩ key := by
  have behind := @skipToToken_indentation tokens indents true key rest (line + 1) 0 count starts
    rounds
  rw [Nat.zero_add] at behind
  rw [← behind, skipToToken]
  have blanks (allows : Bool) : ('\n' :: (indentation count ++ rest)).takeWhile
      (fun c => c == ' ' || (allows && c == '\t')) = [] :=
    List.takeWhile_cons_of_neg (by simp)
  unfold Place.skipWhile
  simp only [spot, List.head?_cons, Option.some.injEq, Char.reduceEq, and_false, if_false, inFlow,
    blanks]
  cases allowed <;> rfl

/-! ### Possible keys and open blocks -/

theorem dropStaleKeys?_fresh (fresh : ∀ k ∈ key, isFresh p k = true) :
    (spot tokens indents allowed p key).dropStaleKeys?
      = some (spot tokens indents allowed p key) := by
  cases key with
  | none => rfl
  | some key => simp [dropStaleKeys?, spot, fresh key rfl]

/-- A key that nothing asks for is forgotten. -/
theorem dropStaleKeys?_stale (stale : ∀ k ∈ key, isFresh p k = false ∧ k.required = false) :
    (spot tokens indents allowed p key).dropStaleKeys?
      = some (spot tokens indents allowed p none) := by
  cases key with
  | none => rfl
  | some key => simp [dropStaleKeys?, spot, stale key rfl]

/-- The ends of the blocks that are over at a column. -/
def ended (indents : List Nat) (column : Nat) : List Token :=
  List.replicate (indents.takeWhile (column < ·)).length .blockEnd

/-- The blocks that go on at a column. -/
def kept (indents : List Nat) (column : Nat) : List Nat := indents.dropWhile (column < ·)

theorem closeBlocks_spot (limit : Nat) :
    (spot tokens indents allowed p key).closeBlocks (limit < ·)
      = spot (ended indents limit ++ tokens) (kept indents limit) allowed p key := by
  have dropped : (indents.takeWhile (limit < ·) ++ indents.dropWhile (limit < ·)).drop
      (indents.takeWhile (limit < ·)).length = indents.dropWhile (limit < ·) := List.drop_left
  rw [List.takeWhile_append_dropWhile] at dropped
  simp [closeBlocks, spot, inFlow, ended, kept, dropped, Nat.add_comm]

/-- A block goes on at a column that is no less than its own. -/
theorem ended_eq_nil (inside : ∀ i ∈ indents.head?, i ≤ column) : ended indents column = [] := by
  cases indents with
  | nil => rfl
  | cons i indents =>
      unfold ended
      rw [List.takeWhile_cons_of_neg (by simpa using inside i rfl)]
      rfl

theorem kept_eq_self (inside : ∀ i ∈ indents.head?, i ≤ column) :
    kept indents column = indents := by
  cases indents with
  | nil => rfl
  | cons i indents =>
      unfold kept
      rw [List.dropWhile_cons_of_neg (by simpa using inside i rfl)]

theorem ended_cons {i : Nat} (deeper : column < i) (indents : List Nat) :
    ended (i :: indents) column = .blockEnd :: ended indents column := by
  unfold ended
  rw [List.takeWhile_cons_of_pos (by simpa using deeper)]
  rfl

theorem kept_cons {i : Nat} (deeper : column < i) (indents : List Nat) :
    kept (i :: indents) column = kept indents column :=
  List.dropWhile_cons_of_pos (by simpa using deeper)

theorem kept_inside (indents : List Nat) (column : Nat) :
    ∀ i ∈ (kept indents column).head?, i ≤ column := by
  intro i first
  have head := List.head?_dropWhile_not (column < ·) indents
  rw [show (indents.dropWhile (column < ·)).head? = some i from first] at head
  simpa using head

/-! ### One scanner leads to another -/

/-- What a round does before it looks at a character. -/
def prepare? (s : Scanner) : Option Scanner :=
  (s.skipToToken (s.place.rest.length + 1)).dropStaleKeys?.map fun s =>
    s.closeBlocks (s.place.column < ·)

theorem finish?_succ (s : Scanner) (rounds : Nat) :
    s.finish? (rounds + 1) = s.prepare?.bind fun s =>
      match s.place.rest with
      | [] => ((s.closeBlocks fun _ => true).dropKey?).map fun s => s.tokens.reverse
      | c :: rest => (s.takeNext? c rest).bind (·.finish? rounds) := by
  unfold prepare?
  rw [finish?, Option.bind_eq_bind, Option.bind_map]
  refine congrArg _ (funext fun s => ?_)
  dsimp only [Function.comp]
  generalize s.closeBlocks (s.place.column < ·) = t
  generalize t.place.rest = rest
  cases rest with
  | nil => cases (t.closeBlocks fun _ => true).dropKey? <;> rfl
  | cons c rest => rfl

theorem prepare?_settled (starts : Starts p.rest) (fresh : ∀ k ∈ key, isFresh p k = true)
    (inside : ∀ i ∈ indents.head?, i ≤ p.column) :
    (spot tokens indents allowed p key).prepare? = some (spot tokens indents allowed p key) := by
  unfold prepare?
  rw [skipToToken_start starts, dropStaleKeys?_fresh fresh, Option.map_some]
  show some ((spot tokens indents allowed p key).closeBlocks (p.column < ·)) = _
  rw [closeBlocks_spot, ended_eq_nil inside, kept_eq_self inside, List.nil_append]

/-- The tokens that one scanner finds are those that the other finds, which has no more
characters before it than rounds are left. -/
def Leads (s t : Scanner) : Prop :=
  ∀ rounds, s.place.rest.length < rounds →
    ∃ others, t.place.rest.length < others ∧ s.finish? rounds = t.finish? others

namespace Leads

theorem refl (s : Scanner) : Leads s s := fun rounds enough => ⟨rounds, enough, rfl⟩

theorem trans {s t u : Scanner} (first : Leads s t) (second : Leads t u) : Leads s u := by
  intro rounds enough
  obtain ⟨middle, enough', same⟩ := first rounds enough
  obtain ⟨others, enough'', same'⟩ := second middle enough'
  exact ⟨others, enough'', same.trans same'⟩

/-- Two scanners that are the same once they have gone on to a token. -/
theorem of_prepare? {s t : Scanner} (same : s.prepare? = t.prepare?)
    (shorter : t.place.rest.length ≤ s.place.rest.length) : Leads s t := by
  intro rounds enough
  obtain ⟨rounds, rfl⟩ : ∃ n, rounds = n + 1 := ⟨rounds - 1, by omega⟩
  exact ⟨rounds + 1, by omega, by rw [finish?_succ, finish?_succ, same]⟩

/-- A gap is gone over, and the blocks end that end there. -/
theorem settle {allowed' : Bool} {q : Place}
    (skips : (spot tokens indents allowed p key).skipToToken (p.rest.length + 1)
      = spot tokens indents allowed' q key)
    (starts : Starts q.rest) (stale : ∀ k ∈ key, isFresh q k = false ∧ k.required = false)
    (shorter : q.rest.length ≤ p.rest.length) :
    Leads (spot tokens indents allowed p key)
      (spot (ended indents q.column ++ tokens) (kept indents q.column) allowed' q none) := by
  refine of_prepare? ?_ shorter
  -- Behind the gap nothing is left to do, so both sides are the scanner there.
  rw [prepare?_settled starts (by simp) (kept_inside indents q.column)]
  unfold prepare?
  show ((spot tokens indents allowed p key).skipToToken (p.rest.length + 1)).dropStaleKeys?.map _
    = _
  rw [skips, dropStaleKeys?_stale stale, Option.map_some]
  show some ((spot tokens indents allowed' q none).closeBlocks (q.column < ·)) = _
  rw [closeBlocks_spot]

/-- One token is taken. -/
theorem take {c : Char} {t : Scanner} (place : p.rest = c :: rest) (starts : Starts p.rest)
    (fresh : ∀ k ∈ key, isFresh p k = true) (inside : ∀ i ∈ indents.head?, i ≤ p.column)
    (taken : (spot tokens indents allowed p key).takeNext? c rest = some t)
    (shorter : t.place.rest.length ≤ rest.length) :
    Leads (spot tokens indents allowed p key) t := by
  intro rounds enough
  obtain ⟨rounds, rfl⟩ : ∃ n, rounds = n + 1 := ⟨rounds - 1, by omega⟩
  have less : p.rest.length < rounds + 1 := enough
  rw [place, List.length_cons] at less
  refine ⟨rounds, by omega, ?_⟩
  rw [finish?_succ, prepare?_settled starts fresh inside, Option.bind_some]
  show (match p.rest with
    | [] => _
    | c :: rest => ((spot tokens indents allowed p key).takeNext? c rest).bind _) = _
  rw [place]
  dsimp only
  rw [taken, Option.bind_some]

end Leads

/-- At the end of the text all blocks end. -/
theorem finish?_end (inside : ∀ i ∈ indents.head?, i ≤ column) (rounds : Nat) :
    (spot tokens indents allowed ⟨[], line, column⟩ none).finish? (rounds + 1)
      = some (tokens.reverse ++ List.replicate indents.length .blockEnd) := by
  have all : indents.takeWhile (fun _ => true) = indents := List.takeWhile_eq_self_iff.mpr (by simp)
  rw [finish?_succ, prepare?_settled starts_nil (by simp) inside, Option.bind_some]
  simp [spot, closeBlocks, inFlow, dropKey?, all]

/-! ### Marks of a block -/

/-- The start of a block, where one opens at a column. -/
def opened (indents : List Nat) (column : Nat) (start : Token) : List Token :=
  if indents.head?.all (· < column) then [start] else []

/-- The open blocks, with the one that opens at a column. -/
def entered (indents : List Nat) (column : Nat) : List Nat :=
  if indents.head?.all (· < column) then column :: indents else indents

theorem opened_deeper (deeper : ∀ i ∈ indents.head?, i < column) (start : Token) :
    opened indents column start = [start] := by
  unfold opened
  rw [if_pos]
  cases indents with
  | nil => rfl
  | cons i indents => simpa using deeper i rfl

theorem entered_deeper (deeper : ∀ i ∈ indents.head?, i < column) :
    entered indents column = column :: indents := by
  unfold entered
  rw [if_pos]
  cases indents with
  | nil => rfl
  | cons i indents => simpa using deeper i rfl

theorem opened_same (column : Nat) (indents : List Nat) (start : Token) :
    opened (column :: indents) column start = [] := by
  simp [opened]

theorem entered_same (column : Nat) (indents : List Nat) :
    entered (column :: indents) column = column :: indents := by
  simp [entered]

theorem openBlock_spot (start : Token) :
    (spot tokens indents allowed p key).openBlock start
      = spot (opened indents p.column start ++ tokens) (entered indents p.column) allowed p
        key := by
  unfold openBlock opened entered isDeeper inFlow
  show (if (false || !indents.head?.all (· < p.column)) = true then _ else _) = _
  cases indents.head?.all (· < p.column) <;> rfl

/-- The marks that begin an item, a key or a value, each with what it opens. -/
inductive Mark : (mark : Char) → (start token : Token) → Prop
  | entry : Mark '-' .blockSequenceStart .blockEntry
  | key : Mark '?' .blockMappingStart .key
  | value : Mark ':' .blockMappingStart .value

/-- A mark with a blank behind it is no beginning of a word of three equal characters. -/
theorem Mark.noIndicator {mark : Char} {start token : Token} (is : Mark mark start token)
    (ends : endsWord rest = true) {word : String} {c : Char} {more : List Char}
    (twice : word.toList = c :: c :: more) :
    Place.hasIndicator ⟨mark :: rest, line, column⟩ word = false := by
  have differs : word.toList.isPrefixOf (mark :: rest) = false := by
    rw [twice]
    cases rest with
    | nil => simp [List.isPrefixOf]
    | cons d rest =>
        by_contra both
        simp only [Bool.not_eq_false, List.isPrefixOf, Bool.and_eq_true, beq_iff_eq] at both
        obtain ⟨rfl, rfl, -⟩ := both
        cases is <;> exact absurd ends (by simp [endsWord, isBlank, isBreak])
  unfold Place.hasIndicator
  rw [differs, Bool.and_false, Bool.false_and]

theorem takeNext?_mark {mark : Char} {start token : Token} (is : Mark mark start token)
    (ends : endsWord rest = true) :
    (spot tokens indents true ⟨mark :: rest, line, column⟩ none).takeNext? mark rest
      = some (spot (token :: (opened indents column start ++ tokens)) (entered indents column) true
        ⟨rest, line, column + 1⟩ none) := by
  have noStart := @Mark.noIndicator rest line column _ _ _ is ends Place.documentStart '-' ['-'] rfl
  have noEnd := @Mark.noIndicator rest line column _ _ _ is ends Place.documentEnd '.' ['.'] rfl
  have opens := @openBlock_spot tokens indents true ⟨mark :: rest, line, column⟩ none start
  unfold takeNext?
  cases is with
  | entry =>
      simp only [spot, Char.reduceEq, and_false, if_false] at noStart noEnd opens ⊢
      simp only [noStart, noEnd, ends, takeBlockEntry?, inFlow, opens, dropKey?]
      rfl
  | key =>
      simp only [spot, Char.reduceEq, and_false, if_false] at noStart noEnd opens ⊢
      simp only [noStart, noEnd, ends, takeKey?, inFlow, opens, dropKey?]
      rfl
  | value =>
      simp only [spot, Char.reduceEq, and_false, if_false] at noStart noEnd opens ⊢
      simp only [noStart, noEnd, ends, takeValue?, inFlow, opens]
      rfl

/-! ### Scalars -/

/-- The key that may begin at a place. -/
def saved (tokens : List Token) (indents : List Nat) (allowed : Bool) (p : Place) :
    Option PossibleKey :=
  if allowed then some ⟨tokens.length, p.line, p.column, indents.head? == some p.column⟩ else none

theorem saveKey?_spot (tokens : List Token) (indents : List Nat) (allowed : Bool) (p : Place) :
    (spot tokens indents allowed p none).saveKey?
      = some (spot tokens indents allowed p (saved tokens indents allowed p)) := by
  cases allowed <;> rfl

theorem hasIndicator_of_head {word : String} {c d : Char} {more : List Char}
    (first : word.toList = d :: more) (other : d ≠ c) :
    Place.hasIndicator ⟨c :: rest, line, column⟩ word = false := by
  unfold Place.hasIndicator
  rw [first]
  simp [List.isPrefixOf, other]

theorem takeNext?_quoted {mark : Char} (quote : mark = '\'' ∨ mark = '"') {text : List Char}
    {q : Place} (read : readQuoted? mark ⟨mark :: rest, line, column⟩ = some (text, q)) :
    (spot tokens indents allowed ⟨mark :: rest, line, column⟩ none).takeNext? mark rest
      = some (spot (.scalar text .quoted :: tokens) indents false q
        (saved tokens indents allowed ⟨mark :: rest, line, column⟩)) := by
  have noStart : Place.hasIndicator ⟨mark :: rest, line, column⟩ Place.documentStart = false :=
    hasIndicator_of_head rfl (by rcases quote with rfl | rfl <;> decide)
  have noEnd : Place.hasIndicator ⟨mark :: rest, line, column⟩ Place.documentEnd = false :=
    hasIndicator_of_head rfl (by rcases quote with rfl | rfl <;> decide)
  have taken : (spot tokens indents allowed ⟨mark :: rest, line, column⟩ none).takeQuoted? mark
      = some (spot (.scalar text .quoted :: tokens) indents false q
        (saved tokens indents allowed ⟨mark :: rest, line, column⟩)) := by
    unfold takeQuoted? takeNode?
    rw [saveKey?_spot]
    show ((readQuoted? mark ⟨mark :: rest, line, column⟩).map _).bind _ = _
    rw [read]
    rfl
  rw [← taken]
  unfold takeNext?
  rcases quote with rfl | rfl
  · simp only [spot, Char.reduceEq, and_false, if_false] at noStart noEnd ⊢
    rw [noStart, noEnd]
    rfl
  · simp only [spot, Char.reduceEq, and_false, if_false] at noStart noEnd ⊢
    rw [noStart, noEnd]
    rfl

/-- The least indentation of what belongs to the innermost of the open blocks. -/
def margin (indents : List Nat) : Nat :=
  match indents with
  | [] => 0
  | indent :: _ => indent + 1

theorem takeNext?_literal {text : List Char} {q : Place}
    (read : readBlock? false (margin indents) ⟨'|' :: rest, line, column⟩ = some (text, q)) :
    (spot tokens indents allowed ⟨'|' :: rest, line, column⟩ none).takeNext? '|' rest
      = some (spot (.scalar text .literal :: tokens) indents true q none) := by
  have noStart : Place.hasIndicator ⟨'|' :: rest, line, column⟩ Place.documentStart = false :=
    hasIndicator_of_head rfl (by decide)
  have noEnd : Place.hasIndicator ⟨'|' :: rest, line, column⟩ Place.documentEnd = false :=
    hasIndicator_of_head rfl (by decide)
  have taken : (spot tokens indents allowed ⟨'|' :: rest, line, column⟩ none).takeBlock? false
      = some (spot (.scalar text .literal :: tokens) indents true q none) := by
    unfold takeBlock?
    show (readBlock? false (margin indents) ⟨'|' :: rest, line, column⟩).bind _ = _
    rw [read]
    rfl
  rw [← taken]
  unfold takeNext?
  simp only [spot, Char.reduceEq, and_false, if_false] at noStart noEnd ⊢
  simp only [noStart, noEnd]
  rfl

/-- A bare text begins no mark, if it is a word that goes on. -/
theorem beginsPlain_of_bare {c : Char} {text : List Char} (bare : Bare (c :: text))
    (follow : List Char) :
    "#,[]\x7b\x7d&*!|>'\"%@\x60".toList.contains c = false
      ∧ ((c = '?' ∨ c = ':' ∨ c = '-') → endsWord (text ++ follow) = false) := by
  have unmarked := bare.unmarked
  unfold beginsWithMark at unmarked
  simp only [Bool.or_eq_false_iff] at unmarked
  refine ⟨unmarked.1.1.1, fun mark => ?_⟩
  have goesOn : endsAnyWord text = false := by
    have both := unmarked.1.1.2
    rcases mark with rfl | rfl | rfl <;> simpa using both
  cases text with
  | nil => exact absurd goesOn (by simp [endsAnyWord])
  | cons d text =>
      simp only [endsAnyWord, isAnyBreak, Bool.or_eq_false_iff] at goesOn
      simp [endsWord, goesOn]

theorem beginsPlain_eq_true {c : Char} {text : List Char} (bare : Bare (c :: text))
    (follow : List Char) : beginsPlain false c (text ++ follow) = true := by
  obtain ⟨noMark, goesOn⟩ := beginsPlain_of_bare bare follow
  unfold beginsPlain
  -- Three of the marks may begin a scalar, if a word goes on behind them.
  by_cases isMark : c = '?' ∨ c = ':' ∨ c = '-'
  · have goesOn := goesOn isMark
    have noBlank : (text ++ follow).head?.any isBlank = false := by
      cases behind : text ++ follow with
      | nil => rfl
      | cons d rest =>
          rw [behind, endsWord, Bool.or_eq_false_iff] at goesOn
          exact goesOn.1
    by_cases hyphen : c = '-'
    · rw [if_pos hyphen, noBlank]
      rfl
    · rw [if_neg hyphen, if_pos (isMark.imp_right fun other => other.resolve_right hyphen), goesOn]
      rfl
  · simp only [not_or] at isMark
    have apart := mt (ends_word_iff (bare.printable c List.mem_cons_self)
      (bare.unbroken c List.mem_cons_self)).mp fun blank => bare.noBlankStart (by rw [blank]; rfl)
    rw [Bool.or_eq_true, not_or, Bool.not_eq_true, Bool.not_eq_true] at apart
    have others : (",[]\x7b\x7d#&*!|>'\"%@\x60".toList.all fun d =>
        "#,[]\x7b\x7d&*!|>'\"%@\x60".toList.contains d) = true := by decide
    have noMark' : ",[]\x7b\x7d#&*!|>'\"%@\x60".toList.contains c = false := by
      by_contra mark
      rw [Bool.not_eq_false, List.contains_iff_mem] at mark
      rw [List.all_eq_true.mp others c mark] at noMark
      exact absurd noMark (by simp)
    rw [if_neg isMark.2.2, if_neg (by simp [isMark]), noMark', apart.1, apart.2]
    rfl

theorem takeNext?_bare {c : Char} {text follow : List Char} (bare : Bare (c :: text))
    (noEdge : Place.atDocumentEdge ⟨c :: (text ++ follow), line, column⟩ = false)
    {read : PlainText}
    (reads : readPlain? false (margin indents) ⟨c :: (text ++ follow), line, column⟩ = some read) :
    (spot tokens indents allowed ⟨c :: (text ++ follow), line, column⟩ none).takeNext? c
        (text ++ follow)
      = some (spot (.scalar read.text .plain :: tokens) indents read.broken read.place
        (saved tokens indents allowed ⟨c :: (text ++ follow), line, column⟩)) := by
  obtain ⟨noMark, goesOn⟩ := beginsPlain_of_bare bare follow
  unfold Place.atDocumentEdge at noEdge
  rw [Bool.or_eq_false_iff] at noEdge
  have taken : (spot tokens indents allowed ⟨c :: (text ++ follow), line, column⟩ none).takePlain?
      = some (spot (.scalar read.text .plain :: tokens) indents read.broken read.place
        (saved tokens indents allowed ⟨c :: (text ++ follow), line, column⟩)) := by
    unfold takePlain?
    rw [saveKey?_spot]
    show (readPlain? false (margin indents) ⟨c :: (text ++ follow), line, column⟩).bind _ = _
    rw [reads]
    rfl
  rw [← taken]
  -- Each other kind of token is known by a mark that no bare scalar begins with.
  unfold takeNext?
  rw [if_neg]
  · simp only [spot] at noEdge ⊢
    simp only [noEdge, Bool.false_eq_true, if_false]
    split
    case h_11 =>
      have noSign (d : Char) (sign : d = '?' ∨ d = ':' ∨ d = '-') :
          ¬(c = d ∧ endsWord (text ++ follow) = true) := by
        rintro ⟨rfl, ends⟩
        rw [goesOn sign] at ends
        exact absurd ends (by simp)
      have noBlock (d : Char) (mark : d = '|' ∨ d = '>') : ¬(c = d ∧ (!false) = true) := by
        rintro ⟨rfl, -⟩
        rcases mark with rfl | rfl <;> exact absurd noMark (by decide)
      have plain := beginsPlain_eq_true bare follow
      simp only [inFlow, List.isEmpty_nil, Bool.not_true, Bool.false_eq_true, false_or]
      rw [if_neg (noSign '-' (by simp)), if_neg (noSign '?' (by simp)),
        if_neg (noSign ':' (by simp)), if_neg (noBlock '|' (by simp)),
        if_neg (noBlock '>' (by simp)), if_pos plain]
    all_goals exact absurd noMark (by decide)
  · rintro ⟨-, rfl⟩
    exact absurd noMark (by decide)

/-- Behind a possible key a colon makes it a key: what says so is put before it. -/
theorem takeNext?_colon (ends : endsWord rest = true) (scalar : Token) (from_ start : Nat)
    (required : Bool) :
    (spot (scalar :: tokens) indents false ⟨':' :: rest, line, column⟩
        (some ⟨tokens.length, from_, start, required⟩)).takeNext? ':' rest
      = some (spot (.value :: scalar :: .key :: (opened indents start .blockMappingStart ++ tokens))
        (entered indents start) false ⟨rest, line, column + 1⟩ none) := by
  have noStart : Place.hasIndicator ⟨':' :: rest, line, column⟩ Place.documentStart = false :=
    hasIndicator_of_head rfl (by decide)
  have noEnd : Place.hasIndicator ⟨':' :: rest, line, column⟩ Place.documentEnd = false :=
    hasIndicator_of_head rfl (by decide)
  have taken : (spot (scalar :: tokens) indents false ⟨':' :: rest, line, column⟩
        (some ⟨tokens.length, from_, start, required⟩)).takeValue?
      = some (spot (.value :: scalar :: .key :: (opened indents start .blockMappingStart ++ tokens))
        (entered indents start) false ⟨rest, line, column + 1⟩ none) := by
    unfold takeValue? insertKey insert isDeeper inFlow opened entered
    simp only [spot, List.length_cons, Nat.add_sub_cancel_left, List.splitAt_eq]
    cases indents.head?.all (· < start) <;> rfl
  rw [← taken]
  unfold takeNext?
  simp only [spot, Char.reduceEq, and_false, if_false] at noStart noEnd ⊢
  simp only [noStart, noEnd, ends]
  rfl

end Scanner

end ColumnCast.Yaml
