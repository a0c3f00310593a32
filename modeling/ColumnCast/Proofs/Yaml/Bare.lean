import ColumnCast.Proofs.Yaml.Written
import Mathlib.Data.List.TakeWhile

/-!
# `ColumnCast.Proofs.Yaml.Bare`: bare words are read back

A bare scalar is read word by word, and the blanks between two words stand
for themselves. Nothing in it ends it early: no colon before a blank, no
number sign behind one (`Bare`). So the reader comes to the end of it with
its text, and what follows decides where it stops (`readPlain?_eq`): at
once before a colon, or at the first word of the next line, if that line
is not indented as far as the scalar has to be.
-/

set_option autoImplicit false

namespace ColumnCast.Yaml

/-! ### Places -/

namespace Place

/-- The place behind a word. -/
theorem skip_append (word rest : List Char) (line column : Nat) :
    Place.skip ⟨word ++ rest, line, column⟩ word.length = ⟨rest, line, column + word.length⟩ := by
  simp [skip]

/-- No document begins or ends behind the start of a line. -/
theorem atDocumentEdge_of_column {p : Place} (inside : 0 < p.column) :
    p.atDocumentEdge = false := by
  have other : (p.column == 0) = false := by simpa using inside.ne'
  simp [atDocumentEdge, hasIndicator, other]

end Place

/-! ### Gaps -/

/-- Neither a blank nor a break. -/
def IsApart (c : Char) : Prop := isBlank c = false ∧ isBreak c = false

instance (c : Char) : Decidable (IsApart c) := instDecidableAnd

/-- Blanks before a word are a gap of their own. -/
theorem Gap.read?_blanks (tabLimit line column count : Nat) (blanks : List Char) {d : Char}
    (word : IsApart d) (rest : List Char) :
    Gap.read? tabLimit line column { blanks := blanks } (List.replicate count ' ' ++ d :: rest)
      = some ({ blanks := List.replicate count ' ' ++ blanks },
        ⟨d :: rest, line, column + count⟩) := by
  induction count generalizing blanks column with
  | zero =>
      rw [List.replicate_zero, List.nil_append, Gap.read?, word.1, word.2]
      rfl
  | succ count ih =>
      have same : List.replicate count ' ' ++ ' ' :: blanks
          = List.replicate (count + 1) ' ' ++ blanks := by
        rw [List.replicate_succ', List.append_assoc]
        rfl
      have step : Gap.read? tabLimit line column { blanks := blanks }
            (List.replicate (count + 1) ' ' ++ d :: rest)
          = Gap.read? tabLimit line (column + 1) { blanks := ' ' :: blanks }
            (List.replicate count ' ' ++ d :: rest) := rfl
      rw [step, ih, same, Nat.add_right_comm, Nat.add_assoc]

/-- Of several breaks the gap keeps them all. -/
theorem Gap.read?_breaks {tabLimit line column : Nat} {gap : Gap} {b : Char} {breaks : List Char}
    (all : ∀ c ∈ b :: breaks, isBreak c = true) (rest : List Char) :
    Gap.read? tabLimit line column gap (b :: (breaks ++ rest))
      = Gap.read? tabLimit (line + (breaks.length + 1)) 0
        { gap with breaks := (b :: breaks).reverse ++ gap.breaks, broken := true } rest := by
  induction breaks generalizing b line column gap with
  | nil =>
      rw [Gap.read?, if_pos (all b List.mem_cons_self)]
      rfl
  | cons c breaks ih =>
      rw [Gap.read?, if_pos (all b List.mem_cons_self), List.cons_append,
        ih fun d mem => all d (List.mem_cons_of_mem _ mem)]
      simp only [List.reverse_cons, List.append_assoc, List.length_cons]
      congr 1
      omega

/-- Behind a break blanks count for nothing. -/
theorem Gap.read?_indentation {tabLimit line column count : Nat} {gap : Gap}
    (broken : gap.broken = true) {rest : List Char} (start : ∀ c ∈ rest.head?, IsApart c) :
    Gap.read? tabLimit line column gap (indentation count ++ rest)
      = some (gap, ⟨rest, line, column + count⟩) := by
  unfold indentation
  induction count generalizing column with
  | zero =>
      rw [List.replicate_zero, List.nil_append]
      cases rest with
      | nil => rfl
      | cons d rest =>
          obtain ⟨noBlank, noBreak⟩ := start d rfl
          rw [Gap.read?, noBlank, noBreak]
          rfl
  | succ count ih =>
      rw [List.replicate_succ, List.cons_append, Gap.read?, if_neg (by decide), if_pos (by decide),
        if_neg (by simp [broken]), if_neg (by simp), ih, Nat.add_right_comm, Nat.add_assoc]

/-! ### Words -/

/-- What is left of a bare scalar where a word of it begins. -/
structure Words (text : List Char) : Prop where
  printable : Printable text
  unbroken : ∀ c ∈ text, isAnyBreak c = false
  start : ∀ c ∈ text.head?, c ≠ ' ' ∧ c ≠ '#'
  noBlankEnd : text.getLast? ≠ some ' '
  noMark : hasInnerMark text = false

theorem Bare.words {text : List Char} (bare : Bare text) : Words text where
  printable := bare.printable
  unbroken := bare.unbroken
  start c first := by
    refine ⟨?_, ?_⟩
    · rintro rfl
      exact bare.noBlankStart first
    · rintro rfl
      obtain ⟨rest, rfl⟩ := List.head?_eq_some_iff.mp first
      exact absurd bare.unmarked (by simp [beginsWithMark])
  noBlankEnd := bare.noBlankEnd
  noMark := bare.noMark

theorem hasInnerMark_append_right {front text : List Char}
    (none : hasInnerMark (front ++ text) = false) : hasInnerMark text = false := by
  induction front with
  | nil => exact none
  | cons c front ih =>
      rw [List.cons_append, hasInnerMark, Bool.or_eq_false_iff] at none
      exact ih none.2

/-- A printed character without a break ends a word only if it is a space. -/
theorem ends_word_iff {c : Char} (printable : isPrintable c = true)
    (unbroken : isAnyBreak c = false) : (isBlank c || isBreak c) = true ↔ c = ' ' := by
  rw [← isAnyBreak_eq_isBreak printable, unbroken, Bool.or_false,
    isBlank_iff_of_isPrintable printable]

/-- The word in front is read, if what follows the scalar ends a word. -/
theorem plainWord?_append {text follow : List Char} (printable : Printable text)
    (unbroken : ∀ c ∈ text, isAnyBreak c = false) (noMark : hasInnerMark text = false)
    (stops : plainWord? false follow = some []) :
    plainWord? false (text ++ follow) = some (text.takeWhile (· != ' ')) := by
  induction text with
  | nil => exact stops
  | cons c text ih =>
      have ends := ends_word_iff (printable c List.mem_cons_self) (unbroken c List.mem_cons_self)
      rw [List.cons_append, plainWord?]
      by_cases blank : c = ' '
      · rw [if_pos (ends.mpr blank), List.takeWhile_cons_of_neg (by simp [blank])]
      · rw [hasInnerMark, Bool.or_eq_false_iff, Bool.or_eq_false_iff] at noMark
        have noColon : (c == ':' && endsWord (text ++ follow)) = false := by
          by_contra colon
          simp only [Bool.not_eq_false, Bool.and_eq_true] at colon
          -- The colon is not the last character, and no blank stands behind it.
          have inner := noMark.1.1
          rw [colon.1, Bool.true_and] at inner
          cases text with
          | nil => exact absurd inner (by simp [endsAnyWord])
          | cons d text =>
              have next := ends_word_iff (printable d (by simp)) (unbroken d (by simp))
              have isSpace : d = ' ' := next.mp colon.2
              rw [isSpace] at inner
              exact absurd inner (by simp [endsAnyWord, isBlank])
        have more := ih (fun d mem => printable d (List.mem_cons_of_mem _ mem))
          (fun d mem => unbroken d (List.mem_cons_of_mem _ mem)) noMark.2
        rw [if_neg (mt ends.mp blank), if_neg (by simp), if_neg (by simpa using noColon), more,
          List.takeWhile_cons_of_pos (by simpa using blank)]
        rfl

/-- Where a bare scalar stops behind its last word, and whether a line has ended by then. -/
def plainStop? (indent : Nat) (p : Place) : Option (Place × Bool) :=
  if p.rest.isEmpty || !endsWord p.rest then some (p, false)
  else do
    let (gap, p) ← Gap.readAt? indent {} p
    if p.column < indent then return (p, gap.broken) else none

theorem Words.of_append {front text : List Char} (words : Words (front ++ ' ' :: text))
    (start : ∀ c ∈ text.head?, c ≠ ' ') (inhabited : text ≠ []) : Words text where
  printable c mem := words.printable c (by simp [mem])
  unbroken c mem := words.unbroken c (by simp [mem])
  start c first := by
    refine ⟨start c first, ?_⟩
    rintro rfl
    have mark := hasInnerMark_append_right words.noMark
    rw [hasInnerMark, Bool.or_eq_false_iff, Bool.or_eq_false_iff, Option.mem_def.mp first] at mark
    exact absurd mark.1.2 (by decide)
  noBlankEnd := by
    have last := words.noBlankEnd
    rwa [List.getLast?_append_of_ne_nil _ (by simp), List.getLast?_cons_of_ne_nil inhabited] at last
  noMark := by
    have mark := hasInnerMark_append_right words.noMark
    rw [hasInnerMark, Bool.or_eq_false_iff] at mark
    exact mark.2

/-- A text that begins with a word: this word alone, or blanks and another one behind it. -/
theorem Words.split {text : List Char} (words : Words text) (inhabited : text ≠ []) :
    ∃ word, word ≠ [] ∧ text.takeWhile (· != ' ') = word
      ∧ (text = word ∨ ∃ count rest, text = word ++ (List.replicate (count + 1) ' ' ++ rest)
        ∧ rest ≠ [] ∧ Words rest) := by
  obtain ⟨word, eq⟩ : ∃ word, text.takeWhile (· != ' ') = word := ⟨_, rfl⟩
  have parts := List.takeWhile_append_dropWhile (p := (· != ' ')) (l := text)
  rw [eq] at parts
  refine ⟨word, ?_, eq, ?_⟩
  · obtain ⟨c, more, rfl⟩ := List.exists_cons_of_ne_nil inhabited
    rw [← eq, List.takeWhile_cons_of_pos (by simpa using (words.start c rfl).1)]
    simp
  · cases behind : text.dropWhile (· != ' ') with
    | nil =>
        rw [behind, List.append_nil] at parts
        exact Or.inl parts.symm
    | cons c more =>
        have head := List.head?_dropWhile_not (· != ' ') text
        rw [behind] at head parts
        obtain rfl : c = ' ' := by simpa using head
        -- The blanks end before the text does.
        obtain ⟨count, blanks⟩ : ∃ count, more.takeWhile (· == ' ') = List.replicate count ' ' :=
          ⟨_, List.eq_replicate_of_mem fun d mem => by simpa using List.mem_takeWhile_imp mem⟩
        have tail := List.takeWhile_append_dropWhile (p := (· == ' ')) (l := more)
        rw [blanks] at tail
        have whole : text = word ++ (List.replicate (count + 1) ' '
            ++ more.dropWhile (· == ' ')) := by
          rw [← parts, List.replicate_succ, List.cons_append, tail]
        have last : text
            = (word ++ List.replicate count ' ') ++ ' ' :: more.dropWhile (· == ' ') := by
          rw [whole, List.replicate_succ', List.append_assoc, List.append_assoc]
          rfl
        have filled : more.dropWhile (· == ' ') ≠ [] := by
          intro empty
          rw [empty] at last
          exact words.noBlankEnd (by rw [last]; simp)
        refine Or.inr ⟨count, _, whole, filled,
          (last ▸ words).of_append (fun c first => ?_) filled⟩
        have head := List.head?_dropWhile_not (· == ' ') more
        rw [Option.mem_def.mp first] at head
        simpa using head

/-- One word, and what follows it. -/
theorem readPlainWords?_word {indent : Nat} {gap : Gap} {word rest : List Char} {line column : Nat}
    (rounds : Nat) (read : plainWord? false (word ++ rest) = some word) (filled : word ≠ [])
    (start : word.head? ≠ some '#')
    (noEdge : Place.atDocumentEdge ⟨word ++ rest, line, column⟩ = false) :
    readPlainWords? false indent gap (rounds + 1) ⟨word ++ rest, line, column⟩
      = if rest.isEmpty || !endsWord rest then
          some ⟨gap.folded ++ word, ⟨rest, line, column + word.length⟩, false⟩
        else
          (Gap.readAt? indent {} ⟨rest, line, column + word.length⟩).bind fun (next, p) =>
            if p.column < indent then some ⟨gap.folded ++ word, p, next.broken⟩
            else (readPlainWords? false indent next rounds p).bind fun more =>
              some { more with text := gap.folded ++ word ++ more.text } := by
  have first : (word ++ rest).head? = word.head? := by
    cases word with
    | nil => exact absurd rfl filled
    | cons c word => rfl
  have noMark : ((word ++ rest).head? == some '#') = false := by
    rw [first]
    simpa using start
  rw [readPlainWords?, noEdge, noMark]
  simp only [read, Place.skip_append, Bool.or_self, Bool.false_eq_true, if_false, Bool.not_false,
    Bool.true_and, Option.bind_eq_bind, Option.bind_some, List.isEmpty_iff, filled,
    decide_eq_true_iff]
  rfl

/-- The last word, behind which the scalar ends. -/
theorem readPlainWords?_last {indent : Nat} {gap : Gap} {word follow : List Char}
    {line column : Nat} {stop : Place × Bool} (rounds : Nat)
    (read : plainWord? false (word ++ follow) = some word) (filled : word ≠ [])
    (start : word.head? ≠ some '#')
    (noEdge : Place.atDocumentEdge ⟨word ++ follow, line, column⟩ = false)
    (stopped : plainStop? indent ⟨follow, line, column + word.length⟩ = some stop) :
    readPlainWords? false indent gap (rounds + 1) ⟨word ++ follow, line, column⟩
      = some ⟨gap.folded ++ word, stop.1, stop.2⟩ := by
  rw [readPlainWords?_word rounds read filled start noEdge]
  unfold plainStop? at stopped
  dsimp only at stopped
  by_cases last : (follow.isEmpty || !endsWord follow) = true
  · rw [if_pos last] at stopped ⊢
    rw [← Option.some.inj stopped]
  · rw [if_neg last] at stopped ⊢
    obtain ⟨⟨next, p⟩, found, stopped⟩ := Option.bind_eq_some_iff.mp stopped
    rw [found, Option.bind_some]
    dsimp only at stopped ⊢
    split at stopped
    · rename_i shallow
      rw [if_pos shallow, ← Option.some.inj stopped]
    · exact absurd stopped (by simp)

/-- The blanks between two words are a gap. -/
theorem Words.readAt?_blanks {text : List Char} (words : Words text) (inhabited : text ≠ [])
    (indent line column count : Nat) (follow : List Char) :
    Gap.readAt? indent {} ⟨List.replicate count ' ' ++ (text ++ follow), line, column⟩
      = some ({ blanks := List.replicate count ' ' }, ⟨text ++ follow, line, column + count⟩) := by
  obtain ⟨d, tail, rfl⟩ := List.exists_cons_of_ne_nil inhabited
  have ends := ends_word_iff (words.printable d (by simp)) (words.unbroken d (by simp))
  have apart := mt ends.mp (words.start d rfl).1
  rw [Bool.or_eq_true, not_or] at apart
  have read := Gap.read?_blanks indent line column count []
    ⟨Bool.eq_false_iff.mpr apart.1, Bool.eq_false_iff.mpr apart.2⟩ (tail ++ follow)
  rwa [List.append_nil] at read

/-- **The rest of a bare scalar is read to its end.** -/
theorem readPlainWords?_eq {indent : Nat} {gap : Gap} {text follow : List Char} {line column : Nat}
    {stop : Place × Bool} (words : Words text) (inhabited : text ≠ [])
    (stops : plainWord? false follow = some [])
    (noEdge : Place.atDocumentEdge ⟨text ++ follow, line, column⟩ = false)
    (deep : indent ≤ column + 2)
    (stopped : plainStop? indent ⟨follow, line, column + text.length⟩ = some stop) {rounds : Nat}
    (enough : text.length < rounds) :
    readPlainWords? false indent gap rounds ⟨text ++ follow, line, column⟩
      = some ⟨gap.folded ++ text, stop.1, stop.2⟩ := by
  -- A round reads one word. Behind a word and a blank the column is deep enough for the scalar
  -- to go on, which at its start it need not be yet.
  induction rounds generalizing text gap column with
  | zero => exact absurd enough (by omega)
  | succ rounds ih =>
      obtain ⟨word, filled, first, cases⟩ := words.split inhabited
      have read := plainWord?_append words.printable words.unbroken words.noMark stops
      have noMark : word.head? ≠ some '#' := by
        obtain ⟨c, more, rfl⟩ := List.exists_cons_of_ne_nil inhabited
        rw [← first, List.takeWhile_cons_of_pos (by simpa using (words.start c rfl).1)]
        simpa using (words.start c rfl).2
      rw [first] at read
      rcases cases with rfl | ⟨count, rest, rfl, more, others⟩
      · exact readPlainWords?_last rounds read filled noMark noEdge stopped
      · have blanks : (List.replicate (count + 1) ' ' ++ rest ++ follow)
            = List.replicate (count + 1) ' ' ++ (rest ++ follow) := List.append_assoc _ _ _
        have goesOn : ¬((List.replicate (count + 1) ' ' ++ (rest ++ follow)).isEmpty
            || !endsWord (List.replicate (count + 1) ' ' ++ (rest ++ follow))) = true := by
          simp [List.replicate_succ, endsWord, isBlank]
        have wordLength := List.length_pos_iff.mpr filled
        have lengths : (word ++ (List.replicate (count + 1) ' ' ++ rest)).length
            = word.length + (count + 1) + rest.length := by
          simp [Nat.add_assoc]
        have noEdge' : Place.atDocumentEdge
            ⟨rest ++ follow, line, column + word.length + (count + 1)⟩ = false :=
          Place.atDocumentEdge_of_column (by dsimp only; omega)
        rw [lengths] at stopped enough
        rw [List.append_assoc, blanks] at read noEdge ⊢
        rw [readPlainWords?_word rounds read filled noMark noEdge, if_neg goesOn,
          others.readAt?_blanks more, Option.bind_some]
        dsimp only
        rw [if_neg (by omega), ih others more noEdge' (by omega)
          (by rw [← stopped]; congr 2; omega) (by omega)]
        simp [Gap.folded]

theorem readPlain?_eq {indent : Nat} {text follow : List Char} {line column : Nat}
    {stop : Place × Bool} (bare : Bare text) (inhabited : text ≠ [])
    (stops : plainWord? false follow = some [])
    (noEdge : Place.atDocumentEdge ⟨text ++ follow, line, column⟩ = false)
    (deep : indent ≤ column + 2)
    (stopped : plainStop? indent ⟨follow, line, column + text.length⟩ = some stop) :
    readPlain? false indent ⟨text ++ follow, line, column⟩ = some ⟨text, stop.1, stop.2⟩ :=
  readPlainWords?_eq bare.words inhabited stops noEdge deep stopped
    (by rw [List.length_append]; omega)

end ColumnCast.Yaml
