import ColumnCast.Proofs.Yaml.Bare

/-!
# `ColumnCast.Proofs.Yaml.Quoted`: quoted text is read back

The reader takes quoted text by words and gaps, the writer writes it by
characters. `ReadsQuoted` is what reading from a place on comes to, and
the lemmas about it go by characters: one that stands for itself, a blank,
an escape, a mark written twice. A word then is read with the characters
behind it in one round or in several, and it does not matter which.

Line breaks stand in single quotes only if they are separators. What
follows one is indented, and the reader drops these blanks
(`ReadsQuoted.breaks`).
-/

set_option autoImplicit false

namespace ColumnCast.Yaml

/-- From behind its opening mark, quoted text at the place is read as the text, and ends at the
other place. -/
def ReadsQuoted (mark : Char) (p : Place) (text : List Char) (q : Place) : Prop :=
  ∀ rounds, p.rest.length < rounds → readQuotedFrom? mark rounds p = some (text, q)

/-- Blanks, and then a character that is no break. -/
def BlanksEnd (text : List Char) : Prop :=
  ∃ count d rest, text = List.replicate count ' ' ++ d :: rest ∧ IsApart d

theorem BlanksEnd.of_isApart {c : Char} (apart : IsApart c) (rest : List Char) :
    BlanksEnd (c :: rest) := ⟨0, c, rest, rfl, apart⟩

theorem BlanksEnd.cons {text : List Char} (ends : BlanksEnd text) : BlanksEnd (' ' :: text) := by
  obtain ⟨count, d, rest, rfl, apart⟩ := ends
  exact ⟨count + 1, d, rest, rfl, apart⟩

section Rounds

variable {mark : Char} {rounds line column : Nat} {rest : List Char}

/-- What a round takes in front of what the others read. -/
def onward (mark : Char) (rounds : Nat) (text : List Char) (p : Place) :
    Option (List Char × Place) :=
  (readQuotedFrom? mark rounds p).map fun (more, p) => (text ++ more, p)

theorem onward_cons (c : Char) {text : List Char} {p : Place} {more : List Char} {q : Place}
    (read : onward mark rounds text p = some (more, q)) :
    onward mark rounds (c :: text) p = some (c :: more, q) := by
  unfold onward at read ⊢
  obtain ⟨⟨behind, r⟩, found, eq⟩ := Option.map_eq_some_iff.mp read
  obtain ⟨rfl, rfl⟩ := Prod.mk.inj eq
  rw [found]
  rfl

/-- A character of a word. -/
def isInWord (mark c : Char) : Bool := c != mark && c != '\\' && !isBlank c && !isBreak c

/-- The word that a character begins; a backslash is one of its own. -/
def wordFrom (mark c : Char) (rest : List Char) : List Char :=
  if c = '\\' then [c] else c :: rest.takeWhile (isInWord mark)

theorem readQuotedFrom?_word {c : Char} (inside : 0 < column) (notMark : c ≠ mark)
    (apart : IsApart c) (noEscape : ¬(mark = '"' ∧ c = '\\')) :
    readQuotedFrom? mark (rounds + 1) ⟨c :: rest, line, column⟩
      = onward mark rounds (wordFrom mark c rest)
        (Place.skip ⟨c :: rest, line, column⟩ (wordFrom mark c rest).length) := by
  have word : (if ((c :: rest).takeWhile (isInWord mark)).isEmpty then [c]
      else (c :: rest).takeWhile (isInWord mark)) = wordFrom mark c rest := by
    unfold wordFrom
    by_cases backslash : c = '\\'
    · rw [if_pos backslash, List.takeWhile_cons_of_neg (by simp [isInWord, backslash])]
      rfl
    · have inWord : isInWord mark c = true := by
        simp [isInWord, notMark, backslash, apart.1, apart.2]
      rw [if_neg backslash, List.takeWhile_cons_of_pos inWord]
      rfl
  rw [readQuotedFrom?, Place.atDocumentEdge_of_column inside, if_neg (by simp)]
  dsimp only
  rw [if_neg notMark, if_neg noEscape, apart.1, apart.2, if_neg (by simp), ← word]
  rfl

theorem readQuotedFrom?_blanks (rounds line count : Nat) {d : Char} (inside : 0 < column)
    (notMark : ' ' ≠ mark) (apart : IsApart d) (rest : List Char) :
    readQuotedFrom? mark (rounds + 1)
        ⟨List.replicate (count + 1) ' ' ++ d :: rest, line, column⟩
      = onward mark rounds (List.replicate (count + 1) ' ')
        ⟨d :: rest, line, column + (count + 1)⟩ := by
  have gapped := Gap.read?_blanks 0 line column (count + 1) [] apart rest
  rw [List.append_nil] at gapped
  rw [readQuotedFrom?, Place.atDocumentEdge_of_column inside, if_neg (by simp)]
  rw [List.replicate_succ, List.cons_append] at gapped ⊢
  dsimp only
  rw [if_neg notMark, if_neg (by simp), if_pos (by decide)]
  unfold Gap.readAt?
  dsimp only
  have folded : Gap.folded { blanks := ' ' :: List.replicate count ' ' }
      = ' ' :: List.replicate count ' ' := by
    show List.reverse (' ' :: List.replicate count ' ') = _
    rw [← List.replicate_succ, List.reverse_replicate]
  rw [gapped, Option.bind_eq_bind, Option.bind_some, folded]
  rfl

end Rounds

/-! ### Character by character -/

namespace ReadsQuoted

variable {mark : Char} {line column : Nat} {rest text : List Char} {q : Place}

/-- The mark behind the text. -/
theorem close (inside : 0 < column) (single : mark = '\'' → rest.head? ≠ some mark) :
    ReadsQuoted mark ⟨mark :: rest, line, column⟩ [] ⟨rest, line, column + 1⟩ := by
  intro rounds enough
  obtain ⟨rounds, rfl⟩ : ∃ n, rounds = n + 1 := ⟨rounds - 1, by omega⟩
  rw [readQuotedFrom?, Place.atDocumentEdge_of_column inside, if_neg (by simp)]
  dsimp only
  rw [if_pos rfl, if_neg fun twice => single twice.1 twice.2]
  rfl

/-- A single mark, written twice. -/
theorem twice (inside : 0 < column)
    (more : ReadsQuoted '\'' ⟨rest, line, column + 2⟩ text q) :
    ReadsQuoted '\'' ⟨'\'' :: '\'' :: rest, line, column⟩ ('\'' :: text) q := by
  intro rounds enough
  obtain ⟨rounds, rfl⟩ : ∃ n, rounds = n + 1 := ⟨rounds - 1, by omega⟩
  rw [readQuotedFrom?, Place.atDocumentEdge_of_column inside, if_neg (by simp)]
  dsimp only
  rw [if_pos rfl, if_pos ⟨rfl, rfl⟩]
  have behind := more rounds (by simp at enough ⊢; omega)
  simp only [Place.skip, List.drop_succ_cons, List.drop_zero, behind]
  rfl

/-- An escape stands for its character. -/
theorem escape {c : Char} {escape : List Char} (escapes : Escapes c escape) (inside : 0 < column)
    (more : ReadsQuoted '"' ⟨rest, line, column + (escape.length + 1)⟩ text q) :
    ReadsQuoted '"' ⟨'\\' :: (escape ++ rest), line, column⟩ (c :: text) q := by
  intro rounds enough
  obtain ⟨rounds, rfl⟩ : ∃ n, rounds = n + 1 := ⟨rounds - 1, by omega⟩
  have read := escapes.read rest
  have unbroken : (escape ++ rest).head?.any isBreak = false := by
    cases escape with
    | nil => exact absurd (escapes.read []) (by simp [readEscape?])
    | cons d escape => exact escapes.unbroken
  rw [readQuotedFrom?, Place.atDocumentEdge_of_column inside, if_neg (by simp)]
  dsimp only
  rw [if_neg (by decide), if_pos ⟨rfl, rfl⟩, unbroken, if_neg (by simp), read]
  have behind := more rounds (by simp at enough ⊢; omega)
  simp only [Option.bind_eq_bind, Option.bind_some, Place.skip, List.drop_succ_cons,
    List.drop_left, behind]
  rfl

/-- A character of a word stands for itself. -/
theorem ordinary {c : Char} (inside : 0 < column) (notMark : c ≠ mark) (apart : IsApart c)
    (noEscape : ¬(mark = '"' ∧ c = '\\'))
    (more : ReadsQuoted mark ⟨rest, line, column + 1⟩ text q) :
    ReadsQuoted mark ⟨c :: rest, line, column⟩ (c :: text) q := by
  intro rounds enough
  obtain ⟨rounds, rfl⟩ : ∃ n, rounds = n + 1 := ⟨rounds - 1, by omega⟩
  have room : rest.length < rounds := Nat.lt_of_succ_lt_succ enough
  rw [readQuotedFrom?_word inside notMark apart noEscape]
  unfold wordFrom
  by_cases backslash : c = '\\'
  · rw [if_pos backslash]
    exact onward_cons c (by simp [onward, Place.skip, more rounds room])
  · rw [if_neg backslash]
    refine onward_cons c ?_
    cases rest with
    | nil => simp [onward, Place.skip, more rounds room]
    | cons d behind =>
        by_cases inWord : isInWord mark d = true
        · -- The next round would take the rest of the word.
          have next := more (rounds + 1) (Nat.lt_succ_of_lt room)
          simp only [isInWord, Bool.and_eq_true, Bool.not_eq_true', bne_iff_ne] at inWord
          obtain ⟨⟨⟨notMark', noEscape'⟩, noBlank⟩, noBreak⟩ := inWord
          rw [readQuotedFrom?_word (by omega) notMark' ⟨noBlank, noBreak⟩
            (fun both => noEscape' both.2)] at next
          unfold wordFrom at next
          rw [if_neg noEscape'] at next
          rw [List.takeWhile_cons_of_pos (by simp [isInWord, *])]
          simpa [Place.skip, Nat.add_assoc, Nat.add_comm 1] using next
        · rw [List.takeWhile_cons_of_neg inWord]
          simp [onward, Place.skip, more rounds room]

/-- A blank stands for itself, if no break follows. -/
theorem blank (inside : 0 < column) (notMark : ' ' ≠ mark) (ends : BlanksEnd rest)
    (more : ReadsQuoted mark ⟨rest, line, column + 1⟩ text q) :
    ReadsQuoted mark ⟨' ' :: rest, line, column⟩ (' ' :: text) q := by
  intro rounds enough
  obtain ⟨rounds, rfl⟩ : ∃ n, rounds = n + 1 := ⟨rounds - 1, by omega⟩
  have room : rest.length < rounds := Nat.lt_of_succ_lt_succ enough
  obtain ⟨count, d, behind, rfl, apart⟩ := ends
  have all := readQuotedFrom?_blanks rounds line count inside notMark apart behind
  rw [List.replicate_succ, List.cons_append] at all
  rw [all]
  refine onward_cons ' ' ?_
  cases count with
  | zero =>
      have next := more rounds room
      rw [List.replicate_zero, List.nil_append] at next
      simp [onward, next]
  | succ count =>
      -- The next round would take the other blanks.
      have next := more (rounds + 1) (Nat.lt_succ_of_lt room)
      rw [readQuotedFrom?_blanks rounds line count (by omega) notMark apart] at next
      rw [← next]
      congr 2
      omega

/-- Breaks that are separators stand for themselves, and what is indented behind them goes on. -/
theorem breaks {b d : Char} {others : List Char} {width : Nat} (inside : 0 < column)
    (notMark : isBreak mark = false) (all : ∀ c ∈ b :: others, isBreak c = true)
    (separator : b ≠ '\n') (apart : IsApart d)
    (more : ReadsQuoted mark ⟨d :: rest, line + (others.length + 1), width⟩ text q) :
    ReadsQuoted mark ⟨b :: (others ++ (indentation width ++ d :: rest)), line, column⟩
      (b :: others ++ text) q := by
  intro rounds enough
  obtain ⟨rounds, rfl⟩ : ∃ n, rounds = n + 1 := ⟨rounds - 1, by omega⟩
  have isBreak' := all b List.mem_cons_self
  have other : b ≠ mark := by
    rintro rfl
    exact absurd isBreak' (by simp [notMark])
  have noEscape : ¬(mark = '"' ∧ b = '\\') := by
    rintro ⟨-, rfl⟩
    exact absurd isBreak' (by decide)
  have gapped : Gap.readAt? 0 {} ⟨b :: (others ++ (indentation width ++ d :: rest)), line, column⟩
      = some ({ breaks := (b :: others).reverse, broken := true },
        ⟨d :: rest, line + (others.length + 1), width⟩) := by
    unfold Gap.readAt?
    rw [Gap.read?_breaks all, Gap.read?_indentation rfl (by rintro _ ⟨⟩; exact apart),
      List.append_nil, Nat.zero_add]
  -- Folding takes away a line feed that comes first, and no other break.
  have folded : Gap.folded { breaks := (b :: others).reverse, broken := true } = b :: others := by
    unfold Gap.folded
    rw [if_neg (by simp), List.reverse_reverse]
    split
    · rename_i eq
      exact absurd (List.cons.inj eq).1 separator
    · rename_i eq
      exact absurd (List.cons.inj eq).1 separator
    · rfl
  rw [readQuotedFrom?, Place.atDocumentEdge_of_column inside, if_neg (by simp)]
  dsimp only
  rw [if_neg other, if_neg noEscape, isBreak', Bool.or_true, if_pos rfl, gapped,
    Option.bind_eq_bind, Option.bind_some, folded]
  have behind := more rounds (by
    simp only [List.length_cons, List.length_append] at enough ⊢
    omega)
  rw [behind]
  rfl

end ReadsQuoted

/-! ### Double quotes -/

theorem isApart_of_isPrintable {c : Char} (printable : isPrintable c = true) (notSpace : c ≠ ' ')
    (unbroken : isBreak c = false) : IsApart c :=
  ⟨Bool.eq_false_iff.mpr (mt (isBlank_iff_of_isPrintable printable).mp notSpace), unbroken⟩

theorem blanksEnd_escaped (text follow : List Char) :
    BlanksEnd (text.flatMap escapedChar ++ '"' :: follow) := by
  induction text with
  | nil => exact .of_isApart ⟨by decide, by decide⟩ follow
  | cons c text ih =>
      rw [List.flatMap_cons, List.append_assoc]
      rcases escapedChar_cases c with ⟨same, printable, -, -, unbroken⟩ | ⟨escape, same, -⟩
      · rw [same]
        by_cases blank : c = ' '
        · rw [blank]
          exact ih.cons
        · exact .of_isApart (isApart_of_isPrintable printable blank unbroken) _
      · rw [same]
        exact .of_isApart ⟨by decide, by decide⟩ _

/-- **Text in double quotes is read back.** -/
theorem readsQuoted_escaped (text follow : List Char) (line column : Nat) (inside : 0 < column) :
    ReadsQuoted '"' ⟨text.flatMap escapedChar ++ '"' :: follow, line, column⟩ text
      ⟨follow, line, column + ((text.flatMap escapedChar).length + 1)⟩ := by
  induction text generalizing column with
  | nil => exact .close inside (by simp)
  | cons c text ih =>
      rw [List.flatMap_cons, List.append_assoc, List.length_append]
      rcases escapedChar_cases c with ⟨same, printable, notMark, noEscape, unbroken⟩
        | ⟨escape, same, escapes⟩
      · rw [same]
        have more := ih (column + 1) (by omega)
        rw [Nat.add_assoc, ← Nat.add_assoc 1] at more
        by_cases blank : c = ' '
        · rw [blank]
          exact .blank inside (by decide) (blanksEnd_escaped text follow) more
        · exact .ordinary inside notMark (isApart_of_isPrintable printable blank unbroken)
            (fun both => noEscape both.2) more
      · rw [same]
        have more := ih (column + (escape.length + 1)) (by omega)
        rw [Nat.add_assoc, ← Nat.add_assoc (escape.length + 1)] at more
        exact .escape escapes inside more

theorem ReadsQuoted.readQuoted? {mark : Char} {rest text : List Char} {line column : Nat}
    {q : Place} (reads : ReadsQuoted mark ⟨rest, line, column + 1⟩ text q) :
    readQuoted? mark ⟨mark :: rest, line, column⟩ = some (text, q) :=
  reads _ ((Nat.lt_succ_self rest.length).trans (Nat.lt_succ_self _))

theorem readQuoted?_double (text follow : List Char) (line column : Nat) :
    readQuoted? '"' ⟨doubleQuoted text ++ follow, line, column⟩
      = some (text, ⟨follow, line, column + (doubleQuoted text).length⟩) := by
  have reads := (readsQuoted_escaped text follow line _ (Nat.succ_pos column)).readQuoted?
  have length : column.succ + ((text.flatMap escapedChar).length + 1)
      = column + (doubleQuoted text).length := by
    unfold doubleQuoted
    simp only [List.length_cons, List.length_append, List.length_nil]
    omega
  rw [length] at reads
  unfold doubleQuoted at reads ⊢
  rwa [List.cons_append, List.append_assoc]

/-! ### Single quotes -/

section Indented

variable {width : Nat} {c : Char}

theorem indented_break (atStart : Bool) (broken : isAnyBreak c = true) (text : List Char) :
    indented width atStart (c :: text) = c :: indented width true text := by
  rw [indented, if_pos broken]

theorem indented_breaks (width : Nat) {breaks : List Char} (atStart : Bool)
    (all : ∀ c ∈ breaks, isAnyBreak c = true) (inhabited : breaks ≠ []) (text : List Char) :
    indented width atStart (breaks ++ text) = breaks ++ indented width true text := by
  induction breaks generalizing atStart with
  | nil => exact absurd rfl inhabited
  | cons b breaks ih =>
      rw [List.cons_append, indented_break _ (all b List.mem_cons_self)]
      cases breaks with
      | nil => rfl
      | cons d breaks =>
          rw [ih true (fun e mem => all e (List.mem_cons_of_mem _ mem)) (by simp)]
          rfl

theorem indented_within (unbroken : isAnyBreak c = false) (text : List Char) :
    indented width false (c :: text) = c :: indented width false text := by
  rw [indented, unbroken]
  rfl

theorem indented_start (unbroken : isAnyBreak c = false) (text : List Char) :
    indented width true (c :: text) = indentation width ++ indented width false (c :: text) := by
  rw [indented_within unbroken, indented, unbroken]
  rfl

end Indented

/-- The breaks that a text begins with, and what follows them. -/
theorem exists_breaks (text : List Char) :
    ∃ breaks rest, text = breaks ++ rest ∧ (∀ c ∈ breaks, isAnyBreak c = true)
      ∧ ∀ d ∈ rest.head?, isAnyBreak d = false := by
  refine ⟨text.takeWhile isAnyBreak, text.dropWhile isAnyBreak,
    List.takeWhile_append_dropWhile.symm, fun c mem => List.mem_takeWhile_imp mem,
    fun d first => ?_⟩
  have head := List.head?_dropWhile_not isAnyBreak text
  rw [Option.mem_def.mp first] at head
  simpa using head

/-- A character between single quotes. -/
def quotedTwice (c : Char) : List Char := if c = '\'' then ['\'', '\''] else [c]

/-- The text with its single quotes written twice. -/
def twiceQuoted (text : List Char) : List Char := text.flatMap quotedTwice

theorem twiceQuoted_cons (c : Char) (text : List Char) :
    twiceQuoted (c :: text) = quotedTwice c ++ twiceQuoted text := List.flatMap_cons ..

theorem twiceQuoted_breaks {breaks : List Char} (all : ∀ c ∈ breaks, isAnyBreak c = true)
    (text : List Char) : twiceQuoted (breaks ++ text) = breaks ++ twiceQuoted text := by
  induction breaks with
  | nil => rfl
  | cons c breaks ih =>
      have notQuote : c ≠ '\'' := by
        rintro rfl
        exact absurd (all _ List.mem_cons_self) (by decide)
      rw [List.cons_append, twiceQuoted_cons, quotedTwice, if_neg notQuote,
        ih fun d mem => all d (List.mem_cons_of_mem _ mem)]
      rfl

/-- What stands behind breaks, the closing mark at least, begins with neither blank nor break. -/
theorem exists_apart_single {text : List Char} (printable : Printable text)
    (unbroken : ∀ d ∈ text.head?, isAnyBreak d = false) (noBlank : text.head? ≠ some ' ') :
    ∃ d rest, twiceQuoted text ++ ['\''] = d :: rest ∧ isAnyBreak d = false ∧ IsApart d := by
  cases text with
  | nil => exact ⟨'\'', [], rfl, by decide, by decide, by decide⟩
  | cons d text =>
      rw [twiceQuoted_cons, quotedTwice]
      by_cases quote : d = '\''
      · rw [if_pos quote]
        exact ⟨'\'', _, rfl, by decide, by decide, by decide⟩
      · have isPrinted := printable d List.mem_cons_self
        have notBreak := unbroken d rfl
        rw [if_neg quote]
        refine ⟨d, _, rfl, notBreak, isApart_of_isPrintable isPrinted ?_ ?_⟩
        · rintro rfl
          exact noBlank rfl
        · rwa [← isAnyBreak_eq_isBreak isPrinted]

/-- What single quotes close over: the text, its quotes twice and its lines indented, and the
closing mark. -/
def closedSingle (width : Nat) (text : List Char) : List Char :=
  indented width false (twiceQuoted text ++ ['\''])

theorem closedSingle_cons (width : Nat) {c : Char} (unbroken : isAnyBreak c = false)
    (text : List Char) :
    closedSingle width (c :: text) = quotedTwice c ++ closedSingle width text := by
  unfold closedSingle
  rw [twiceQuoted_cons, quotedTwice, List.append_assoc]
  split
  · have quote : isAnyBreak '\'' = false := by decide
    exact (indented_within quote _).trans (congrArg _ (indented_within quote _))
  · exact indented_within unbroken _

theorem blanksEnd_single {width : Nat} {text : List Char} (quotable : Quotable (' ' :: text))
    (follow : List Char) : BlanksEnd (closedSingle width text ++ follow) := by
  induction text with
  | nil => exact .of_isApart ⟨by decide, by decide⟩ follow
  | cons c text ih =>
      obtain ⟨printable, ends⟩ := quotable
      rw [hasAdjacent_cons, Bool.or_eq_false_iff] at ends
      have unbroken : isAnyBreak c = false := ends.1
      have isPrinted := printable c (by simp)
      rw [closedSingle_cons width unbroken, quotedTwice]
      by_cases quote : c = '\''
      · rw [if_pos quote]
        exact .of_isApart ⟨by decide, by decide⟩ _
      · rw [if_neg quote]
        by_cases blank : c = ' '
        · subst blank
          exact (ih ⟨fun d mem => printable d (List.mem_cons_of_mem _ mem), ends.2⟩).cons
        · rw [isAnyBreak_eq_isBreak isPrinted] at unbroken
          exact .of_isApart (isApart_of_isPrintable isPrinted blank unbroken) _

section Single

variable {width line column : Nat} {c : Char} {text follow : List Char} {q : Place}

/-- A character that is no break is read before the rest. -/
theorem readsQuoted_single_cons (quotable : Quotable (c :: text)) (unbroken : isAnyBreak c = false)
    (inside : 0 < column) (reads : ReadsQuoted '\''
      ⟨closedSingle width text ++ follow, line, column + (quotedTwice c).length⟩ text q) :
    ReadsQuoted '\'' ⟨closedSingle width (c :: text) ++ follow, line, column⟩ (c :: text) q := by
  rw [closedSingle_cons width unbroken]
  unfold quotedTwice at reads ⊢
  by_cases quote : c = '\''
  · rw [if_pos quote] at reads ⊢
    subst quote
    exact .twice inside reads
  · rw [if_neg quote] at reads ⊢
    by_cases blank : c = ' '
    · subst blank
      exact .blank inside (by decide) (blanksEnd_single quotable follow) reads
    · have isPrinted := quotable.printable c List.mem_cons_self
      rw [isAnyBreak_eq_isBreak isPrinted] at unbroken
      exact .ordinary inside quote (isApart_of_isPrintable isPrinted blank unbroken) (by simp) reads

/-- A blank behind breaks would be taken for indentation, and so there is none. -/
theorem noBlank_behind_breaks {breaks rest : List Char} (inhabited : breaks ≠ [])
    (all : ∀ d ∈ breaks, isAnyBreak d = true)
    (noBlankStart : hasAdjacent isAnyBreak (· == ' ') (breaks ++ rest) = false) :
    rest.head? ≠ some ' ' := by
  intro blank
  obtain ⟨front, b, rfl⟩ := (List.eq_nil_or_concat' breaks).resolve_left inhabited
  rw [List.append_assoc] at noBlankStart
  have adjacent := hasAdjacent_append_right noBlankStart
  have isBreak' := all b (by simp)
  rw [List.singleton_append, hasAdjacent_cons, isBreak', blank] at adjacent
  exact absurd adjacent (by simp)

/-- Breaks are read before the rest, which is indented. -/
theorem readsQuoted_single_breaks {breaks rest : List Char}
    (printable : Printable (c :: (breaks ++ rest)))
    (all : ∀ d ∈ c :: breaks, isAnyBreak d = true) (separator : c ≠ '\n')
    (unbroken : ∀ d ∈ rest.head?, isAnyBreak d = false) (noBlank : rest.head? ≠ some ' ')
    (inside : 0 < column) (reads : ReadsQuoted '\''
      ⟨closedSingle width rest ++ follow, line + (breaks.length + 1), width⟩ rest q) :
    ReadsQuoted '\'' ⟨closedSingle width (c :: (breaks ++ rest)) ++ follow, line, column⟩
      (c :: (breaks ++ rest)) q := by
  have restPrintable : Printable rest := fun d mem => printable d (by simp [mem])
  obtain ⟨d, more, same, notBreak, apart⟩ := exists_apart_single restPrintable unbroken noBlank
  have asBreaks : ∀ d ∈ c :: breaks, isBreak d = true := fun d mem =>
    isAnyBreak_eq_isBreak (printable d (by simp at mem ⊢; tauto)) ▸ all d mem
  unfold closedSingle at reads ⊢
  rw [same, indented_within notBreak, List.cons_append] at reads
  rw [← List.cons_append, twiceQuoted_breaks all, List.append_assoc,
    indented_breaks _ _ all (by simp), same, indented_start notBreak, indented_within notBreak]
  simp only [List.cons_append, List.append_assoc]
  exact .breaks inside (by decide) asBreaks separator apart reads

end Single

/-- **Text in single quotes is read back.** Without breaks the place stays on the line. -/
theorem readsQuoted_single {width : Nat} (wide : 0 < width) {follow : List Char}
    (single : follow.head? ≠ some '\'') {text : List Char} (quotable : Quotable text)
    (noLine : '\n' ∉ text) (noBlankStart : hasAdjacent isAnyBreak (· == ' ') text = false)
    (line column : Nat) (inside : 0 < column) :
    ∃ line' column', ReadsQuoted '\'' ⟨closedSingle width text ++ follow, line, column⟩ text
        ⟨follow, line', column'⟩
      ∧ line ≤ line' ∧ ((∀ c ∈ text, isAnyBreak c = false) → line' = line
        ∧ column' = column + (closedSingle width text).length) := by
  -- Several breaks are read at once, so the text behind them may be shorter by more than one.
  induction size : text.length using Nat.strongRecOn generalizing text line column with
  | _ size ih =>
      cases text with
      | nil => exact ⟨_, _, .close inside fun _ => single, le_rfl, fun _ => ⟨rfl, rfl⟩⟩
      | cons c text =>
          obtain ⟨printable, ends⟩ := quotable
          have others : Printable text := fun d mem => printable d (List.mem_cons_of_mem _ mem)
          rw [List.mem_cons, not_or] at noLine
          have ends' := ends
          have starts := noBlankStart
          rw [hasAdjacent_cons, Bool.or_eq_false_iff] at ends' starts
          by_cases broken : isAnyBreak c = true
          · obtain ⟨breaks, rest, rfl, all, unbroken⟩ := exists_breaks text
            have allBreaks : ∀ d ∈ c :: breaks, isAnyBreak d = true :=
              List.forall_mem_cons.mpr ⟨broken, all⟩
            have noBlank := noBlank_behind_breaks (by simp) allBreaks noBlankStart
            obtain ⟨line', column', reads, further, -⟩ :=
              ih rest.length (by simp at size; omega)
                ⟨fun d mem => others d (by simp [mem]), hasAdjacent_append_right ends'.2⟩
                (fun mem => noLine.2 (by simp [mem])) (hasAdjacent_append_right starts.2)
                (line + (breaks.length + 1)) width wide rfl
            have reads' := readsQuoted_single_breaks printable allBreaks
              (fun same => noLine.1 same.symm) unbroken noBlank inside reads
            exact ⟨line', column', reads', by omega, fun flat =>
              absurd (flat c List.mem_cons_self) (by simp [broken])⟩
          · have unbroken : isAnyBreak c = false := by simpa using broken
            obtain ⟨line', column', reads, further, flat⟩ :=
              ih text.length (by simp at size; omega) ⟨others, ends'.2⟩ noLine.2 starts.2 line
                (column + (quotedTwice c).length) (by omega) rfl
            refine ⟨line', column', readsQuoted_single_cons ⟨printable, ends⟩ unbroken inside reads,
              further, fun all => ?_⟩
            obtain ⟨rfl, rfl⟩ := flat fun d mem => all d (List.mem_cons_of_mem _ mem)
            exact ⟨rfl, by rw [closedSingle_cons width unbroken, List.length_append]; omega⟩

theorem readQuoted?_single {width : Nat} (wide : 0 < width) {follow : List Char}
    (single : follow.head? ≠ some '\'') {text : List Char} (quotable : Quotable text)
    (noLine : '\n' ∉ text) (noBlankStart : hasAdjacent isAnyBreak (· == ' ') text = false)
    (line column : Nat) :
    ∃ line' column', readQuoted? '\'' ⟨singleQuoted width text ++ follow, line, column⟩
        = some (text, ⟨follow, line', column'⟩)
      ∧ line ≤ line' ∧ ((∀ c ∈ text, isAnyBreak c = false) → line' = line
        ∧ column' = column + (singleQuoted width text).length) := by
  obtain ⟨line', column', reads, further, flat⟩ :=
    readsQuoted_single wide single quotable noLine noBlankStart line _ (Nat.succ_pos column)
  refine ⟨line', column', reads.readQuoted?, further, fun all => ?_⟩
  obtain ⟨rfl, rfl⟩ := flat all
  refine ⟨rfl, ?_⟩
  show _ = column + ('\'' :: closedSingle width text).length
  rw [List.length_cons]
  omega

end ColumnCast.Yaml
