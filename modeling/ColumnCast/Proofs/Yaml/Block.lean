import ColumnCast.Proofs.Yaml.Quoted

/-!
# `ColumnCast.Proofs.Yaml.Block`: literal blocks are read back

A text of several lines is written as lines behind an indentation, and
nothing is lost: blanks at both ends of a line are part of it, and which
break ends it is seen. Two things the lines do not show stand in the head
of the block: the indentation where the first line begins with blanks or
is empty, and how many of the breaks at the end belong to the text.

`Lines` takes a text apart the way it is read, line by line with the
breaks behind each. `readLines?_eq` is what reading makes of it, and
`readBlock?_literal` that the whole block is the text again.
-/

set_option autoImplicit false

namespace ColumnCast.Yaml

/-! ### Gaps between lines -/

namespace BlockGap

variable {indent : Option Nat} {line column : Nat} {gap : BlockGap}

/-- The gap ends at a character that is neither a break nor part of the indentation. -/
theorem read?_stop {rest : List Char} (start : ∀ d ∈ rest.head?, isBreak d = false
      ∧ (isBlank d = true → ∃ width ∈ indent, width ≤ column)) :
    read? indent line column gap rest
      = some ({ gap with deepest := max gap.deepest column }, ⟨rest, line, column⟩) := by
  cases rest with
  | nil => rfl
  | cons d rest =>
      obtain ⟨noBreak, deep⟩ := start d rfl
      have passed (blank : isBlank d = true) :
          ¬(indent.all fun width => decide (column < width)) = true := by
        obtain ⟨width, mem, le⟩ := deep blank
        rw [Option.mem_def.mp mem]
        simpa using le
      rw [read?]
      dsimp only
      rw [if_neg, if_neg, noBreak, if_neg (by simp)]
      · rintro ⟨rfl, inside⟩
        exact passed (by decide) inside
      · rintro ⟨rfl, inside⟩
        exact passed (by decide) inside

/-- Blanks of the indentation are passed over. -/
theorem read?_indentation (indent : Option Nat) (line column : Nat) (gap : BlockGap) (count : Nat)
    (room : ∀ width ∈ indent, column + count ≤ width)
    {rest : List Char} (start : ∀ d ∈ rest.head?, isBreak d = false
      ∧ (isBlank d = true → ∃ width ∈ indent, width ≤ column + count)) :
    read? indent line column gap (indentation count ++ rest)
      = some ({ gap with deepest := max gap.deepest (column + count) },
        ⟨rest, line, column + count⟩) := by
  unfold indentation
  induction count generalizing column gap with
  | zero => exact read?_stop start
  | succ count ih =>
      have inside : (indent.all fun width => decide (column < width)) = true := by
        rw [Option.all_eq_true]
        intro width mem
        have := room width mem
        exact decide_eq_true (by omega)
      have shift : column + 1 + count = column + (count + 1) := by omega
      rw [List.replicate_succ, List.cons_append, read?]
      dsimp only
      rw [if_pos ⟨rfl, inside⟩, ih _ _ (by rw [shift]; exact room) (by rw [shift]; exact start),
        shift]
      congr 3
      dsimp only
      omega

/-- Breaks are kept. -/
theorem read?_breaks {breaks : List Char} (all : ∀ c ∈ breaks, isBreak c = true)
    (rest : List Char) :
    read? indent line 0 gap (breaks ++ rest)
      = read? indent (line + breaks.length) 0 { gap with breaks := breaks.reverse ++ gap.breaks }
        rest := by
  induction breaks generalizing line gap with
  | nil => rfl
  | cons c breaks ih =>
      have first := all c List.mem_cons_self
      have notSpace : c ≠ ' ' := by
        rintro rfl
        exact absurd first (by decide)
      have notTab : c ≠ '\t' := by
        rintro rfl
        exact absurd first (by decide)
      rw [List.cons_append, read?]
      dsimp only
      rw [if_neg fun both => notSpace both.1, if_neg fun both => notTab both.1, if_pos first,
        ih fun d mem => all d (List.mem_cons_of_mem _ mem)]
      simp only [Nat.max_zero, List.reverse_cons, List.append_assoc, List.length_cons]
      congr 1
      omega

end BlockGap

/-! ### Lines -/

/-- A text that begins with a line, taken apart: all up to the end of the last line, and the
breaks behind it. -/
inductive Lines : (text body breaks : List Char) → Prop
  | last {line : List Char} (inhabited : line ≠ []) (flat : ∀ c ∈ line, isAnyBreak c = false) :
    Lines line line []
  | ended {line breaks : List Char} {b : Char} (inhabited : line ≠ [])
    (flat : ∀ c ∈ line, isAnyBreak c = false) (all : ∀ c ∈ b :: breaks, isAnyBreak c = true) :
    Lines (line ++ b :: breaks) line (b :: breaks)
  | more {line breaks text body last : List Char} {b : Char} (inhabited : line ≠ [])
    (flat : ∀ c ∈ line, isAnyBreak c = false) (all : ∀ c ∈ b :: breaks, isAnyBreak c = true)
    (others : Lines text body last) :
    Lines (line ++ b :: (breaks ++ text)) (line ++ b :: (breaks ++ body)) last

namespace Lines

variable {text body breaks : List Char}

theorem inhabited (lines : Lines text body breaks) : text ≠ [] := by
  cases lines <;> simp_all

theorem unbroken (lines : Lines text body breaks) : ∀ c ∈ text.head?, isAnyBreak c = false := by
  have first {line rest : List Char} (inhabited : line ≠ [])
      (flat : ∀ c ∈ line, isAnyBreak c = false) :
      ∀ c ∈ (line ++ rest).head?, isAnyBreak c = false := by
    obtain ⟨d, line, rfl⟩ := List.exists_cons_of_ne_nil inhabited
    rintro _ ⟨⟩
    exact flat d List.mem_cons_self
  cases lines with
  | last inhabited flat =>
      have whole := @first text [] inhabited flat
      rwa [List.append_nil] at whole
  | ended inhabited flat _ => exact first inhabited flat
  | more inhabited flat _ _ => exact first inhabited flat

theorem eq_append (lines : Lines text body breaks) : text = body ++ breaks := by
  induction lines with
  | last => rw [List.append_nil]
  | ended => rfl
  | more _ _ _ _ ih => simp [ih]

theorem breaks_all (lines : Lines text body breaks) : ∀ c ∈ breaks, isAnyBreak c = true := by
  induction lines with
  | last => simp
  | ended _ _ all => exact all
  | more _ _ _ _ ih => exact ih

/-- The last line ends with a character that is no break. -/
theorem exists_last (lines : Lines text body breaks) :
    ∃ front c, body = front ++ [c] ∧ isAnyBreak c = false := by
  have last {line : List Char} (inhabited : line ≠ []) (flat : ∀ c ∈ line, isAnyBreak c = false) :
      ∃ front c, line = front ++ [c] ∧ isAnyBreak c = false := by
    obtain ⟨front, c, rfl⟩ := (List.eq_nil_or_concat' line).resolve_left inhabited
    exact ⟨front, c, rfl, flat c (by simp)⟩
  induction lines with
  | last inhabited flat => exact last inhabited flat
  | ended inhabited flat _ => exact last inhabited flat
  | @more line breaks _ _ _ b _ _ _ _ ih =>
      obtain ⟨front, c, rfl, unbroken⟩ := ih
      exact ⟨line ++ b :: (breaks ++ front), c, by simp, unbroken⟩

end Lines

/-- Every text that begins with a line can be taken apart. -/
theorem exists_lines {text : List Char} (inhabited : text ≠ [])
    (unbroken : ∀ c ∈ text.head?, isAnyBreak c = false) :
    ∃ body breaks, Lines text body breaks := by
  -- On the length: behind a line and its breaks there is nothing, or a shorter text of this kind.
  induction size : text.length using Nat.strongRecOn generalizing text with
  | _ size ih =>
      obtain ⟨line, same⟩ : ∃ line, text.takeWhile (fun c => !isAnyBreak c) = line := ⟨_, rfl⟩
      have parts := List.takeWhile_append_dropWhile (p := fun c => !isAnyBreak c) (l := text)
      have flat : ∀ c ∈ line, isAnyBreak c = false := fun c mem => by
        have inside : (!isAnyBreak c) = true :=
          List.mem_takeWhile_imp (p := fun c => !isAnyBreak c) (same ▸ mem)
        simpa using inside
      have filled : line ≠ [] := by
        obtain ⟨c, rest, rfl⟩ := List.exists_cons_of_ne_nil inhabited
        rw [← same, List.takeWhile_cons_of_pos (by simp [unbroken c rfl])]
        simp
      rw [same] at parts
      cases behind : text.dropWhile (fun c => !isAnyBreak c) with
      | nil =>
          rw [behind, List.append_nil] at parts
          rw [← parts]
          exact ⟨_, _, .last filled flat⟩
      | cons b rest =>
          have head := List.head?_dropWhile_not (fun c => !isAnyBreak c) text
          rw [behind] at head parts
          have isBreak' : isAnyBreak b = true := by simpa using head
          obtain ⟨breaks, others, rfl, all, starts⟩ := exists_breaks rest
          have allBreaks : ∀ c ∈ b :: breaks, isAnyBreak c = true :=
            List.forall_mem_cons.mpr ⟨isBreak', all⟩
          by_cases none : others = []
          · rw [none, List.append_nil] at parts
            rw [← parts]
            exact ⟨_, _, .ended filled flat allBreaks⟩
          · obtain ⟨body, last, lines⟩ :=
              ih others.length (by rw [← size, ← parts]; simp; omega) none starts rfl
            rw [← parts]
            exact ⟨_, _, .more filled flat allBreaks lines⟩

/-! ### Reading lines -/

theorem indented_flat (width : Nat) {line : List Char} (flat : ∀ c ∈ line, isAnyBreak c = false)
    (text : List Char) :
    indented width false (line ++ text) = line ++ indented width false text := by
  induction line with
  | nil => rfl
  | cons c line ih =>
      rw [List.cons_append, indented_within (flat c List.mem_cons_self),
        ih fun d mem => flat d (List.mem_cons_of_mem _ mem)]
      rfl

/-- No blank of a text that begins apart belongs to its indentation. -/
theorem ends_of_isApart {follow : List Char} (start : ∀ d ∈ follow.head?, IsApart d)
    (width count : Nat) :
    ∀ d ∈ follow.head?, isBreak d = false ∧ (isBlank d = true → width ≤ count) := by
  intro d first
  obtain ⟨noBlank, noBreak⟩ := start d first
  exact ⟨noBreak, fun blank => absurd blank (by simp [noBlank])⟩

/-- The gap behind a line: breaks of empty lines, and what is indented. -/
theorem readGap_eq {width : Nat} {breaks : List Char} (all : ∀ c ∈ breaks, isBreak c = true)
    {count : Nat} (room : count ≤ width) {rest : List Char}
    (start : ∀ d ∈ rest.head?, isBreak d = false ∧ (isBlank d = true → width ≤ count))
    (number : Nat) :
    ∃ gap, BlockGap.read? (some width) number 0 {} (breaks ++ (indentation count ++ rest))
        = some (gap, ⟨rest, number + breaks.length, count⟩)
      ∧ gap.breaks.reverse = breaks := by
  have indented := BlockGap.read?_indentation (some width) (number + breaks.length) 0
    { breaks := breaks.reverse } count (by rintro _ ⟨⟩; omega) (fun d first => by
      obtain ⟨noBreak, deep⟩ := start d first
      exact ⟨noBreak, fun blank => ⟨width, rfl, by have := deep blank; omega⟩⟩)
  rw [Nat.zero_add] at indented
  refine ⟨{ breaks := breaks.reverse, deepest := max 0 count }, ?_, List.reverse_reverse _⟩
  rw [BlockGap.read?_breaks all, List.append_nil, indented]

/-- One line, its break and those of empty lines, and the indentation of the next. -/
theorem readLines?_line {width count : Nat} {line breaks rest : List Char} {b : Char}
    (number rounds : Nat) (block : BlockText) (inhabited : line ≠ [])
    (flat : ∀ c ∈ line, isBreak c = false)
    (all : ∀ c ∈ b :: breaks, isBreak c = true) (room : count ≤ width)
    (start : ∀ d ∈ rest.head?, isBreak d = false ∧ (isBlank d = true → width ≤ count)) :
    ∃ blank, BlockText.readLines? false width block (rounds + 1)
        ⟨line ++ b :: (breaks ++ (indentation count ++ rest)), number, width⟩
      = BlockText.readLines? false width
        ⟨block.text ++ (block.lineBreak.toList ++ block.breaks) ++ line, some b, breaks, blank⟩
        rounds ⟨rest, number + 1 + breaks.length, count⟩ := by
  obtain ⟨gap, gapped, same⟩ := readGap_eq (fun c mem => all c (List.mem_cons_of_mem _ mem)) room
    start (number + 1)
  obtain ⟨c, line, rfl⟩ := List.exists_cons_of_ne_nil inhabited
  -- The line ends at its break, and all from there to the next line is the gap.
  have taken : ((c :: line) ++ b :: (breaks ++ (indentation count ++ rest))).takeWhile
      (fun d => !isBreak d) = c :: line := by
    rw [List.takeWhile_append_of_pos (fun d mem => by simp [flat d mem]),
      List.takeWhile_cons_of_neg (by simp [all b List.mem_cons_self]), List.append_nil]
  have skipped := Place.skip_append (c :: line) (b :: (breaks ++ (indentation count ++ rest)))
    number width
  refine ⟨isBlank c, ?_⟩
  rw [BlockText.readLines?]
  rw [List.cons_append] at taken skipped ⊢
  dsimp only
  rw [if_pos rfl, taken, skipped]
  dsimp only [Place.skipBreak]
  rw [List.drop_one, List.tail_cons, gapped, Option.bind_eq_bind, Option.bind_some, same]
  simp [BlockText.between]

/-- The lines end where one is not indented as far as they are. -/
theorem readLines?_stop {width : Nat} {p : Place} (shallow : p.column < width) (block : BlockText)
    (rounds : Nat) :
    BlockText.readLines? false width block (rounds + 1) p = some (block, p) := by
  rw [BlockText.readLines?]
  cases rest : p.rest with
  | nil => rfl
  | cons c rest =>
      dsimp only
      rw [if_neg shallow.ne]

/-- What a block of literal lines has become when it is read. -/
structure Reached (start : List Char) (body breaks : List Char) (block : BlockText) : Prop where
  text : block.text = start ++ body
  lineBreak : block.lineBreak = some (breaks.headD '\n')
  breaks : block.breaks = breaks.tail

/-- **All lines are read**, and the breaks behind the last one. Where the text has none, one
stands there to end the line. -/
theorem readLines?_eq {text body breaks : List Char} (lines : Lines text body breaks)
    (printable : Printable text) {width count : Nat} (shallow : count < width)
    {follow : List Char} (start : ∀ d ∈ follow.head?, IsApart d) (block : BlockText)
    (number rounds : Nat) (enough : text.length < rounds) :
    ∃ reached number', Reached (block.text ++ (block.lineBreak.toList ++ block.breaks)) body breaks
        reached
      ∧ BlockText.readLines? false width block rounds
          ⟨indented width false text ++ ((if breaks = [] then ['\n'] else [])
            ++ (indentation count ++ follow)), number, width⟩
        = some (reached, ⟨follow, number', count⟩) := by
  have apart := ends_of_isApart start width count
  have breakOf {c : Char} (mem : c ∈ text) (broken : isAnyBreak c = true) : isBreak c = true := by
    rwa [← isAnyBreak_eq_isBreak (printable c mem)]
  have flatOf {c : Char} (mem : c ∈ text) (flat : isAnyBreak c = false) : isBreak c = false := by
    rwa [← isAnyBreak_eq_isBreak (printable c mem)]
  -- The breaks behind a line join the text only when the next line is read, and so the block
  -- before the lines is any block.
  induction lines generalizing block number rounds with
  | @last line inhabited flat =>
      have positive := List.length_pos_iff.mpr inhabited
      obtain ⟨rounds, rfl⟩ : ∃ n, rounds = n + 2 := ⟨rounds - 2, by omega⟩
      have breaks : ∀ c ∈ ['\n'], isBreak c = true := by simp [isBreak]
      obtain ⟨blank, read⟩ := readLines?_line number (rounds + 1) block inhabited
        (fun c mem => flatOf mem (flat c mem)) breaks shallow.le apart
      have written := indented_flat width flat []
      rw [List.append_nil, indented, List.append_nil] at written
      rw [List.nil_append] at read
      rw [written, if_pos rfl, List.singleton_append, read, readLines?_stop shallow]
      exact ⟨_, _, ⟨rfl, rfl, rfl⟩, rfl⟩
  | @ended line breaks b inhabited flat all =>
      have positive := List.length_pos_iff.mpr inhabited
      rw [List.length_append, List.length_cons] at enough
      obtain ⟨rounds, rfl⟩ : ∃ n, rounds = n + 2 := ⟨rounds - 2, by omega⟩
      obtain ⟨blank, read⟩ := readLines?_line number (rounds + 1) block inhabited
        (fun c mem => flatOf (by simp [mem]) (flat c mem))
        (fun c mem => breakOf (List.mem_append_right _ mem) (all c mem)) shallow.le apart
      have written := indented_breaks width false all (by simp) []
      rw [List.append_nil, indented, List.append_nil] at written
      rw [indented_flat _ flat, written, if_neg (by simp), List.nil_append, List.append_assoc,
        List.cons_append, read, readLines?_stop shallow]
      exact ⟨_, _, ⟨rfl, rfl, rfl⟩, rfl⟩
  | @more line breaks text body last b inhabited flat all others ih =>
      obtain ⟨rounds, rfl⟩ : ∃ n, rounds = n + 1 := ⟨rounds - 1, by omega⟩
      obtain ⟨c, text, rfl⟩ := List.exists_cons_of_ne_nil others.inhabited
      have unbroken := others.unbroken c rfl
      have inside : ∀ d ∈ c :: text, d ∈ line ++ b :: (breaks ++ c :: text) := fun d mem => by
        simp only [List.mem_append, List.mem_cons] at mem ⊢
        tauto
      have within : ∀ d ∈ b :: breaks, d ∈ line ++ b :: (breaks ++ c :: text) := fun d mem => by
        simp only [List.mem_append, List.mem_cons] at mem ⊢
        tauto
      -- The next line is indented in full, so a blank it begins with is its own.
      have starts : ∀ d ∈ (indented width false (c :: text) ++ ((if last = [] then ['\n'] else [])
          ++ (indentation count ++ follow))).head?,
          isBreak d = false ∧ (isBlank d = true → width ≤ width) := by
        rw [indented_within unbroken]
        rintro _ ⟨⟩
        exact ⟨flatOf (inside c List.mem_cons_self) unbroken, fun _ => le_rfl⟩
      obtain ⟨blank, read⟩ := readLines?_line number rounds block inhabited
        (fun d mem => flatOf (by simp [mem]) (flat d mem))
        (fun d mem => breakOf (within d mem) (all d mem)) le_rfl starts
      obtain ⟨reached, number', done, stopped⟩ := ih (fun d mem => printable d (inside d mem))
        ⟨block.text ++ (block.lineBreak.toList ++ block.breaks) ++ line, some b, breaks, blank⟩
        (number + 1 + breaks.length) rounds
        (by simp only [List.length_append, List.length_cons] at enough ⊢; omega)
        (fun mem => breakOf (inside _ mem)) (fun mem => flatOf (inside _ mem))
      have written := indented_breaks width false all (by simp) (c :: text)
      rw [indented_start unbroken, List.cons_append, List.cons_append] at written
      rw [indented_flat _ flat, written, List.append_assoc, List.cons_append, List.append_assoc,
        List.append_assoc, read]
      refine ⟨reached, number', ⟨?_, done.lineBreak, done.breaks⟩, stopped⟩
      rw [done.text]
      simp

/-! ### The head of a block -/

/-- Does the first line not show how far the lines are indented? -/
def hidesIndentation (text : List Char) : Bool :=
  text.head?.any fun c => c == ' ' || isAnyBreak c

/-- The sign of a chomping. -/
def chompingSign : Chomping → List Char
  | .strip => ['-']
  | .clip => []
  | .keep => ['+']

/-- The chomping for a text whose last line has these breaks behind it. -/
def chompingOf : (breaks : List Char) → Chomping
  | [] => .strip
  | [_] => .clip
  | _ => .keep

theorem literalHeader_eq {text : List Char} {chomping : Chomping}
    (sign : (match text.reverse with
      | last :: before =>
        if !isAnyBreak last then ['-'] else if before.head?.all isAnyBreak then ['+'] else []
      | [] => ['-']) = chompingSign chomping) :
    literalHeader text
      = '|' :: ((if hidesIndentation text then ['2'] else []) ++ chompingSign chomping) := by
  rw [← sign]
  rfl

/-- The sign tells the breaks behind the last line. -/
theorem Lines.literalHeader {text body breaks : List Char} (lines : Lines text body breaks)
    (front : List Char) :
    literalHeader (front ++ text)
      = '|' :: ((if hidesIndentation (front ++ text) then ['2'] else [])
        ++ chompingSign (chompingOf breaks)) := by
  have all := lines.breaks_all
  obtain ⟨line, c, same, unbroken⟩ := lines.exists_last
  apply literalHeader_eq
  rw [lines.eq_append, same]
  rcases List.eq_nil_or_concat' breaks with rfl | ⟨breaks, last, rfl⟩
  · simp [unbroken, chompingOf, chompingSign]
  · have isBreak' := all last (by simp)
    rcases List.eq_nil_or_concat' breaks with rfl | ⟨breaks, before, rfl⟩
    · simp [isBreak', unbroken, chompingOf, chompingSign]
    · have second := all before (by simp)
      have keep : chompingOf (breaks ++ [before] ++ [last]) = .keep := by
        cases breaks <;> simp [chompingOf]
      rw [keep]
      simp [isBreak', second, chompingSign]

/-- Breaks alone are all kept. -/
theorem literalHeader_breaks {breaks : List Char} (inhabited : breaks ≠ [])
    (all : ∀ c ∈ breaks, isAnyBreak c = true) :
    literalHeader breaks = ['|', '2', '+'] := by
  obtain ⟨first, rest, rfl⟩ := List.exists_cons_of_ne_nil inhabited
  have hidden : hidesIndentation (first :: rest) = true := by
    simp [hidesIndentation, all first List.mem_cons_self]
  rw [@literalHeader_eq _ .keep, hidden]
  · rfl
  · cases back : (first :: rest).reverse with
    | nil => exact absurd back (by simp)
    | cons last before =>
        have each : ∀ c ∈ last :: before, isAnyBreak c = true := fun c mem =>
          all c (List.mem_reverse.mp (back ▸ mem))
        have second : before.head?.all isAnyBreak = true := by
          rw [Option.all_eq_true]
          exact fun c first => each c (List.mem_cons_of_mem _ (List.mem_of_mem_head? first))
        dsimp only
        rw [each last List.mem_cons_self, second]
        rfl

theorem readBlockHeader?_eq (hidden : Bool) (chomping : Chomping) (rest : List Char)
    (line column : Nat) :
    ∃ column', readBlockHeader?
        ⟨(if hidden then ['2'] else []) ++ chompingSign chomping ++ '\n' :: rest, line, column⟩
      = some (chomping, if hidden then some 2 else none, ⟨'\n' :: rest, line, column'⟩) := by
  cases hidden <;> cases chomping <;> exact ⟨_, rfl⟩

theorem finishLine?_eq (rest : List Char) (line column : Nat) :
    Place.finishLine? ⟨'\n' :: rest, line, column⟩ = some ⟨rest, line + 1, 0⟩ := rfl

/-! ### Blocks -/

/-- What ends the line of a scalar: nothing, if a break does already. -/
def lineEnd (text : List Char) : List Char := if text.getLast?.any isAnyBreak then [] else ['\n']

theorem Lines.lineEnd {text body breaks : List Char} (lines : Lines text body breaks)
    (front : List Char) : lineEnd (front ++ text) = if breaks = [] then ['\n'] else [] := by
  obtain ⟨line, c, same, unbroken⟩ := lines.exists_last
  unfold Yaml.lineEnd
  rw [lines.eq_append, same]
  rcases List.eq_nil_or_concat' breaks with rfl | ⟨breaks, last, rfl⟩
  · simp [unbroken]
  · have isBreak' := lines.breaks_all last (by simp)
    have last : front ++ (line ++ [c] ++ (breaks ++ [last]))
        = (front ++ (line ++ [c] ++ breaks)) ++ [last] := by simp
    rw [last, List.getLast?_concat]
    simp [isBreak']

/-- The chomping leaves the breaks of the text. -/
theorem Reached.chomped {start body breaks : List Char} {block : BlockText}
    (reached : Reached start body breaks block) :
    block.chomped (chompingOf breaks) = start ++ (body ++ breaks) := by
  obtain ⟨text, lineBreak, others⟩ := reached
  rcases breaks with _ | ⟨b, _ | ⟨c, breaks⟩⟩
  · simp [chompingOf, BlockText.chomped, text]
  · simp [chompingOf, BlockText.chomped, text, lineBreak]
  · simp [chompingOf, BlockText.chomped, text, lineBreak, others]

/-- The lines of a block are found: breaks of empty lines first, then a line. -/
theorem readBlock?_start {base : Nat} (positive : 0 < base) {text : List Char}
    (printable : Printable text) {breaks lines : List Char} (split : text = breaks ++ lines)
    (all : ∀ c ∈ breaks, isAnyBreak c = true) (inhabited : lines ≠ [])
    (unbroken : ∀ c ∈ lines.head?, isAnyBreak c = false) (rest : List Char) (line : Nat) :
    ∃ gap line',
      BlockGap.read? ((if hidesIndentation text then some 2 else none).map (base - 1 + ·)) line 0 {}
          (indented (base + 1) true text ++ rest)
        = some (gap, ⟨indented (base + 1) false lines ++ rest, line', base + 1⟩)
      ∧ gap.breaks.reverse = breaks
      ∧ ((if hidesIndentation text then some 2 else none).map (base - 1 + ·)).getD
          (max gap.deepest (max base 1)) = base + 1 := by
  obtain ⟨c, more, rfl⟩ := List.exists_cons_of_ne_nil inhabited
  have notBreak := unbroken c rfl
  have isPrinted := printable c (by simp [split])
  have flat : isBreak c = false := by rwa [← isAnyBreak_eq_isBreak isPrinted]
  have written : indented (base + 1) true text
      = breaks ++ (indentation (base + 1) ++ indented (base + 1) false (c :: more)) := by
    rw [split]
    cases breaks with
    | nil => exact indented_start notBreak more
    | cons b breaks => rw [indented_breaks _ _ all (by simp), indented_start notBreak]
  rw [written, List.append_assoc, List.append_assoc]
  by_cases hidden : hidesIndentation text = true
  · have width : base - 1 + 2 = base + 1 := by omega
    rw [hidden, if_pos rfl, Option.map_some, width]
    have starts : ∀ d ∈ (indented (base + 1) false (c :: more) ++ rest).head?,
        isBreak d = false ∧ (isBlank d = true → base + 1 ≤ base + 1) := by
      rw [indented_within notBreak]
      rintro _ ⟨⟩
      exact ⟨flat, fun _ => le_rfl⟩
    have asBreaks : ∀ d ∈ breaks, isBreak d = true := fun d mem =>
      isAnyBreak_eq_isBreak (printable d (by simp [split, mem])) ▸ all d mem
    obtain ⟨gap, read, same⟩ := readGap_eq asBreaks le_rfl starts line
    exact ⟨gap, _, read, same, rfl⟩
  · rw [if_neg hidden, Option.map_none]
    -- The text begins with its first line, and this one with no blank.
    have empty : breaks = [] := by
      cases breaks with
      | nil => rfl
      | cons b breaks =>
          exact absurd (by simp [hidesIndentation, split, all b List.mem_cons_self]) hidden
    have noBlank : c ≠ ' ' := by
      rintro rfl
      exact absurd (by simp [hidesIndentation, split, empty]) hidden
    have starts : ∀ d ∈ (indented (base + 1) false (c :: more) ++ rest).head?, isBreak d = false
        ∧ (isBlank d = true → ∃ width ∈ (none : Option Nat), width ≤ 0 + (base + 1)) := by
      rw [indented_within notBreak]
      rintro _ ⟨⟩
      exact ⟨flat, fun blank => absurd ((isBlank_iff_of_isPrintable isPrinted).mp blank) noBlank⟩
    have read := BlockGap.read?_indentation none line 0 {} (base + 1) (by simp) starts
    rw [Nat.zero_add] at read
    subst empty
    refine ⟨_, _, read, rfl, ?_⟩
    show max (max 0 (base + 1)) (max base 1) = base + 1
    omega

/-- A block is its head, the gap before the first line, and the lines. -/
theorem readBlock?_eq {base line column indent : Nat} {hidden : Bool} {chomping : Chomping}
    {rest : List Char} {gap : BlockGap} {block : BlockText} {p q : Place}
    (gapped : BlockGap.read? ((if hidden then some 2 else none).map (base - 1 + ·)) (line + 1) 0 {}
        rest = some (gap, p))
    (width : ((if hidden then some 2 else none).map (base - 1 + ·)).getD
        (max gap.deepest (max base 1)) = indent)
    (read : BlockText.readLines? false indent ⟨[], none, gap.breaks.reverse, false⟩
        (p.rest.length + 1) p = some (block, q)) :
    readBlock? false base
        ⟨'|' :: ((if hidden then ['2'] else []) ++ chompingSign chomping ++ '\n' :: rest),
          line, column⟩
      = some (block.chomped chomping, q) := by
  obtain ⟨column', header⟩ := readBlockHeader?_eq hidden chomping rest line (column + 1)
  have skipped : Place.skip
        ⟨'|' :: ((if hidden then ['2'] else []) ++ chompingSign chomping ++ '\n' :: rest),
          line, column⟩ 1
      = ⟨(if hidden then ['2'] else []) ++ chompingSign chomping ++ '\n' :: rest,
          line, column + 1⟩ := rfl
  rw [readBlock?, skipped, header]
  simp only [Option.bind_eq_bind, Option.bind_some, finishLine?_eq, gapped, width, read]
  rfl

theorem length_le_indented (width : Nat) (atStart : Bool) (text : List Char) :
    text.length ≤ (indented width atStart text).length := by
  induction text generalizing atStart with
  | nil => exact Nat.zero_le _
  | cons c text ih =>
      have more := ih true
      have more' := ih false
      unfold indented
      split <;> simp only [List.length_cons, List.length_append] <;> omega

/-- **A text of several lines is read back from its block**, up to the next text that is not
indented as far. -/
theorem readBlock?_literal {base : Nat} (positive : 0 < base) {text : List Char}
    (inhabited : text ≠ []) (printable : Printable text) {count : Nat} (shallow : count ≤ base)
    {follow : List Char} (start : ∀ d ∈ follow.head?, IsApart d) (line column : Nat) :
    ∃ line', readBlock? false base
        ⟨literalBlock (base + 1) text ++ (lineEnd text ++ (indentation count ++ follow)),
          line, column⟩
      = some (text, ⟨follow, line', count⟩) := by
  obtain ⟨breaks, lines, split, all, unbroken⟩ := exists_breaks text
  unfold literalBlock
  by_cases none : lines = []
  · -- Only empty lines: there is nothing to read behind the gap.
    obtain rfl : text = breaks := by rw [split, none, List.append_nil]
    have written := indented_breaks (base + 1) true all inhabited []
    rw [List.append_nil, indented, List.append_nil] at written
    have ended : lineEnd text = [] := by
      obtain ⟨front, last, same⟩ := (List.eq_nil_or_concat' text).resolve_left inhabited
      unfold lineEnd
      rw [same, List.getLast?_concat, Option.any_some, all last (by simp [same]), if_pos rfl]
    have width : base - 1 + 2 = base + 1 := by omega
    have apart := ends_of_isApart start (base + 1) count
    have asBreaks : ∀ d ∈ text, isBreak d = true := fun d mem =>
      isAnyBreak_eq_isBreak (printable d mem) ▸ all d mem
    obtain ⟨gap, gapped, same⟩ := readGap_eq asBreaks (Nat.le_succ_of_le shallow) apart (line + 1)
    have block := @readBlock?_eq base line column (base + 1) true .keep _ gap _ _ _
      (by rw [if_pos rfl, Option.map_some, width]; exact gapped)
      (by rw [if_pos rfl, Option.map_some, width]; rfl)
      (readLines?_stop (Nat.lt_succ_of_le shallow) _ _)
    rw [literalHeader_breaks inhabited all, written, ended]
    simp only [BlockText.chomped, same, List.nil_append, Option.toList_none] at block
    exact ⟨_, block⟩
  · obtain ⟨body, last, taken⟩ := exists_lines none unbroken
    have linesPrintable : Printable lines := fun d mem => printable d (by simp [split, mem])
    obtain ⟨gap, line', gapped, same, width⟩ := readBlock?_start positive printable split all none
      unbroken ((if last = [] then ['\n'] else []) ++ (indentation count ++ follow)) (line + 1)
    have room : lines.length < (indented (base + 1) false lines
        ++ ((if last = [] then ['\n'] else []) ++ (indentation count ++ follow))).length + 1 := by
      have length := length_le_indented (base + 1) false lines
      rw [List.length_append]
      omega
    obtain ⟨reached, number, done, read⟩ := readLines?_eq taken linesPrintable
      (Nat.lt_succ_of_le shallow) start ⟨[], Option.none, gap.breaks.reverse, false⟩ line' _ room
    have block := @readBlock?_eq base line column _ _ (chompingOf last) _ _ _ _ _ gapped width read
    have header := taken.literalHeader breaks
    have ended := taken.lineEnd breaks
    rw [← split] at header ended
    rw [header, ended]
    simp only [List.cons_append, List.append_assoc] at block ⊢
    rw [done.chomped, same, ← taken.eq_append] at block
    refine ⟨number, ?_⟩
    rw [block]
    simp [split]

end ColumnCast.Yaml
