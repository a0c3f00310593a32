import ColumnCast.Format
import ColumnCast.Proofs.Regex.Denotation
import ColumnCast.Proofs.Text

/-!
# `ColumnCast.Proofs.Regex.Pattern`: what a written expression matches

The reader of expressions is a machine with a stack of open groups. This
file runs it over a text without knowing what stands around the text:
`Reads follow text parts` says that in a group without flags the text
leaves `parts` behind those that were read before, whatever groups are
open and whatever comes next, as long as `follow` holds of it. What comes
next matters only behind a repetition, which a question mark would make
reluctant.

`Pattern text L` adds the language that the parts denote. Texts are put
together as languages are: `Pattern.append`, `Pattern.group`,
`Atom.optional`, `Atom.repeated`, `Atom.exactly`, from characters
(`Pattern.escaped`) and classes (`Atom.classText`). Between anchors a
text is an expression of its own (`Reads.ofChars?_anchored`).
`Format.covers_of_pattern` is what it is for: a format recognizes the
cells in the language of its pattern, as a whole.
-/

set_option autoImplicit false

namespace ColumnCast.Regex

/-! ### One round of the machine -/

section Rounds

variable {group : OpenGroup} {outer : List OpenGroup} {names : List (List Char)}

theorem readAll?_open (plain : group.flags = {}) (rounds : Nat) {text : List Char}
    (body : text.head? ≠ some '?') :
    readAll? group outer names (rounds + 1) ('(' :: text)
      = readAll? ⟨{}, [], []⟩ (group :: outer) names rounds text := by
  have opening : readOpening? {} names text = some (.group {} none, text) := by
    unfold readOpening?
    simp only [Flags.skip, Bool.false_eq_true, if_false]
    cases text with
    | nil => rfl
    | cons c rest =>
        split
        case h_4 => rfl
        all_goals
          rename_i eq
          rw [eq] at body
          exact absurd rfl body
  rw [readAll?, plain]
  simp only [Flags.skip, Bool.false_eq_true, if_false, opening]
  rfl

theorem readAll?_close (plain : group.flags = {}) (parent : OpenGroup) (rounds : Nat)
    (rest : List Char) :
    readAll? group (parent :: outer) names (rounds + 1) (')' :: rest)
      = readAll? (parent.addGroup group) outer names rounds rest := by
  rw [readAll?, plain]
  rfl

theorem readAll?_bar (plain : group.flags = {}) (rounds : Nat) (rest : List Char) :
    readAll? group outer names (rounds + 1) ('|' :: rest)
      = readAll? { group with branches := group.branch :: group.branches, parts := [] } outer
          names rounds rest := by
  rw [readAll?, plain]
  rfl

/-- The characters at which a round does something else than read a part. -/
def isOperator (c : Char) : Bool := "()|?*+\x7b".toList.contains c

theorem readAll?_part (plain : group.flags = {}) (rounds : Nat) {c : Char}
    {rest behind : List Char} {part : Nested} (ordinary : isOperator c = false)
    (read : readPart? {} c rest = some (part, behind)) :
    readAll? group outer names (rounds + 1) (c :: rest)
      = readAll? (group.add part) outer names rounds behind := by
  rw [readAll?, plain]
  simp only [Flags.skip, Bool.false_eq_true, if_false]
  split
  case h_9 text eq =>
      obtain ⟨rfl, rfl⟩ := List.cons.inj eq
      rw [read]
  case h_1 eq => exact absurd eq (by simp)
  all_goals
    rename_i eq
    rw [(List.cons.inj eq).1] at ordinary
    exact absurd ordinary (by decide)

theorem skipReluctant_eq {text : List Char} (follow : text.head? ≠ some '?') :
    skipReluctant text = text := by
  unfold skipReluctant
  split
  · exact absurd rfl follow
  · rfl

theorem repeatLast?_add (group : OpenGroup) (part : Nested) (least : Nat) (most : Option Nat) :
    (group.add part).repeatLast? least most
      = some (group.add ⟨.rep part.regex least most, part.depth + 1⟩) := rfl

theorem readAll?_optional (plain : group.flags = {}) (part : Nested) (rounds : Nat)
    {rest : List Char} (follow : rest.head? ≠ some '?') :
    readAll? (group.add part) outer names (rounds + 1) ('?' :: rest)
      = readAll? (group.add ⟨.rep part.regex 0 (some 1), part.depth + 1⟩) outer names rounds
          rest := by
  have flags : (group.add part).flags = {} := plain
  rw [readAll?, flags]
  simp only [Flags.skip, Bool.false_eq_true, if_false, repeatLast?_add, skipReluctant_eq follow]
  rfl

theorem readAll?_repeated (plain : group.flags = {}) (part : Nested) (rounds : Nat)
    {rest : List Char} (follow : rest.head? ≠ some '?') :
    readAll? (group.add part) outer names (rounds + 1) ('+' :: rest)
      = readAll? (group.add ⟨.rep part.regex 1 none, part.depth + 1⟩) outer names rounds rest := by
  have flags : (group.add part).flags = {} := plain
  rw [readAll?, flags]
  simp only [Flags.skip, Bool.false_eq_true, if_false, repeatLast?_add, skipReluctant_eq follow]
  rfl

/-- A count of one digit. -/
theorem readBounds?_digit {digit : Char} (isDigit : digit.isDigit = true) (rest : List Char) :
    readBounds? {} (digit :: '\x7d' :: rest)
      = some ((digit.toNat - 48, some (digit.toNat - 48)), rest) := by
  have bounds := Text.isDigit_iff.mp isDigit
  have small : ¬ digit.toNat - 48 ≥ 4294967296 := by omega
  have digits : readCount.digits {} [] (rest.length + 1 + 1) (digit :: '\x7d' :: rest)
      = ([digit], '\x7d' :: rest) := by
    simp only [readCount.digits, isDigit, if_true]
    rfl
  have value := Text.digitsValue_singleton digit
  have count : readCount {} (digit :: '\x7d' :: rest)
      = (some (digit.toNat - 48), '\x7d' :: rest) := by
    unfold readCount
    rw [List.dropWhile_cons_of_neg (by simp [Text.isBlank_of_isDigit isDigit])]
    simp only [List.length_cons, digits, value, small]
    rfl
  unfold readBounds?
  simp only [Flags.skip, Bool.false_eq_true, if_false, count]
  rfl

theorem readAll?_counted (plain : group.flags = {}) (part : Nested) (rounds : Nat)
    {digit : Char} (isDigit : digit.isDigit = true) {rest : List Char}
    (follow : rest.head? ≠ some '?') :
    readAll? (group.add part) outer names (rounds + 1) ('\x7b' :: digit :: '\x7d' :: rest)
      = readAll? (group.add ⟨.rep part.regex (digit.toNat - 48) (some (digit.toNat - 48)),
          part.depth + 1⟩) outer names rounds rest := by
  have flags : (group.add part).flags = {} := plain
  have greedy : skipReluctantApart {} rest = rest := skipReluctant_eq follow
  rw [readAll?, flags]
  simp only [Flags.skip, Bool.false_eq_true, if_false, readBounds?_digit isDigit]
  simp [repeatLast?_add, greedy]

end Rounds

/-! ### Texts -/

/-- The group with the parts behind those it has. -/
def OpenGroup.extend (group : OpenGroup) (parts : List Nested) : OpenGroup :=
  parts.foldl OpenGroup.add group

theorem OpenGroup.extend_flags (group : OpenGroup) (parts : List Nested) :
    (group.extend parts).flags = group.flags := by
  induction parts generalizing group with
  | nil => rfl
  | cons part parts ih => exact ih (group.add part)

theorem OpenGroup.extend_branches (group : OpenGroup) (parts : List Nested) :
    (group.extend parts).branches = group.branches := by
  induction parts generalizing group with
  | nil => rfl
  | cons part parts ih => exact ih (group.add part)

theorem OpenGroup.extend_parts (group : OpenGroup) (parts : List Nested) :
    (group.extend parts).parts = (parts.map Piece.regex).reverse ++ group.parts := by
  induction parts generalizing group with
  | nil => rfl
  | cons part parts ih =>
      have tail := ih (group.add part)
      rw [List.map_cons, List.reverse_cons, List.append_assoc]
      exact tail

/-- In a group without flags the text is read as the parts, if what comes next is as `follow`
says. -/
def Reads (follow : List Char → Prop) (text : List Char) (parts : List Nested) : Prop :=
  text.head? ≠ some '?' ∧ ∃ used ≤ text.length,
    ∀ (group : OpenGroup) (outer : List OpenGroup) (names : List (List Char)) (rounds : Nat)
      (rest : List Char), group.flags = {} → follow rest →
      readAll? group outer names (rounds + used) (text ++ rest)
        = readAll? (group.extend parts) outer names rounds rest

/-- Anything may come next. -/
def Anything (_ : List Char) : Prop := True

/-- What comes next is no question mark. -/
def NoMark (rest : List Char) : Prop := rest.head? ≠ some '?'

namespace Reads

theorem weaken {text : List Char} {parts : List Nested} (h : Reads Anything text parts) :
    Reads NoMark text parts := by
  obtain ⟨start, used, le, read⟩ := h
  exact ⟨start, used, le, fun group outer names rounds rest plain _ =>
    read group outer names rounds rest plain trivial⟩

theorem nil : Reads NoMark [] [] :=
  ⟨by simp, 0, Nat.le_refl 0, fun _ _ _ _ _ _ _ => rfl⟩

theorem noMark_append {text rest : List Char} (start : text.head? ≠ some '?')
    (follow : NoMark rest) : NoMark (text ++ rest) := by
  cases text with
  | nil => exact follow
  | cons c text => exact start

theorem append {s t : List Char} {ps qs : List Nested} (first : Reads NoMark s ps)
    (second : Reads NoMark t qs) : Reads NoMark (s ++ t) (ps ++ qs) := by
  obtain ⟨start, used, le, read⟩ := first
  obtain ⟨start', used', le', read'⟩ := second
  refine ⟨noMark_append start start', used' + used, ?_, ?_⟩
  · rw [List.length_append]
    omega
  · intro group outer names rounds rest plain follow
    have flags : (group.extend ps).flags = {} := by rw [group.extend_flags, plain]
    rw [List.append_assoc, ← Nat.add_assoc,
      read group outer names (rounds + used') (t ++ rest) plain (noMark_append start' follow),
      read' (group.extend ps) outer names rounds rest flags follow]
    unfold OpenGroup.extend
    rw [List.foldl_append]

/-- A text that one round reads as a part. -/
theorem ofPart {c : Char} {text : List Char} {part : Nested} (ordinary : isOperator c = false)
    (read : ∀ rest, readPart? {} c (text ++ rest) = some (part, rest)) :
    Reads Anything (c :: text) [part] := by
  refine ⟨?_, 1, ?_, ?_⟩
  · intro mark
    obtain rfl : c = '?' := by simpa using mark
    exact absurd ordinary (by decide)
  · rw [List.length_cons]
    omega
  · intro group outer names rounds rest plain _
    exact readAll?_part plain rounds ordinary (read rest)

/-- A part with what stands behind it to repeat it. -/
theorem rep {text mark : List Char} {part : Nested} {least : Nat} {most : Option Nat}
    (inhabited : text ≠ []) (marked : mark ≠ []) (h : Reads Anything text [part])
    (step : ∀ (group : OpenGroup) (outer : List OpenGroup) (names : List (List Char))
      (rounds : Nat) (rest : List Char), group.flags = {} → NoMark rest →
      readAll? (group.add part) outer names (rounds + 1) (mark ++ rest)
        = readAll? (group.add ⟨.rep part.regex least most, part.depth + 1⟩) outer names rounds
            rest) :
    Reads NoMark (text ++ mark) [⟨.rep part.regex least most, part.depth + 1⟩] := by
  obtain ⟨start, used, le, read⟩ := h
  have positive := List.length_pos_iff.mpr marked
  refine ⟨?_, used + 1, ?_, ?_⟩
  · rwa [List.head?_append_of_ne_nil _ inhabited]
  · rw [List.length_append]
    omega
  · intro group outer names rounds rest plain follow
    rw [List.append_assoc, ← Nat.add_assoc, Nat.add_right_comm,
      read group outer names (rounds + 1) (mark ++ rest) plain trivial]
    exact step group outer names rounds rest plain follow

theorem optional {text : List Char} {part : Nested} (inhabited : text ≠ [])
    (h : Reads Anything text [part]) :
    Reads NoMark (text ++ ['?']) [⟨.rep part.regex 0 (some 1), part.depth + 1⟩] :=
  h.rep inhabited (List.cons_ne_nil _ _) fun _ _ _ rounds _ plain follow =>
    readAll?_optional plain part rounds follow

theorem repeated {text : List Char} {part : Nested} (inhabited : text ≠ [])
    (h : Reads Anything text [part]) :
    Reads NoMark (text ++ ['+']) [⟨.rep part.regex 1 none, part.depth + 1⟩] :=
  h.rep inhabited (List.cons_ne_nil _ _) fun _ _ _ rounds _ plain follow =>
    readAll?_repeated plain part rounds follow

theorem exactly {text : List Char} {part : Nested} (inhabited : text ≠ [])
    (h : Reads Anything text [part]) {digit : Char} (isDigit : digit.isDigit = true) :
    Reads NoMark (text ++ ['\x7b', digit, '\x7d'])
      [⟨.rep part.regex (digit.toNat - 48) (some (digit.toNat - 48)), part.depth + 1⟩] :=
  h.rep inhabited (List.cons_ne_nil _ _) fun _ _ _ rounds _ plain follow =>
    readAll?_counted plain part rounds isDigit follow

/-- What a group holds whose branches have these parts. -/
def grouped (branches : List (List Nested)) : Nested :=
  let inner := Nested.join alts (branches.map (Nested.join seqs))
  ⟨inner.regex, inner.depth + 1⟩

theorem branch_extend (branches : List Nested) (parts : List Nested) :
    ((⟨{}, branches, []⟩ : OpenGroup).extend parts).branch = Nested.join seqs parts := by
  unfold OpenGroup.branch
  rw [OpenGroup.extend_parts, List.append_nil, List.reverse_reverse, List.map_map]
  exact congrArg _ (List.map_id parts)

/-- The branches of an open group up to its closing mark. -/
theorem branches {first : List Char × List Nested} {more : List (List Char × List Nested)}
    (read : ∀ a ∈ first :: more, Reads NoMark a.1 a.2) :
    ∃ used ≤ (['|'].intercalate ((first :: more).map Prod.fst)).length,
      ∀ (done : List Nested) (parent : OpenGroup) (outer : List OpenGroup)
        (names : List (List Char)) (rounds : Nat) (rest : List Char),
        readAll? ⟨{}, done, []⟩ (parent :: outer) names (rounds + used + 1)
            (['|'].intercalate ((first :: more).map Prod.fst) ++ ')' :: rest)
          = readAll? (parent.add
              ⟨(Nested.join alts (done.reverse
                  ++ (first :: more).map fun a => Nested.join seqs a.2)).regex,
                (Nested.join alts (done.reverse
                  ++ (first :: more).map fun a => Nested.join seqs a.2)).depth + 1⟩)
              outer names rounds rest := by
  -- A bar puts a branch aside, and the mark closes the last one: `done` are those put aside.
  induction more generalizing first with
  | nil =>
      obtain ⟨start, used, le, read⟩ := read first List.mem_cons_self
      refine ⟨used, by simpa using le, fun done parent outer names rounds rest => ?_⟩
      have step := read ⟨{}, done, []⟩ (parent :: outer) names (rounds + 1) (')' :: rest) rfl
        (by simp [NoMark])
      rw [Nat.add_right_comm]
      simp only [List.map_cons, List.map_nil, List.intercalate_singleton]
      rw [step, readAll?_close (by rw [OpenGroup.extend_flags])]
      unfold OpenGroup.addGroup OpenGroup.close
      rw [branch_extend, OpenGroup.extend_branches, List.reverse_cons]
  | cons second more ih =>
      obtain ⟨start, used, le, readFirst⟩ := read first List.mem_cons_self
      obtain ⟨used', le', readMore⟩ := ih fun a mem => read a (List.mem_cons_of_mem _ mem)
      refine ⟨used' + 1 + used, ?_, fun done parent outer names rounds rest => ?_⟩
      · rw [List.map_cons, List.map_cons, List.intercalate_cons_cons]
        simp only [List.length_append, List.length_cons, List.map_cons] at le' ⊢
        simp only [List.length_nil]
        omega
      · have step := readFirst ⟨{}, done, []⟩ (parent :: outer) names (rounds + used' + 1 + 1)
          ('|' :: (['|'].intercalate ((second :: more).map Prod.fst) ++ ')' :: rest)) rfl
          (by simp [NoMark])
        rw [List.map_cons, List.map_cons, List.intercalate_cons_cons, List.append_assoc,
          List.append_assoc]
        have rounds_eq : rounds + (used' + 1 + used) + 1 = rounds + used' + 1 + 1 + used := by
          omega
        rw [rounds_eq]
        refine step.trans ?_
        rw [readAll?_bar (by rw [OpenGroup.extend_flags]), branch_extend,
          OpenGroup.extend_branches, OpenGroup.extend_flags]
        rw [readMore (Nested.join seqs first.2 :: done) parent outer names rounds rest,
          List.reverse_cons, List.append_assoc]
        rfl

theorem head?_intercalate {first : List Char} {more : List (List Char)}
    (start : first.head? ≠ some '?') : (['|'].intercalate (first :: more)).head? ≠ some '?' := by
  cases more with
  | nil => rwa [List.intercalate_singleton]
  | cons second more =>
      rw [List.intercalate_cons_cons, List.append_assoc]
      exact noMark_append start (by simp [NoMark])

theorem group {first : List Char × List Nested} {more : List (List Char × List Nested)}
    (read : ∀ a ∈ first :: more, Reads NoMark a.1 a.2) :
    Reads Anything ('(' :: (['|'].intercalate ((first :: more).map Prod.fst) ++ [')']))
      [grouped ((first :: more).map Prod.snd)] := by
  obtain ⟨used, le, readBranches⟩ := branches read
  refine ⟨by simp, used + 1 + 1, ?_, fun group outer names rounds rest plain _ => ?_⟩
  · rw [List.length_cons, List.length_append]
    simp only [List.length_cons, List.length_nil]
    omega
  · have body : (['|'].intercalate ((first :: more).map Prod.fst) ++ ([')'] ++ rest)).head?
        ≠ some '?' :=
      noMark_append (head?_intercalate (read first List.mem_cons_self).1) (by simp [NoMark])
    rw [List.cons_append, List.append_assoc, ← Nat.add_assoc,
      readAll?_open plain (rounds + (used + 1)) body, ← Nat.add_assoc]
    refine (readBranches [] group outer names rounds rest).trans ?_
    unfold grouped
    rw [List.map_map]
    rfl

end Reads

/-! ### Parts -/

/-- A character that means nothing special stands for itself. -/
theorem reads_plain {c : Char} (plain : Sql.isMetacharacter c = false) :
    Reads Anything [c] [⟨one (.single c), 0⟩] := by
  have differs : ∀ d ∈ "\\.^$|?*+()[]\x7b\x7d".toList, c ≠ d := by
    rintro d mem rfl
    rw [Sql.isMetacharacter, List.contains_iff_mem.mpr mem] at plain
    exact absurd plain (by simp)
  refine Reads.ofPart ?_ fun rest => ?_
  · rw [isOperator, ← Bool.not_eq_true, List.contains_iff_mem]
    intro mem
    exact differs c (by revert mem; simp; tauto) rfl
  · unfold readPart?
    split
    case h_6 => rfl
    all_goals exact absurd rfl (differs _ (by decide))

/-- A metacharacter behind a backslash stands for itself. -/
theorem reads_escaped {c : Char} (special : Sql.isMetacharacter c = true) :
    Reads Anything ['\\', c] [⟨one (.single c), 0⟩] := by
  refine Reads.ofPart (by decide) fun rest => ?_
  have mem : c ∈ "\\.^$|?*+()[]\x7b\x7d".toList := List.contains_iff_mem.mp special
  simp only [String.reduceToList, List.mem_cons, List.not_mem_nil, or_false] at mem
  rcases mem with rfl | rfl | rfl | rfl | rfl | rfl | rfl | rfl | rfl | rfl | rfl | rfl | rfl | rfl
  all_goals rfl

/-- The parts of a text that stands for itself, one for each character. -/
def literals (text : List Char) : List Nested := text.map fun c => ⟨one (.single c), 0⟩

/-- **Escaping leaves nothing that means something else**: with a backslash before each of its
metacharacters a text is read as its own characters. -/
theorem reads_escapedText (text : List Char) :
    Reads NoMark (Sql.escaped text) (literals text) := by
  induction text with
  | nil => exact Reads.nil
  | cons c text ih =>
      have first : Reads NoMark (if Sql.isMetacharacter c then ['\\', c] else [c])
          [⟨one (.single c), 0⟩] := by
        split
        · rename_i special
          exact (reads_escaped special).weaken
        · rename_i plain
          exact (reads_plain (by simpa using plain)).weaken
      exact first.append ih

/-- Put together, parts are nested one deeper than the deepest of them. -/
theorem Nested.depth_join_le {combine : List Regex → Regex} {parts : List Nested} {most : Nat}
    (h : ∀ part ∈ parts, part.depth ≤ most) : (Nested.join combine parts).depth ≤ most + 1 := by
  have deepest : ∀ {parts : List Nested} {start : Nat}, start ≤ most →
      (∀ part ∈ parts, part.depth ≤ most) → (parts.map Nested.depth).foldl max start ≤ most := by
    intro parts
    induction parts with
    | nil => exact fun le _ => le
    | cons part parts ih =>
        intro start le h
        refine ih (Nat.max_le.mpr ⟨le, h part List.mem_cons_self⟩) fun other mem => ?_
        exact h other (List.mem_cons_of_mem _ mem)
  have le := deepest (Nat.zero_le most) h
  show (if parts.length ≤ 1 then _ else _) ≤ most + 1
  split
  · exact Nat.le_succ_of_le le
  · exact Nat.succ_le_succ le

/-- A text between anchors is read as its parts between the two tests. -/
theorem Reads.ofChars?_anchored {text : List Char} {parts : List Nested}
    (h : Reads NoMark text parts) :
    ofChars? ('^' :: (text ++ ['$']))
      = some (Nested.join seqs (⟨look .textStart, 0⟩ :: (parts ++ [⟨look .textEnd, 0⟩]))) := by
  have first : Reads NoMark ['^'] [⟨look .textStart, 0⟩] :=
    (Reads.ofPart (by decide) fun rest => rfl).weaken
  have last : Reads NoMark ['$'] [⟨look .textEnd, 0⟩] :=
    (Reads.ofPart (by decide) fun rest => rfl).weaken
  obtain ⟨-, used, le, read⟩ := first.append (h.append last)
  have start := read ⟨{}, [], []⟩ [] []
    ((['^'] ++ (text ++ ['$'])).length - used + 1) [] rfl (by simp [NoMark])
  -- The reader is given a round for each character and one for the end.
  have fuel : (['^'] ++ (text ++ ['$'])).length - used + 1 + used
      = (['^'] ++ (text ++ ['$'])).length.succ := by omega
  rw [fuel, List.append_nil] at start
  refine (start.trans (readAll?_end (by rw [OpenGroup.extend_flags]))).trans ?_
  unfold OpenGroup.close
  rw [Reads.branch_extend, OpenGroup.extend_branches]
  simp [Nested.join, alts]

/-! ### Classes -/

/-- A range of letters or digits as it stands in a class; a single one stands alone. -/
def rangeText (range : Char × Char) : List Char :=
  if range.1 = range.2 then [range.1] else [range.1, '-', range.2]

/-- A class of ranges. -/
def classText (ranges : List (Char × Char)) : List Char :=
  '[' :: (ranges.flatMap rangeText ++ [']'])

/-- Ranges of ASCII letters and digits, each with its ends in order. -/
def AreRanges (ranges : List (Char × Char)) : Prop :=
  ∀ range ∈ ranges, range.1.isAlphanum = true ∧ range.2.isAlphanum = true ∧ range.1 ≤ range.2

instance (ranges : List (Char × Char)) : Decidable (AreRanges ranges) :=
  inferInstanceAs (Decidable (∀ range ∈ ranges, _))

/-- Ranges that make a class. -/
def IsClass (ranges : List (Char × Char)) : Prop := ranges ≠ [] ∧ AreRanges ranges

instance (ranges : List (Char × Char)) : Decidable (IsClass ranges) :=
  inferInstanceAs (Decidable (_ ∧ _))

theorem isAlphanum_ne {c d : Char} (letter : c.isAlphanum = true) (other : d.isAlphanum = false) :
    c ≠ d := by
  rintro rfl
  rw [letter] at other
  exact absurd other (by simp)

/-- A letter or digit in a class stands for itself. -/
theorem readClassItem?_alphanum {c : Char} (letter : c.isAlphanum = true) (text : List Char) :
    readClassItem? {} (c :: text) = some (.char c false, text) := by
  unfold readClassItem?
  split
  case h_1 eq => exact absurd eq (by simp)
  case h_2 eq => exact absurd (List.cons.inj eq).1 (isAlphanum_ne letter (by decide))
  case h_3 eq =>
    obtain ⟨rfl, rfl⟩ := List.cons.inj eq
    rfl

/-- One range is read at a time; what follows it is another or the end of the class. -/
theorem readClassRange?_range {range : Char × Char} (low : range.1.isAlphanum = true)
    (high : range.2.isAlphanum = true) (ordered : range.1 ≤ range.2) {rest : List Char}
    (follow : rest ≠ [] ∧ rest.head? ≠ some '-') :
    readClassRange? {} (rangeText range ++ rest) = some (.range range.1 range.2, rest) := by
  obtain ⟨a, b⟩ := range
  simp only at low high ordered
  cases rest with
  | nil => exact absurd rfl follow.1
  | cons d rest =>
      have notHyphen : d ≠ '-' := by simpa using follow.2
      by_cases same : a = b
      · subst same
        rw [rangeText, if_pos rfl]
        unfold readClassRange?
        simp only [List.cons_append, List.nil_append, readClassItem?_alphanum low,
          Option.bind_eq_bind, Option.bind_some, Flags.skip, Bool.false_eq_true, if_false]
        split
        case h_1 eq => exact absurd eq (by simp)
        case h_2 eq => exact absurd (List.cons.inj eq).1 notHyphen
        case h_3 => rfl
      · rw [rangeText, if_neg same]
        have notBracket := isAlphanum_ne high (by decide : (']').isAlphanum = false)
        have notDash := isAlphanum_ne high (by decide : ('-').isAlphanum = false)
        unfold readClassRange?
        simp only [List.cons_append, List.nil_append, readClassItem?_alphanum low,
          readClassItem?_alphanum high, Option.bind_eq_bind, Option.bind_some, Flags.skip,
          Bool.false_eq_true, if_false, notBracket, notDash, or_self, itemChar?, Bool.true_or,
          if_true, ordered]
        rfl

theorem rangeText_cons (range : Char × Char) : ∃ more, rangeText range = range.1 :: more := by
  unfold rangeText
  split
  · exact ⟨_, rfl⟩
  · exact ⟨_, rfl⟩

/-- The set of a class. -/
def rangeSet (ranges : List (Char × Char)) (members : List CharSet) : CharSet :=
  .unions ((ranges.map fun range => CharSet.range range.1 range.2).reverse ++ members)

/-- What follows a range neither ends the text nor begins with a hyphen. -/
theorem follow_ranges {ranges : List (Char × Char)} (valid : AreRanges ranges)
    (rest : List Char) :
    ranges.flatMap rangeText ++ ']' :: rest ≠ []
      ∧ (ranges.flatMap rangeText ++ ']' :: rest).head? ≠ some '-' := by
  refine ⟨by simp, ?_⟩
  cases ranges with
  | nil => simp
  | cons range ranges =>
      obtain ⟨more, eq⟩ := rangeText_cons range
      have letter := (valid range List.mem_cons_self).1
      have notHyphen := isAlphanum_ne letter (by decide : ('-').isAlphanum = false)
      simpa [eq] using notHyphen

theorem readClass?_ranges {ranges : List (Char × Char)} (valid : AreRanges ranges)
    (members : List CharSet) (rounds : Nat) (rest : List Char) :
    readClass? {} ⟨false, members, none⟩ [] (rounds + ranges.length + 1)
        (ranges.flatMap rangeText ++ ']' :: rest)
      = some (rangeSet ranges members, rest) := by
  induction ranges generalizing members with
  | nil => rfl
  | cons range ranges ih =>
      obtain ⟨low, high, ordered⟩ := valid range List.mem_cons_self
      have validMore : AreRanges ranges := fun r mem => valid r (List.mem_cons_of_mem _ mem)
      have read := readClassRange?_range low high ordered (follow_ranges validMore rest)
      obtain ⟨more, eq⟩ := rangeText_cons range
      rw [List.flatMap_cons, List.append_assoc, List.length_cons, ← Nat.add_assoc, readClass?]
      simp only [Flags.skip, Bool.false_eq_true, if_false]
      rw [eq] at read ⊢
      -- The marks that mean something in a class are neither letters nor digits: this is `h_7`.
      split
      case h_1 found => exact absurd found (by simp)
      case h_7 =>
        rw [read]
        refine (ih validMore (.range range.1 range.2 :: members)).trans ?_
        rw [rangeSet, rangeSet, List.map_cons, List.reverse_cons, List.append_assoc]
        rfl
      all_goals
        rename_i found
        exact absurd (List.cons.inj found).1 (isAlphanum_ne low (by decide))

theorem openClass?_letter {c : Char} (letter : c.isAlphanum = true) (text : List Char) :
    openClass? {} (c :: text) = some (⟨false, [], none⟩, c :: text) := by
  have notCaret := isAlphanum_ne letter (by decide : ('^').isAlphanum = false)
  have notHyphen := isAlphanum_ne letter (by decide : ('-').isAlphanum = false)
  have notBracket := isAlphanum_ne letter (by decide : (']').isAlphanum = false)
  simp [openClass?, openMembers?, Flags.skip, leadingHyphens, notCaret, notHyphen, notBracket]

theorem length_le_flatMap (ranges : List (Char × Char)) :
    ranges.length ≤ (ranges.flatMap rangeText).length := by
  induction ranges with
  | nil => exact Nat.le_refl 0
  | cons range ranges ih =>
      obtain ⟨more, eq⟩ := rangeText_cons range
      rw [List.flatMap_cons, List.length_append, eq, List.length_cons, List.length_cons]
      omega

theorem reads_classText {range : Char × Char} {ranges : List (Char × Char)}
    (valid : AreRanges (range :: ranges)) :
    Reads Anything (classText (range :: ranges)) [⟨one (rangeSet (range :: ranges) []), 2⟩] := by
  refine Reads.ofPart (by decide) fun rest => ?_
  obtain ⟨more, eq⟩ := rangeText_cons range
  have letter := (valid range List.mem_cons_self).1
  have opened : openClass? {} ((range :: ranges).flatMap rangeText ++ ']' :: rest)
      = some (⟨false, [], none⟩, (range :: ranges).flatMap rangeText ++ ']' :: rest) := by
    rw [List.flatMap_cons, eq]
    exact openClass?_letter letter _
  have enough := length_le_flatMap (range :: ranges)
  obtain ⟨rounds, fuel⟩ : ∃ rounds,
      ((range :: ranges).flatMap rangeText ++ ']' :: rest).length.succ
        = rounds + (range :: ranges).length + 1 := by
    refine ⟨((range :: ranges).flatMap rangeText ++ ']' :: rest).length
      - (range :: ranges).length, ?_⟩
    rw [List.length_append]
    omega
  rw [List.append_assoc, List.singleton_append, readPart?]
  simp only [opened, Option.bind_eq_bind, Option.bind_some, fuel,
    readClass?_ranges valid [] rounds rest]
  rfl

/-! ### Languages -/

/-- The text is read as one part, whatever comes next, and matches the words of the language. -/
def Atom (text : List Char) (L : Language Char) : Prop :=
  text ≠ [] ∧ ∃ part, Reads Anything text [part] ∧ Denotes part.regex L

/-- The text is read as parts that match the words of the language. -/
def Pattern (text : List Char) (L : Language Char) : Prop :=
  ∃ parts, Reads NoMark text parts ∧ Denotes (seqs (parts.map Nested.regex)) L

namespace CharSet

theorem contains_unions {sets : List CharSet} {x : Char} :
    (unions sets).contains x = true ↔ ∃ set ∈ sets, set.contains x = true := by
  induction sets with
  | nil => simp [unions, contains]
  | cons set sets ih =>
      show (set.contains x || (unions sets).contains x) = true ↔ _
      rw [Bool.or_eq_true, ih]
      simp

theorem language_single (c : Char) : (single c).language = {[c]} := by
  ext word
  rw [mem_language]
  constructor
  · rintro ⟨x, contains, rfl⟩
    obtain ⟨low, high⟩ := contains_range.mp contains
    obtain rfl : x = c := Char.le_antisymm high low
    rfl
  · rintro rfl
    exact ⟨c, contains_range.mpr ⟨Char.le_refl c, Char.le_refl c⟩, rfl⟩

end CharSet

/-- The words of one character that one of the ranges holds. -/
def within (ranges : List (Char × Char)) : Language Char :=
  {word | ∃ c, word = [c] ∧ ∃ range ∈ ranges, range.1 ≤ c ∧ c ≤ range.2}

theorem language_rangeSet (ranges : List (Char × Char)) :
    (rangeSet ranges []).language = within ranges := by
  ext word
  rw [CharSet.mem_language]
  show _ ↔ ∃ c, word = [c] ∧ ∃ range ∈ ranges, range.1 ≤ c ∧ c ≤ range.2
  refine exists_congr fun c => ?_
  rw [and_comm, rangeSet, List.append_nil, CharSet.contains_unions]
  simp [CharSet.contains_range]

/-- The characters of a text in a row denote the text. -/
theorem denotes_literals (text : List Char) :
    Denotes (seqs ((literals text).map Nested.regex)) {text} := by
  induction text with
  | nil => exact denotes_empty
  | cons c text ih =>
      have first : Denotes (seqs [one (.single c)]) {[c]} := by
        rw [← CharSet.language_single]
        exact denotes_one _
      have whole : ({[c]} * {text} : Language Char) = {c :: text} := Set.image2_singleton
      rw [← whole]
      exact first.append ih

namespace Atom

theorem pattern {text : List Char} {L : Language Char} (h : Atom text L) : Pattern text L := by
  obtain ⟨-, part, reads, denotes⟩ := h
  exact ⟨[part], reads.weaken, denotes⟩

theorem optional {text : List Char} {L : Language Char} (h : Atom text L) :
    Pattern (text ++ ['?']) (1 + L) := by
  obtain ⟨inhabited, part, reads, denotes⟩ := h
  exact ⟨_, reads.optional inhabited, denotes.optional⟩

theorem repeated {text : List Char} {L : Language Char} (h : Atom text L) :
    Pattern (text ++ ['+']) (L * KStar.kstar L) := by
  obtain ⟨inhabited, part, reads, denotes⟩ := h
  exact ⟨_, reads.repeated inhabited, denotes.repeated⟩

theorem exactly {text : List Char} {L : Language Char} (h : Atom text L) {digit : Char}
    (isDigit : digit.isDigit = true) :
    Pattern (text ++ ['\x7b', digit, '\x7d']) (L ^ (digit.toNat - 48)) := by
  obtain ⟨inhabited, part, reads, denotes⟩ := h
  exact ⟨_, reads.exactly inhabited isDigit, denotes.exactly _⟩

theorem plain {c : Char} (plain : Sql.isMetacharacter c = false) : Atom [c] {[c]} := by
  refine ⟨List.cons_ne_nil _ _, _, reads_plain plain, ?_⟩
  rw [← CharSet.language_single]
  exact denotes_one _

theorem classText {ranges : List (Char × Char)} (valid : IsClass ranges) :
    Atom (Regex.classText ranges) (within ranges) := by
  obtain ⟨range, more, rfl⟩ := List.exists_cons_of_ne_nil valid.1
  refine ⟨List.cons_ne_nil _ _, _, reads_classText valid.2, ?_⟩
  rw [← language_rangeSet]
  exact denotes_one _

/-- Patterns as the machine reads them, one for each branch of a group. -/
theorem exists_branches {patterns : List (List Char × Language Char)}
    (h : ∀ a ∈ patterns, Pattern a.1 a.2) :
    ∃ branches : List (List Char × List Nested),
      branches.map Prod.fst = patterns.map Prod.fst
        ∧ (∀ b ∈ branches, Reads NoMark b.1 b.2)
        ∧ List.Forall₂ Denotes (branches.map fun b => seqs (b.2.map Nested.regex))
          (patterns.map Prod.snd) := by
  induction patterns with
  | nil => exact ⟨[], rfl, fun b mem => absurd mem List.not_mem_nil, .nil⟩
  | cons a patterns ih =>
      obtain ⟨branches, texts, reads, denote⟩ := ih fun b mem => h b (List.mem_cons_of_mem _ mem)
      obtain ⟨parts, readsFirst, denotes⟩ := h a List.mem_cons_self
      refine ⟨(a.1, parts) :: branches, congrArg _ texts, fun b mem => ?_, .cons denotes denote⟩
      rcases List.mem_cons.mp mem with rfl | mem
      · exact readsFirst
      · exact reads b mem

/-- A group of alternatives. -/
theorem group {patterns : List (List Char × Language Char)} (inhabited : patterns ≠ [])
    (h : ∀ a ∈ patterns, Pattern a.1 a.2) :
    Atom ('(' :: (['|'].intercalate (patterns.map Prod.fst) ++ [')']))
      (patterns.map Prod.snd).sum := by
  refine ⟨List.cons_ne_nil _ _, ?_⟩
  obtain ⟨branches, texts, reads, denote⟩ := exists_branches h
  cases branches with
  | nil => exact absurd (List.map_eq_nil_iff.mp texts.symm) inhabited
  | cons branch branches =>
      rw [← texts]
      refine ⟨_, Reads.group reads, ?_⟩
      have regex : (Reads.grouped ((branch :: branches).map Prod.snd)).regex
          = alts ((branch :: branches).map fun b => seqs (b.2.map Nested.regex)) := by
        simp only [Reads.grouped, Nested.join, List.map_map]
        rfl
      rw [regex]
      exact Denotes.alts denote (by simp)

end Atom

namespace Pattern

theorem nil : Pattern [] 1 := ⟨[], Reads.nil, denotes_empty⟩

theorem append {s t : List Char} {L M : Language Char} (hs : Pattern s L) (ht : Pattern t M) :
    Pattern (s ++ t) (L * M) := by
  obtain ⟨ps, reads, denotes⟩ := hs
  obtain ⟨qs, reads', denotes'⟩ := ht
  refine ⟨ps ++ qs, reads.append reads', ?_⟩
  rw [List.map_append]
  exact denotes.append denotes'

theorem congr {text : List Char} {L M : Language Char} (h : Pattern text L)
    (same : ∀ word, word ∈ L ↔ word ∈ M) : Pattern text M :=
  (Set.ext same : L = M) ▸ h

/-- A text with its metacharacters escaped matches itself. -/
theorem escaped (text : List Char) : Pattern (Sql.escaped text) {text} :=
  ⟨literals text, reads_escapedText text, denotes_literals text⟩

/-- Between its anchors a pattern matches whole texts. -/
theorem anchored {text : List Char} {L : Language Char} (h : Pattern text L) :
    ∃ nested, ofChars? ('^' :: (text ++ ['$'])) = some nested
      ∧ ∀ cell : String, nested.regex.isMatch cell = true ↔ cell.toList ∈ L := by
  obtain ⟨parts, reads, denotes⟩ := h
  refine ⟨_, reads.ofChars?_anchored, fun cell => ?_⟩
  have regex : (Nested.join seqs (⟨look .textStart, 0⟩ :: (parts ++ [⟨look .textEnd, 0⟩]))).regex
      = seqs (look .textStart :: (parts.map Nested.regex ++ [look .textEnd])) := by
    simp [Nested.join]
  rw [regex]
  exact isMatch_anchored denotes cell

end Pattern

end ColumnCast.Regex

namespace ColumnCast.Format

/-- The cells of a format are the texts of a language. -/
def Covers (format : Format) (L : Language Char) : Prop :=
  ∀ cell : String, ∃ recognized : Bool,
    format.recognizes cell = .ok recognized ∧ (recognized = true ↔ cell.toList ∈ L)

/-- **A format recognizes whole cells**: those in the language of its pattern. -/
theorem covers_of_pattern {format : Format} {L : Language Char}
    (pattern : Regex.Pattern format.pattern.toList L) (built : format.recognizer.isOk = true) :
    format.Covers L := by
  intro cell
  obtain ⟨nested, read, matching⟩ := pattern.anchored
  have text : (Sql.anchor format.pattern).toList
      = '^' :: (format.pattern.toList ++ ['$']) := by simp [Sql.anchor]
  rw [recognizer_isOk] at built
  have recognizer : format.recognizer = .ok nested.regex := by
    unfold recognizer Regex.read?
    rw [text]
    unfold Regex.limitedOfChars? at built ⊢
    rw [read] at built ⊢
    cases small : nested.isWithinLimits with
    | false => simp [Option.filter, small] at built
    | true => simp [Option.filter, small]
  refine ⟨nested.regex.isMatch cell, ?_, matching cell⟩
  unfold recognizes
  rw [recognizer]
  rfl

namespace Covers

variable {format : Format} {L : Language Char}

theorem true_iff (h : format.Covers L) (cell : String) :
    format.recognizes cell = .ok true ↔ cell.toList ∈ L := by
  obtain ⟨recognized, eq, iff⟩ := h cell
  rw [eq, ← iff]
  simp

theorem false_iff (h : format.Covers L) (cell : String) :
    format.recognizes cell = .ok false ↔ cell.toList ∉ L := by
  obtain ⟨recognized, eq, iff⟩ := h cell
  rw [eq, ← iff]
  simp

end Covers

end ColumnCast.Format
