import ColumnCast.Proofs.Regex.Pattern
import ColumnCast.Select

/-!
# `ColumnCast.Proofs.Select`: options and choices

What a select column keeps of a cell it keeps a second time: the kept
choices hold no delimiter, so they are the parts of the joined text, and
every one of them is an option (`readMulti?_kept`). A cell is kept as a
whole if all its parts are options (`readMulti?_eq_self_iff`), so options
joined by the delimiter are kept together if none of them has it
(`readMulti?_chosen_iff`).

The regular expression of the options matches the options and nothing
else, whatever characters they are made of (`isMatch_optionPattern`). It
is read as a group with a branch for each option, `optionTree`, which is
nested no deeper for longer lists or texts; `optionPattern_decides` says
both.
-/

set_option autoImplicit false

namespace ColumnCast.Select

variable {options : List String} {cell kept : String}

theorem readSingle?_eq_some_iff :
    readSingle? options cell = some kept ↔ cell ∈ options ∧ kept = cell := by
  unfold readSingle?
  simp only [List.contains_iff_mem, Option.ite_none_right_eq_some, Option.some.injEq]
  exact and_congr_right fun _ => eq_comm

/-- What is kept of a delimited list: the choices, joined, if that is any text. -/
theorem readMulti?_eq_some_iff :
    readMulti? options cell = some kept ↔
      kept = String.ofList (Text.joinWith delimiter (choices options cell)) ∧ kept ≠ "" := by
  unfold readMulti?
  simp only [String.isEmpty_iff]
  split
  · rename_i empty
    simp only [reduceCtorEq, false_iff, not_and]
    rintro rfl
    simpa using empty
  · rename_i inhabited
    rw [Option.some.injEq]
    constructor
    · rintro rfl
      exact ⟨rfl, inhabited⟩
    · rintro ⟨rfl, -⟩
      rfl

theorem mem_choices_iff {part : List Char} : part ∈ choices options cell
    ↔ part ∈ Text.splitOn delimiter cell.toList ∧ String.ofList part ∈ options := by
  rw [choices, List.mem_filter, List.contains_iff_mem]

/-- The choices are the parts of their own joined text. -/
theorem splitOn_joinWith_choices (inhabited : choices options cell ≠ []) :
    Text.splitOn delimiter (Text.joinWith delimiter (choices options cell))
      = choices options cell := by
  refine Text.splitOn_joinWith ?_ inhabited
  intro part mem
  exact Text.not_mem_of_mem_splitOn (mem_choices_iff.mp mem).1

theorem choices_ne_nil
    (notEmpty : String.ofList (Text.joinWith delimiter (choices options cell)) ≠ "") :
    choices options cell ≠ [] := by
  intro nothing
  rw [nothing] at notEmpty
  exact notEmpty rfl

theorem choices_joinWith (inhabited : choices options cell ≠ []) :
    choices options (String.ofList (Text.joinWith delimiter (choices options cell)))
      = choices options cell := by
  rw [choices, String.toList_ofList, splitOn_joinWith_choices inhabited]
  refine List.filter_eq_self.mpr ?_
  intro part mem
  exact List.contains_iff_mem.mpr (mem_choices_iff.mp mem).2

/-- **The kept choices are kept again.** -/
theorem readMulti?_kept (h : readMulti? options cell = some kept) :
    readMulti? options kept = some kept := by
  obtain ⟨rfl, notEmpty⟩ := readMulti?_eq_some_iff.mp h
  rw [readMulti?_eq_some_iff, choices_joinWith (choices_ne_nil notEmpty)]
  exact ⟨rfl, notEmpty⟩

/-! ### Whole cells -/

/-- **A cell is kept as a whole** if it is any text and all its parts are options. -/
theorem readMulti?_eq_self_iff :
    readMulti? options cell = some cell ↔ cell ≠ ""
      ∧ ∀ part ∈ Text.splitOn delimiter cell.toList, String.ofList part ∈ options := by
  rw [readMulti?_eq_some_iff]
  constructor
  · rintro ⟨whole, notEmpty⟩
    have inhabited := choices_ne_nil (whole ▸ notEmpty)
    -- What is kept are the parts of the cell, for the cell is what is kept.
    have parts : Text.splitOn delimiter cell.toList = choices options cell := by
      have joined : cell.toList = Text.joinWith delimiter (choices options cell) := by
        simpa using congrArg String.toList whole
      rw [joined]
      exact splitOn_joinWith_choices inhabited
    refine ⟨notEmpty, ?_⟩
    intro part mem
    rw [parts] at mem
    exact (mem_choices_iff.mp mem).2
  · rintro ⟨notEmpty, valid⟩
    have parts : choices options cell = Text.splitOn delimiter cell.toList :=
      List.filter_eq_self.mpr fun part mem => List.contains_iff_mem.mpr (valid part mem)
    rw [parts, Text.joinWith_splitOn, String.ofList_toList]
    exact ⟨rfl, notEmpty⟩

section Chosen

variable {chosen : List String}

theorem toList_chosen (chosen : List String) :
    (",".intercalate chosen).toList = Text.joinWith delimiter (chosen.map String.toList) := by
  rw [String.toList_intercalate, Text.joinWith_eq]
  rfl

/-- The only choice that leaves no text is the empty option alone. -/
theorem intercalate_eq_empty_iff (inhabited : chosen ≠ []) :
    ",".intercalate chosen = "" ↔ chosen = [""] := by
  rw [← String.toList_eq_nil_iff, toList_chosen, Text.joinWith_eq_nil_iff]
  constructor
  · rintro (nothing | empty)
    · exact absurd (List.map_eq_nil_iff.mp nothing) inhabited
    · exact (List.map_injective_iff.mpr fun a b => String.toList_inj.mp) empty
  · rintro rfl
    exact Or.inr rfl

/-- **Chosen options are kept together** unless the choice is the empty option alone, or a
delimiter parts one of them into something that is no option. -/
theorem readMulti?_chosen_iff (inhabited : chosen ≠ []) :
    readMulti? options (",".intercalate chosen) = some (",".intercalate chosen)
      ↔ chosen ≠ [""] ∧ ∀ option ∈ chosen, ∀ part ∈ option.toList.splitOn ',',
        String.ofList part ∈ options := by
  have parts : Text.splitOn delimiter (",".intercalate chosen).toList
      = chosen.flatMap fun option => option.toList.splitOn ',' := by
    rw [toList_chosen, Text.splitOn_joinWith_eq_flatMap _ (by simpa using inhabited),
      List.flatMap_map]
    simp only [Text.splitOn_eq]
    rfl
  rw [readMulti?_eq_self_iff, parts, ne_eq, intercalate_eq_empty_iff inhabited]
  refine and_congr_right fun _ => ?_
  simp only [List.mem_flatMap]
  constructor
  · exact fun valid option mem part isPart => valid part ⟨option, mem, isPart⟩
  · rintro valid part ⟨option, mem, isPart⟩
    exact valid option mem part isPart

end Chosen

/-! ### The expression of the options -/

section Pattern

open Regex (Nested Reads literals)

theorem mem_sum_options (options : List String) (word : List Char) :
    word ∈ (options.map fun option => ({option.toList} : Language Char)).sum
      ↔ String.ofList word ∈ options := by
  induction options with
  | nil => simp
  | cons option options ih =>
      rw [List.map_cons, List.sum_cons, Language.mem_add, ih, List.mem_cons]
      refine or_congr_left ?_
      show word = option.toList ↔ _
      rw [← String.toList_inj, String.toList_ofList]

/-- **The expression of the options matches exactly the options.** -/
theorem isMatch_optionPattern (inhabited : options ≠ []) :
    ∃ nested, Regex.ofChars? (optionPattern options).toList = some nested
      ∧ ∀ text : String, nested.regex.isMatch text = options.contains text := by
  have patterns : ∀ a ∈ options.map fun option =>
      (Sql.escaped option.toList, ({option.toList} : Language Char)), Regex.Pattern a.1 a.2 := by
    intro a mem
    obtain ⟨option, -, rfl⟩ := List.mem_map.mp mem
    exact Regex.Pattern.escaped option.toList
  have group := Regex.Atom.group (by simpa using inhabited) patterns
  obtain ⟨nested, read, matching⟩ := group.pattern.anchored
  refine ⟨nested, ?_, fun text => ?_⟩
  · rw [← read]
    simp [optionPattern, Sql.anchor, Sql.escapeRegex, Function.comp_def]
  · rw [Bool.eq_iff_iff, matching, List.map_map, List.contains_iff_mem]
    exact (mem_sum_options options text.toList).trans (by rw [String.ofList_toList])

/-- An option as a branch of the expression: its text there, and the parts that it is read as. -/
def optionBranch (option : String) : List Char × List Nested :=
  (Sql.escaped option.toList, literals option.toList)

/-- The expression of the options as it is read: a group with a branch for each option, between
the tests for the two ends of the text. -/
def optionTree (options : List String) : Nested :=
  Nested.join Regex.seqs
    [⟨.look .textStart, 0⟩, Reads.grouped ((options.map optionBranch).map Prod.snd),
      ⟨.look .textEnd, 0⟩]

/-- Whatever the options are made of, their expression is nested four deep at the most. -/
theorem depth_optionTree_le (options : List String) : (optionTree options).depth ≤ 4 := by
  have branch : ∀ part ∈ ((options.map optionBranch).map Prod.snd).map (Nested.join Regex.seqs),
      part.depth ≤ 1 := by
    intro part mem
    simp only [List.mem_map] at mem
    obtain ⟨-, ⟨-, ⟨option, -, rfl⟩, rfl⟩, rfl⟩ := mem
    refine Nested.depth_join_le fun literal mem => ?_
    obtain ⟨c, -, rfl⟩ := List.mem_map.mp mem
    exact Nat.le_refl 0
  have group : (Reads.grouped ((options.map optionBranch).map Prod.snd)).depth ≤ 3 :=
    Nat.succ_le_succ (Nested.depth_join_le branch)
  refine Nested.depth_join_le fun part mem => ?_
  simp only [List.mem_cons, List.not_mem_nil, or_false] at mem
  rcases mem with rfl | rfl | rfl
  · exact Nat.zero_le 3
  · exact group
  · exact Nat.zero_le 3

/-- The expression of the options is well formed: it is read as a group of the options. -/
theorem ofChars?_optionPattern (inhabited : options ≠ []) :
    Regex.ofChars? (optionPattern options).toList = some (optionTree options) := by
  have text : (optionPattern options).toList
      = '^' :: ('(' :: (['|'].intercalate ((options.map optionBranch).map Prod.fst) ++ [')'])
          ++ ['$']) := by
    simp [optionPattern, optionBranch, Sql.anchor, Sql.escapeRegex, Function.comp_def]
  have reads : ∀ branch ∈ options.map optionBranch, Reads Regex.NoMark branch.1 branch.2 := by
    intro branch mem
    obtain ⟨option, -, rfl⟩ := List.mem_map.mp mem
    exact Regex.reads_escapedText option.toList
  obtain ⟨option, more, rfl⟩ := List.exists_cons_of_ne_nil inhabited
  rw [text]
  exact (Reads.group reads).weaken.ofChars?_anchored

/-- **The expression of the options decides membership**: it is well formed and not nested too
deep, and it matches a text if and only if that is one of the options. -/
theorem optionPattern_decides (inhabited : options ≠ []) :
    ∃ nested, Regex.ofChars? (optionPattern options).toList = some nested
      ∧ nested.depth ≤ Nested.depthLimit
      ∧ ∀ text : String, nested.regex.isMatch text = true ↔ text ∈ options := by
  obtain ⟨nested, read, matching⟩ := isMatch_optionPattern inhabited
  have tree := ofChars?_optionPattern inhabited
  rw [read, Option.some.injEq] at tree
  refine ⟨nested, read, ?_, fun text => ?_⟩
  · rw [tree]
    exact Nat.le_trans (depth_optionTree_le options) (by decide)
  · rw [matching, List.contains_iff_mem]

/-- Options of metacharacters, with quotes, a line break and letters beyond ASCII, and the empty
one: each of them matches, and what they would mean unescaped does not. -/
theorem optionPattern_decides_metacharacters :
    ["a.b|c", "", "(x)*\n", "é$", "o'2\x7b3\x7d"] ≠ []
      ∧ optionPattern ["a.b|c", "", "(x)*\n", "é$", "o'2\x7b3\x7d"]
        = "^(a\\.b\\|c||\\(x\\)\\*\n|é\\$|o'2\\\x7b3\\\x7d)$"
      ∧ ∃ nested, Regex.ofChars?
          (optionPattern ["a.b|c", "", "(x)*\n", "é$", "o'2\x7b3\x7d"]).toList = some nested
        ∧ nested.depth ≤ Nested.depthLimit
        ∧ nested.regex.isMatch "a.b|c" = true ∧ nested.regex.isMatch "" = true
        ∧ nested.regex.isMatch "(x)*\n" = true ∧ nested.regex.isMatch "é$" = true
        ∧ nested.regex.isMatch "o'2\x7b3\x7d" = true
        ∧ ¬nested.regex.isMatch "axb" = true ∧ ¬nested.regex.isMatch "c" = true
        ∧ ¬nested.regex.isMatch "xx" = true ∧ ¬nested.regex.isMatch "(x)*" = true
        ∧ ¬nested.regex.isMatch "o'222" = true := by
  refine ⟨by decide, by decide, ?_⟩
  obtain ⟨nested, read, shallow, matching⟩ :=
    optionPattern_decides (by decide : ["a.b|c", "", "(x)*\n", "é$", "o'2\x7b3\x7d"] ≠ [])
  refine ⟨nested, read, shallow, ?_⟩
  simp only [matching]
  decide

end Pattern

end ColumnCast.Select
