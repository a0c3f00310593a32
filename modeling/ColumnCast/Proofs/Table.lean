import Mathlib.Algebra.GroupWithZero.Nat
import Mathlib.Data.List.DropRight
import Mathlib.Data.List.Forall2
import ColumnCast.Table

/-!
# `ColumnCast.Proofs.Table`: tables read back by column

A table has no marks between its columns, so where a cell stands is told by
counting characters alone. `render_readable` says that counting is enough:
the widths and offsets of the columns follow from the headers and rows, and
what stands there in a line is the cell, but for the blanks at its end.

The steps: widths are found row by row (`columnWidths_eq`), a part of a
joined line is found behind the parts before it (`drop_intercalate`,
`take_intercalate_cons`), and blanks that are cut off at the end of a line are blanks at the end of
some cells (`trimEnd_take_drop`), wherever the cut falls.
-/

set_option autoImplicit false

namespace ColumnCast

namespace Text

/-! ### Blanks at the end -/

theorem trimEnd_append_of_blank {text blanks : List Char}
    (blank : ∀ c ∈ blanks, isBlank c = true) : trimEnd (text ++ blanks) = trimEnd text := by
  unfold trimEnd
  rw [List.reverse_append, List.dropWhile_append_of_pos fun c mem =>
    blank c (List.mem_reverse.mp mem)]

/-- A text is the text without the blanks at its end, and these blanks. -/
theorem exists_blank_of_trimEnd (text : List Char) :
    ∃ blanks, (∀ c ∈ blanks, isBlank c = true) ∧ trimEnd text ++ blanks = text :=
  ⟨text.rtakeWhile isBlank, fun _ mem => List.mem_rtakeWhile_imp mem,
    List.rdropWhile_append_rtakeWhile⟩

theorem trimEnd_prefix (text : List Char) : trimEnd text <+: text :=
  List.rdropWhile_prefix _ _

theorem take_drop_trimEnd_subset (text : List Char) (start width : Nat) :
    ((trimEnd text).drop start).take width ⊆ (text.drop start).take width := by
  obtain ⟨blanks, -, whole⟩ := exists_blank_of_trimEnd text
  conv_rhs => rw [← whole, List.drop_append, List.take_append]
  exact List.subset_append_left _ _

/-- To cut blanks off the end of a text changes no part of it but for blanks at its end. -/
theorem trimEnd_take_drop (text : List Char) (start width : Nat) :
    trimEnd (((trimEnd text).drop start).take width) = trimEnd ((text.drop start).take width) := by
  obtain ⟨blanks, blank, whole⟩ := exists_blank_of_trimEnd text
  -- The cut may fall into the part; what it takes from it are the first of the blanks.
  have part : (text.drop start).take width = ((trimEnd text).drop start).take width
      ++ (blanks.drop (start - (trimEnd text).length)).take
        (width - ((trimEnd text).drop start).length) := by
    rw [← List.take_append, ← List.drop_append, whole]
  rw [part, trimEnd_append_of_blank fun c mem => blank c (List.mem_of_mem_drop
    (List.mem_of_mem_take mem))]

end Text

namespace Table

/-! ### Widths -/

/-- The width of a column: three characters, or its longest header or cell. -/
def columnWidth (headers : List String) (rows : List (List String)) (j : Nat) : Nat :=
  max minWidth (((headers :: rows).map fun cells => (cells.getD j "").length).foldr max 0)

/-- Where a column begins in a line: behind the columns before it and two spaces for each. -/
def offset (headers : List String) (rows : List (List String)) (j : Nat) : Nat :=
  ((List.range j).map fun k => columnWidth headers rows k + 2).sum

/-- No header and no cell is wider than its column. -/
theorem length_le_columnWidth {headers cells : List String} {rows : List (List String)}
    (mem : cells ∈ headers :: rows) (j : Nat) :
    (cells.getD j "").length ≤ columnWidth headers rows j := by
  refine Nat.le_trans ?_ (Nat.le_max_right _ _)
  generalize headers :: rows = lists at mem
  induction lists with
  | nil => exact absurd mem List.not_mem_nil
  | cons first others ih =>
      rw [List.map_cons, List.foldr_cons]
      rcases List.mem_cons.mp mem with rfl | mem
      · exact Nat.le_max_left _ _
      · exact (ih mem).trans (Nat.le_max_right _ _)

theorem widen_eq (widths : List Nat) (row : List String) :
    widen widths row = widths.mapIdx fun j width => max width (row.getD j "").length := by
  unfold widen
  congr 1
  funext j width
  rw [List.getD_eq_getElem?_getD]
  cases row[j]? with
  | none => exact (Nat.max_zero width).symm
  | some cell => rfl

theorem foldl_widen (widths : List Nat) (rows : List (List String)) :
    rows.foldl widen widths = widths.mapIdx fun j width =>
      max width ((rows.map fun cells => (cells.getD j "").length).foldr max 0) := by
  induction rows generalizing widths with
  | nil =>
      refine List.ext_getElem (by simp) fun j _ _ => ?_
      simp
  | cons row rows ih =>
      rw [List.foldl_cons, ih, widen_eq, List.mapIdx_mapIdx]
      congr 1
      funext j width
      exact Nat.max_assoc _ _ _

/-- The widths that are found row by row are the widths of the columns. -/
theorem columnWidths_eq (headers : List String) (rows : List (List String)) :
    columnWidths headers rows = (List.range headers.length).map (columnWidth headers rows) := by
  unfold columnWidths
  rw [foldl_widen]
  refine List.ext_getElem (by simp) fun j inside _ => ?_
  have known : j < headers.length := by simpa using inside
  have header : headers.getD j "" = headers[j] := by
    rw [List.getD_eq_getElem?_getD, List.getElem?_eq_getElem known, Option.getD_some]
  simp only [List.getElem_mapIdx, List.getElem_map, List.getElem_range, columnWidth, List.map_cons,
    List.foldr_cons, header]
  omega

/-! ### Lines -/

theorem length_flatten (text : String) : (flatten text).length = text.length := by
  rw [flatten, List.length_map, String.length_toList]

/-- What stands on one line has no line break. -/
theorem lineFeed_notMem_flatten (text : String) : '\n' ∉ flatten text := by
  intro mem
  obtain ⟨c, -, same⟩ := List.mem_map.mp mem
  split at same
  · exact absurd same (by decide)
  · rename_i other
    exact other (Or.inl same)

theorem length_fill {width : Nat} {cell : String} (narrow : cell.length ≤ width) :
    (fill width cell).length = width := by
  have length := length_flatten cell
  simp only [fill, List.length_append, List.length_replicate]
  omega

theorem trimEnd_fill (width : Nat) (cell : String) :
    Text.trimEnd (fill width cell) = Text.trimEnd (flatten cell) := by
  refine Text.trimEnd_append_of_blank fun c mem => ?_
  rw [List.eq_of_mem_replicate mem]
  decide

theorem lineFeed_notMem_fill (width : Nat) (cell : String) : '\n' ∉ fill width cell := by
  intro mem
  rcases List.mem_append.mp mem with mem | mem
  · exact lineFeed_notMem_flatten cell mem
  · exact absurd (List.eq_of_mem_replicate mem) (by decide)

/-! ### Parts of a joined line -/

/-- Behind the first parts of a joined line and a gap for each stand the other parts. -/
theorem drop_intercalate (gap : List Char) {parts : List (List Char)} {j : Nat}
    (inside : j < parts.length) :
    (gap.intercalate parts).drop ((parts.take j).map fun part => part.length + gap.length).sum
      = gap.intercalate (parts.drop j) := by
  induction j generalizing parts with
  | zero => rfl
  | succ j ih =>
      -- Only a part with another one behind it is followed by a gap.
      match parts with
      | [] => exact absurd inside (Nat.not_lt_zero _)
      | [_] => exact absurd (Nat.lt_of_succ_lt_succ inside) (Nat.not_lt_zero _)
      | part :: next :: more =>
          rw [List.take_succ_cons, List.map_cons, List.sum_cons, List.drop_succ_cons,
            ← ih (Nat.lt_of_succ_lt_succ inside), List.intercalate_cons_cons, ← List.drop_drop,
            ← List.length_append, List.drop_left]

/-- The first of joined parts stands in front, and behind it no more than a gap before the next. -/
theorem take_intercalate_cons (gap part : List Char) (parts : List (List Char)) :
    (gap.intercalate (part :: parts)).take part.length = part
      ∧ ((gap.intercalate (part :: parts)).drop part.length).take gap.length <+: gap := by
  cases parts with
  | nil => simp [List.intercalate_singleton]
  | cons next more =>
      rw [List.intercalate_cons_cons, List.append_assoc]
      simp

theorem mem_intercalate {gap : List Char} {parts : List (List Char)} {c : Char}
    (mem : c ∈ gap.intercalate parts) : c ∈ gap ∨ ∃ part ∈ parts, c ∈ part := by
  induction parts with
  | nil => exact absurd mem List.not_mem_nil
  | cons part parts ih =>
      cases parts with
      | nil =>
          rw [List.intercalate_singleton] at mem
          exact Or.inr ⟨part, List.mem_cons_self, mem⟩
      | cons next more =>
          rw [List.intercalate_cons_cons, List.append_assoc, List.mem_append,
            List.mem_append] at mem
          rcases mem with mem | mem | mem
          · exact Or.inr ⟨part, List.mem_cons_self, mem⟩
          · exact Or.inl mem
          · exact (ih mem).imp_right fun ⟨part, among, mem⟩ =>
              ⟨part, List.mem_cons_of_mem _ among, mem⟩

theorem length_intercalate_le (gap : List Char) (parts : List (List Char)) :
    (gap.intercalate parts).length ≤ (parts.map fun part => part.length + gap.length).sum := by
  induction parts with
  | nil => exact Nat.zero_le _
  | cons part parts ih =>
      cases parts with
      | nil => simp [List.intercalate_singleton]
      | cons next more =>
          rw [List.intercalate_cons_cons, List.map_cons, List.sum_cons, List.length_append,
            List.length_append]
          omega

/-! ### A line read back -/

/-- A line of a table reads back as cells: what stands in each column is the cell, but for
blanks at the end. Behind a column stand two spaces, and behind the last one nothing. -/
structure ReadsBack (headers : List String) (rows : List (List String)) (text : List Char)
    (cells : List String) : Prop where
  cell : ∀ j < headers.length,
    Text.trimEnd ((text.drop (offset headers rows j)).take (columnWidth headers rows j))
      = Text.trimEnd (flatten (cells.getD j ""))
  gap : ∀ j < headers.length,
    ∀ c ∈ (text.drop (offset headers rows j + columnWidth headers rows j)).take 2, c = ' '
  within : text.length ≤ offset headers rows headers.length

variable {headers cells : List String} {rows : List (List String)}

/-- The filled cells of a line. -/
def filled (headers : List String) (rows : List (List String)) (cells : List String) :
    List (List Char) :=
  List.zipWith (fun cell width => fill width cell) cells (columnWidths headers rows)

theorem length_filled (complete : cells.length = headers.length) :
    (filled headers rows cells).length = headers.length := by
  rw [filled, List.length_zipWith, columnWidths_eq, List.length_map, List.length_range, complete,
    Nat.min_self]

theorem getElem_filled (complete : cells.length = headers.length) {j : Nat}
    (inside : j < (filled headers rows cells).length) :
    (filled headers rows cells)[j] = fill (columnWidth headers rows j) (cells.getD j "") := by
  have known : j < cells.length := by rwa [length_filled complete, ← complete] at inside
  have cell : cells.getD j "" = cells[j] := by
    rw [List.getD_eq_getElem?_getD, List.getElem?_eq_getElem known, Option.getD_some]
  simp only [filled, columnWidths_eq, List.getElem_zipWith, List.getElem_map, List.getElem_range,
    cell]

/-- The parts of a line are as long as its columns are wide. -/
theorem lengths_filled (mem : cells ∈ headers :: rows) (complete : cells.length = headers.length) :
    (filled headers rows cells).map List.length
      = (List.range headers.length).map (columnWidth headers rows) := by
  refine List.ext_getElem (by simp [length_filled complete]) fun j inside _ => ?_
  have known : j < (filled headers rows cells).length := by simpa using inside
  rw [List.getElem_map, getElem_filled complete known, List.getElem_map, List.getElem_range,
    length_fill (length_le_columnWidth mem j)]

/-- The columns before a column are as long as the way to its offset. -/
theorem sum_filled (mem : cells ∈ headers :: rows) (complete : cells.length = headers.length)
    {j : Nat} (within : j ≤ headers.length) :
    (((filled headers rows cells).take j).map fun part => part.length + [' ', ' '].length).sum
      = offset headers rows j := by
  have lengths : ((filled headers rows cells).take j).map List.length
      = (List.range j).map (columnWidth headers rows) := by
    rw [List.map_take, lengths_filled mem complete, ← List.map_take, List.take_range,
      Nat.min_eq_left within]
  show (((filled headers rows cells).take j).map ((· + 2) ∘ List.length)).sum = _
  rw [← List.map_map, lengths, List.map_map]
  rfl

/-- At the offset of a column its filled cell begins. -/
theorem drop_offset (mem : cells ∈ headers :: rows) (complete : cells.length = headers.length)
    {j : Nat} (inside : j < headers.length) :
    ∃ parts, ([' ', ' '].intercalate (filled headers rows cells)).drop (offset headers rows j)
      = [' ', ' '].intercalate (fill (columnWidth headers rows j) (cells.getD j "") :: parts) := by
  have known : j < (filled headers rows cells).length := by rwa [length_filled complete]
  rw [← sum_filled mem complete inside.le, drop_intercalate _ known,
    List.drop_eq_getElem_cons known, getElem_filled complete known]
  exact ⟨_, rfl⟩

theorem readsBack_line (mem : cells ∈ headers :: rows) (complete : cells.length = headers.length) :
    ReadsBack headers rows (line (columnWidths headers rows) cells) cells := by
  -- The filled cell is as long as its column is wide, so what is taken is all of it and no more.
  have width := fun j => length_fill (length_le_columnWidth mem j)
  constructor
  · intro j inside
    obtain ⟨parts, behind⟩ := drop_offset mem complete inside
    have first := (take_intercalate_cons [' ', ' ']
      (fill (columnWidth headers rows j) (cells.getD j "")) parts).1
    rw [width, ← behind] at first
    calc Text.trimEnd (((Text.trimEnd ([' ', ' '].intercalate (filled headers rows cells))).drop
          (offset headers rows j)).take (columnWidth headers rows j))
        = Text.trimEnd (fill (columnWidth headers rows j) (cells.getD j "")) := by
          rw [Text.trimEnd_take_drop, first]
      _ = Text.trimEnd (flatten (cells.getD j "")) := trimEnd_fill _ _
  · intro j inside c isGap
    obtain ⟨parts, behind⟩ := drop_offset mem complete inside
    have next := (take_intercalate_cons [' ', ' ']
      (fill (columnWidth headers rows j) (cells.getD j "")) parts).2
    rw [width, ← behind, List.drop_drop] at next
    have isSpace : c ∈ [' ', ' '] := next.subset (Text.take_drop_trimEnd_subset _ _ 2 isGap)
    simpa using isSpace
  · have all := sum_filled mem complete le_rfl
    rw [List.take_of_length_le (length_filled complete).le] at all
    rw [← all]
    exact (Text.trimEnd_prefix _).length_le.trans (length_intercalate_le _ _)

/-! ### Whole tables -/

theorem lineFeed_notMem_line (widths : List Nat) (cells : List String) :
    '\n' ∉ line widths cells := by
  intro mem
  rcases mem_intercalate ((Text.trimEnd_prefix _).subset mem) with isGap | ⟨part, among, mem⟩
  · exact absurd isGap (by decide)
  · obtain ⟨j, inside, rfl⟩ := List.mem_iff_getElem.mp among
    rw [List.getElem_zipWith] at mem
    exact lineFeed_notMem_fill _ _ mem

/-- **A table can be read back by column.** It has a line for the headers, one for the rule and
one for each row, whatever line breaks they hold, and every line ends with a line feed. What
stands in a line at the offset of a column, as far as the column is wide, is the header or the
cell on one line, but for blanks at its end. -/
theorem render_readable (headers : List String) (rows : List (List String))
    (complete : ∀ row ∈ rows, row.length = headers.length) :
    ∃ (head rule : List Char) (body : List (List Char)),
      (render headers rows).toList = (head :: rule :: body).flatMap (· ++ ['\n'])
        ∧ (∀ text ∈ head :: rule :: body, '\n' ∉ text)
        ∧ body.length = rows.length
        ∧ ReadsBack headers rows head headers
        ∧ List.Forall₂ (ReadsBack headers rows) body rows := by
  let widths := columnWidths headers rows
  refine ⟨line widths headers, line widths (ruleCells widths), rows.map (line widths), ?_, ?_,
    List.length_map _, ?_, ?_⟩
  · rw [render, String.toList_ofList]
    show List.flatMap _ (headers :: ruleCells widths :: rows) = _
    rw [← List.map_cons, ← List.map_cons, List.flatMap_map]
  · rw [← List.map_cons, ← List.map_cons]
    intro text mem
    obtain ⟨cells, -, rfl⟩ := List.mem_map.mp mem
    exact lineFeed_notMem_line widths cells
  · exact readsBack_line List.mem_cons_self rfl
  · refine List.forall₂_map_left_iff.mpr (List.forall₂_same.mpr fun row mem => ?_)
    exact readsBack_line (List.mem_cons_of_mem _ mem) (complete row mem)

/-- A header with a line break, a blank cell between two others and one at the end. -/
theorem render_readable_blanks :
    (∀ row ∈ [["x\ty", "\u2003", "7 "], ["1", "two", " "]],
        row.length = ["a\nb", "c", "note"].length)
      ∧ ∃ head rule first second : List Char,
        (render ["a\nb", "c", "note"] [["x\ty", "\u2003", "7 "], ["1", "two", " "]]).toList
            = [head, rule, first, second].flatMap (· ++ ['\n'])
          ∧ Text.trimEnd ((first.drop 10).take 4) = ['7']
          ∧ Text.trimEnd ((second.drop 10).take 4) = [] := by
  have complete : ∀ row ∈ [["x\ty", "\u2003", "7 "], ["1", "two", " "]],
      row.length = ["a\nb", "c", "note"].length := by decide
  obtain ⟨head, rule, body, text, -, -, -, each⟩ := render_readable _ _ complete
  obtain ⟨first, _, here, last, rfl⟩ := List.forall₂_cons_right_iff.mp each
  obtain ⟨second, _, there, none, rfl⟩ := List.forall₂_cons_right_iff.mp last
  obtain rfl := List.forall₂_nil_right_iff.mp none
  exact ⟨complete, head, rule, first, second, text, here.cell 2 (by decide),
    there.cell 2 (by decide)⟩

example : render ["a\nb", "c", "note"] [["x\ty", "\u2003", "7 "], ["1", "two", " "]]
    = "a b  c    note\n---  ---  ----\nx y  \u2003    7\n1    two\n" := by decide

end Table

end ColumnCast
