import ColumnCast.Catalog
import Mathlib.Data.String.Basic

/-!
# `ColumnCast.Proofs.Catalog.Order`: the order of date sequences

Whatever date sequences a catalog is made from, those it holds stand in
order of their identifiers (`sorted_ordered`), and to put them in order
again changes nothing (`Sorted.ordered`).
-/

set_option autoImplicit false

namespace ColumnCast

namespace DateSequences

/-- The identifiers stand in order, each once. -/
def Sorted (sequences : DateSequences) : Prop := sequences.Pairwise fun a b => a.1 < b.1

instance (sequences : DateSequences) : Decidable (Sorted sequences) :=
  inferInstanceAs (Decidable (sequences.Pairwise _))

variable {id : String} {formats : List Format} {sequences : DateSequences}

theorem mem_insert {entry : String × List Format} (mem : entry ∈ insert id formats sequences) :
    entry = (id, formats) ∨ entry ∈ sequences := by
  induction sequences with
  | nil => exact .inl (List.mem_singleton.mp mem)
  | cons other rest ih =>
      obtain ⟨other, kept⟩ := other
      unfold insert at mem
      split at mem
      · exact List.mem_cons.mp mem
      · split at mem
        · exact (List.mem_cons.mp mem).imp_right (List.mem_cons_of_mem _)
        · rcases List.mem_cons.mp mem with rfl | mem
          · exact .inr List.mem_cons_self
          · exact (ih mem).imp_right (List.mem_cons_of_mem _)

theorem Sorted.insert (sorted : Sorted sequences) (id : String) (formats : List Format) :
    Sorted (insert id formats sequences) := by
  induction sequences with
  | nil => exact List.pairwise_singleton _ _
  | cons other rest ih =>
      obtain ⟨other, kept⟩ := other
      obtain ⟨first, behind⟩ := List.pairwise_cons.mp sorted
      unfold DateSequences.insert
      split
      · rename_i less
        refine List.pairwise_cons.mpr ⟨fun entry mem => ?_, sorted⟩
        rcases List.mem_cons.mp mem with rfl | mem
        · exact less
        · exact lt_trans less (first entry mem)
      · split
        · rename_i same
          exact List.pairwise_cons.mpr ⟨fun entry mem => same ▸ first entry mem, behind⟩
        · rename_i notLess other'
          refine List.pairwise_cons.mpr ⟨fun entry mem => ?_, ih behind⟩
          rcases mem_insert mem with rfl | mem
          · exact lt_of_le_of_ne (not_lt.mp notLess) (Ne.symm other')
          · exact first entry mem

/-- Sequences found before, with the others put in one after the other. -/
def insertAll (found sequences : DateSequences) : DateSequences :=
  sequences.foldl (fun found (id, formats) => insert id formats found) found

theorem Sorted.insertAll {found : DateSequences} (sorted : Sorted found)
    (sequences : DateSequences) : Sorted (insertAll found sequences) := by
  induction sequences generalizing found with
  | nil => exact sorted
  | cons entry rest ih => exact ih (sorted.insert entry.1 entry.2)

theorem sorted_ordered (sequences : DateSequences) : Sorted (ordered sequences) :=
  Sorted.insertAll (show Sorted [] from List.Pairwise.nil) sequences

/-- A sequence behind all others is put there. -/
theorem insert_last (last : ∀ entry ∈ sequences, entry.1 < id) :
    insert id formats sequences = sequences ++ [(id, formats)] := by
  induction sequences with
  | nil => rfl
  | cons other rest ih =>
      obtain ⟨other, kept⟩ := other
      have less : other < id := last _ List.mem_cons_self
      unfold insert
      rw [if_neg less.asymm, if_neg less.ne', ih fun entry mem =>
        last entry (List.mem_cons_of_mem _ mem)]
      rfl

theorem insertAll_eq_append {found : DateSequences} (sorted : Sorted (found ++ sequences)) :
    insertAll found sequences = found ++ sequences := by
  induction sequences generalizing found with
  | nil =>
      rw [List.append_nil]
      rfl
  | cons entry rest ih =>
      obtain ⟨id, formats⟩ := entry
      have before : ∀ other ∈ found, other.1 < id := fun other mem =>
        (List.pairwise_append.mp sorted).2.2 other mem _ List.mem_cons_self
      have split : found ++ (id, formats) :: rest = found ++ [(id, formats)] ++ rest := by simp
      show insertAll (insert id formats found) rest = _
      rw [insert_last before, split]
      exact ih (split ▸ sorted)

/-- **What is in order stays as it is.** -/
theorem Sorted.ordered (sorted : Sorted sequences) : ordered sequences = sequences :=
  insertAll_eq_append (show Sorted ([] ++ sequences) from sorted)

end DateSequences

namespace Catalog

/-- Formats that pass the check in their order are those of a catalog. -/
theorem ofFormats_eq_ok (dates : DateSequences) (times : List Format)
    (checked : check dates.ordered times = .ok ()) :
    ofFormats dates times = .ok ⟨dates.ordered, times, checked⟩ := by
  simp only [ofFormats]
  split
  · rfl
  · rename_i e refused
    exact absurd (checked.symm.trans refused) (by simp)

/-- The formats of a catalog that was made from formats. -/
theorem eq_of_ofFormats {dates : DateSequences} {times : List Format} {catalog : Catalog}
    (made : ofFormats dates times = .ok catalog) :
    catalog.dates = DateSequences.ordered dates := by
  unfold ofFormats at made
  dsimp only at made
  split at made
  · rw [← Except.ok.inj made]
  · exact absurd made (by simp)

end Catalog

end ColumnCast
