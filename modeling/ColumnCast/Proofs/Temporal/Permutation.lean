import Mathlib.Data.List.Nodup
import ColumnCast.Proofs.Temporal.Unambiguous

/-!
# `ColumnCast.Proofs.Temporal.Permutation`: the order of the built-in formats does not matter

`Format.firstFor` stops at the first format that recognizes a cell, so in
general a sequence reads differently when its formats change places. Where
a cell is recognized by one format at most (`Format.Exclusive`), the first
one is the only one, and every permutation reads the same
(`Exclusive.readFields_perm`).

No two built-in layouts of a sequence share a text (`Unambiguous`), which
makes all three kinds of built-in sequences exclusive: dates, times, and
dates with times. A `Rearranged` catalog, with the built-in sequences in
any order, therefore reads every cell as the built-in catalog does
(`builtin_unambiguous`).
-/

set_option autoImplicit false

namespace ColumnCast

/-! ### Sequences in which one format decides -/

namespace Format

variable {cell : String} {formats formats' : List Format}

/-- Each format says whether it recognizes the cell, and no two of them do. -/
structure Exclusive (cell : String) (formats : List Format) : Prop where
  decided : ∀ f ∈ formats, ∃ recognized, f.recognizes cell = .ok recognized
  apart : formats.Pairwise fun a b =>
    ¬ (a.recognizes cell = .ok true ∧ b.recognizes cell = .ok true)

/-- The formats that recognize the cell, in their order. -/
def recognizing (cell : String) (formats : List Format) : List Format :=
  formats.filter fun f => (f.recognizes cell).toOption == some true

theorem allFor_eq_recognizing
    (decided : ∀ f ∈ formats, ∃ recognized, f.recognizes cell = .ok recognized) :
    allFor cell formats = .ok (recognizing cell formats) := by
  -- The formats that were found are gathered in front of the others, the last one first.
  have gathered : ∀ found : List Format,
      List.filterAuxM (fun f : Format => f.recognizes cell) formats found
        = .ok ((recognizing cell formats).reverse ++ found) := by
    unfold recognizing
    induction formats with
    | nil => exact fun found => rfl
    | cons f rest ih =>
        intro found
        obtain ⟨recognized, told⟩ := decided f List.mem_cons_self
        have next := ih fun g mem => decided g (List.mem_cons_of_mem _ mem)
        rw [List.filterAuxM, told]
        show List.filterAuxM _ rest _ = _
        rw [next]
        cases recognized <;> simp [told, Except.toOption]
  show (List.filterAuxM _ formats [] >>= _) = _
  rw [gathered []]
  simp [bind, Except.bind, pure, Except.pure]

/-- The first format that recognizes the cell is the head of all that do. -/
theorem firstFor_eq_head?_recognizing
    (decided : ∀ f ∈ formats, ∃ recognized, f.recognizes cell = .ok recognized) :
    firstFor cell formats = .ok (recognizing cell formats).head? := by
  unfold recognizing
  induction formats with
  | nil => rfl
  | cons f rest ih =>
      obtain ⟨recognized, told⟩ := decided f List.mem_cons_self
      rw [firstFor, told]
      cases recognized with
      | true => simp [told, Except.toOption]
      | false =>
          simpa [told, Except.toOption] using ih fun g mem => decided g (List.mem_cons_of_mem _ mem)

namespace Exclusive

theorem perm (exclusive : Exclusive cell formats) (same : formats'.Perm formats) :
    Exclusive cell formats' where
  decided f mem := exclusive.decided f (same.mem_iff.mp mem)
  apart := (same.pairwise_iff fun apart both => apart both.symm).mpr exclusive.apart

theorem length_recognizing_le (exclusive : Exclusive cell formats) :
    (recognizing cell formats).length ≤ 1 := by
  have recognizes : ∀ f ∈ recognizing cell formats, f.recognizes cell = .ok true := by
    intro f mem
    obtain ⟨inside, told⟩ := List.mem_filter.mp mem
    obtain ⟨recognized, eq⟩ := exclusive.decided f inside
    rw [eq] at told ⊢
    simpa [Except.toOption] using told
  have apart : (recognizing cell formats).Pairwise fun a b =>
      ¬ (a.recognizes cell = .ok true ∧ b.recognizes cell = .ok true) := exclusive.apart.filter _
  match found : recognizing cell formats with
  | [] | [_] => simp
  | a :: b :: _ =>
      rw [found] at apart recognizes
      -- The first two of them would both recognize the cell.
      exact absurd ⟨recognizes a (by simp), recognizes b (by simp)⟩
        (List.rel_of_pairwise_cons apart List.mem_cons_self)

theorem firstFor_perm (exclusive : Exclusive cell formats) (same : formats'.Perm formats) :
    firstFor cell formats' = firstFor cell formats := by
  have most := exclusive.length_recognizing_le
  have recognizing_perm : (recognizing cell formats').Perm (recognizing cell formats) :=
    same.filter _
  rw [firstFor_eq_head?_recognizing (exclusive.perm same).decided,
    firstFor_eq_head?_recognizing exclusive.decided]
  cases found : recognizing cell formats with
  | nil =>
      rw [found] at recognizing_perm
      rw [List.perm_nil.mp recognizing_perm]
  | cons f rest =>
      rw [found] at recognizing_perm most
      obtain rfl : rest = [] := List.length_eq_zero_iff.mp (by simpa using most)
      rw [List.perm_singleton.mp recognizing_perm]

/-- **An exclusive sequence reads alike in every order.** -/
theorem readFields_perm (exclusive : Exclusive cell formats) (same : formats'.Perm formats) :
    Temporal.readFields formats' cell = Temporal.readFields formats cell := by
  unfold Temporal.readFields
  rw [exclusive.firstFor_perm same]

end Exclusive

end Format

/-! ### The built-in sequences are exclusive -/

/-- Where a text shows how it is written, no cell is recognized by two formats. -/
theorem Faithful.exclusive {α β : Type} {items : List α} {format : α → Format}
    {writes : α → β → List Char → Prop} {value? : Fields → Option β}
    (faithful : Faithful items format writes value?) (apart : Distinguishes items writes)
    (distinct : items.Nodup) (cell : String) : Format.Exclusive cell (items.map format) where
  decided f mem := by
    obtain ⟨a, isItem, rfl⟩ := List.mem_map.mp mem
    obtain ⟨recognized, told, -⟩ := faithful.covers a isItem cell
    exact ⟨recognized, told⟩
  apart := by
    refine List.pairwise_map.mpr (distinct.pairwise_of_forall_ne ?_)
    rintro a memA b memB differ ⟨first, second⟩
    obtain ⟨v, written⟩ := ((faithful.covers a memA).true_iff cell).mp first
    obtain ⟨w, written'⟩ := ((faithful.covers b memB).true_iff cell).mp second
    exact differ (apart a memA b memB v w cell.toList written written')

theorem nodup_layouts {layouts : List DateLayout}
    (sequence : layouts ∈ [DateLayout.dayFirst, DateLayout.monthFirst, DateLayout.yearFirst]) :
    layouts.Nodup := by
  refine List.Nodup.of_map DateLayout.token ?_
  simp only [List.mem_cons, List.not_mem_nil, or_false] at sequence
  rcases sequence with rfl | rfl | rfl <;> decide

theorem nodup_clock : TimeLayout.clock.Nodup :=
  List.Nodup.of_map TimeLayout.token (by decide)

namespace Catalog

variable {id : String} {formats : List Format}

theorem exclusive_dateFormats (known : builtin.dateFormats id = .ok formats) (cell : String) :
    Format.Exclusive cell formats := by
  obtain ⟨layouts, isSequence, rfl⟩ := dateFormats_builtin_iff.mp known
  have sequence := sequence_of_known isSequence
  exact (faithful_dates sequence).exclusive (distinguishes_dates sequence)
    (nodup_layouts sequence) cell

theorem exclusive_times (cell : String) : Format.Exclusive cell builtin.times :=
  faithful_times.exclusive distinguishes_times nodup_clock cell

theorem exclusive_dateTimeFormats (known : builtin.dateTimeFormats id = .ok formats)
    (cell : String) : Format.Exclusive cell formats := by
  obtain ⟨layouts, isSequence, rfl⟩ := dateTimeFormats_builtin_iff.mp known
  have sequence := sequence_of_known isSequence
  exact (faithful_dateTimes sequence).exclusive (distinguishes_dateTimes sequence)
    ((nodup_layouts sequence).product nodup_clock) cell

/-! ### The built-in sequences in another order -/

/-- These are the built-in sequences, the formats of each in any order. -/
structure Rearranged (dates : DateSequences) (times : List Format) : Prop where
  dates : List.Forall₂ (fun entry builtin => entry.1 = builtin.1 ∧ entry.2.Perm builtin.2)
    dates builtinDates
  times : times.Perm clockFormats

/-- Sequences that correspond one by one are found under the same identifiers. -/
theorem lookup_rearranged {dates dates' : DateSequences}
    (same : List.Forall₂ (fun a b => a.1 = b.1 ∧ a.2.Perm b.2) dates dates') (id : String) :
    (dates.lookup id = none ∧ dates'.lookup id = none)
      ∨ ∃ formats formats', dates.lookup id = some formats ∧ dates'.lookup id = some formats'
        ∧ formats.Perm formats' := by
  induction same with
  | nil => exact Or.inl ⟨rfl, rfl⟩
  | @cons entry entry' _ _ first _ ih =>
      obtain ⟨name, formats⟩ := entry
      obtain ⟨_, formats'⟩ := entry'
      obtain ⟨rfl, perm⟩ := first
      rw [List.lookup_cons, List.lookup_cons]
      cases id == name with
      | true => exact Or.inr ⟨formats, formats', rfl, rfl, perm⟩
      | false => exact ih

theorem checkSequence_perm {name name' : String} {formats formats' : List Format}
    (same : formats'.Perm formats) (passed : checkSequence name formats = .ok ()) :
    checkSequence name' formats' = .ok () := by
  rw [checkSequence_eq_ok_iff] at passed ⊢
  exact ⟨fun empty => passed.1 (List.perm_nil.mp (empty ▸ same.symm)),
    fun f mem => passed.2 f (same.mem_iff.mp mem)⟩

namespace Rearranged

/-- Sequences stay valid when their formats change places. -/
theorem checked {dates : DateSequences} {times : List Format}
    (rearranged : Rearranged dates times) : check dates times = .ok () := by
  obtain ⟨filled, eachDate, time⟩ := check_eq_ok_iff.mp builtin_checked
  refine check_eq_ok_iff.mpr ⟨?_, fun entry mem => ?_, checkSequence_perm rearranged.times time⟩
  · intro empty
    have none := rearranged.dates
    rw [empty] at none
    exact filled (List.forall₂_nil_left_iff.mp none)
  · obtain ⟨index, inside, rfl⟩ := List.mem_iff_getElem.mp mem
    obtain ⟨lengths, corresponding⟩ := List.forall₂_iff_get.mp rearranged.dates
    have inside' : index < builtinDates.length := lengths ▸ inside
    exact checkSequence_perm (corresponding index inside inside').2
      (eachDate _ (List.getElem_mem inside'))

variable {catalog : Catalog} (rearranged : Rearranged catalog.dates catalog.times)

include rearranged

/-- An identifier stands for the built-in formats in some order, or for none in both
catalogs. -/
theorem dateFormats_cases (id : String) :
    (∃ formats formats', catalog.dateFormats id = .ok formats
        ∧ builtin.dateFormats id = .ok formats' ∧ formats.Perm formats')
      ∨ ∃ e, catalog.dateFormats id = .error e ∧ builtin.dateFormats id = .error e := by
  have ids : catalog.ids = builtin.ids := by
    have names := rearranged.dates.imp fun _ _ entry => entry.1
    exact List.forall₂_eq_eq_eq ▸
      List.forall₂_map_left_iff.mpr (List.forall₂_map_right_iff.mpr names)
  unfold dateFormats
  rcases lookup_rearranged rearranged.dates id with
    ⟨missing, missing'⟩ | ⟨formats, formats', found, found', perm⟩
  · have builtinMissing : builtin.dates.lookup id = none := missing'
    refine Or.inr ⟨.unknownDateFormat id builtin.ids, ?_, ?_⟩
    · rw [missing, ids]
    · rw [builtinMissing]
  · have builtinFound : builtin.dates.lookup id = some formats' := found'
    refine Or.inl ⟨formats, formats', ?_, ?_, perm⟩
    · rw [found]
    · rw [builtinFound]

theorem dateTimeFormats_cases (id : String) :
    (∃ formats formats', catalog.dateTimeFormats id = .ok formats
        ∧ builtin.dateTimeFormats id = .ok formats' ∧ formats.Perm formats')
      ∨ ∃ e, catalog.dateTimeFormats id = .error e ∧ builtin.dateTimeFormats id = .error e := by
  unfold dateTimeFormats
  rcases rearranged.dateFormats_cases id with
    ⟨formats, formats', known, known', perm⟩ | ⟨e, none, none'⟩
  · rw [known, known']
    refine Or.inl ⟨_, _, rfl, rfl, ?_⟩
    refine (perm.flatMap_right _).trans (List.Perm.flatMap_left _ fun date _ => ?_)
    exact rearranged.times.map _
  · rw [none, none']
    exact Or.inr ⟨e, rfl, rfl⟩

theorem readDate_eq (id cell : String) :
    Temporal.readDate catalog id cell = Temporal.readDate builtin id cell := by
  unfold Temporal.readDate
  rcases rearranged.dateFormats_cases id with
    ⟨formats, formats', known, known', perm⟩ | ⟨e, none, none'⟩
  · rw [known, known']
    show (Temporal.readFields formats cell >>= _) = (Temporal.readFields formats' cell >>= _)
    rw [(exclusive_dateFormats known' cell).readFields_perm perm]
  · rw [none, none']

theorem readDateTime_eq (id cell : String) :
    Temporal.readDateTime catalog id cell = Temporal.readDateTime builtin id cell := by
  unfold Temporal.readDateTime
  rcases rearranged.dateTimeFormats_cases id with
    ⟨formats, formats', known, known', perm⟩ | ⟨e, none, none'⟩
  · rw [known, known']
    show (Temporal.readFields formats cell >>= _) = (Temporal.readFields formats' cell >>= _)
    rw [(exclusive_dateTimeFormats known' cell).readFields_perm perm]
  · rw [none, none']

theorem readTime_eq (cell : String) :
    Temporal.readTime catalog cell = Temporal.readTime builtin cell := by
  unfold Temporal.readTime
  rw [(exclusive_times cell).readFields_perm rearranged.times]

end Rearranged

/-- **No cell is recognized by two formats of a built-in sequence**, and so the order of the
formats does not matter: a catalog that has them in another order reads every cell alike. -/
theorem builtin_unambiguous {id : String} {formats : List Format}
    (sequence : builtin.dateFormats id = .ok formats ∨ builtin.dateTimeFormats id = .ok formats
      ∨ formats = builtin.times) (cell : String) :
    (∃ found, Format.allFor cell formats = .ok found ∧ found.length ≤ 1)
      ∧ (∀ formats' : List Format, formats'.Perm formats →
        Temporal.readFields formats' cell = Temporal.readFields formats cell)
      ∧ ∀ catalog : Catalog, Rearranged catalog.dates catalog.times →
        (∀ id, Temporal.readDate catalog id cell = Temporal.readDate builtin id cell)
        ∧ (∀ id, Temporal.readDateTime catalog id cell = Temporal.readDateTime builtin id cell)
        ∧ Temporal.readTime catalog cell = Temporal.readTime builtin cell
        ∧ Temporal.readDuration catalog cell = Temporal.readDuration builtin cell := by
  have exclusive : Format.Exclusive cell formats := by
    rcases sequence with known | known | rfl
    · exact exclusive_dateFormats known cell
    · exact exclusive_dateTimeFormats known cell
    · exact exclusive_times cell
  refine ⟨⟨_, Format.allFor_eq_recognizing exclusive.decided, exclusive.length_recognizing_le⟩,
    fun formats' same => exclusive.readFields_perm same, fun catalog rearranged => ?_⟩
  refine ⟨fun id => rearranged.readDate_eq id cell, fun id => rearranged.readDateTime_eq id cell,
    rearranged.readTime_eq cell, ?_⟩
  unfold Temporal.readDuration
  rw [rearranged.readTime_eq cell]

/-- The built-in sequences from their ends. -/
theorem rearranged_reverse :
    Rearranged (builtinDates.map fun entry => (entry.1, entry.2.reverse)) clockFormats.reverse where
  dates := List.forall₂_map_left_iff.mpr
    (List.forall₂_same.mpr fun entry _ => ⟨rfl, List.reverse_perm entry.2⟩)
  times := List.reverse_perm clockFormats

/-- A dash stands in two European layouts, of which one recognizes the cell. -/
theorem builtin_unambiguous_dashes :
    builtin.dateFormats "dmy" = .ok dayFirstFormats
      ∧ (∃ found, Format.allFor "03-04-2024" dayFirstFormats = .ok found ∧ found.length ≤ 1)
      ∧ Temporal.readDuration ⟨_, _, rearranged_reverse.checked⟩ "03-04-2024"
        = Temporal.readDuration builtin "03-04-2024" := by
  have known : builtin.dateFormats "dmy" = .ok dayFirstFormats := rfl
  obtain ⟨one, -, alike⟩ := builtin_unambiguous (Or.inl known) "03-04-2024"
  exact ⟨known, one, (alike _ rearranged_reverse).2.2.2⟩

end Catalog

end ColumnCast
