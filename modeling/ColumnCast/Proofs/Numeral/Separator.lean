import ColumnCast.Proofs.Decimal.Value

/-!
# `ColumnCast.Proofs.Numeral.Separator`: which point of a cell counts

Without its noise a cell is digits and points (`Written.kept`). Of the
points one counts at most: the first that stands right behind a digit.
`Written.Parts` says what a numeral is of such a text. All digits are in
it, in their order, those before that point and those behind it.

A text has one numeral (`Parts.unique`), and `Written.ofCell` finds it
(`parts_iff`).
-/

set_option autoImplicit false

namespace ColumnCast.Written

open Text (AreDigits)

/-- The digits and points of a cell. -/
def kept (cell : String) : List Char := cell.toList.filter isKept

theorem isKept_of_mem_kept {cell : String} {c : Char} (mem : c ∈ kept cell) : isKept c = true :=
  (List.mem_filter.mp mem).2

/-! ### Points behind digits -/

/-- Somewhere in the text a point stands right behind a digit. -/
def HasSeparator (text : List Char) : Prop :=
  ∃ front digit back, text = front ++ digit :: '.' :: back ∧ digit.isDigit = true

theorem not_hasSeparator_nil : ¬HasSeparator [] := by
  rintro ⟨front, digit, back, eq, -⟩
  simp at eq

theorem hasSeparator_cons_iff {c : Char} {text : List Char} :
    HasSeparator (c :: text)
      ↔ (c.isDigit = true ∧ text.head? = some '.') ∨ HasSeparator text := by
  constructor
  · rintro ⟨front, digit, back, eq, isDigit⟩
    cases front with
    | nil =>
        obtain ⟨rfl, rfl⟩ := List.cons.inj eq
        exact Or.inl ⟨isDigit, rfl⟩
    | cons d front =>
        obtain ⟨rfl, rfl⟩ := List.cons.inj eq
        exact Or.inr ⟨front, digit, back, rfl, isDigit⟩
  · rintro (⟨isDigit, point⟩ | ⟨front, digit, back, rfl, isDigit⟩)
    · obtain ⟨back, rfl⟩ := List.head?_eq_some_iff.mp point
      exact ⟨[], c, back, rfl, isDigit⟩
    · exact ⟨c :: front, digit, back, rfl, isDigit⟩

/-- Text is searched from its front. -/
def decideHasSeparator : (text : List Char) → Decidable (HasSeparator text)
  | [] => isFalse not_hasSeparator_nil
  | c :: text =>
    have : Decidable (HasSeparator text) := decideHasSeparator text
    decidable_of_iff _ (@hasSeparator_cons_iff c text).symm

instance : DecidablePred HasSeparator := decideHasSeparator

theorem HasSeparator.exists_digit {text : List Char} (found : HasSeparator text) :
    ∃ c ∈ text, c.isDigit = true := by
  obtain ⟨front, digit, back, rfl, isDigit⟩ := found
  exact ⟨digit, by simp, isDigit⟩

/-- Points in front of digits stand behind none. -/
theorem not_hasSeparator_leading {points digits : List Char} (allPoints : ∀ c ∈ points, c = '.')
    (allDigits : AreDigits digits) : ¬HasSeparator (points ++ digits) := by
  induction points with
  | nil =>
      rintro ⟨front, digit, back, eq, -⟩
      have point : '.' ∈ digits := by
        rw [← List.nil_append digits, eq]
        simp
      exact absurd (allDigits _ point) (by decide)
  | cons c points ih =>
      obtain rfl := allPoints c List.mem_cons_self
      rw [List.cons_append, hasSeparator_cons_iff]
      rintro (⟨isDigit, -⟩ | later)
      · exact absurd isDigit (by decide)
      · exact ih (fun d mem => allPoints d (List.mem_cons_of_mem _ mem)) later

/-! ### Numerals of digits and points -/

/-- The digits of a text, parted where the first point right behind a digit stands. -/
inductive Parts : List Char → Written → Prop
  | whole {text : List Char} (none : ¬HasSeparator text) : Parts text ⟨text.filter Char.isDigit, []⟩
  | parted {front back : List Char} {digit : Char} (isDigit : digit.isDigit = true)
      (first : ¬HasSeparator (front ++ [digit])) :
      Parts (front ++ digit :: '.' :: back)
        ⟨(front ++ [digit]).filter Char.isDigit, back.filter Char.isDigit⟩

theorem Parts.fraction_eq_nil {text : List Char} {w : Written} (parts : Parts text w)
    (none : ¬HasSeparator text) : w.fraction = [] := by
  cases parts with
  | whole => rfl
  | parted isDigit => exact absurd ⟨_, _, _, rfl, isDigit⟩ none

/-- Two points that are the first behind a digit are one. -/
theorem first_unique {front front' back back' : List Char} {digit digit' : Char}
    (isDigit : digit.isDigit = true) (isDigit' : digit'.isDigit = true)
    (first' : ¬HasSeparator (front' ++ [digit']))
    (eq : front ++ digit :: '.' :: back = front' ++ digit' :: '.' :: back')
    (shorter : front.length ≤ front'.length) :
    front = front' ∧ digit = digit' ∧ back = back' := by
  obtain ⟨between, rfl, behind⟩ | ⟨between, rfl, behind⟩ := List.append_eq_append_iff.mp eq
  · -- Were there anything between, the one point would stand inside the other's front.
    match between with
    | [] => simpa using behind
    | [d] =>
        obtain ⟨-, point, -⟩ : digit = d ∧ '.' = digit' ∧ back = '.' :: back' := by
          simpa using behind
        rw [← point] at isDigit'
        exact absurd isDigit' (by decide)
    | d :: point :: between =>
        obtain ⟨rfl, rfl, -⟩ : digit = d ∧ '.' = point ∧ back = between ++ digit' :: '.' :: back' := by
          simpa using behind
        exact absurd ⟨front, digit, between ++ [digit'], by simp, isDigit⟩ first'
  · rw [List.length_append] at shorter
    obtain rfl : between = [] := List.eq_nil_of_length_eq_zero (by omega)
    simpa [eq_comm] using behind

theorem Parts.unique {text : List Char} {w w' : Written} (parts : Parts text w)
    (parts' : Parts text w') : w = w' := by
  cases parts with
  | whole none =>
      cases parts' with
      | whole => rfl
      | parted isDigit => exact absurd ⟨_, _, _, rfl, isDigit⟩ none
  | @parted front back digit isDigit first =>
      generalize eq : front ++ digit :: '.' :: back = text at parts'
      cases parts' with
      | whole none => exact absurd ⟨_, _, _, eq.symm, isDigit⟩ none
      | @parted front' back' digit' isDigit' first' =>
          rcases Nat.le_total front.length front'.length with shorter | shorter
          · obtain ⟨rfl, rfl, rfl⟩ := first_unique isDigit isDigit' first' eq shorter
            rfl
          · obtain ⟨rfl, rfl, rfl⟩ := first_unique isDigit' isDigit first eq.symm shorter
            rfl

/-! ### Numerals of cells -/

theorem eq_point_of_isKept {c : Char} (kept : isKept c = true) (other : c.isDigit = false) :
    c = '.' := by
  unfold isKept at kept
  rw [other, Bool.false_or, beq_iff_eq] at kept
  exact kept

/-- What is kept and begins with no point begins with digits, and a point stands behind them. -/
theorem dropWhile_isDigit_cases {started : List Char} (kept : ∀ c ∈ started, isKept c = true)
    (notPoint : ∀ c ∈ started.head?, c ≠ '.') :
    started.dropWhile Char.isDigit = []
      ∨ started.takeWhile Char.isDigit ≠ []
        ∧ ∃ more, started.dropWhile Char.isDigit = '.' :: more := by
  cases rest : started.dropWhile Char.isDigit with
  | nil => exact Or.inl rfl
  | cons c more =>
      refine Or.inr ⟨?_, more, ?_⟩
      · obtain ⟨d, tail, rfl⟩ : ∃ d tail, started = d :: tail :=
          List.exists_cons_of_ne_nil fun empty => by simp [empty] at rest
        have isDigit : d.isDigit = true := by
          by_contra other
          exact notPoint d rfl
            (eq_point_of_isKept (kept d List.mem_cons_self) (Bool.not_eq_true _ ▸ other))
        simp [isDigit]
      · have mem : c ∈ started := (List.dropWhile_suffix Char.isDigit).subset
          (rest ▸ List.mem_cons_self)
        have other := List.head?_dropWhile_not Char.isDigit started
        rw [rest] at other
        rw [eq_point_of_isKept (kept c mem) (by simpa using other)]

/-- Of what is kept of a cell, points come first, then the whole part. What follows begins with
a point, if anything does, and holds the fraction. -/
theorem exists_kept (cell : String) :
    ∃ points rest, kept cell = points ++ ((ofCell cell).whole ++ rest)
      ∧ (∀ c ∈ points, c = '.')
      ∧ rest.filter Char.isDigit = (ofCell cell).fraction
      ∧ (rest = [] ∨ (ofCell cell).whole ≠ [] ∧ ∃ more, rest = '.' :: more) := by
  have inside : ∀ c ∈ (kept cell).dropWhile (· == '.'), isKept c = true :=
    fun c mem => isKept_of_mem_kept ((List.dropWhile_suffix _).subset mem)
  refine ⟨(kept cell).takeWhile (· == '.'),
    ((kept cell).dropWhile (· == '.')).dropWhile Char.isDigit, ?_,
    fun c mem => beq_iff_eq.mp (List.mem_takeWhile_imp (p := (· == '.')) mem), rfl,
    dropWhile_isDigit_cases inside ?_⟩
  · have whole : (ofCell cell).whole
        = ((kept cell).dropWhile (· == '.')).takeWhile Char.isDigit := rfl
    rw [whole, List.takeWhile_append_dropWhile, List.takeWhile_append_dropWhile]
  · intro c first
    have head := List.head?_dropWhile_not (· == '.') (kept cell)
    rw [Option.mem_def.mp first] at head
    simpa using head

/-- Only the digits of points and digits are digits. -/
theorem filter_leading {points digits : List Char} (allPoints : ∀ c ∈ points, c = '.')
    (allDigits : AreDigits digits) : (points ++ digits).filter Char.isDigit = digits := by
  have noDigit : points.filter Char.isDigit = [] :=
    List.filter_eq_nil_iff.mpr fun c mem => by simp [allPoints c mem]
  rw [List.filter_append, noDigit, List.nil_append, List.filter_eq_self.mpr allDigits]

theorem parts_ofCell (cell : String) : Parts (kept cell) (ofCell cell) := by
  obtain ⟨points, rest, eq, allPoints, fraction, follows⟩ := exists_kept cell
  have whole : AreDigits (ofCell cell).whole := fun c mem => List.mem_takeWhile_imp mem
  generalize ofCell cell = w at eq fraction follows whole ⊢
  obtain ⟨digits, behind⟩ := w
  obtain rfl | ⟨inhabited, more, rfl⟩ := follows
  · -- No point stands behind a digit.
    obtain rfl : behind = [] := fraction.symm
    rw [List.append_nil] at eq
    have none := not_hasSeparator_leading allPoints whole
    have parts := Parts.whole (eq ▸ none)
    rw [eq, filter_leading allPoints whole] at parts
    rw [eq]
    exact parts
  · obtain ⟨init, digit, rfl⟩ := List.eq_nil_or_concat digits |>.resolve_left inhabited
    have isDigit : digit.isDigit = true := whole digit (by simp)
    have first := not_hasSeparator_leading allPoints whole
    rw [List.concat_eq_append, ← List.append_assoc] at first
    have parts := @Parts.parted _ more _ isDigit first
    have all := filter_leading allPoints whole
    rw [List.concat_eq_append, ← List.append_assoc] at all
    rw [all] at parts
    have behindPoint : more.filter Char.isDigit = behind := fraction
    rw [behindPoint] at parts
    simpa [eq] using parts

/-- **A cell writes the one numeral of its digits and points.** -/
theorem parts_iff {cell : String} {w : Written} : Parts (kept cell) w ↔ w = ofCell cell :=
  ⟨fun parts => parts.unique (parts_ofCell cell), fun eq => eq ▸ parts_ofCell cell⟩

/-- Cells with the same digits and points write the same. -/
theorem ofCell_eq_of_kept_eq {cell other : String} (same : kept other = kept cell) :
    ofCell other = ofCell cell :=
  parts_iff.mp (same ▸ parts_ofCell other)

end ColumnCast.Written
