import ColumnCast.Proofs.Decimal.Rounding
import ColumnCast.Proofs.Numeral.Separator
import ColumnCast.Proofs.Sql.Arithmetic

/-!
# `ColumnCast.Proofs.Numeral.Extraction`: what four replacements leave of a cell

`Numeral.extract` makes a numeral of any text by four replacements. Each
of them is a function on texts: a filter for those that remove, and
`marked` and `unmarked` for those that set the marker and turn it into a
point. `extracted` is all four in a row.

Of digits and points only the first point behind a digit is marked
(`marked_first`), so what is left is the numeral that `Written.Parts` says
a cell writes, with its separator also where no digit follows
(`extracted_of_parts`). So a `DECIMAL` is cast from it
(`numeral?_extracted`), and the value of the whole expression is the number
that the cell writes (`value?_extract`). `extraction_keeps` puts the
expression beside `Numeral.ofCell?`: both see the digits and points only,
and read the same numeral of them.
-/

set_option autoImplicit false

namespace ColumnCast.Numeral

open Sql (Datum Expr Grouped Piece substitute replaced?)
open Regex (CharSet)
open Text (AreDigits)
open Written (HasSeparator Parts isKept kept)

/-! ### The patterns -/

/-- The digits, as a class of a pattern. -/
def digitClass : CharSet := .union (.range '0' '9') .none

/-- The digits and the point, as a class of a pattern. -/
def keptClass : CharSet := .union (.single '.') digitClass

theorem contains_single {c d : Char} : (CharSet.single c).contains d = (d == c) := by
  rw [Bool.eq_iff_iff, beq_iff_eq]
  show (decide (c ≤ d) && decide (d ≤ c)) = true ↔ d = c
  rw [Bool.and_eq_true, decide_eq_true_iff, decide_eq_true_iff]
  exact ⟨fun ⟨le, ge⟩ => Char.le_antisymm ge le, fun eq => eq ▸ ⟨Char.le_refl _, Char.le_refl _⟩⟩

theorem contains_digitClass (c : Char) : digitClass.contains c = c.isDigit := by
  show (decide ('0' ≤ c) && decide (c ≤ '9') || false) = c.isDigit
  rw [Bool.or_false]
  rfl

theorem contains_keptClass (c : Char) : keptClass.contains c = isKept c := by
  show ((CharSet.single '.').contains c || digitClass.contains c) = (c.isDigit || c == '.')
  rw [contains_single, contains_digitClass, Bool.or_comm]

theorem ofChars?_noisePattern :
    Grouped.ofChars? noisePattern.toList = some ⟨.empty, .one (.complement keptClass)⟩ := rfl

theorem ofChars?_separatorPattern :
    Grouped.ofChars? separatorPattern.toList
      = some ⟨.one digitClass, .one (.single '.')⟩ := rfl

theorem ofChars?_point : Grouped.ofChars? "\\.".toList = some ⟨.empty, .one (.single '.')⟩ := rfl

theorem ofChars?_marker : Grouped.ofChars? marker.toList = some ⟨.empty, .one (.single '~')⟩ := rfl

/-! ### The replacements -/

/-- The first point behind a digit turned into the marker. -/
def marked : List Char → List Char
  | [] => []
  | [c] => [c]
  | c :: d :: rest =>
    if c.isDigit ∧ d = '.' then c :: '~' :: rest else c :: marked (d :: rest)

/-- The first marker turned into a point. -/
def unmarked : List Char → List Char
  | [] => []
  | c :: rest => if c = '~' then '.' :: rest else c :: unmarked rest

theorem replaced?_noise (content : String) :
    replaced? noisePattern "" .all content
      = some (String.ofList (content.toList.filter isKept)) := by
  have same : (fun c => !(CharSet.complement keptClass).contains c) = isKept := by
    funext c
    rw [CharSet.contains, contains_keptClass, Bool.not_not]
  unfold replaced?
  rw [ofChars?_noisePattern, ← same, ← Sql.substitute_all_one _ 0 none]
  rfl

theorem substitute_separator (text : List Char) (position : Nat) (before : Option Char) :
    substitute ⟨.one digitClass, .one (.single '.')⟩ [.captured, .char '~'] .first 0 position
      before text = marked text := by
  induction text generalizing position before with
  | nil => rw [Sql.substitute_pair_nil, marked]
  | cons c text ih =>
      cases text with
      | nil =>
          rw [Sql.substitute_pair_cons _ _ _ _ _ _ (by simp [Sql.isPair]), marked,
            Sql.substitute_pair_nil]
      | cons d rest =>
          rw [marked]
          by_cases pair : c.isDigit = true ∧ d = '.'
          · have found : digitClass.contains c = true := by rw [contains_digitClass, pair.1]
            have follows : (CharSet.single '.').contains d = true := by
              rw [contains_single, pair.2, beq_self_eq_true]
            rw [if_pos pair, Sql.substitute_first_pair _ _ _ _ _ found follows]
            rfl
          · rw [if_neg pair, Sql.substitute_pair_cons, ih]
            simpa [Sql.isPair, contains_digitClass, contains_single] using pair

theorem replaced?_separator (content : String) :
    replaced? separatorPattern ("\\1" ++ marker) .first content
      = some (String.ofList (marked content.toList)) := by
  unfold replaced?
  rw [ofChars?_separatorPattern, ← substitute_separator _ 0 none]
  rfl

theorem replaced?_points (content : String) :
    replaced? "\\." "" .all content = some (String.ofList (content.toList.filter (· != '.'))) := by
  have same : (fun c => !(CharSet.single '.').contains c) = (· != '.') := by
    funext c
    rw [contains_single]
    rfl
  unfold replaced?
  rw [ofChars?_point, ← same, ← Sql.substitute_all_one _ 0 none]
  rfl

theorem substitute_marker (text : List Char) (position : Nat) (before : Option Char) :
    substitute ⟨.empty, .one (.single '~')⟩ [.char '.'] .first 0 position before text
      = unmarked text := by
  induction text generalizing position before with
  | nil => exact Sql.substitute_first_none _ _ _ _ (by simp)
  | cons c rest ih =>
      rw [unmarked]
      by_cases found : c = '~'
      · rw [if_pos found]
        have isMarker : (CharSet.single '~').contains c = true := by
          rw [contains_single, found, beq_self_eq_true]
        exact @Sql.substitute_first_one _ _ _ _ [] (by simp) c isMarker rest
      · rw [if_neg found, substitute, Sql.match?_one_cons, contains_single,
          if_neg (by simpa using found)]
        exact congrArg _ (ih _ _)

theorem replaced?_marker (content : String) :
    replaced? marker "." .first content = some (String.ofList (unmarked content.toList)) := by
  unfold replaced?
  rw [ofChars?_marker, ← substitute_marker _ 0 none]
  rfl

/-- The four replacements, one in the other. -/
def replacements (source : Expr) : Expr :=
  let digits := Expr.replace source noisePattern "" .all
  let marked := Expr.replace digits separatorPattern ("\\1" ++ marker) .first
  let unpointed := Expr.replace marked "\\." "" .all
  .replace unpointed marker "." .first

theorem extract_eq (source : Expr) :
    extract source = .cast (.nullIfEmpty (replacements source)) .decimal := rfl

/-- What the four replacements leave of a cell. -/
def extracted (cell : List Char) : List Char :=
  unmarked ((marked (cell.filter isKept)).filter (· != '.'))

/-! ### What is left -/

/-- A character that no point behind a digit begins with is passed over. -/
theorem marked_cons {c : Char} {text : List Char}
    (other : ¬(c.isDigit = true ∧ text.head? = some '.')) : marked (c :: text) = c :: marked text := by
  cases text with
  | nil => rfl
  | cons d rest =>
      rw [marked, if_neg]
      simpa using other

theorem marked_eq_self {text : List Char} (none : ¬HasSeparator text) : marked text = text := by
  induction text with
  | nil => rfl
  | cons c text ih =>
      rw [Written.hasSeparator_cons_iff, not_or] at none
      rw [marked_cons none.1, ih none.2]

/-- The first point behind a digit is marked. -/
theorem marked_first {front : List Char} {digit : Char} (isDigit : digit.isDigit = true)
    (first : ¬HasSeparator (front ++ [digit])) (back : List Char) :
    marked (front ++ digit :: '.' :: back) = front ++ digit :: '~' :: back := by
  induction front with
  | nil => exact if_pos ⟨isDigit, rfl⟩
  | cons c front ih =>
      rw [List.cons_append, Written.hasSeparator_cons_iff, not_or] at first
      have head : (front ++ digit :: '.' :: back).head? = (front ++ [digit]).head? := by
        cases front <;> rfl
      rw [List.cons_append, marked_cons (by rw [head]; exact first.1), ih first.2,
        List.cons_append]

theorem unmarked_append {front : List Char} (absent : '~' ∉ front) (rest : List Char) :
    unmarked (front ++ '~' :: rest) = front ++ '.' :: rest := by
  induction front with
  | nil => rfl
  | cons c front ih =>
      rw [List.mem_cons, not_or] at absent
      rw [List.cons_append, unmarked, if_neg fun same => absent.1 same.symm, ih absent.2,
        List.cons_append]

theorem unmarked_of_absent {text : List Char} (absent : '~' ∉ text) : unmarked text = text := by
  induction text with
  | nil => rfl
  | cons c text ih =>
      rw [List.mem_cons, not_or] at absent
      rw [unmarked, if_neg fun same => absent.1 same.symm, ih absent.2]

/-- The marker is no digit. -/
theorem not_mem_filter_isDigit (text : List Char) : '~' ∉ text.filter Char.isDigit := fun mem =>
  absurd (List.mem_filter.mp mem).2 (by decide)

/-- Of digits and points, the digits are left without the points. -/
theorem filter_points {text : List Char} (kept : ∀ c ∈ text, isKept c = true) :
    text.filter (· != '.') = text.filter Char.isDigit := by
  refine List.filter_congr fun c mem => ?_
  by_cases isDigit : c.isDigit = true
  · rw [isDigit, bne_iff_ne]
    rintro rfl
    exact absurd isDigit (by decide)
  · have other : c.isDigit = false := by simpa using isDigit
    rw [other, Written.eq_point_of_isKept (kept c mem) other]
    rfl

/-- **The numeral of the digits and points is left**, with its separator if there is one: also
at the end, where no digit follows. -/
theorem extracted_of_parts {cell : String} {w : Written} (parts : Parts (kept cell) w) :
    extracted cell.toList
      = if HasSeparator (kept cell) then w.whole ++ '.' :: w.fraction else w.whole := by
  have inside : ∀ c ∈ kept cell, isKept c = true := fun c mem => Written.isKept_of_mem_kept mem
  show unmarked ((marked (kept cell)).filter (· != '.')) = _
  generalize kept cell = text at parts inside ⊢
  cases parts with
  | whole none =>
      -- Nothing is marked, and the points that are left stand behind no digit.
      rw [if_neg none, marked_eq_self none, filter_points inside,
        unmarked_of_absent (not_mem_filter_isDigit _)]
  | @parted front back digit isDigit first =>
      have before : ∀ c ∈ front ++ [digit], isKept c = true :=
        fun c mem => inside c (by simp only [List.mem_append, List.mem_cons] at mem ⊢; tauto)
      have behind : ∀ c ∈ back, isKept c = true := fun c mem => inside c (by simp [mem])
      have found : HasSeparator (front ++ digit :: '.' :: back) := ⟨_, _, _, rfl, isDigit⟩
      -- The marker is neither point nor digit: it outlasts the points, and is then the only one.
      rw [if_pos found, marked_first isDigit first, ← List.singleton_append, ← List.append_assoc,
        List.filter_append, filter_points before, List.filter_cons_of_pos (by decide),
        filter_points behind, unmarked_append (not_mem_filter_isDigit _)]

/-! ### Its value -/

/-- Nothing is left of a cell without a digit. -/
theorem extracted_of_whole_eq_nil {cell : String} (empty : (Written.ofCell cell).whole = []) :
    extracted cell.toList = [] := by
  have noDigit := Written.whole_ofCell_eq_nil_iff.mp empty
  have none : ¬HasSeparator (kept cell) := fun found => by
    obtain ⟨c, mem, isDigit⟩ := found.exists_digit
    rw [noDigit c (List.mem_filter.mp mem).1] at isDigit
    exact absurd isDigit (by simp)
  rw [extracted_of_parts (Written.parts_ofCell cell), if_neg none, empty]

theorem numeral?_digits {whole : List Char} (digits : AreDigits whole) (inhabited : whole ≠ []) :
    Datum.numeral? whole = some ⟨whole, []⟩ := by
  unfold Datum.numeral?
  rw [List.takeWhile_eq_self_iff.mpr digits, List.dropWhile_eq_nil_iff.mpr digits]
  simp only [List.isEmpty_iff, inhabited, if_false]

theorem numeral?_pointed {whole : List Char} (digits : AreDigits whole) (inhabited : whole ≠ [])
    {fraction : List Char} (more : AreDigits fraction) :
    Datum.numeral? (whole ++ '.' :: fraction) = some ⟨whole, fraction⟩ := by
  have point : ('.' : Char).isDigit = false := by decide
  unfold Datum.numeral?
  rw [List.takeWhile_append_of_pos digits, List.dropWhile_append_of_pos digits,
    List.takeWhile_cons_of_neg (by simp [point]), List.dropWhile_cons_of_neg (by simp [point]),
    List.append_nil]
  simp only [List.isEmpty_iff, inhabited, if_false]
  rw [if_pos ⟨trivial, List.all_eq_true.mpr more⟩]

/-- **The cast to `DECIMAL` accepts what is left** of a cell with a digit. -/
theorem numeral?_extracted {cell : String} (inhabited : (Written.ofCell cell).whole ≠ []) :
    Datum.numeral? (extracted cell.toList) = some (Written.ofCell cell) := by
  have proper := Written.proper_ofCell inhabited
  have parts := Written.parts_ofCell cell
  rw [extracted_of_parts parts]
  split
  · exact numeral?_pointed proper.whole proper.inhabited proper.fraction
  · rename_i none
    have whole := numeral?_digits proper.whole proper.inhabited
    rw [← parts.fraction_eq_nil none] at whole
    exact whole

section Value

variable {raw : String → Option String} {sql : String}

/-- The text that the four replacements hand on. -/
theorem value?_replacements {cell : String} (known : raw sql = some cell) (bound : Option Datum) :
    (replacements (.source sql)).value? raw bound
      = some (.text (String.ofList (extracted cell.toList))) := by
  unfold replacements
  simp only [Expr.value?, known, Datum.ofText?, Datum.replace?, Option.bind_some, Option.map_some,
    replaced?_noise, replaced?_separator, replaced?_points, replaced?_marker, String.toList_ofList]
  rfl

/-- The expression casts what the four replacements leave. -/
theorem value?_extract_text {cell : String} (known : raw sql = some cell) (bound : Option Datum) :
    (extract (.source sql)).value? raw bound
      = Datum.convert? .decimal
        (if String.ofList (extracted cell.toList) = "" then .null
          else .text (String.ofList (extracted cell.toList))) := by
  rw [extract_eq, Expr.value?, Expr.value?, value?_replacements known]
  rfl

/-- A source that is `NULL` or has no digit is `NULL`. -/
theorem value?_extract_null
    (nothing : ∀ cell ∈ raw sql, ∀ c ∈ cell.toList, c.isDigit = false) (bound : Option Datum) :
    (extract (.source sql)).value? raw bound = some .null := by
  cases known : raw sql with
  | none => simp [extract, Expr.value?, known, Datum.ofText?, Datum.replace?, Datum.nullIfEmpty?,
      Datum.convert?]
  | some cell =>
      have empty := Written.whole_ofCell_eq_nil_iff.mpr (nothing cell known)
      rw [value?_extract_text known, extracted_of_whole_eq_nil empty]
      rfl

/-- **A source with a digit is the number that it writes.** -/
theorem value?_extract {cell : String} (known : raw sql = some cell)
    (hasDigit : ∃ c ∈ cell.toList, c.isDigit = true) (bound : Option Datum) :
    (extract (.source sql)).value? raw bound = some (.number (Written.ofCell cell).number) := by
  have read := numeral?_extracted (Written.proper_of_digit hasDigit).inhabited
  rw [value?_extract_text known, if_neg]
  · rw [Datum.convert?, String.toList_ofList, read]
    rfl
  · intro nothing
    rw [← String.toList_inj, String.toList_ofList] at nothing
    rw [nothing] at read
    exact absurd read (by simp [Datum.numeral?])

end Value

/-! ### What extraction keeps -/

/-- The number that digits are read as. -/
def ofWritten (w : Written) : Numeral :=
  match Decimal.read? w.text with
  | some value => exact value.normalize
  | none => wide (String.ofList w.canonical)

theorem ofCell?_eq_ofWritten {cell : String} (inhabited : (Written.ofCell cell).whole ≠ []) :
    ofCell? cell = some (ofWritten (Written.ofCell cell)) := by
  unfold ofCell? ofWritten
  dsimp only
  rw [if_neg (by simpa using inhabited)]
  cases Decimal.read? (Written.ofCell cell).text <;> rfl

/-- A separator that no digit follows is left at the end. -/
theorem extracted_eq_text {cell : String} {w : Written} (parts : Parts (kept cell) w) :
    extracted cell.toList
      = if HasSeparator (kept cell) ∧ w.fraction = [] then w.text ++ ['.'] else w.text := by
  rw [extracted_of_parts parts]
  unfold Written.text
  by_cases found : HasSeparator (kept cell)
  · cases fraction : w.fraction with
    | nil => simp [found]
    | cons c digits => simp [found]
  · simp [found, parts.fraction_eq_nil found]

theorem extracted_congr {cell other : String} (same : kept other = kept cell) :
    extracted other.toList = extracted cell.toList := by
  show unmarked ((marked (kept other)).filter (· != '.')) = _
  rw [same]
  rfl

/-- The digits of a cell are among what is kept. -/
theorem whole_eq_nil_iff_kept {cell : String} :
    (Written.ofCell cell).whole = [] ↔ ∀ c ∈ kept cell, c.isDigit = false := by
  rw [Written.whole_ofCell_eq_nil_iff]
  constructor
  · intro noDigit c mem
    exact noDigit c (List.mem_filter.mp mem).1
  · intro noDigit c mem
    by_contra isDigit
    rw [Bool.not_eq_false] at isDigit
    have inside : c ∈ kept cell := List.mem_filter.mpr ⟨mem, Written.isKept_of_isDigit isDigit⟩
    rw [noDigit c inside] at isDigit
    exact absurd isDigit (by simp)

end ColumnCast.Numeral
