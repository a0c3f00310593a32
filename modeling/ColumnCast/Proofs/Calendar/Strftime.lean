import ColumnCast.Proofs.Calendar.Token
import ColumnCast.Proofs.Traversal

/-!
# `ColumnCast.Proofs.Calendar.Strftime`: templates with percent signs, read back

A token is turned into a format with percent signs (`Template.strftime`),
and such a format has a syntax of its own: `Strftime.pieces` is a reader of
it. A percent sign goes with a letter, or with a modifier and a letter;
white space is read by runs, and so is all other text; a percent sign
before anything else is an error.

The theory has two halves.

* What a token means is said without the scanner. `Scans` takes the longest
  field name at each point, and else one character; `scans_iff` shows that
  `Template.ofToken` gives just that, and that a token has one meaning.
* What a format means is said by its pieces. `Strftime.template?_strftime`
  shows that a template is read back from what was written: a directive
  never takes a character from the text behind it, and the text never makes
  a directive.

`strftime_ofToken_faithful` joins the two.
-/

set_option autoImplicit false

namespace ColumnCast

/-! ### Formats with percent signs -/

namespace Strftime

/-- What a format with percent signs consists of. -/
inductive Piece
  /-- A percent sign with these characters behind it: a letter, or a modifier and a letter. -/
  | directive (spelling : List Char)
  /-- Text that stands for itself. -/
  | literal (text : List Char)
  /-- White space, which stands for any blanks or for none. -/
  | space (text : List Char)
  /-- A percent sign that begins no directive. -/
  | error
  deriving DecidableEq, Repr

/-- The letters of numbers, which may have a mark for their padding. -/
def numbers : List Char := "CGHIMSUVWYdefgjklmqsuwy".toList

/-- The letters of names, of zones, and of dates and times as a whole. -/
def compounds : List Char := "ABDFPRTXZabchprvxz+".toList

/-- The marks for padding: none, zeros or blanks. -/
def paddings : List Char := "-0_".toList

/-- The directives that are neither a letter nor a padded one: zones and fractions of a second. -/
def longer : List (List Char) :=
  [":::z", "::z", ":z", "#z", ".3f", ".6f", ".9f", ".f", "3f", "6f", "9f"].map String.toList

/-- What begins with a percent sign, and what follows it. What an error leaves does not matter. -/
def readDirective : List Char → Piece × List Char
  | [] => (.error, [])
  | c :: rest =>
    if c = '%' then (.literal ['%'], rest)
    else if c = 'n' then (.space ['\n'], rest)
    else if c = 't' then (.space ['\t'], rest)
    else if c ∈ numbers ∨ c ∈ compounds then (.directive [c], rest)
    else if c ∈ paddings ∧ rest.head?.any (· ∈ numbers) then
      (.directive (c :: rest.take 1), rest.drop 1)
    else
      match longer.find? (·.isPrefixOf (c :: rest)) with
      | some spelling => (.directive spelling, (c :: rest).drop spelling.length)
      | none => (.error, rest)

theorem length_readDirective_le (text : List Char) :
    (readDirective text).2.length ≤ text.length := by
  cases text with
  | nil => exact Nat.le_refl 0
  | cons c rest =>
      unfold readDirective
      dsimp only
      split_ifs
      iterate 4 · simp
      · simp only [List.length_drop, List.length_cons]
        omega
      · split <;> simp

/-- Does the character stand for itself? -/
def isPlain (c : Char) : Bool := !Text.isBlank c && c != '%'

/-- The pieces of a format. -/
def pieces : List Char → List Piece
  | [] => []
  | c :: rest =>
    if c = '%' then (readDirective rest).1 :: pieces (readDirective rest).2
    else if Text.isBlank c then
      .space (c :: rest.takeWhile Text.isBlank) :: pieces (rest.dropWhile Text.isBlank)
    else .literal (c :: rest.takeWhile isPlain) :: pieces (rest.dropWhile isPlain)
termination_by format => format.length
decreasing_by
  · exact Nat.lt_succ_of_le (length_readDirective_le rest)
  · exact Nat.lt_succ_of_le (List.dropWhile_sublist _).length_le
  · exact Nat.lt_succ_of_le (List.dropWhile_sublist _).length_le

/-- The field that a directive asks for, where templates have it. -/
def field? : List Char → Option Field
  | ['Y'] => some .year
  | ['y'] => some .shortYear
  | ['m'] => some .month
  | ['b'] | ['h'] => some .monthAbbreviation
  | ['B'] => some .monthName
  | ['d'] => some .day
  | ['H'] => some .hour24
  | ['I'] => some .hour12
  | ['M'] => some .minute
  | ['S'] => some .second
  | ['.', 'f'] => some .fraction
  | ['p'] => some .meridiem
  | _ => none

/-- The items of a piece. An error has none, nor has a directive that templates do not have. -/
def Piece.items? : Piece → Option Template
  | .directive spelling => (field? spelling).map fun f => [.field f]
  | .literal text | .space text => some (text.map .literal)
  | .error => none

/-- The template that the pieces of a format make up. -/
def items? (format : List Char) : Option Template :=
  ((pieces format).mapM Piece.items?).map List.flatten

/-- The template of a format with percent signs. -/
def template? (format : String) : Option Template := items? format.toList

/-! ### Reading by characters -/

theorem items?_nil : items? [] = some [] := by
  unfold items?
  rw [pieces]
  rfl

theorem items?_of_pieces {format behind : List Char} {piece : Piece} {items : Template}
    (split : pieces format = piece :: pieces behind) (read : piece.items? = some items) :
    items? format = (items? behind).map (items ++ ·) := by
  unfold items?
  rw [split, List.mapM_cons, read]
  cases (pieces behind).mapM Piece.items? <;> rfl

theorem items?_percent (rest : List Char) :
    items? ('%' :: '%' :: rest) = (items? rest).map (.literal '%' :: ·) := by
  have split : pieces ('%' :: '%' :: rest) = .literal ['%'] :: pieces rest := by
    rw [pieces]
    rfl
  exact items?_of_pieces split rfl

/-- A letter behind a percent sign is a directive, whatever stands behind the letter. -/
theorem items?_field {f : Field} (standard : f ≠ .fraction) (rest : List Char) :
    items? ('%' :: Template.Field.letter f :: rest) = (items? rest).map (.field f :: ·) := by
  have split : pieces ('%' :: Template.Field.letter f :: rest)
      = .directive [Template.Field.letter f] :: pieces rest := by
    rw [pieces]
    cases f <;> rfl
  have read : (Piece.directive [Template.Field.letter f]).items? = some [.field f] := by
    cases f with
    | fraction => exact absurd rfl standard
    | _ => rfl
  exact items?_of_pieces split read

/-- Characters of one kind that are read by runs may be taken off one after the other. -/
theorem items?_run {kind : Char → Bool} (piece : List Char → Piece)
    (read : ∀ text, (piece text).items? = some (text.map .literal))
    (split : ∀ c rest, kind c = true →
      pieces (c :: rest) = piece (c :: rest.takeWhile kind) :: pieces (rest.dropWhile kind))
    {c : Char} (of : kind c = true) (rest : List Char) :
    items? (c :: rest) = (items? rest).map (.literal c :: ·) := by
  have run := items?_of_pieces (split c rest of) (read _)
  rw [run]
  cases rest with
  | nil => rw [List.takeWhile_nil, List.dropWhile_nil]; rfl
  | cons d rest =>
      cases same : kind d with
      | false => rw [List.takeWhile_cons_of_neg (by simp [same]),
          List.dropWhile_cons_of_neg (by simp [same])]; rfl
      | true =>
          -- The run behind `c` is the one that begins with `d`.
          rw [items?_of_pieces (split d rest same) (read _), List.takeWhile_cons_of_pos same,
            List.dropWhile_cons_of_pos same, Option.map_map]
          rfl

/-- Text other than a percent sign stands for itself, whatever it stands between. -/
theorem items?_literal {c : Char} (unmarked : c ≠ '%') (rest : List Char) :
    items? (c :: rest) = (items? rest).map (.literal c :: ·) := by
  have percent : Text.isBlank '%' = false := by decide
  cases blank : Text.isBlank c with
  | true =>
      refine items?_run .space (fun _ => rfl) (fun d rest isBlank => ?_) blank rest
      have other : d ≠ '%' := by
        rintro rfl
        exact absurd (isBlank.symm.trans percent) (by simp)
      rw [pieces, if_neg other, if_pos isBlank]
  | false =>
      refine items?_run .literal (fun _ => rfl) (fun d rest isPlain => ?_)
        (by simp [isPlain, blank, unmarked] : isPlain c = true) rest
      simp only [Strftime.isPlain, Bool.and_eq_true, Bool.not_eq_true', bne_iff_ne] at isPlain
      rw [pieces, if_neg isPlain.2, if_neg (by simp [isPlain.1])]

theorem toList_strftime_field (f : Field) (items : Template) :
    (Template.strftime (.field f :: items)).toList
      = '%' :: Template.Field.letter f :: (Template.strftime items).toList := by
  simp [Template.strftime]

theorem toList_strftime_literal (c : Char) (items : Template) :
    (Template.strftime (.literal c :: items)).toList
      = (if c = '%' then ['%', '%'] else [c]) ++ (Template.strftime items).toList := by
  simp [Template.strftime]

/-- **A template is read back** from the format it is written as. -/
theorem template?_strftime {template : Template} (standard : Item.field .fraction ∉ template) :
    template? (Template.strftime template) = some template := by
  induction template with
  | nil => exact items?_nil
  | cons item items ih =>
      rw [List.mem_cons, not_or] at standard
      have behind : items? (Template.strftime items).toList = some items := ih standard.2
      show items? (Template.strftime (item :: items)).toList = some (item :: items)
      cases item with
      | field f =>
          have own : f ≠ .fraction := fun fraction => standard.1 (by rw [fraction])
          rw [toList_strftime_field, items?_field own, behind]
          rfl
      | literal c =>
          rw [toList_strftime_literal]
          split_ifs with percent
          · subst percent
            show items? ('%' :: '%' :: (Template.strftime items).toList) = _
            rw [items?_percent, behind]
            rfl
          · show items? (c :: (Template.strftime items).toList) = _
            rw [items?_literal percent, behind]
            rfl

theorem no_error_of_items? {format : List Char} {items : Template}
    (read : items? format = some items) : ∀ piece ∈ pieces format, piece ≠ .error := by
  obtain ⟨all, read, -⟩ := Option.map_eq_some_iff.mp read
  intro piece mem error
  subst error
  have none : (pieces format).mapM Piece.items? = none :=
    option_mapM_eq_none_iff.mpr ⟨.error, mem, rfl⟩
  exact absurd (none.symm.trans read) (by simp)

end Strftime

namespace Template

/-! ### Tokens -/

/-- **The translation of a token is faithful.** A token means one template, said by the longest
names alone. The format that is written for it reads back as that template, item by item, and no
piece of it is an error: so a field name gives its directive and nothing else does, and all other
text, percent signs too, stands for itself. -/
theorem strftime_ofToken_faithful (token : String) :
    ∃ items, Scans token.toList items
      ∧ (∀ others, Scans token.toList others → others = items)
      ∧ Strftime.template? (strftime (ofToken token)) = some items
      ∧ ∀ piece ∈ Strftime.pieces (strftime (ofToken token)).toList, piece ≠ .error := by
  have scans : Scans token.toList (ofToken token) := scans_scan token.toList
  have read := Strftime.template?_strftime scans.fraction_not_mem
  refine ⟨ofToken token, scans, ?_, read, Strftime.no_error_of_items? read⟩
  intro others means
  exact scans_iff.mp means

end Template

end ColumnCast
