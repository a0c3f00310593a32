import ColumnCast.Calendar.Template
import Mathlib.Data.List.Infix

/-!
# `ColumnCast.Proofs.Calendar.Token`: what tokens mean

A token is scanned from left to right, the longest field name first. The
scanner takes the first name of a list, and skips the characters of a name
one by one; `Scans` says the same by the names alone, and `scans_iff` shows
that a token has just the items that the scanner gives.

No field name has a blank in it, so no name reaches across one: the items
of two tokens with a blank between are those of either token, with the
blank between (`ofToken_append_blank`).
-/

set_option autoImplicit false

namespace ColumnCast.Template

theorem fieldNames_noBlank : ∀ entry ∈ fieldNames, ' ' ∉ entry.1 ∧ entry.1 ≠ [] := by decide

/-- A name without blanks begins a text just if it begins the text before a blank. -/
theorem isPrefixOf_append_blank {name : List Char} (free : ' ' ∉ name) (u v : List Char) :
    name.isPrefixOf (u ++ ' ' :: v) = name.isPrefixOf u := by
  induction name generalizing u with
  | nil => rfl
  | cons c name ih =>
      rw [List.mem_cons, not_or] at free
      cases u with
      | nil =>
          have differs : (c == ' ') = false := beq_false_of_ne fun eq => free.1 eq.symm
          simp [List.isPrefixOf, differs]
      | cons d u =>
          show (c == d && name.isPrefixOf (u ++ ' ' :: v)) = (c == d && name.isPrefixOf u)
          rw [ih free.2 u]

theorem leadingField?_append_blank (u v : List Char) :
    leadingField? (u ++ ' ' :: v) = leadingField? u := by
  unfold leadingField?
  have names := fieldNames_noBlank
  generalize fieldNames = entries at names
  induction entries with
  | nil => rfl
  | cons entry entries ih =>
      obtain ⟨name, f⟩ := entry
      have free : ' ' ∉ name := (names (name, f) List.mem_cons_self).1
      rw [List.findSome?_cons, List.findSome?_cons,
        ih fun other mem => names other (List.mem_cons_of_mem _ mem)]
      simp only [isPrefixOf_append_blank free u v]

/-- A name that begins a text is no longer than the text. -/
theorem following_lt {text : List Char} {f : Field} {following : Nat}
    (found : leadingField? text = some (f, following)) : following < text.length := by
  obtain ⟨⟨name, field⟩, mem, found⟩ := List.exists_of_findSome?_eq_some found
  simp only at found
  split at found
  · rename_i isPrefix
    obtain ⟨-, rfl⟩ := Prod.mk.inj (Option.some.inj found)
    have le := (List.isPrefixOf_iff_prefix.mp isPrefix).length_le
    have pos : 0 < name.length := List.length_pos_iff.mpr (fieldNames_noBlank _ mem).2
    omega
  · exact absurd found (by simp)

theorem scan_append_blank (u v : List Char) {skipped : Nat} (le : skipped ≤ u.length) :
    scan skipped (u ++ ' ' :: v) = scan skipped u ++ .literal ' ' :: scan 0 v := by
  -- Characters of a name that has been found are still to be skipped. They are all in front of the
  -- blank, since no name has one, so the count stays within `u`.
  induction u generalizing skipped with
  | nil =>
      obtain rfl : skipped = 0 := Nat.le_zero.mp le
      have start := leadingField?_append_blank [] v
      rw [List.nil_append] at start ⊢
      simp only [scan, start]
      rfl
  | cons c u ih =>
      rw [List.length_cons] at le
      cases skipped with
      | succ skipped => exact ih (Nat.le_of_succ_le_succ le)
      | zero =>
          have start := leadingField?_append_blank (c :: u) v
          rw [List.cons_append] at start ⊢
          simp only [scan, start]
          cases found : leadingField? (c :: u) with
          | none =>
              simp only [List.cons_append]
              rw [ih (Nat.zero_le _)]
          | some field =>
              obtain ⟨f, following⟩ := field
              have lt := following_lt found
              simp only [List.cons_append]
              rw [ih (Nat.le_of_lt_succ lt)]

/-- **No field name reaches across a blank.** -/
theorem ofToken_append_blank (a b : String) :
    ofToken (a ++ " " ++ b) = ofToken a ++ .literal ' ' :: ofToken b := by
  have text : (a ++ " " ++ b).toList = a.toList ++ ' ' :: b.toList := by simp
  unfold ofToken
  rw [text]
  exact scan_append_blank a.toList b.toList (Nat.zero_le _)

/-! ### The longest name -/

/-- The longest of the names that the text begins with, and its field. -/
def Longest (name : List Char) (f : Field) (text : List Char) : Prop :=
  (name, f) ∈ fieldNames ∧ name <+: text
    ∧ ∀ other ∈ fieldNames, other.1 <+: text → other.1.length ≤ name.length

/-- The text means these items: at each point the longest name is a field, and where no name
begins one character stands for itself. -/
inductive Scans : List Char → Template → Prop
  | nil : Scans [] []
  | field {name rest : List Char} {f : Field} {items : Template}
      (longest : Longest name f (name ++ rest)) (behind : Scans rest items) :
      Scans (name ++ rest) (.field f :: items)
  | literal {c : Char} {rest : List Char} {items : Template}
      (unnamed : ∀ other ∈ fieldNames, ¬other.1 <+: c :: rest) (behind : Scans rest items) :
      Scans (c :: rest) (.literal c :: items)

/-- No name begins one that stands behind it in the list, so the first name found is the longest. -/
theorem fieldNames_pairwise : fieldNames.Pairwise fun a b => ¬a.1 <+: b.1 := by decide

theorem fieldNames_injective : ∀ a ∈ fieldNames, ∀ b ∈ fieldNames, a.1 = b.1 → a = b := by decide

theorem Longest.unique {name name' text : List Char} {f f' : Field} (first : Longest name f text)
    (second : Longest name' f' text) : name = name' ∧ f = f' := by
  obtain ⟨named, begins, longest⟩ := first
  obtain ⟨named', begins', longest'⟩ := second
  have names : name = name' :=
    (List.prefix_of_prefix_length_le begins begins' (longest' _ named begins)).eq_of_length
      (Nat.le_antisymm (longest' _ named begins) (longest _ named' begins'))
  exact ⟨names, congrArg Prod.snd (fieldNames_injective _ named _ named' names)⟩

theorem leadingField?_eq_none_iff {text : List Char} :
    leadingField? text = none ↔ ∀ other ∈ fieldNames, ¬other.1 <+: text := by
  unfold leadingField?
  rw [List.findSome?_eq_none_iff]
  refine forall₂_congr fun other _ => ?_
  simp only [← List.isPrefixOf_iff_prefix]
  split <;> simp_all

/-- The name that the scanner finds is the longest one. -/
theorem exists_longest {text : List Char} {f : Field} {following : Nat}
    (found : leadingField? text = some (f, following)) :
    ∃ name, Longest name f text ∧ following = name.length - 1 := by
  obtain ⟨before, ⟨name, g⟩, after, split, found, passed⟩ :=
    List.findSome?_eq_some_iff.mp found
  dsimp only at found
  split_ifs at found with begins
  obtain ⟨rfl, rfl⟩ := Prod.mk.inj (Option.some.inj found)
  rw [List.isPrefixOf_iff_prefix] at begins
  have order := fieldNames_pairwise
  rw [split, List.pairwise_append, List.pairwise_cons] at order
  refine ⟨name, ⟨by simp [split], begins, fun other mem also => ?_⟩, rfl⟩
  rw [split, List.mem_append, List.mem_cons] at mem
  rcases mem with earlier | rfl | later
  · -- A name before it does not begin the text.
    have none := passed other earlier
    dsimp only at none
    rw [if_pos (List.isPrefixOf_iff_prefix.mpr also)] at none
    exact absurd none (by simp)
  · exact Nat.le_refl _
  · -- A name behind it that begins the text begins with it, or is a part of it.
    cases List.prefix_or_prefix_of_prefix also begins with
    | inl part => exact part.length_le
    | inr part => exact absurd part (order.2.1.1 other later)

theorem Longest.leadingField?_eq {name text : List Char} {f : Field}
    (longest : Longest name f text) :
    leadingField? text = some (f, name.length - 1) := by
  cases found : leadingField? text with
  | none => exact absurd longest.2.1 (leadingField?_eq_none_iff.mp found _ longest.1)
  | some result =>
      obtain ⟨g, following⟩ := result
      obtain ⟨other, longest', rfl⟩ := exists_longest found
      obtain ⟨rfl, rfl⟩ := longest.unique longest'
      rfl

/-! ### The scanner and the names -/

/-- The characters of a name are skipped. -/
theorem scan_eq_scan_drop (skipped : Nat) (text : List Char) :
    scan skipped text = scan 0 (text.drop skipped) := by
  induction text generalizing skipped with
  | nil => rw [List.drop_nil]; rfl
  | cons c rest ih =>
      cases skipped with
      | zero => rfl
      | succ skipped => exact ih skipped

theorem scan_field {name rest : List Char} {f : Field} (longest : Longest name f (name ++ rest)) :
    scan 0 (name ++ rest) = .field f :: scan 0 rest := by
  have found := longest.leadingField?_eq
  cases name with
  | nil => exact absurd rfl (fieldNames_noBlank _ longest.1).2
  | cons c more =>
      rw [List.cons_append] at found ⊢
      simp only [scan, found, List.length_cons, Nat.add_sub_cancel]
      rw [scan_eq_scan_drop, List.drop_left]

theorem scan_literal {c : Char} {rest : List Char}
    (unnamed : ∀ other ∈ fieldNames, ¬other.1 <+: c :: rest) :
    scan 0 (c :: rest) = .literal c :: scan 0 rest := by
  simp only [scan, leadingField?_eq_none_iff.mpr unnamed]

theorem scans_scan (text : List Char) : Scans text (scan 0 text) := by
  -- A name takes several characters at once, so the induction is on the length.
  induction length : text.length using Nat.strong_induction_on generalizing text with
  | _ n ih =>
      subst length
      cases found : leadingField? text with
      | none =>
          cases text with
          | nil => exact .nil
          | cons c rest =>
              have unnamed := leadingField?_eq_none_iff.mp found
              rw [scan_literal unnamed]
              exact .literal unnamed (ih _ (by simp) rest rfl)
      | some result =>
          obtain ⟨f, following⟩ := result
          obtain ⟨name, longest, -⟩ := exists_longest found
          obtain ⟨rest, rfl⟩ := longest.2.1
          have shorter : rest.length < (name ++ rest).length := by
            have filled : 0 < name.length :=
              List.length_pos_iff.mpr (fieldNames_noBlank _ longest.1).2
            rw [List.length_append]
            omega
          rw [scan_field longest]
          exact .field longest (ih _ shorter rest rfl)

/-- **A token means what the scanner gives**, and nothing else. -/
theorem scans_iff {text : List Char} {items : Template} :
    Scans text items ↔ items = scan 0 text := by
  constructor
  · intro scans
    induction scans with
    | nil => rfl
    | field longest _ ih => rw [scan_field longest, ih]
    | literal unnamed _ ih => rw [scan_literal unnamed, ih]
  · intro given
    rw [given]
    exact scans_scan text

/-- No token asks for a fraction of a second. -/
theorem Scans.fraction_not_mem {text : List Char} {items : Template} (scans : Scans text items) :
    Item.field .fraction ∉ items := by
  have standard : ∀ entry ∈ fieldNames, entry.2 ≠ .fraction := by decide
  induction scans with
  | nil => exact List.not_mem_nil
  | field longest _ ih =>
      have own := standard _ longest.1
      simpa [Ne.symm own] using ih
  | literal _ _ ih => simpa using ih

end ColumnCast.Template
