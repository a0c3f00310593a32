import ColumnCast.Text
import Mathlib.Algebra.Group.Nat.Defs

/-!
# `ColumnCast.Proofs.Text`: digits, splitting, joining

Facts about lists of characters on which the other proofs rest. Numbers
first: `digitsValue` reads back what `toString` and `padded` write
(`digitsValue_toString`, `digitsValue_padded`), and digits of one length
and one value are the same (`eq_of_digitsValue`). Then lists: `splitOn`
and `joinWith` are the standard `List.splitOn` and `List.intercalate`.
The parts of a text make up the text (`joinWith_splitOn`). The other way
round splitting undoes joining if no piece has the separator
(`splitOn_joinWith`); a piece that has it falls apart
(`splitOn_joinWith_eq_flatMap`).
-/

set_option autoImplicit false

namespace ColumnCast.Text

/-! ### Digits and blanks -/

theorem isDigit_iff {c : Char} : c.isDigit = true ↔ 48 ≤ c.toNat ∧ c.toNat ≤ 57 :=
  Char.isDigit_iff_toNat

/-- A digit differs from what is none. -/
theorem ne_of_isDigit {c d : Char} (isDigit : c.isDigit = true) (other : d.isDigit = false) :
    c ≠ d := by
  rintro rfl
  rw [isDigit] at other
  exact absurd other (by simp)

theorem isBlank_of_isDigit {c : Char} (h : c.isDigit = true) : isBlank c = false := by
  have bounds := isDigit_iff.mp h
  simp only [isBlank, Bool.or_eq_false_iff, Bool.and_eq_false_iff, decide_eq_false_iff_not,
    beq_eq_false_iff_ne]
  omega

/-! ### Letters -/

theorem toNat_toLower (c : Char) :
    c.toLower.toNat = if 65 ≤ c.toNat ∧ c.toNat ≤ 90 then c.toNat + 32 else c.toNat := by
  unfold Char.toLower
  split
  · rename_i upper
    have bounds : 65 ≤ c.toNat ∧ c.toNat ≤ 90 := upper
    rw [if_pos bounds]
    show (c.val + ('a'.val - 'A'.val)).toNat = c.toNat + 32
    rw [UInt32.toNat_add]
    show (c.toNat + 32) % 2 ^ 32 = c.toNat + 32
    omega
  · rename_i other
    have bounds : ¬(65 ≤ c.toNat ∧ c.toNat ≤ 90) := other
    rw [if_neg bounds]

theorem toNat_toUpper {c : Char} (small : 97 ≤ c.toNat ∧ c.toNat ≤ 122) :
    c.toUpper.toNat = c.toNat - 32 := by
  unfold Char.toUpper
  split
  · show (c.val + ('A'.val - 'a'.val)).toNat = c.toNat - 32
    rw [UInt32.toNat_add]
    show (c.toNat + 4294967264) % 2 ^ 32 = c.toNat - 32
    omega
  · rename_i other
    exact absurd small other

theorem isUpper_iff {c : Char} : c.isUpper = true ↔ 65 ≤ c.toNat ∧ c.toNat ≤ 90 :=
  decide_eq_true_iff

theorem isLower_iff {c : Char} : c.isLower = true ↔ 97 ≤ c.toNat ∧ c.toNat ≤ 122 :=
  Bool.and_eq_true_iff.trans (and_congr decide_eq_true_iff decide_eq_true_iff)

theorem isAlpha_iff {c : Char} : c.isAlpha = true
    ↔ (65 ≤ c.toNat ∧ c.toNat ≤ 90) ∨ (97 ≤ c.toNat ∧ c.toNat ≤ 122) :=
  Bool.or_eq_true_iff.trans (or_congr isUpper_iff isLower_iff)

theorem toLower_eq_iff {c : Char} (small : 97 ≤ c.toNat ∧ c.toNat ≤ 122) (x : Char) :
    x.toLower = c ↔ x = c.toUpper ∨ x = c := by
  rw [← Char.toNat_inj, ← Char.toNat_inj, ← Char.toNat_inj, toNat_toLower, toNat_toUpper small]
  split <;> omega

theorem isAlphanum_iff {c : Char} : c.isAlphanum = true
    ↔ (65 ≤ c.toNat ∧ c.toNat ≤ 90) ∨ (97 ≤ c.toNat ∧ c.toNat ≤ 122)
      ∨ (48 ≤ c.toNat ∧ c.toNat ≤ 57) :=
  Bool.or_eq_true_iff.trans ((or_congr isAlpha_iff isDigit_iff).trans or_assoc)

/-! ### Digits -/

/-- Are all characters digits? -/
def AreDigits (word : List Char) : Prop := ∀ c ∈ word, c.isDigit = true

instance (word : List Char) : Decidable (AreDigits word) :=
  List.decidableBAll (fun c : Char => c.isDigit = true) word

theorem AreDigits.append {u v : List Char} (hu : AreDigits u) (hv : AreDigits v) :
    AreDigits (u ++ v) := by
  intro c mem
  rcases List.mem_append.mp mem with mem | mem
  · exact hu c mem
  · exact hv c mem

theorem digitsValue_eq (word : List Char) : digitsValue word = Nat.ofDigitChars 10 word 0 := rfl

theorem digitsValue_append (u v : List Char) :
    digitsValue (u ++ v) = 10 ^ v.length * digitsValue u + digitsValue v := by
  rw [digitsValue_eq, Nat.ofDigitChars_append, Nat.ofDigitChars_eq_ofDigitChars_zero]
  rfl

theorem digitsValue_singleton (c : Char) : digitsValue [c] = c.toNat - 48 := Nat.zero_add _

theorem digitsValue_cons (c : Char) (v : List Char) :
    digitsValue (c :: v) = 10 ^ v.length * (c.toNat - 48) + digitsValue v := by
  have first := digitsValue_append [c] v
  rwa [List.singleton_append, digitsValue_singleton] at first

theorem digitsValue_lt {word : List Char} (digits : AreDigits word) :
    digitsValue word < 10 ^ word.length := by
  induction word with
  | nil => exact Nat.one_pos
  | cons c word ih =>
      have tail := ih fun d mem => digits d (List.mem_cons_of_mem _ mem)
      have head := isDigit_iff.mp (digits c List.mem_cons_self)
      rw [digitsValue_cons, List.length_cons, Nat.pow_succ]
      have place : 10 ^ word.length * (c.toNat - 48) ≤ 10 ^ word.length * 9 :=
        Nat.mul_le_mul_left _ (by omega)
      omega

/-- A digit that is no zero is worth its place. -/
theorem le_digitsValue_cons {c : Char} (isDigit : c.isDigit = true) (nonzero : c ≠ '0')
    (rest : List Char) : 10 ^ rest.length ≤ digitsValue (c :: rest) := by
  have bounds := isDigit_iff.mp isDigit
  have other : c.toNat ≠ 48 := fun eq => nonzero (Char.toNat_inj.mp eq)
  have atLeast : 1 ≤ c.toNat - 48 := by omega
  rw [digitsValue_cons]
  calc 10 ^ rest.length = 10 ^ rest.length * 1 := (Nat.mul_one _).symm
    _ ≤ 10 ^ rest.length * (c.toNat - 48) := Nat.mul_le_mul_left _ atLeast
    _ ≤ 10 ^ rest.length * (c.toNat - 48) + digitsValue rest := Nat.le_add_right _ _

/-- Without a zero in front no digits of the number are shorter. -/
theorem length_le_of_digitsValue_eq {u v : List Char} (hu : AreDigits u) (hv : AreDigits v)
    (inhabited : v ≠ []) (least : ∀ rest, u = '0' :: rest → rest = [])
    (value : digitsValue u = digitsValue v) : u.length ≤ v.length := by
  have positive := List.length_pos_iff.mpr inhabited
  cases u with
  | nil => exact Nat.zero_le _
  | cons c rest =>
      by_cases zero : c = '0'
      · -- A zero stands in front only where it is all there is.
        subst zero
        rw [least rest rfl]
        exact positive
      · have place := le_digitsValue_cons (hu c List.mem_cons_self) zero rest
        have small := digitsValue_lt hv
        rw [value] at place
        have fewer := (Nat.pow_lt_pow_iff_right (by decide)).mp (Nat.lt_of_le_of_lt place small)
        exact fewer

/-- Two numbers in a row are told apart if it is known how long the second is. -/
theorem digitsValue_append_inj {u u' v v' : List Char} (hv : AreDigits v) (hv' : AreDigits v')
    (length : v.length = v'.length) (value : digitsValue (u ++ v) = digitsValue (u' ++ v')) :
    digitsValue u = digitsValue u' ∧ digitsValue v = digitsValue v' := by
  have small := digitsValue_lt hv
  have small' := digitsValue_lt hv'
  rw [digitsValue_append, digitsValue_append, length] at value
  rw [length] at small
  have positive : 0 < 10 ^ v'.length := Nat.pow_pos (by decide)
  have quotient := congrArg (· / 10 ^ v'.length) value
  have remainder := congrArg (· % 10 ^ v'.length) value
  simp only [Nat.mul_add_div positive, Nat.div_eq_of_lt small, Nat.div_eq_of_lt small',
    Nat.add_zero] at quotient
  simp only [Nat.mul_add_mod, Nat.mod_eq_of_lt small, Nat.mod_eq_of_lt small'] at remainder
  exact ⟨quotient, remainder⟩

/-- Digits of one length and one value are the same digits. -/
theorem eq_of_digitsValue {u v : List Char} (hu : AreDigits u) (hv : AreDigits v)
    (length : u.length = v.length) (value : digitsValue u = digitsValue v) : u = v := by
  induction u generalizing v with
  | nil => exact (List.length_eq_zero_iff.mp length.symm).symm
  | cons c u ih =>
      cases v with
      | nil => simp at length
      | cons d v =>
          have hu' : AreDigits u := fun e mem => hu e (List.mem_cons_of_mem _ mem)
          have hv' : AreDigits v := fun e mem => hv e (List.mem_cons_of_mem _ mem)
          have tails : u.length = v.length := by simpa using length
          have lowC := isDigit_iff.mp (hu c List.mem_cons_self)
          have lowD := isDigit_iff.mp (hv d List.mem_cons_self)
          -- The first digit is a number of one digit, with the others behind it.
          obtain ⟨first, others⟩ :
              digitsValue [c] = digitsValue [d] ∧ digitsValue u = digitsValue v :=
            digitsValue_append_inj hu' hv' tails value
          rw [digitsValue_singleton, digitsValue_singleton] at first
          have same : c = d := Char.toNat_inj.mp (by omega)
          subst same
          rw [ih hu' hv' tails others]

/-! ### Numbers as text -/

theorem areDigits_toString (n : Nat) : AreDigits (toString n).toList := by
  intro c mem
  rw [Nat.toString_eq_repr, Nat.toList_repr] at mem
  exact Nat.isDigit_of_mem_toDigits (by decide) (by decide) mem

theorem digitsValue_toString (n : Nat) : digitsValue (toString n).toList = n := by
  rw [Nat.toString_eq_repr, Nat.toList_repr]
  exact Nat.ofDigitChars_ten_toDigits

theorem length_toString_le_iff {n k : Nat} (pos : 0 < k) :
    (toString n).toList.length ≤ k ↔ n < 10 ^ k := by
  rw [Nat.toString_eq_repr, Nat.toList_repr]
  exact Nat.length_toDigits_le_iff (by decide) pos

theorem toString_ne_nil (n : Nat) : (toString n).toList ≠ [] := by
  rw [Nat.toString_eq_repr, Nat.toList_repr]
  exact Nat.toDigits_ne_nil

theorem toList_padded (width n : Nat) :
    (padded width n).toList
      = List.replicate (width - (toString n).toList.length) '0' ++ (toString n).toList := by
  unfold padded
  rw [String.toList_append, String.toList_ofList, String.length_toList]

theorem areDigits_padded (width n : Nat) : AreDigits (padded width n).toList := by
  rw [toList_padded]
  refine AreDigits.append (fun c mem => ?_) (areDigits_toString n)
  rw [List.eq_of_mem_replicate mem]
  decide

theorem digitsValue_padded (width n : Nat) : digitsValue (padded width n).toList = n := by
  rw [toList_padded, digitsValue_eq, Nat.ofDigitChars_append, Nat.ofDigitChars_replicate_zero]
  exact digitsValue_toString n

theorem length_padded {width n : Nat} (pos : 0 < width) (small : n < 10 ^ width) :
    (padded width n).toList.length = width := by
  have le := (length_toString_le_iff pos).mpr small
  rw [toList_padded, List.length_append, List.length_replicate]
  omega

/-! ### Splitting and joining -/

theorem splitOn_eq (separator : Char) (text : List Char) :
    splitOn separator text = text.splitOn separator := by
  induction text with
  | nil => rfl
  | cons c rest ih =>
      rw [splitOn, ih, List.splitOn_cons_eq_if_modifyHead]
      simp only [beq_iff_eq]
      split
      · rfl
      · cases split : rest.splitOn separator with
        | nil => exact absurd split (List.splitOn_ne_nil _ _)
        | cons piece more => rfl

theorem joinWith_eq (separator : Char) (pieces : List (List Char)) :
    joinWith separator pieces = [separator].intercalate pieces := by
  induction pieces with
  | nil => rfl
  | cons piece more ih =>
      cases more with
      | nil => rw [List.intercalate_singleton]; rfl
      | cons next more =>
          rw [List.intercalate_cons_cons, ← ih, List.append_assoc]
          rfl

/-- Pieces without the separator come out of the joined text again. -/
theorem splitOn_joinWith {separator : Char} {pieces : List (List Char)}
    (free : ∀ piece ∈ pieces, separator ∉ piece) (inhabited : pieces ≠ []) :
    splitOn separator (joinWith separator pieces) = pieces := by
  rw [splitOn_eq, joinWith_eq, List.splitOn_intercalate separator free inhabited]

/-- A separator parts what stands before it from what stands behind it. -/
theorem splitOn_append_separator (separator : Char) (text rest : List Char) :
    splitOn separator (text ++ separator :: rest)
      = splitOn separator text ++ splitOn separator rest := by
  rw [splitOn_eq, splitOn_eq, splitOn_eq, List.splitOn_append_cons_self]

/-- Pieces with the separator in them fall apart: each is split for itself. -/
theorem splitOn_joinWith_eq_flatMap (separator : Char) {pieces : List (List Char)}
    (inhabited : pieces ≠ []) :
    splitOn separator (joinWith separator pieces) = pieces.flatMap (splitOn separator) := by
  induction pieces with
  | nil => exact absurd rfl inhabited
  | cons piece more ih =>
      cases more with
      | nil => rw [List.flatMap_singleton]; rfl
      | cons next more =>
          rw [List.flatMap_cons, ← ih (List.cons_ne_nil _ _)]
          exact splitOn_append_separator separator piece _

/-- The parts of a text are joined to the text again. -/
theorem joinWith_splitOn (separator : Char) (text : List Char) :
    joinWith separator (splitOn separator text) = text := by
  rw [splitOn_eq, joinWith_eq, List.intercalate_splitOn]

/-- Pieces are joined to no text if there are none, or only an empty one. -/
theorem joinWith_eq_nil_iff {separator : Char} {pieces : List (List Char)} :
    joinWith separator pieces = [] ↔ pieces = [] ∨ pieces = [[]] := by
  rcases pieces with _ | ⟨piece, _ | ⟨next, more⟩⟩
  · simp [joinWith]
  · simp [joinWith]
  · simp [joinWith]

theorem not_mem_of_mem_splitOn {separator : Char} {text piece : List Char}
    (mem : piece ∈ splitOn separator text) : separator ∉ piece := by
  induction text generalizing piece with
  | nil =>
      obtain rfl : piece = [] := by simpa [splitOn] using mem
      exact List.not_mem_nil
  | cons c rest ih =>
      rw [splitOn] at mem
      split at mem
      · rcases List.mem_cons.mp mem with rfl | mem
        · exact List.not_mem_nil
        · exact ih mem
      · rename_i differs
        split at mem
        · obtain rfl := List.mem_singleton.mp mem
          simpa using fun eq => differs eq.symm
        · rename_i first more found
          rcases List.mem_cons.mp mem with rfl | mem
          · have free := ih (by rw [found]; exact List.mem_cons_self)
            rw [List.mem_cons, not_or]
            exact ⟨fun eq => differs eq.symm, free⟩
          · exact ih (by rw [found]; exact List.mem_cons_of_mem _ mem)

end ColumnCast.Text
