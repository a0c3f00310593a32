import ColumnCast.Yaml.ScalarText
import Mathlib.Algebra.Order.Group.Nat
import Mathlib.Data.List.Basic

/-!
# `ColumnCast.Proofs.Yaml.Written`: the characters that scalars are written with

Whatever a string holds, it is written with characters that can be printed
(`Written.printable`), and these are left alone when a text is read:
they are allowed (`isAllowed_of_isPrintable`), and no break among them is
made another one (`normalizeBreaks_eq_self`).

What cannot be printed is escaped. `readEscape?_escapedChar` is that an
escape stands for the character it was written for.
-/

set_option autoImplicit false

namespace ColumnCast.Yaml

/-! ### Characters that can be printed -/

theorem isPrintable_iff {c : Char} :
    isPrintable c = true ↔ c.toNat = 10 ∨ (32 ≤ c.toNat ∧ c.toNat ≤ 126)
      ∨ (160 ≤ c.toNat ∧ c.toNat ≠ 65279 ∧ c.toNat ≤ 65533) ∨ 65535 < c.toNat := by
  unfold isPrintable
  simp only [Bool.or_eq_true, Bool.and_eq_true, beq_iff_eq, decide_eq_true_iff, ne_eq,
    ← Char.toNat_inj, Char.le_def, Char.lt_def, UInt32.le_iff_toNat_le, UInt32.lt_iff_toNat_lt]
  show ((c.toNat = 10 ∨ 32 ≤ c.toNat ∧ c.toNat ≤ 126)
    ∨ (160 ≤ c.toNat ∧ ¬c.toNat = 65279) ∧ c.toNat ≤ 65533) ∨ 65535 < c.toNat ↔ _
  omega

theorem isAllowed_of_isPrintable {c : Char} (printable : isPrintable c = true) :
    isAllowed c = true := by
  have codes := isPrintable_iff.mp printable
  have valid : c.toNat < 55296 ∨ 57343 < c.toNat ∧ c.toNat < 1114112 := c.valid
  unfold isAllowed
  simp only [Bool.or_eq_true, Bool.and_eq_true, beq_iff_eq, decide_eq_true_iff]
  omega

theorem ne_of_isPrintable {c d : Char} (printable : isPrintable c = true)
    (other : isPrintable d = false) : c ≠ d := by
  rintro rfl
  rw [printable] at other
  exact absurd other (by simp)

theorem isAnyBreak_eq_isBreak {c : Char} (printable : isPrintable c = true) :
    isAnyBreak c = isBreak c := by
  unfold isAnyBreak
  rw [beq_false_of_ne (ne_of_isPrintable printable (d := '\r') (by decide)),
    beq_false_of_ne (ne_of_isPrintable printable (d := nextLine) (by decide)), Bool.or_false,
    Bool.or_false]

theorem isBlank_iff_of_isPrintable {c : Char} (printable : isPrintable c = true) :
    isBlank c = true ↔ c = ' ' := by
  unfold isBlank
  rw [beq_false_of_ne (ne_of_isPrintable printable (d := '\t') (by decide)), Bool.or_false,
    beq_iff_eq]

/-- All characters can be printed. -/
def Printable (text : List Char) : Prop := ∀ c ∈ text, isPrintable c = true

instance (text : List Char) : Decidable (Printable text) := List.decidableBAll _ _

namespace Printable

theorem append {u v : List Char} (left : Printable u) (right : Printable v) : Printable (u ++ v) :=
  fun c mem => (List.mem_append.mp mem).elim (left c) (right c)

theorem cons {c : Char} {text : List Char} (first : isPrintable c = true)
    (others : Printable text) : Printable (c :: text) :=
  List.forall_mem_cons.mpr ⟨first, others⟩

theorem flatMap {α : Type} {items : List α} {text : α → List Char}
    (each : ∀ item ∈ items, Printable (text item)) : Printable (items.flatMap text) :=
  fun c mem => by
    obtain ⟨item, inside, mem⟩ := List.mem_flatMap.mp mem
    exact each item inside c mem

end Printable

theorem normalizeBreaks_eq_self {text : List Char} (printable : Printable text) :
    normalizeBreaks text = text := by
  induction text with
  | nil => rfl
  | cons c text ih =>
      have first := printable c List.mem_cons_self
      have more := ih fun d mem => printable d (List.mem_cons_of_mem _ mem)
      have notReturn := ne_of_isPrintable first (d := '\r') (by decide)
      have notNext := ne_of_isPrintable first (d := nextLine) (by decide)
      rw [normalizeBreaks, more, if_neg (by simp [notReturn, notNext])]
      rintro _ rfl
      exact absurd rfl notReturn

/-! ### Numbers of characters -/

theorem hexDigit?_digitChar :
    ∀ digit < 16, hexDigit? (Nat.digitChar digit).toUpper = some digit := by
  decide

theorem isPrintable_digitChar : ∀ digit < 16, isPrintable (Nat.digitChar digit).toUpper = true := by
  decide

theorem hexNumber?_concat (digits : List Char) {number digit : Nat}
    (known : hexNumber? digits = some number) (small : digit < 16) :
    hexNumber? (digits ++ [(Nat.digitChar digit).toUpper]) = some (16 * number + digit) := by
  unfold hexNumber? at known ⊢
  rw [List.foldlM_append, known]
  simp [hexDigit?_digitChar digit small]

theorem hexNumber?_zeros (count : Nat) : hexNumber? (List.replicate count '0') = some 0 := by
  induction count with
  | zero => rfl
  | succ count ih =>
      rw [List.replicate_succ']
      exact hexNumber?_concat _ ih (by decide : 0 < 16)

/-- Digits are written behind those of the sixteenth part. -/
theorem toDigits_induction {motive : Nat → List Char → Prop}
    (single : ∀ digit < 16, motive digit [Nat.digitChar digit])
    (concat : ∀ front digits, ∀ digit < 16, motive front digits →
      motive (16 * front + digit) (digits ++ [Nat.digitChar digit])) (number : Nat) :
    motive number (Nat.toDigits 16 number) := by
  induction number using Nat.strongRecOn with
  | _ number ih =>
      rw [Nat.toDigits_eq_if (by decide)]
      split
      · rename_i small
        exact single number small
      · rename_i large
        have whole := concat _ _ _ (Nat.mod_lt number (by decide : 0 < 16))
          (ih (number / 16) (Nat.div_lt_self (by omega) (by decide)))
        rwa [Nat.div_add_mod] at whole

theorem hexNumber?_toDigits (zeros : Nat) (number : Nat) :
    hexNumber? (List.replicate zeros '0' ++ (Nat.toDigits 16 number).map Char.toUpper)
      = some number := by
  refine toDigits_induction (motive := fun number digits =>
    hexNumber? (List.replicate zeros '0' ++ digits.map Char.toUpper) = some number)
    (fun digit small => ?_) (fun front digits digit small known => ?_) number
  · simpa using hexNumber?_concat _ (hexNumber?_zeros zeros) small
  · rw [List.map_append, ← List.append_assoc]
    exact hexNumber?_concat _ known small

theorem length_hexPadded {width number : Nat} (positive : 0 < width)
    (small : number < 16 ^ width) : (hexPadded width number).length = width := by
  have few := (Nat.length_toDigits_le_iff (b := 16) (by decide) positive).mpr small
  unfold hexPadded
  simp only [List.length_append, List.length_replicate, List.length_map]
  omega

theorem hexNumber?_hexPadded (width number : Nat) :
    hexNumber? (hexPadded width number) = some number := hexNumber?_toDigits _ number

theorem printable_toDigits (number : Nat) :
    Printable ((Nat.toDigits 16 number).map Char.toUpper) := by
  have single : ∀ digit < 16, Printable [(Nat.digitChar digit).toUpper] := fun digit small =>
    .cons (isPrintable_digitChar digit small) (by decide)
  refine toDigits_induction (motive := fun _ digits => Printable (digits.map Char.toUpper))
    (fun digit small => single digit small) (fun front digits digit small known => ?_) number
  rw [List.map_append]
  exact known.append (single digit small)

theorem printable_hexPadded (width number : Nat) : Printable (hexPadded width number) :=
  Printable.append (fun c mem => by rw [List.eq_of_mem_replicate mem]; decide)
    (printable_toDigits number)

/-! ### Escapes -/

theorem charOfNumber?_toNat (c : Char) : charOfNumber? c.toNat = some c := by
  unfold charOfNumber?
  have valid : c.toNat.isValidChar := c.valid
  rw [if_pos valid, Char.ofNat_toNat]

/-- What stands behind a backslash and is read as the character. -/
structure Escapes (c : Char) (escape : List Char) : Prop where
  printable : Printable escape
  short : escape.length ≤ 9
  unbroken : escape.head?.any isBreak = false
  read : ∀ rest, readEscape? (escape ++ rest) = some (c, escape.length)

/-- A numbered escape is read with all its digits. -/
theorem escapes_hexPadded {letter : Char} {width : Nat} (unnamed : namedEscape? letter = none)
    (count : escapeDigits? letter = some width) (between : 0 < width ∧ width ≤ 8)
    (printable : isPrintable letter = true) (unbroken : isBreak letter = false) {c : Char}
    (small : c.toNat < 16 ^ width) : Escapes c (letter :: hexPadded width c.toNat) where
  printable := .cons printable (printable_hexPadded _ _)
  short := by
    rw [List.length_cons, length_hexPadded between.1 small]
    omega
  unbroken := unbroken
  read rest := by
    have length := length_hexPadded between.1 small
    have digits : (hexPadded width c.toNat ++ rest).take width = hexPadded width c.toNat := by
      rw [List.take_append_of_le_length (by omega), List.take_of_length_le (by omega)]
    unfold readEscape?
    simp only [List.cons_append, unnamed, count, Option.bind_eq_bind, Option.bind_some]
    rw [if_neg (by rw [List.length_append]; omega), digits, hexNumber?_hexPadded, Option.bind_some,
      charOfNumber?_toNat, List.length_cons, length]
    rfl

/-- A character is written as itself between double quotes, or as an escape. -/
theorem escapedChar_cases (c : Char) :
    (escapedChar c = [c] ∧ isPrintable c = true ∧ c ≠ '"' ∧ c ≠ '\\' ∧ isBreak c = false)
      ∨ ∃ escape, escapedChar c = '\\' :: escape ∧ Escapes c escape := by
  unfold escapedChar
  split
  case h_15 =>
    dsimp only
    split
    · rename_i printable
      refine Or.inl ⟨rfl, printable, by assumption, by assumption, ?_⟩
      simp_all [isBreak]
    · have valid : c.toNat < 55296 ∨ 57343 < c.toNat ∧ c.toNat < 1114112 := c.valid
      right
      split
      · exact ⟨_, rfl, escapes_hexPadded rfl rfl (by decide) (by decide) (by decide) (by omega)⟩
      · split
        · exact ⟨_, rfl, escapes_hexPadded rfl rfl (by decide) (by decide) (by decide) (by omega)⟩
        · exact ⟨_, rfl, escapes_hexPadded rfl rfl (by decide) (by decide) (by decide) (by omega)⟩
  all_goals
    exact Or.inr ⟨_, rfl, by decide, by decide, by decide, fun _ => rfl⟩

/-! ### Scalars -/

theorem printable_indentation (width : Nat) : Printable (indentation width) := fun c mem => by
  rw [List.eq_of_mem_replicate mem]
  decide

theorem printable_indented {text : List Char} (printable : Printable text) (width : Nat)
    (atStart : Bool) : Printable (indented width atStart text) := by
  induction text generalizing atStart with
  | nil => simp [indented, Printable]
  | cons c text ih =>
      have first := printable c List.mem_cons_self
      have more := ih fun d mem => printable d (List.mem_cons_of_mem _ mem)
      unfold indented
      split
      · exact .cons first (more true)
      · refine Printable.append ?_ (.cons first (more false))
        split
        · exact printable_indentation width
        · decide

theorem printable_doubleQuoted (text : List Char) : Printable (doubleQuoted text) := by
  refine .cons (by decide) (Printable.append (.flatMap fun c _ => ?_) (by decide))
  rcases escapedChar_cases c with ⟨same, printable, -⟩ | ⟨escape, same, escapes⟩
  · rw [same]
    exact .cons printable (by decide)
  · rw [same]
    exact .cons (by decide) escapes.printable

theorem hasAdjacent_cons (first second : Char → Bool) (c : Char) (text : List Char) :
    hasAdjacent first second (c :: text)
      = ((first c && text.head?.any second) || hasAdjacent first second text) := by
  cases text <;> simp [hasAdjacent]

theorem hasAdjacent_append_right {first second : Char → Bool} {front text : List Char}
    (none : hasAdjacent first second (front ++ text) = false) :
    hasAdjacent first second text = false := by
  induction front with
  | nil => exact none
  | cons c front ih =>
      rw [List.cons_append, hasAdjacent_cons, Bool.or_eq_false_iff] at none
      exact ih none.2

/-- What can stand between quotes: it is printed, and no line of it ends with a blank. -/
structure Quotable (text : List Char) : Prop where
  printable : Printable text
  noBlankEnd : hasAdjacent (· == ' ') isAnyBreak text = false

theorem isQuotable_iff {text : List Char} : isQuotable text = true ↔ Quotable text := by
  unfold isQuotable
  rw [Bool.and_eq_true, List.all_eq_true, Bool.not_eq_true']
  exact ⟨fun ⟨printable, ends⟩ => ⟨printable, ends⟩, fun ⟨printable, ends⟩ => ⟨printable, ends⟩⟩

/-- What can stand bare: one line without blanks around it, nothing in front of it that means
something, and no word in it that does. -/
structure Bare (text : List Char) : Prop where
  printable : Printable text
  unbroken : ∀ c ∈ text, isAnyBreak c = false
  noBlankStart : text.head? ≠ some ' '
  noBlankEnd : text.getLast? ≠ some ' '
  unmarked : beginsWithMark text = false
  noMark : hasInnerMark text = false

theorem bare_of_allowsPlain {text : List Char} (allowed : allowsPlain text = true) :
    Bare text := by
  unfold allowsPlain allowsSingle at allowed
  simp only [Bool.and_eq_true, Bool.not_eq_true', List.any_eq_false, bne_iff_ne, ne_eq,
    isQuotable_iff, Bool.not_eq_true] at allowed
  obtain ⟨⟨⟨⟨⟨⟨quotable, -⟩, unbroken⟩, start⟩, last⟩, unmarked⟩, noMark⟩ := allowed
  exact ⟨quotable.printable, unbroken, start, last, unmarked, noMark⟩

theorem printable_singleQuoted {text : List Char} (printable : Printable text) (width : Nat) :
    Printable (singleQuoted width text) := by
  refine .cons (by decide) (printable_indented (Printable.append (.flatMap fun c mem => ?_)
    (by decide)) width false)
  split
  · decide
  · exact .cons (printable c mem) (by decide)

theorem printable_literalHeader (text : List Char) : Printable (literalHeader text) := by
  refine .cons (by decide) (Printable.append ?_ ?_)
  · split
    · decide
    · decide
  · split
    · split
      · decide
      · split
        · decide
        · decide
    · decide

/-- How a text is written, in which style, and what of it makes that possible. -/
inductive Written (width : Nat) (text : List Char) : List Char → Style → Prop
  | bare (inhabited : text ≠ []) (bare : Bare text) : Written width text text .plain
  | single (noLine : '\n' ∉ text) (quotable : Quotable text)
      (noBlankStart : hasAdjacent isAnyBreak (· == ' ') text = false) :
      Written width text (singleQuoted width text) .quoted
  | double : Written width text (doubleQuoted text) .quoted
  | literal (lines : '\n' ∈ text) (quotable : Quotable text) :
      Written width text (literalBlock width text) .literal

/-- The style in which a string is written. -/
def scalarStyle (string : String) : Style :=
  let text := string.toList
  if text.contains '\n' then if allowsLiteral text then .literal else .quoted
  else if !isReserved string && allowsPlain text then .plain
  else .quoted

theorem written_scalarText (width : Nat) (string : String) :
    Written width string.toList (scalarText width string) (scalarStyle string) := by
  unfold scalarText scalarStyle
  dsimp only
  split
  · rename_i lines
    split
    · rename_i allowed
      unfold allowsLiteral at allowed
      rw [Bool.and_eq_true, isQuotable_iff] at allowed
      exact .literal (by simpa using lines) allowed.1
    · exact .double
  · rename_i oneLine
    split
    · rename_i allowed
      rw [Bool.and_eq_true] at allowed
      refine .bare ?_ (bare_of_allowsPlain allowed.2)
      rintro empty
      have nothing : string = "" := String.toList_inj.mp empty
      rw [nothing] at allowed
      exact absurd allowed.1 (by decide)
    · split
      · rename_i allowed
        unfold allowsSingle at allowed
        rw [Bool.and_eq_true, isQuotable_iff, Bool.not_eq_true'] at allowed
        exact .single (by simpa using oneLine) allowed.1 allowed.2
      · exact .double

/-- **A text is written with characters that can be printed**, whichever it holds. -/
theorem Written.printable {width : Nat} {text chars : List Char} {style : Style}
    (written : Written width text chars style) : Printable chars := by
  cases written with
  | bare _ bare => exact bare.printable
  | single _ quotable _ => exact printable_singleQuoted quotable.printable width
  | double => exact printable_doubleQuoted _
  | literal _ quotable =>
      exact (printable_literalHeader _).append
        (.cons (by decide) (printable_indented quotable.printable width true))

theorem printable_scalarText (width : Nat) (string : String) :
    Printable (scalarText width string) := (written_scalarText width string).printable

end ColumnCast.Yaml
