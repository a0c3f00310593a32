import ColumnCast.Catalog.Builtin
import ColumnCast.Proofs.Calendar.DateLayout
import ColumnCast.Proofs.Regex.Pattern

/-!
# `ColumnCast.Proofs.Catalog.Words`: the words of the built-in patterns

The patterns of the built-in catalog are put together from few words:
days, months and years. This file gives the language of each, in terms of
the numbers that its words write (`numbers`) and of month abbreviations
(`abbreviations`).
-/

set_option autoImplicit false

namespace ColumnCast.Catalog

open Regex

/-! ### Membership, character by character -/

@[simp]
theorem nil_mem_within {ranges : List (Char × Char)} : [] ∈ within ranges ↔ False := by
  rw [iff_false]
  rintro ⟨c, eq, -⟩
  exact absurd eq (by simp)

@[simp]
theorem cons_mem_within {ranges : List (Char × Char)} {c : Char} {word : List Char} :
    c :: word ∈ within ranges
      ↔ (∃ range ∈ ranges, range.1 ≤ c ∧ c ≤ range.2) ∧ word = [] := by
  constructor
  · rintro ⟨d, eq, inside⟩
    obtain ⟨rfl, rfl⟩ := List.cons.inj eq
    exact ⟨inside, rfl⟩
  · rintro ⟨inside, rfl⟩
    exact ⟨c, rfl, inside⟩

@[simp]
theorem nil_mem_within_mul {ranges : List (Char × Char)} {L : Language Char} :
    [] ∈ within ranges * L ↔ False := by
  rw [Language.mem_mul, iff_false]
  rintro ⟨u, ⟨c, rfl, -⟩, v, -, eq⟩
  exact absurd eq (by simp)

@[simp]
theorem cons_mem_within_mul {ranges : List (Char × Char)} {L : Language Char} {c : Char}
    {word : List Char} :
    c :: word ∈ within ranges * L
      ↔ (∃ range ∈ ranges, range.1 ≤ c ∧ c ≤ range.2) ∧ word ∈ L := by
  rw [Language.mem_mul]
  constructor
  · rintro ⟨u, ⟨d, rfl, inside⟩, v, mem, eq⟩
    obtain ⟨rfl, rfl⟩ := List.cons.inj eq
    exact ⟨inside, mem⟩
  · rintro ⟨inside, mem⟩
    exact ⟨[c], ⟨c, rfl, inside⟩, word, mem, rfl⟩

@[simp]
theorem mem_single {word word' : List Char} : word ∈ ({word'} : Language Char) ↔ word = word' :=
  Iff.rfl

@[simp]
theorem nil_mem_single_mul {d : Char} {L : Language Char} :
    [] ∈ ({[d]} : Language Char) * L ↔ False := by
  rw [Language.mem_mul, iff_false]
  rintro ⟨u, rfl, v, -, eq⟩
  exact absurd eq (by simp)

@[simp]
theorem cons_mem_single_mul {d : Char} {L : Language Char} {c : Char} {word : List Char} :
    c :: word ∈ ({[d]} : Language Char) * L ↔ c = d ∧ word ∈ L := by
  rw [Language.mem_mul]
  constructor
  · rintro ⟨u, rfl, v, mem, eq⟩
    obtain ⟨rfl, rfl⟩ := List.cons.inj eq
    exact ⟨rfl, mem⟩
  · rintro ⟨rfl, mem⟩
    exact ⟨[c], rfl, word, mem, rfl⟩

theorem mem_sum {Ls : List (Language Char)} {word : List Char} :
    word ∈ Ls.sum ↔ ∃ L ∈ Ls, word ∈ L := by
  induction Ls with
  | nil => simp
  | cons L Ls ih => simp [Language.mem_add, ih]

theorem char_le_iff (c d : Char) : c ≤ d ↔ c.toNat ≤ d.toNat := Iff.rfl

theorem char_eq_iff (c d : Char) : c = d ↔ c.toNat = d.toNat := Char.toNat_inj.symm

/-! ### Numbers -/

/-- The words that write a number as `holds` says, in `least` to `most` digits. -/
def numbers (least most : Nat) (holds : Nat → Prop) : Language Char :=
  {word | ∃ number, holds number ∧ InDigits least most number word}

/-- A language of words of up to two digits, by its words. -/
theorem mem_numbers_iff {least : Nat} (range : least = 1 ∨ least = 2) {holds : Nat → Prop}
    {L : Language Char} (nil : [] ∉ L)
    (one : ∀ c : Char, [c] ∈ L
      ↔ least = 1 ∧ (48 ≤ c.toNat ∧ c.toNat ≤ 57) ∧ holds (c.toNat - 48))
    (two : ∀ c d : Char, [c, d] ∈ L
      ↔ (48 ≤ c.toNat ∧ c.toNat ≤ 57) ∧ (48 ≤ d.toNat ∧ d.toNat ≤ 57)
        ∧ holds (10 * (c.toNat - 48) + (d.toNat - 48)))
    (more : ∀ (c d e : Char) (word : List Char), c :: d :: e :: word ∉ L) (word : List Char) :
    word ∈ L ↔ word ∈ numbers least 2 holds := by
  -- By the length of the word: the number has one digit or two.
  rcases word with _ | ⟨c, _ | ⟨d, _ | ⟨e, word⟩⟩⟩
  · refine iff_of_false nil ?_
    rintro ⟨number, -, digits⟩
    exact digits.ne_nil (by omega) rfl
  · rw [one c]
    have value := Text.digitsValue_singleton c
    constructor
    · rintro ⟨rfl, isDigit, hold⟩
      refine ⟨_, hold, fun d mem => ?_, Nat.le_refl 1, Nat.le_succ 1, value⟩
      rw [List.mem_singleton.mp mem]
      exact Text.isDigit_iff.mpr isDigit
    · rintro ⟨number, hold, digits, low, -, eq⟩
      rw [value] at eq
      rw [List.length_singleton] at low
      exact ⟨by omega, Text.isDigit_iff.mp (digits c List.mem_cons_self), eq ▸ hold⟩
  · rw [two c d]
    have value : Text.digitsValue [c, d] = 10 * (c.toNat - 48) + (d.toNat - 48) := by
      simp [Text.digitsValue]
    constructor
    · rintro ⟨first, second, hold⟩
      have low : least ≤ 2 := by omega
      refine ⟨_, hold, fun e mem => ?_, low, Nat.le_refl 2, value⟩
      rcases List.mem_pair.mp mem with rfl | rfl
      · exact Text.isDigit_iff.mpr first
      · exact Text.isDigit_iff.mpr second
    · rintro ⟨number, hold, digits, -, -, eq⟩
      rw [value] at eq
      exact ⟨Text.isDigit_iff.mp (digits c (by simp)), Text.isDigit_iff.mp (digits d (by simp)),
        eq ▸ hold⟩
  · refine iff_of_false (more c d e word) ?_
    rintro ⟨number, -, -, -, le, -⟩
    simp at le

/-- What may stand before a number of one digit: a zero, or with `least` one nothing. -/
def pad (least : Nat) : Language Char := if least = 1 then 1 + {['0']} else {['0']}

@[simp]
theorem mem_pad_mul {least : Nat} {L : Language Char} {word : List Char} :
    word ∈ pad least * L ↔ (least = 1 ∧ word ∈ L) ∨ word ∈ ({['0']} : Language Char) * L := by
  unfold pad
  split
  · rename_i one
    rw [add_mul, one_mul, Language.mem_add]
    simp [one]
  · rename_i two
    simp [two]

/-- Numbers as they stand in texts of days and months. -/
inductive Padding : String → Nat → Prop
  | flexible : Padding "0?" 1
  | fixed : Padding "0" 2

theorem Padding.cases {padding : String} {least : Nat} (h : Padding padding least) :
    least = 1 ∨ least = 2 := by
  cases h with
  | flexible => exact Or.inl rfl
  | fixed => exact Or.inr rfl

theorem Padding.pattern {padding : String} {least : Nat} (h : Padding padding least) :
    Pattern padding.toList (pad least) := by
  have zero : Regex.Atom ['0'] {['0']} := Regex.Atom.plain (by decide)
  cases h with
  | flexible => exact zero.optional
  | fixed => exact zero.pattern

/-- A group of alternatives as the built-in patterns write it. -/
theorem toList_anyOf (alternatives : List String) :
    (anyOf alternatives).toList
      = '(' :: (['|'].intercalate (alternatives.map String.toList) ++ [')']) := by
  simp [anyOf, String.toList_intercalate]

section Numeric

variable {padding : String} {least : Nat}

/-- A number of one digit with its padding, or one of two digits by its first. -/
theorem pattern_units (h : Padding padding least) (units : List (Char × Char))
    (tens : List (Char × List (Char × Char)))
    (valid : IsClass units ∧ ∀ ten ∈ tens, Sql.isMetacharacter ten.1 = false ∧ IsClass ten.2) :
    Pattern ('(' :: (['|'].intercalate ((padding.toList ++ classText units)
        :: tens.map fun ten => ten.1 :: classText ten.2) ++ [')']))
      (pad least * within units
        + (tens.map fun ten => ({[ten.1]} : Language Char) * within ten.2).sum) := by
  have branches : ∀ a ∈ (padding.toList ++ classText units, pad least * within units)
      :: tens.map fun ten => (ten.1 :: classText ten.2,
        ({[ten.1]} : Language Char) * within ten.2), Pattern a.1 a.2 := by
    intro a mem
    rcases List.mem_cons.mp mem with rfl | mem
    · exact h.pattern.append (Atom.classText valid.1).pattern
    · obtain ⟨ten, inside, rfl⟩ := List.mem_map.mp mem
      have isTen := valid.2 ten inside
      exact (Atom.plain isTen.1).pattern.append (Atom.classText isTen.2).pattern
  have group := (Atom.group (List.cons_ne_nil _ _) branches).pattern
  rw [List.map_cons, List.map_cons, List.map_map, List.map_map, List.sum_cons] at group
  exact group

/-- What the alternatives match are numbers: those that the ranges spell out. -/
theorem pattern_numbers (h : Padding padding least) (units : List (Char × Char))
    (tens : List (Char × List (Char × Char)))
    (valid : IsClass units ∧ ∀ ten ∈ tens, Sql.isMetacharacter ten.1 = false ∧ IsClass ten.2)
    {holds : Nat → Prop}
    (one : ∀ c : Char, (∃ range ∈ units, range.1 ≤ c ∧ c ≤ range.2)
      ↔ (48 ≤ c.toNat ∧ c.toNat ≤ 57) ∧ holds (c.toNat - 48))
    (two : ∀ c d : Char,
      ((c = '0' ∧ ∃ range ∈ units, range.1 ≤ d ∧ d ≤ range.2)
        ∨ ∃ ten ∈ tens, c = ten.1 ∧ ∃ range ∈ ten.2, range.1 ≤ d ∧ d ≤ range.2)
      ↔ (48 ≤ c.toNat ∧ c.toNat ≤ 57) ∧ (48 ≤ d.toNat ∧ d.toNat ≤ 57)
        ∧ holds (10 * (c.toNat - 48) + (d.toNat - 48))) :
    Pattern ('(' :: (['|'].intercalate ((padding.toList ++ classText units)
        :: tens.map fun ten => ten.1 :: classText ten.2) ++ [')']))
      (numbers least 2 holds) := by
  refine (pattern_units h units tens valid).congr
    (mem_numbers_iff h.cases ?_ (fun c => ?_) (fun c d => ?_) ?_)
  · simp [Language.mem_add, mem_sum]
  · rw [← one c]
    simp [Language.mem_add, mem_sum]
  · rw [← two c d]
    simp [Language.mem_add, mem_sum]
  · simp [Language.mem_add, mem_sum]

theorem pattern_day (h : Padding padding least) :
    Pattern (numericDays padding).day.toList
      (numbers least 2 fun day => 1 ≤ day ∧ day ≤ 28) := by
  have text : (numericDays padding).day.toList
      = '(' :: (['|'].intercalate [padding.toList ++ classText [('1', '9')],
        '1' :: classText [('0', '9')], '2' :: classText [('0', '8')]] ++ [')']) := by
    simp [numericDays, classText, rangeText]
  rw [text]
  exact pattern_numbers h [('1', '9')] [('1', [('0', '9')]), ('2', [('0', '8')])] (by decide)
    (fun c => by simp [char_le_iff]; omega)
    (fun c d => by simp [-Prod.exists, char_le_iff, char_eq_iff]; omega)

theorem pattern_month (h : Padding padding least) :
    Pattern (numericDays padding).month.toList
      (numbers least 2 fun month => 1 ≤ month ∧ month ≤ 12) := by
  have text : (numericDays padding).month.toList
      = '(' :: (['|'].intercalate [padding.toList ++ classText [('1', '9')],
        '1' :: classText [('0', '2')]] ++ [')']) := by
    simp [numericDays, classText, rangeText]
  rw [text]
  exact pattern_numbers h [('1', '9')] [('1', [('0', '2')])] (by decide)
    (fun c => by simp [char_le_iff]; omega)
    (fun c d => by simp [-Prod.exists, char_le_iff, char_eq_iff]; omega)

theorem pattern_month30 (h : Padding padding least) :
    Pattern (numericDays padding).month30.toList
      (numbers least 2 fun month => 1 ≤ month ∧ month ≤ 12 ∧ month ≠ 2) := by
  have text : (numericDays padding).month30.toList
      = '(' :: (['|'].intercalate [padding.toList ++ classText [('1', '1'), ('3', '9')],
        '1' :: classText [('0', '2')]] ++ [')']) := by
    simp [numericDays, classText, rangeText]
  rw [text]
  exact pattern_numbers h [('1', '1'), ('3', '9')] [('1', [('0', '2')])] (by decide)
    (fun c => by simp [char_le_iff]; omega)
    (fun c d => by simp [-Prod.exists, char_le_iff, char_eq_iff]; omega)

theorem pattern_month31 (h : Padding padding least) :
    Pattern (numericDays padding).month31.toList
      (numbers least 2 fun month => month ∈ [1, 3, 5, 7, 8, 10, 12]) := by
  have text : (numericDays padding).month31.toList
      = '(' :: (['|'].intercalate [
        padding.toList ++ classText [('1', '1'), ('3', '3'), ('5', '5'), ('7', '7'), ('8', '8')],
        '1' :: classText [('0', '0'), ('2', '2')]] ++ [')']) := by
    simp [numericDays, classText, rangeText]
  rw [text]
  exact pattern_numbers h [('1', '1'), ('3', '3'), ('5', '5'), ('7', '7'), ('8', '8')]
    [('1', [('0', '0'), ('2', '2')])] (by decide)
    (fun c => by simp [char_le_iff]; omega)
    (fun c d => by simp [-Prod.exists, char_le_iff, char_eq_iff]; omega)

theorem pattern_february (h : Padding padding least) :
    Pattern (numericDays padding).february.toList (numbers least 2 fun month => month = 2) := by
  have text : (numericDays padding).february.toList = padding.toList ++ ['2'] := by
    simp [numericDays]
  have two : Pattern ['2'] {['2']} := (Atom.plain (by decide)).pattern
  rw [text]
  refine (h.pattern.append two).congr (mem_numbers_iff h.cases ?_ (fun c => ?_) (fun c d => ?_) ?_)
  · simp
  · simp [char_eq_iff]
    omega
  · simp [char_eq_iff]
    omega
  · simp

theorem isMetacharacter_digit {c : Char} (isDigit : c.isDigit = true) :
    Sql.isMetacharacter c = false := by
  have others : "\\.^$|?*+()[]\x7b\x7d".toList.any Char.isDigit = false := by decide
  rw [Sql.isMetacharacter, ← Bool.not_eq_true, List.contains_iff_mem]
  exact fun mem => List.any_eq_false.mp others c mem isDigit

/-- A number of two digits that stands for itself. -/
theorem pattern_fixed (range : least = 1 ∨ least = 2) {c d : Char} (first : c.isDigit = true)
    (notZero : 49 ≤ c.toNat) (second : d.isDigit = true) :
    Pattern [c, d]
      (numbers least 2 fun day => day = 10 * (c.toNat - 48) + (d.toNat - 48)) := by
  have plain : ∀ {x : Char}, x.isDigit = true → Pattern [x] {[x]} := fun isDigit =>
    (Atom.plain (isMetacharacter_digit isDigit)).pattern
  have isFirst := Text.isDigit_iff.mp first
  have isSecond := Text.isDigit_iff.mp second
  refine ((plain first).append (plain second)).congr
    (mem_numbers_iff range ?_ (fun x => ?_) (fun x y => ?_) ?_)
  · simp
  · simp
    omega
  · simp [char_eq_iff]
    omega
  · simp

/-- A group of two kinds of numbers. -/
theorem pattern_either {most : Nat} {first second : List Char} {left right holds : Nat → Prop}
    (hl : Pattern first (numbers least most left)) (hr : Pattern second (numbers least most right))
    (either : ∀ number, holds number ↔ left number ∨ right number) :
    Pattern ('(' :: (['|'].intercalate [first, second] ++ [')'])) (numbers least most holds) := by
  have branches : ∀ a ∈ [(first, numbers least most left), (second, numbers least most right)],
      Pattern a.1 a.2 :=
    List.forall_mem_cons.mpr ⟨hl, List.forall_mem_singleton.mpr hr⟩
  refine (Atom.group (List.cons_ne_nil _ _) branches).pattern.congr fun word => ?_
  rw [List.map_cons, List.map_cons, List.map_nil, List.sum_cons, List.sum_cons, List.sum_nil,
    add_zero, Language.mem_add]
  show (∃ number, _) ∨ (∃ number, _) ↔ ∃ number, _
  simp only [either, or_and_right, exists_or]

/-- The two days that every month but one has beside its first 28. -/
theorem pattern_twoDays (range : least = 1 ∨ least = 2) :
    Pattern "(29|30)".toList (numbers least 2 fun day => day = 29 ∨ day = 30) :=
  pattern_either (pattern_fixed range rfl (by decide) rfl)
    (pattern_fixed range rfl (by decide) rfl) fun _ => Iff.rfl

end Numeric

/-! ### Years -/

/-- Digits behind digits write one number in the width of both. -/
theorem mem_numbers_mul {k l : Nat} {first second holds : Nat → Prop}
    (split : ∀ high low, high < 10 ^ k → low < 10 ^ l →
      ((first high ∧ second low) ↔ holds (10 ^ l * high + low))) (word : List Char) :
    word ∈ numbers k k first * numbers l l second ↔ word ∈ numbers (k + l) (k + l) holds := by
  rw [Language.mem_mul]
  constructor
  · rintro ⟨u, ⟨high, holdsHigh, hu⟩, v, ⟨low, holdsLow, hv⟩, rfl⟩
    have lengthU := Nat.le_antisymm hu.2.2.1 hu.2.1
    have lengthV := Nat.le_antisymm hv.2.2.1 hv.2.1
    refine ⟨10 ^ l * high + low, (split high low hu.lt hv.lt).mp ⟨holdsHigh, holdsLow⟩,
      hu.1.append hv.1, ?_, ?_, ?_⟩
    · rw [List.length_append, lengthU, lengthV]
    · rw [List.length_append, lengthU, lengthV]
    · rw [Text.digitsValue_append, lengthV, hu.2.2.2, hv.2.2.2]
  · rintro ⟨number, hold, digits, low, high, value⟩
    have length := Nat.le_antisymm high low
    have lengthU : (word.take k).length = k := by rw [List.length_take]; omega
    have lengthV : (word.drop k).length = l := by rw [List.length_drop]; omega
    have digitsU : Text.AreDigits (word.take k) := fun c mem => digits c (List.mem_of_mem_take mem)
    have digitsV : Text.AreDigits (word.drop k) := fun c mem => digits c (List.mem_of_mem_drop mem)
    have hu : InDigits k k (Text.digitsValue (word.take k)) (word.take k) :=
      ⟨digitsU, Nat.le_of_eq lengthU.symm, Nat.le_of_eq lengthU, rfl⟩
    have hv : InDigits l l (Text.digitsValue (word.drop k)) (word.drop k) :=
      ⟨digitsV, Nat.le_of_eq lengthV.symm, Nat.le_of_eq lengthV, rfl⟩
    have whole := Text.digitsValue_append (word.take k) (word.drop k)
    rw [List.take_append_drop, lengthV, value] at whole
    have parts := (split _ _ hu.lt hv.lt).mpr (whole ▸ hold)
    exact ⟨_, ⟨_, parts.1, hu⟩, _, ⟨_, parts.2, hv⟩, List.take_append_drop k word⟩

/-- Every word of so many digits. -/
theorem numbers_any (width : Nat) (word : List Char) :
    word ∈ within [('0', '9')] ^ width ↔ word ∈ numbers width width fun _ => True := by
  have digits : ∀ word : List Char, word ∈ within [('0', '9')] ^ width
      ↔ Text.AreDigits word ∧ word.length = width := by
    induction width with
    | zero =>
        intro word
        rw [pow_zero, Language.mem_one, List.length_eq_zero_iff]
        exact ⟨fun nil => ⟨by rw [nil]; simp [Text.AreDigits], nil⟩, fun h => h.2⟩
    | succ width ih =>
        intro word
        rw [pow_succ']
        cases word with
        | nil => simp
        | cons c word =>
            rw [cons_mem_within_mul, ih]
            simp [Text.AreDigits, char_le_iff, Text.isDigit_iff, and_assoc]
  rw [digits]
  constructor
  · rintro ⟨areDigits, length⟩
    exact ⟨_, trivial, areDigits, Nat.le_of_eq length.symm, Nat.le_of_eq length, rfl⟩
  · rintro ⟨number, -, areDigits, low, high, -⟩
    exact ⟨areDigits, Nat.le_antisymm high low⟩

/-- Two classes one after the other. -/
theorem pattern_classes (first second : List (Char × Char)) (valid : IsClass first ∧ IsClass second) :
    Pattern (classText first ++ classText second) (within first * within second) :=
  (Atom.classText valid.1).pattern.append (Atom.classText valid.2).pattern

/-- The even digits but zero, with the digits that make them a multiple of four. -/
def evenTens : List (Char × Char) × List (Char × Char) :=
  ([('2', '2'), ('4', '4'), ('6', '6'), ('8', '8')], [('0', '0'), ('4', '4'), ('8', '8')])

/-- The odd digits, with the digits that make them a multiple of four. -/
def oddTens : List (Char × Char) × List (Char × Char) :=
  ([('1', '1'), ('3', '3'), ('5', '5'), ('7', '7'), ('9', '9')], [('2', '2'), ('6', '6')])

/-- Years that four divides, in two digits; `last` are the last digits behind a zero. -/
theorem pattern_fourthYears {zeros : String} {last : List (Char × Char)} (valid : IsClass last)
    (text : zeros.toList = ['0'] ++ classText last) {holds : Nat → Prop}
    (two : ∀ c d : Char,
      ((c.toNat = 48 ∧ ∃ range ∈ last, range.1 ≤ d ∧ d ≤ range.2)
        ∨ (c.toNat ∈ [50, 52, 54, 56] ∧ d.toNat ∈ [48, 52, 56])
        ∨ (c.toNat ∈ [49, 51, 53, 55, 57] ∧ d.toNat ∈ [50, 54]))
      ↔ (48 ≤ c.toNat ∧ c.toNat ≤ 57) ∧ (48 ≤ d.toNat ∧ d.toNat ≤ 57)
        ∧ holds (10 * (c.toNat - 48) + (d.toNat - 48))) :
    Pattern (fourthYears zeros).toList (numbers 2 2 holds) := by
  have zero : Pattern ['0'] {['0']} := (Atom.plain (by decide)).pattern
  have branches : ∀ a ∈ [(['0'] ++ classText last, ({['0']} : Language Char) * within last),
      (classText evenTens.1 ++ classText evenTens.2, within evenTens.1 * within evenTens.2),
      (classText oddTens.1 ++ classText oddTens.2, within oddTens.1 * within oddTens.2)],
      Pattern a.1 a.2 :=
    List.forall_mem_cons.mpr ⟨zero.append (Atom.classText valid).pattern,
      List.forall_mem_cons.mpr ⟨pattern_classes _ _ (by decide),
        List.forall_mem_singleton.mpr (pattern_classes _ _ (by decide))⟩⟩
  have whole : (fourthYears zeros).toList
      = '(' :: (['|'].intercalate [['0'] ++ classText last,
        classText evenTens.1 ++ classText evenTens.2,
        classText oddTens.1 ++ classText oddTens.2] ++ [')']) := by
    rw [fourthYears, toList_anyOf, ← text]
    rfl
  rw [whole]
  refine (Atom.group (List.cons_ne_nil _ _) branches).pattern.congr
    (mem_numbers_iff (Or.inr rfl) ?_ (fun c => ?_) (fun c d => ?_) ?_)
  · simp [Language.mem_add]
  · simp [Language.mem_add]
  · rw [← two c d]
    simp only [List.map_cons, List.map_nil, List.sum_cons, List.sum_nil, add_zero,
      Language.mem_add, List.singleton_append, cons_mem_single_mul, cons_mem_within_mul,
      cons_mem_within, and_true, char_eq_iff, Char.reduceToNat]
    refine or_congr Iff.rfl (or_congr ?_ ?_)
    · simp [evenTens, char_le_iff]
      omega
    · simp [oddTens, char_le_iff]
      omega
  · simp [Language.mem_add]

/-- The centuries that four divides. -/
theorem pattern_centuries :
    Pattern (anyOf ["[02468][048]", "[13579][26]"]).toList
      (numbers 2 2 fun century => century % 4 = 0) := by
  have branches : ∀ a ∈ [(classText (('0', '0') :: evenTens.1) ++ classText evenTens.2,
        within (('0', '0') :: evenTens.1) * within evenTens.2),
      (classText oddTens.1 ++ classText oddTens.2, within oddTens.1 * within oddTens.2)],
      Pattern a.1 a.2 :=
    List.forall_mem_cons.mpr ⟨pattern_classes _ _ (by decide),
      List.forall_mem_singleton.mpr (pattern_classes _ _ (by decide))⟩
  rw [toList_anyOf]
  refine (Atom.group (List.cons_ne_nil _ _) branches).pattern.congr
    (mem_numbers_iff (Or.inr rfl) ?_ (fun c => ?_) (fun c d => ?_) ?_)
  · simp [Language.mem_add]
  · simp [Language.mem_add]
  · simp [Language.mem_add, evenTens, oddTens, char_le_iff]
    omega
  · simp [Language.mem_add]

theorem pattern_anyYear (width : Char) (isDigit : width.isDigit = true) :
    Pattern ("[0-9]".toList ++ ['\x7b', width, '\x7d'])
      (numbers (width.toNat - 48) (width.toNat - 48) fun _ => True) :=
  ((Atom.classText (by decide : IsClass [('0', '9')])).exactly isDigit).congr
    (numbers_any (width.toNat - 48))

theorem pattern_twoDigitYears :
    Pattern twoDigitYears.any.toList (numbers 2 2 fun _ => True)
      ∧ Pattern twoDigitYears.leap.toList (numbers 2 2 fun short => short % 4 = 0) := by
  refine ⟨pattern_anyYear '2' rfl, ?_⟩
  refine pattern_fourthYears (by decide : IsClass [('0', '0'), ('4', '4'), ('8', '8')]) (by rfl)
    fun c d => ?_
  simp [char_le_iff]
  omega

/-- Years in four digits that four divides and a hundred does not. -/
theorem pattern_commonLeapYears :
    Pattern ("[0-9]\x7b2\x7d" ++ fourthYears "0[48]").toList
      (numbers 4 4 fun year => year % 4 = 0 ∧ year % 100 ≠ 0) := by
  have fourths : Pattern (fourthYears "0[48]").toList
      (numbers 2 2 fun low => low % 4 = 0 ∧ low ≠ 0) := by
    refine pattern_fourthYears (by decide : IsClass [('4', '4'), ('8', '8')]) (by rfl)
      fun c d => ?_
    simp [char_le_iff]
    omega
  rw [String.toList_append]
  refine ((pattern_anyYear '2' rfl).append fourths).congr (mem_numbers_mul fun high low _ lt => ?_)
  have hundred : 10 ^ 2 = 100 := rfl
  rw [hundred] at lt ⊢
  rw [true_and]
  omega

/-- Years in four digits that four hundred divides. -/
theorem pattern_leapCenturies :
    Pattern (anyOf ["[02468][048]", "[13579][26]"] ++ "00").toList
      (numbers 4 4 fun year => year % 400 = 0) := by
  have zero : Pattern ['0'] {['0']} := (Atom.plain (by decide)).pattern
  have zeros : Pattern ['0', '0'] (numbers 2 2 fun low => low = 0) := by
    refine (zero.append zero).congr
      (mem_numbers_iff (Or.inr rfl) (by simp) (by simp) (fun c d => ?_) (by simp))
    simp [char_eq_iff]
    omega
  rw [String.toList_append]
  refine (pattern_centuries.append zeros).congr (mem_numbers_mul fun high low _ lt => ?_)
  have hundred : 10 ^ 2 = 100 := rfl
  rw [hundred] at lt ⊢
  omega

theorem pattern_fourDigitYears :
    Pattern fourDigitYears.any.toList (numbers 4 4 fun _ => True)
      ∧ Pattern fourDigitYears.leap.toList
        (numbers 4 4 fun year => isLeapYear (year : Int) = true) := by
  refine ⟨pattern_anyYear '4' rfl, ?_⟩
  rw [fourDigitYears, toList_anyOf]
  refine pattern_either pattern_commonLeapYears pattern_leapCenturies fun year => ?_
  -- The rule of the calendar is about integers.
  simp only [isLeapYear]
  simp
  omega

/-! ### Month names -/

/-- The abbreviations of the months that are as `holds` says. -/
def abbreviations (holds : Nat → Prop) : Language Char :=
  {word | ∃ month, holds month ∧ IsAbbreviation month word}

/-- An expression for a word in letters of either case. -/
def anyCase (word : List Char) : List Char :=
  word.flatMap fun c => classText [(c.toUpper, c.toUpper), (c, c)]

/-- The words that are this one in small letters. -/
def alikeInCase (word : List Char) : Language Char := {v | v.map Char.toLower = word}

theorem pattern_anyCase (word : List Char) (small : word.all Char.isLower = true) :
    Pattern (anyCase word) (alikeInCase word) := by
  induction word with
  | nil => exact Pattern.nil.congr fun v => (Language.mem_one v).trans List.map_eq_nil_iff.symm
  | cons c word ih =>
      rw [List.all_cons, Bool.and_eq_true] at small
      have letter := Text.isLower_iff.mp small.1
      have upper := Text.toNat_toUpper letter
      have valid : IsClass [(c.toUpper, c.toUpper), (c, c)] := by
        simp [IsClass, AreRanges, Text.isAlphanum_iff, char_le_iff]
        omega
      refine ((Atom.classText valid).pattern.append (ih small.2)).congr fun v => ?_
      show _ ↔ v.map Char.toLower = c :: word
      cases v with
      | nil => simp
      | cons x v =>
          have tail : v ∈ alikeInCase word ↔ v.map Char.toLower = word := Iff.rfl
          rw [cons_mem_within_mul, List.map_cons, List.cons.injEq, Text.toLower_eq_iff letter, tail]
          refine and_congr_left fun _ => ?_
          simp only [List.exists_mem_cons_iff, List.not_mem_nil, false_and, exists_false, or_false,
            char_le_iff, char_eq_iff]
          omega

/-- The abbreviation of a month. -/
def nameOf (month : Nat) : List Char := (Template.monthNames.getD (month - 1) ([], [])).1

theorem isAbbreviation_iff {month : Nat} (isMonth : 1 ≤ month ∧ month ≤ 12) (word : List Char) :
    IsAbbreviation month word ↔ word ∈ alikeInCase (nameOf month) := by
  have lt : month - 1 < Template.monthNames.length := by
    have length : Template.monthNames.length = 12 := rfl
    omega
  unfold IsAbbreviation nameOf
  show _ ↔ word.map Char.toLower = _
  rw [List.getD_eq_getElem?_getD, List.getElem?_eq_getElem lt]
  simp [isMonth.1, eq_comm]

/-- Months by their abbreviations in any case. -/
theorem pattern_months {months : List Nat} (inhabited : months ≠ [])
    (valid : ∀ month ∈ months, 1 ≤ month ∧ month ≤ 12) :
    Pattern ('(' :: (['|'].intercalate (months.map fun month => anyCase (nameOf month)) ++ [')']))
      (abbreviations (· ∈ months)) := by
  have letters : ∀ k : Fin 12, (nameOf (k + 1)).all Char.isLower = true := by decide
  have branches : ∀ a ∈ months.map fun month =>
      (anyCase (nameOf month), alikeInCase (nameOf month)), Pattern a.1 a.2 := by
    intro a mem
    obtain ⟨month, inside, rfl⟩ := List.mem_map.mp mem
    have isMonth := valid month inside
    have small := letters ⟨month - 1, by omega⟩
    rw [Nat.sub_add_cancel isMonth.1] at small
    exact pattern_anyCase _ small
  have group := (Atom.group (by simpa using inhabited) branches).pattern
  rw [List.map_map, List.map_map] at group
  refine group.congr fun word => ?_
  rw [mem_sum]
  constructor
  · rintro ⟨L, mem, inside⟩
    obtain ⟨month, isMember, rfl⟩ := List.mem_map.mp mem
    exact ⟨month, isMember, (isAbbreviation_iff (valid month isMember) word).mpr inside⟩
  · rintro ⟨month, isMember, abbreviation⟩
    exact ⟨_, List.mem_map_of_mem isMember,
      (isAbbreviation_iff (valid month isMember) word).mp abbreviation⟩

end ColumnCast.Catalog
