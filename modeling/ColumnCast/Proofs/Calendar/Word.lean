import ColumnCast.Calendar.Template
import ColumnCast.Proofs.Text

/-!
# `ColumnCast.Proofs.Calendar.Word`: words that a field takes

A template takes a text apart word by word. `InDigits` and
`IsAbbreviation` say which words write a number or a month, without
reading them. `Field.Takes` says that a field takes a word off a text,
whatever stands behind, and what it leaves in the record of fields:
`takes_number`, `takes_monthAbbreviation`, `takes_year`.
`readFrom?_three` puts three of them in a row, with a separator between
or none.
-/

set_option autoImplicit false

namespace ColumnCast

open Text (AreDigits)

/-! ### Words -/

/-- The word writes the number in `least` to `most` digits. -/
def InDigits (least most number : Nat) (word : List Char) : Prop :=
  AreDigits word ∧ least ≤ word.length ∧ word.length ≤ most ∧ Text.digitsValue word = number

instance (least most number : Nat) (word : List Char) :
    Decidable (InDigits least most number word) :=
  inferInstanceAs (Decidable (_ ∧ _))

/-- The word is the abbreviation of the month, ASCII case aside. -/
def IsAbbreviation (month : Nat) (word : List Char) : Prop :=
  1 ≤ month ∧ (Template.monthNames[month - 1]?).map Prod.fst = some (word.map Char.toLower)

instance (month : Nat) (word : List Char) : Decidable (IsAbbreviation month word) :=
  inferInstanceAs (Decidable (_ ∧ _))

/-- The text does not begin with a digit. -/
def NoDigit (text : List Char) : Prop := ∀ c ∈ text.head?, c.isDigit = false

/-- The text does not begin with a blank. -/
def NoBlank (text : List Char) : Prop := ∀ c ∈ text.head?, Text.isBlank c = false

theorem InDigits.ne_nil {least most number : Nat} {word : List Char}
    (h : InDigits least most number word) (pos : 1 ≤ least) : word ≠ [] := by
  rintro rfl
  have length := h.2.1
  rw [List.length_nil] at length
  omega

theorem InDigits.lt {least most number : Nat} {word : List Char}
    (h : InDigits least most number word) : number < 10 ^ most := by
  have lt := Text.digitsValue_lt h.1
  rw [h.2.2.2] at lt
  exact Nat.lt_of_lt_of_le lt (Nat.pow_le_pow_right (by decide) h.2.2.1)

theorem InDigits.noBlank {least most number : Nat} {word : List Char}
    (h : InDigits least most number word) (pos : 1 ≤ least) (rest : List Char) :
    NoBlank (word ++ rest) := by
  cases word with
  | nil => exact absurd rfl (h.ne_nil pos)
  | cons c word =>
      intro d mem
      obtain rfl : c = d := by simpa using mem
      exact Text.isBlank_of_isDigit (h.1 c List.mem_cons_self)

/-- A padded number has the digits of its width. -/
theorem inDigits_padded {least width number : Nat} (pos : 0 < width) (le : least ≤ width)
    (small : number < 10 ^ width) :
    InDigits least width number (Text.padded width number).toList := by
  have length := Text.length_padded pos small
  exact ⟨Text.areDigits_padded _ _, by omega, by omega, Text.digitsValue_padded _ _⟩

theorem trimStart_eq {text : List Char} (h : NoBlank text) : Text.trimStart text = text := by
  cases text with
  | nil => rfl
  | cons c text => exact List.dropWhile_cons_of_neg (by simp [h c rfl])

theorem takeWhile_digits {word rest : List Char} (digits : AreDigits word) (stop : NoDigit rest) :
    (word ++ rest).takeWhile Char.isDigit = word := by
  rw [List.takeWhile_append_of_pos digits]
  cases rest with
  | nil => rw [List.takeWhile_nil, List.append_nil]
  | cons c rest => rw [List.takeWhile_cons_of_neg (by simp [stop c rfl]), List.append_nil]

namespace Template

/-- A number is read to its last digit, or to the last one that the field takes. -/
theorem readDigits?_append {least most number : Nat} {word rest : List Char}
    (h : InDigits least most number word) (pos : 1 ≤ least)
    (stop : word.length = most ∨ NoDigit rest) :
    readDigits? most (word ++ rest) = some (number, rest) := by
  have inhabited := h.ne_nil pos
  obtain ⟨digits, _, le, value⟩ := h
  have noDigit : NoDigit [] := fun c mem => absurd mem (by simp)
  -- A full word is cut off by the width of the field, a shorter one by what is no digit.
  have taken : ((word ++ rest).take most).takeWhile Char.isDigit = word := by
    rcases stop with full | stop
    · rw [← full, List.take_left]
      simpa using takeWhile_digits digits noDigit
    · rw [List.take_append, List.take_of_length_le le]
      refine takeWhile_digits digits fun c mem => stop c ?_
      cases rest with
      | nil => simp at mem
      | cons d rest =>
          cases room : most - word.length with
          | zero => simp [room] at mem
          | succ n => simpa [room] using mem
  unfold readDigits?
  simp only [taken]
  rw [if_neg (by simpa using inhabited), value, List.drop_left]

theorem length_monthNames : ∀ entry ∈ monthNames, entry.1.length = 3 := by decide

theorem monthNames_injective : ∀ i j : Fin monthNames.length,
    monthNames[i].1 = monthNames[j].1 → i = j := by decide

theorem length_of_isAbbreviation {month : Nat} {word : List Char} (h : IsAbbreviation month word) :
    word.length = 3 := by
  obtain ⟨entry, found, eq⟩ := Option.map_eq_some_iff.mp h.2
  have length := length_monthNames entry (List.mem_of_getElem? found)
  rw [eq, List.length_map] at length
  exact length

theorem month_le_of_isAbbreviation {month : Nat} {word : List Char}
    (h : IsAbbreviation month word) : 1 ≤ month ∧ month ≤ 12 := by
  obtain ⟨entry, found, -⟩ := Option.map_eq_some_iff.mp h.2
  obtain ⟨lt, -⟩ := List.getElem?_eq_some_iff.mp found
  have length : monthNames.length = 12 := rfl
  exact ⟨h.1, by omega⟩

/-- An abbreviation is read as its month. -/
theorem readMonth?_append {month : Nat} {word : List Char} (h : IsAbbreviation month word)
    (rest : List Char) : readMonth? false (word ++ rest) = some (month, rest) := by
  have length := length_of_isAbbreviation h
  obtain ⟨entry, found, eq⟩ := Option.map_eq_some_iff.mp h.2
  obtain ⟨lt, at_eq⟩ := List.getElem?_eq_some_iff.mp found
  have three : (word ++ rest).take 3 = word := by rw [← length, List.take_left]
  have left : (word ++ rest).drop 3 = rest := by rw [← length, List.drop_left]
  -- The names are told apart by their three letters, so no earlier one is taken for this.
  have after : ∀ other ∈ monthNames, (afterWord? other.1 (word ++ rest)).isSome = true
      ↔ other.1 = entry.1 := by
    intro other mem
    unfold afterWord?
    rw [length_monthNames other mem, three, ← eq]
    split
    · rename_i same
      simp [same]
    · rename_i differs
      simpa using fun same => differs same.symm
  have index : monthNames.findIdx? (fun other => (afterWord? other.1 (word ++ rest)).isSome)
      = some (month - 1) := by
    refine List.findIdx?_eq_some_iff_getElem.mpr ⟨lt, ?_, fun j before found => ?_⟩
    · rw [after _ (List.getElem_mem lt), at_eq]
    · have same := (after _ (List.getElem_mem _)).mp found
      rw [← at_eq] at same
      have index := monthNames_injective ⟨j, Nat.lt_trans before lt⟩ ⟨month - 1, lt⟩ same
      exact absurd (congrArg Fin.val index) (Nat.ne_of_lt before)
  unfold readMonth?
  simp only [index, left]
  have pos := h.1
  simp only [Option.bind_eq_bind, Option.bind_some, Bool.false_eq_true, if_false]
  rw [Nat.sub_add_cancel pos]
  rfl

end Template

/-- A blank is no capital letter, so it stays what it is in small. -/
theorem isBlank_of_toLower {c : Char} (h : Text.isBlank c.toLower = false) :
    Text.isBlank c = false := by
  have code := Text.toNat_toLower c
  split at code
  · simp only [Text.isBlank, Bool.or_eq_false_iff, Bool.and_eq_false_iff,
      decide_eq_false_iff_not, beq_eq_false_iff_ne]
    omega
  · rwa [Char.toNat_inj.mp code] at h

/-- A word that is one of letters in small begins with no blank. -/
theorem noBlank_of_map_toLower {word letters : List Char} (eq : word.map Char.toLower = letters)
    (inhabited : letters ≠ []) (solid : letters.any Text.isBlank = false)
    (rest : List Char) : NoBlank (word ++ rest) := by
  cases word with
  | nil => exact absurd eq.symm inhabited
  | cons c word =>
      intro d mem
      obtain rfl : c = d := by simpa using mem
      have first : c.toLower ∈ letters := eq ▸ List.mem_cons_self
      exact isBlank_of_toLower (Bool.eq_false_iff.mpr (List.any_eq_false.mp solid _ first))

theorem IsAbbreviation.noBlank {month : Nat} {word : List Char} (h : IsAbbreviation month word)
    (rest : List Char) : NoBlank (word ++ rest) := by
  obtain ⟨entry, found, eq⟩ := Option.map_eq_some_iff.mp h.2
  have names : ∀ entry ∈ Template.monthNames,
      entry.1 ≠ [] ∧ entry.1.any Text.isBlank = false := by decide
  have name := names entry (List.mem_of_getElem? found)
  exact noBlank_of_map_toLower eq.symm name.1 name.2 rest

/-! ### Fields in a row -/

/-- The field takes the word off a text, which leads from the one record of fields to the
other. Behind a word shorter than `most` no digit may follow. -/
structure Field.Takes (f : Field) (most : Nat) (word : List Char) (before after : Fields) :
    Prop where
  read : ∀ rest, word.length = most ∨ NoDigit rest →
    Template.readField? f before (word ++ rest) = some (after, rest)
  noBlank : ∀ rest, NoBlank (word ++ rest)

namespace Template

theorem readFrom?_field {f : Field} {most : Nat} {word : List Char} {before after : Fields}
    (h : f.Takes most word before after) (more : Template) {rest : List Char}
    (stop : word.length = most ∨ NoDigit rest) :
    readFrom? (.field f :: more) before (word ++ rest) = readFrom? more after rest := by
  rw [readFrom?, h.read rest stop]
  rfl

/-- A separator is taken off; what comes behind a blank begins with none. -/
theorem readFrom?_literal (c : Char) (more : Template) (fields : Fields) {rest : List Char}
    (noBlank : NoBlank rest) :
    readFrom? (.literal c :: more) fields (c :: rest) = readFrom? more fields rest := by
  rw [readFrom?]
  split
  · rename_i blank
    rw [Text.trimStart, List.dropWhile_cons_of_pos blank]
    exact congrArg _ (trimStart_eq noBlank)
  · rw [if_pos rfl]

/-- The items and the text of fields in a row, with a separator between or none. -/
theorem readFrom?_pair {f : Field} {most : Nat} {word : List Char} {before after : Fields}
    (h : f.Takes most word before after) (separator : Option Char)
    (noDigit : ∀ c ∈ separator, c.isDigit = false) (full : separator = none → word.length = most)
    (more : Template) {rest : List Char} (noBlank : NoBlank rest) :
    readFrom? (.field f :: (separator.toList.map .literal ++ more)) before
        (word ++ (separator.toList ++ rest))
      = readFrom? more after rest := by
  cases separator with
  | none =>
      simpa using readFrom?_field h more (Or.inl (full rfl))
  | some c =>
      have stop : NoDigit (c :: rest) := by
        intro d mem
        obtain rfl : c = d := by simpa using mem
        exact noDigit c rfl
      refine (readFrom?_field h (.literal c :: more) (Or.inr stop)).trans ?_
      exact readFrom?_literal c more after noBlank

theorem readFrom?_three {f g k : Field} {most most' most'' : Nat} {u v w : List Char}
    {a b c d : Fields} (hf : f.Takes most u a b) (hg : g.Takes most' v b c)
    (hk : k.Takes most'' w c d) (separator : Option Char)
    (noDigit : ∀ c ∈ separator, c.isDigit = false)
    (full : separator = none → u.length = most ∧ v.length = most')
    (more : Template) {rest : List Char} (stop : w.length = most'' ∨ NoDigit rest) :
    readFrom? ((separator.toList.map Item.literal).intercalate
          [[.field f], [.field g], [.field k]] ++ more) a
        (separator.toList.intercalate [u, v, w] ++ rest)
      = readFrom? more d rest := by
  simp only [List.intercalate_cons_cons, List.intercalate_singleton, List.append_assoc,
    List.cons_append, List.nil_append]
  rw [readFrom?_pair hf separator noDigit (fun joined => (full joined).1) _ (hg.noBlank _),
    readFrom?_pair hg separator noDigit (fun joined => (full joined).2) _ (hk.noBlank rest)]
  exact readFrom?_field hk more stop

end Template

/-! ### Numbers and names as fields -/

/-- Is the field a number of one or two digits, with no sign? -/
def Field.isNumber : Field → Bool
  | .shortYear | .month | .day | .hour24 | .hour12 | .minute | .second => true
  | .year | .monthAbbreviation | .monthName | .fraction | .meridiem => false

theorem Field.takes_number {f : Field} (isNumber : f.isNumber = true) {least number : Nat}
    {word : List Char} (h : InDigits least 2 number word) (pos : 1 ≤ least)
    {before after : Fields} (put : before.put f number = some after) :
    f.Takes 2 word before after where
  read rest stop := by
    have start := trimStart_eq (h.noBlank pos rest)
    have digits := Template.readDigits?_append h pos stop
    cases f
    case shortYear | month | day | hour24 | hour12 | minute | second =>
      simp [Template.readField?, start, digits, put]
    all_goals exact absurd isNumber (by decide)
  noBlank := h.noBlank pos

theorem Field.takes_monthAbbreviation {month : Nat} {word : List Char}
    (h : IsAbbreviation month word) {fields : Fields} (unset : fields.month = none) :
    Field.monthAbbreviation.Takes 3 word fields { fields with month := some month } where
  read rest _ := by
    have isMonth := Template.month_le_of_isAbbreviation h
    rw [Template.readField?, Template.readMonth?_append h rest]
    simp [Fields.put, isMonth, unset, settle]
  noBlank := h.noBlank

theorem Field.takes_year {year : Nat} {word : List Char} (h : InDigits 4 4 year word)
    {fields : Fields} (unset : fields.year = none) :
    Field.year.Takes 4 word fields { fields with year := some (year : Int) } where
  read rest stop := by
    have small := h.lt
    -- A year can have a sign, so that it must be seen first that the word starts with a digit.
    have read : Template.readYear? (word ++ rest) = some ((year : Int), rest) := by
      obtain ⟨c, more, rfl⟩ := List.exists_cons_of_ne_nil (h.ne_nil (by decide))
      have isDigit := h.1 c List.mem_cons_self
      unfold Template.readYear?
      split
      · rename_i eq
        rw [(List.cons.inj eq).1] at isDigit
        exact absurd isDigit (by decide)
      · rename_i eq
        rw [(List.cons.inj eq).1] at isDigit
        exact absurd isDigit (by decide)
      · rw [Template.readDigits?_append h (by decide) stop]
        rfl
    rw [Template.readField?, trimStart_eq (h.noBlank (by decide) rest), read]
    have low : (-2147483648 : Int) ≤ year ∧ (year : Int) ≤ 2147483647 := by omega
    simp [Fields.put, low, unset, settle]
  noBlank := h.noBlank (by decide)

end ColumnCast
