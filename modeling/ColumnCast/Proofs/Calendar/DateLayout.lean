import ColumnCast.Catalog.Builtin
import ColumnCast.Proofs.Calendar.Word

/-!
# `ColumnCast.Proofs.Calendar.DateLayout`: dates as they are written

A token such as `DD/MM/YYYY` is for texts of one shape. A `DateLayout`
names the shape: the order of the fields, the separator, the words that
stand for days, months and years. `DateLayout.Writes` relates the texts
of that shape to dates, without reading any of them.

* `readFrom?_append`: a text that writes a date is read as the fields of
  that date, whatever template and text come behind it.
* `date?_fields`: these fields make up the date.
-/

set_option autoImplicit false

namespace ColumnCast

/-! ### Dates -/

theorem Date.month_mem (date : Date) : 1 ≤ date.month ∧ date.month ≤ 12 := by
  have isDay := date.isDay.2.2
  unfold daysInMonth at isDay
  split at isDay <;> omega

theorem Date.day_mem (date : Date) : 1 ≤ date.day ∧ date.day ≤ 31 := by
  refine ⟨date.isDay.2.2.1, Nat.le_trans date.isDay.2.2.2 ?_⟩
  unfold daysInMonth
  split
  case h_12 => split <;> decide
  all_goals decide

/-- Day, month and year in order. -/
def Catalog.DayOrder.sorted {α : Type} (order : DayOrder) (day month year : α) : List α :=
  match order with
  | dayFirst => [day, month, year]
  | monthFirst => [month, day, year]
  | yearFirst => [year, month, day]

/-- The shape of the dates that a token is for. -/
structure DateLayout where
  token : String
  order : Catalog.DayOrder
  /-- What stands between the fields; nothing may, where no word is shorter than another. -/
  separator : Option Char
  /-- The fewest digits of a day, and of a month that is a number. -/
  leastDigits : Nat
  /-- Is the month an abbreviation? -/
  namedMonth : Bool
  /-- Has the year two digits? -/
  shortYear : Bool
  leastDigits_cases : leastDigits = 1 ∧ separator ≠ none ∨ leastDigits = 2
  separator_noDigit : ∀ c ∈ separator, c.isDigit = false
  leastDigits_named : namedMonth = true → leastDigits = 1
  template_eq : Template.ofToken token
    = (separator.toList.map Item.literal).intercalate
      ((order.sorted Field.day (if namedMonth then .monthAbbreviation else .month)
        (if shortYear then .shortYear else .year)).map fun f => [.field f])

namespace DateLayout

def DayWord (layout : DateLayout) (day : Nat) (word : List Char) : Prop :=
  InDigits layout.leastDigits 2 day word

def MonthWord (layout : DateLayout) (month : Nat) (word : List Char) : Prop :=
  if layout.namedMonth then IsAbbreviation month word
  else InDigits layout.leastDigits 2 month word

/-- The year of two digits, from 1970 to 2069. -/
def century (short : Nat) : Nat := if short < 70 then 2000 + short else 1900 + short

def YearWord (layout : DateLayout) (year : Int) (word : List Char) : Prop :=
  if layout.shortYear then ∃ short, InDigits 2 2 short word ∧ year = century short
  else ∃ number : Nat, InDigits 4 4 number word ∧ year = number

/-- The text writes the date in the layout. -/
def Writes (layout : DateLayout) (date : Date) (text : List Char) : Prop :=
  ∃ day month year, layout.DayWord date.day day ∧ layout.MonthWord date.month month
    ∧ layout.YearWord date.year year
    ∧ text = layout.separator.toList.intercalate (layout.order.sorted day month year)

/-- The fields that a text in the layout has. -/
def fields (layout : DateLayout) (date : Date) : Fields :=
  { day := some date.day
    month := some date.month
    year := if layout.shortYear then none else some date.year
    shortYear := if layout.shortYear then some (date.year % 100).toNat else none }

theorem leastDigits_pos (layout : DateLayout) : 1 ≤ layout.leastDigits := by
  rcases layout.leastDigits_cases with ⟨one, -⟩ | two <;> omega

/-- A year is a word of digits. -/
theorem digits_yearWord {layout : DateLayout} {year : Int} {word : List Char}
    (h : layout.YearWord year word) : Text.AreDigits word := by
  unfold YearWord at h
  split at h
  · obtain ⟨_, digits, -⟩ := h
    exact digits.1
  · obtain ⟨_, digits, -⟩ := h
    exact digits.1

/-- A month that has no name is a word of digits. -/
theorem inDigits_monthWord {layout : DateLayout} {month : Nat} {word : List Char}
    (h : layout.MonthWord month word) (numbered : layout.namedMonth = false) :
    InDigits layout.leastDigits 2 month word := by
  unfold MonthWord at h
  rwa [if_neg (by simp [numbered])] at h

/-- Every year that a layout writes lies between 0 and 9999. -/
theorem year_mem {layout : DateLayout} {year : Int} {word : List Char}
    (h : layout.YearWord year word) : 0 ≤ year ∧ year ≤ 9999 := by
  unfold YearWord at h
  split at h
  · obtain ⟨short, digits, rfl⟩ := h
    have small := digits.lt
    unfold century
    split <;> omega
  · obtain ⟨number, digits, rfl⟩ := h
    have small := digits.lt
    omega

theorem Writes.year_mem {layout : DateLayout} {date : Date} {text : List Char}
    (h : layout.Writes date text) : 0 ≤ date.year ∧ date.year ≤ 9999 := by
  obtain ⟨_, _, _, -, -, isYear, -⟩ := h
  exact DateLayout.year_mem isYear

theorem emod_century {year : Int} {short : Nat} (small : short < 10 ^ 2)
    (eq : year = century short) : (year % 100).toNat = short := by
  unfold century at eq
  split at eq <;> omega

/-- The fields of a written date make up that date. -/
theorem date?_fields {layout : DateLayout} {date : Date} {text : List Char}
    (h : layout.Writes date text) : (layout.fields date).date? = some date := by
  obtain ⟨-, -, word, -, -, year, -⟩ := h
  have full : (layout.fields date).fullYear? = some date.year := by
    unfold YearWord at year
    unfold fields Fields.fullYear?
    split at year
    · rename_i isShort
      obtain ⟨short, digits, eq⟩ := year
      have low := emod_century digits.lt eq
      simp only [isShort, if_true, low]
      rw [eq]
      unfold century
      split <;> simp
    · rename_i isLong
      simp [isLong]
  have parts : Date.ofParts? date.year date.month date.day = some date := by
    unfold Date.ofParts?
    rw [dif_pos date.isDay]
  unfold Fields.date?
  rw [full]
  exact parts

/-- The field of the month. -/
def monthField (layout : DateLayout) : Field :=
  if layout.namedMonth then .monthAbbreviation else .month

def monthWidth (layout : DateLayout) : Nat := if layout.namedMonth then 3 else 2

/-- The field of the year. -/
def yearField (layout : DateLayout) : Field := if layout.shortYear then .shortYear else .year

def yearWidth (layout : DateLayout) : Nat := if layout.shortYear then 2 else 4

variable {layout : DateLayout} {word : List Char}

theorem takes_day {day : Nat} (h : layout.DayWord day word) (isDay : 1 ≤ day ∧ day ≤ 31)
    {fields : Fields} (unset : fields.day = none) :
    Field.day.Takes 2 word fields { fields with day := some day } :=
  Field.takes_number rfl h layout.leastDigits_pos (by simp [Fields.put, isDay, unset, settle])

theorem takes_month {month : Nat} (h : layout.MonthWord month word)
    (isMonth : 1 ≤ month ∧ month ≤ 12) {fields : Fields} (unset : fields.month = none) :
    layout.monthField.Takes layout.monthWidth word fields
      { fields with month := some month } := by
  unfold MonthWord at h
  unfold monthField monthWidth
  split at h
  · rename_i named
    rw [if_pos named, if_pos named]
    exact Field.takes_monthAbbreviation h unset
  · rename_i numbered
    rw [if_neg numbered, if_neg numbered]
    exact Field.takes_number rfl h layout.leastDigits_pos
      (by simp [Fields.put, isMonth, unset, settle])

theorem takes_year {date : Date} (h : layout.YearWord date.year word) {fields : Fields}
    (unset : fields.year = none ∧ fields.shortYear = none) :
    layout.yearField.Takes layout.yearWidth word fields
      { fields with
        year := (layout.fields date).year
        shortYear := (layout.fields date).shortYear } := by
  unfold YearWord at h
  unfold yearField yearWidth DateLayout.fields
  split at h
  · rename_i isShort
    obtain ⟨short, digits, eq⟩ := h
    have low := emod_century digits.lt eq
    have small := digits.lt
    have le : short ≤ 99 := by omega
    simp only [isShort, if_true, low]
    rw [← unset.1]
    exact Field.takes_number rfl digits (by decide) (by simp [Fields.put, le, unset, settle])
  · rename_i isLong
    obtain ⟨number, digits, eq⟩ := h
    simp only [isLong, Bool.false_eq_true, if_false, eq]
    rw [← unset.2]
    exact Field.takes_year digits unset.1

/-- Where nothing stands between, no word can be shorter than another. -/
theorem length_dayWord {day : Nat} (h : layout.DayWord day word)
    (joined : layout.separator = none) : word.length = 2 := by
  rcases layout.leastDigits_cases with ⟨-, apart⟩ | two
  · exact absurd joined apart
  · have least := h.2.1
    have most := h.2.2.1
    omega

theorem length_monthWord {month : Nat} (h : layout.MonthWord month word)
    (joined : layout.separator = none) : word.length = layout.monthWidth := by
  unfold MonthWord at h
  unfold monthWidth
  split at h
  · rename_i named
    rw [if_pos named]
    exact Template.length_of_isAbbreviation h
  · rename_i numbered
    rw [if_neg numbered]
    exact length_dayWord h joined

theorem length_yearWord {year : Int} (h : layout.YearWord year word) :
    word.length = layout.yearWidth := by
  unfold YearWord at h
  unfold yearWidth
  split at h
  · rename_i isShort
    obtain ⟨_, digits, -⟩ := h
    rw [if_pos isShort]
    exact Nat.le_antisymm digits.2.2.1 digits.2.1
  · rename_i isLong
    obtain ⟨_, digits, -⟩ := h
    rw [if_neg isLong]
    exact Nat.le_antisymm digits.2.2.1 digits.2.1

/-- **A written date is read as its fields**, whatever stands behind it. -/
theorem readFrom?_append {date : Date} {text : List Char} (h : layout.Writes date text)
    (more : Template) {rest : List Char} (stop : NoDigit rest) :
    Template.readFrom? (Template.ofToken layout.token ++ more) {} (text ++ rest)
      = Template.readFrom? more (layout.fields date) rest := by
  obtain ⟨u, v, w, day, month, year, rfl⟩ := h
  rw [layout.template_eq]
  -- The order of the three fields is the order in which they stop one another: each of the first
  -- two at the separator or at its full width, the last at `stop`.
  have noDigit := layout.separator_noDigit
  have lengths := fun joined =>
    And.intro (length_dayWord day joined) (length_monthWord month joined)
  cases order : layout.order with
  | dayFirst =>
      exact Template.readFrom?_three (takes_day day date.day_mem rfl)
        (takes_month month date.month_mem rfl) (takes_year year ⟨rfl, rfl⟩) layout.separator
        noDigit lengths more (Or.inr stop)
  | monthFirst =>
      exact Template.readFrom?_three (takes_month month date.month_mem rfl)
        (takes_day day date.day_mem rfl) (takes_year year ⟨rfl, rfl⟩) layout.separator
        noDigit (fun joined => (lengths joined).symm) more (Or.inr stop)
  | yearFirst =>
      exact Template.readFrom?_three (takes_year year ⟨rfl, rfl⟩)
        (takes_month month date.month_mem rfl) (takes_day day date.day_mem rfl)
        layout.separator noDigit (fun joined => ⟨length_yearWord year, (lengths joined).2⟩) more
        (Or.inr stop)

end DateLayout

end ColumnCast
