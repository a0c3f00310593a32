import ColumnCast.Proofs.Catalog.Words

/-!
# `ColumnCast.Proofs.Catalog.Calendar`: the patterns of days that exist

`Catalog.calendar` says with four alternatives which days exist. This
file proves that it says so rightly: for every layout, `calendar` matches
the texts that write a date in it, and no others
(`DateLayout.pattern_calendar`). A date is a real day by its type, so the
four alternatives together are neither too narrow nor too wide.
-/

set_option autoImplicit false

namespace ColumnCast

open Regex Catalog

/-! ### Fields in order -/

/-- The texts that are put together from one word of each language. -/
def Catalog.DayOrder.arranged (order : DayOrder) (separator : List Char)
    (days months years : Language Char) : Language Char :=
  {text | ∃ day ∈ days, ∃ month ∈ months, ∃ year ∈ years,
    text = separator.intercalate (order.sorted day month year)}

theorem pattern_intercalate {a b c : List Char} {L M N : Language Char} (separator : List Char)
    (ha : Pattern a L) (hb : Pattern b M) (hc : Pattern c N) :
    Pattern ((Sql.escaped separator).intercalate [a, b, c])
      {text | ∃ u ∈ L, ∃ v ∈ M, ∃ w ∈ N, text = separator.intercalate [u, v, w]} := by
  have between := Pattern.escaped separator
  have whole := (ha.append between).append ((hb.append between).append hc)
  simp only [List.intercalate_cons_cons, List.intercalate_singleton]
  refine whole.congr fun text => ?_
  simp only [Language.mem_mul, mem_single]
  constructor
  · rintro ⟨_, ⟨u, hu, _, rfl, rfl⟩, _, ⟨_, ⟨v, hv, _, rfl, rfl⟩, w, hw, rfl⟩, rfl⟩
    exact ⟨u, hu, v, hv, w, hw, rfl⟩
  · rintro ⟨u, hu, v, hv, w, hw, rfl⟩
    exact ⟨_, ⟨u, hu, _, rfl, rfl⟩, _, ⟨_, ⟨v, hv, _, rfl, rfl⟩, w, hw, rfl⟩, rfl⟩

theorem Catalog.DayOrder.toList_arrange (order : DayOrder) (separator day month year : String) :
    (order.arrange separator day month year).toList
      = separator.toList.intercalate (order.sorted day.toList month.toList year.toList) := by
  cases order with
  | dayFirst => exact String.toList_intercalate
  | monthFirst => exact String.toList_intercalate
  | yearFirst => exact String.toList_intercalate

theorem pattern_arrange (order : DayOrder) (separator : List Char) {day month year : String}
    {days months years : Language Char} (hd : Pattern day.toList days)
    (hm : Pattern month.toList months) (hy : Pattern year.toList years) :
    Pattern (order.arrange (String.ofList (Sql.escaped separator)) day month year).toList
      (order.arranged separator days months years) := by
  rw [DayOrder.toList_arrange, String.toList_ofList]
  cases order with
  | dayFirst => exact pattern_intercalate separator hd hm hy
  | monthFirst =>
      refine (pattern_intercalate separator hm hd hy).congr fun text => ?_
      constructor
      · rintro ⟨month, hm, day, hd, year, hy, eq⟩
        exact ⟨day, hd, month, hm, year, hy, eq⟩
      · rintro ⟨day, hd, month, hm, year, hy, eq⟩
        exact ⟨month, hm, day, hd, year, hy, eq⟩
  | yearFirst =>
      refine (pattern_intercalate separator hy hm hd).congr fun text => ?_
      constructor
      · rintro ⟨year, hy, month, hm, day, hd, eq⟩
        exact ⟨day, hd, month, hm, year, hy, eq⟩
      · rintro ⟨day, hd, month, hm, year, hy, eq⟩
        exact ⟨year, hy, month, hm, day, hd, eq⟩

/-! ### Layouts as patterns -/

namespace DateLayout

/-- The expressions for the days and months of the layout. -/
def days (layout : DateLayout) : DayPatterns :=
  if layout.namedMonth then namedMonths
  else if layout.leastDigits = 1 then flexibleDays else fixedDays

/-- The expressions for the years of the layout. -/
def years (layout : DateLayout) : YearPatterns :=
  if layout.shortYear then twoDigitYears else fourDigitYears

/-- The format of the layout. -/
def format (layout : DateLayout) : Format :=
  ⟨layout.token, calendar layout.days layout.years layout.order
    (String.ofList (Sql.escaped layout.separator.toList))⟩

def dayWords (layout : DateLayout) (holds : Nat → Prop) : Language Char :=
  {word | ∃ day, holds day ∧ layout.DayWord day word}

def monthWords (layout : DateLayout) (holds : Nat → Prop) : Language Char :=
  {word | ∃ month, holds month ∧ layout.MonthWord month word}

def yearWords (layout : DateLayout) (holds : Int → Prop) : Language Char :=
  {word | ∃ year, holds year ∧ layout.YearWord year word}

variable (layout : DateLayout)

theorem pattern_years :
    Pattern layout.years.any.toList (layout.yearWords fun _ => True)
      ∧ Pattern layout.years.leap.toList (layout.yearWords fun year => isLeapYear year = true) := by
  unfold years yearWords YearWord
  split
  · rename_i isShort
    refine ⟨pattern_twoDigitYears.1.congr fun word => ?_,
      pattern_twoDigitYears.2.congr fun word => ?_⟩
    · constructor
      · rintro ⟨short, -, digits⟩
        exact ⟨_, trivial, short, digits, rfl⟩
      · rintro ⟨_, -, short, digits, rfl⟩
        exact ⟨short, trivial, digits⟩
    · -- Between 1970 and 2069 every fourth year is a leap year.
      have leap_iff : ∀ short : Nat, short < 10 ^ 2 →
          (short % 4 = 0 ↔ isLeapYear (century short) = true) := by
        intro short small
        simp only [isLeapYear, century]
        split <;> simp <;> omega
      constructor
      · rintro ⟨short, leap, digits⟩
        exact ⟨_, (leap_iff short digits.lt).mp leap, short, digits, rfl⟩
      · rintro ⟨_, leap, short, digits, rfl⟩
        exact ⟨short, (leap_iff short digits.lt).mpr leap, digits⟩
  · rename_i isLong
    refine ⟨pattern_fourDigitYears.1.congr fun word => ?_,
      pattern_fourDigitYears.2.congr fun word => ?_⟩
    · constructor
      · rintro ⟨year, -, digits⟩
        exact ⟨_, trivial, year, digits, rfl⟩
      · rintro ⟨_, -, year, digits, rfl⟩
        exact ⟨year, trivial, digits⟩
    · constructor
      · rintro ⟨year, leap, digits⟩
        exact ⟨_, leap, year, digits, rfl⟩
      · rintro ⟨_, leap, year, digits, rfl⟩
        exact ⟨year, leap, digits⟩

theorem leastDigits_mem : layout.leastDigits = 1 ∨ layout.leastDigits = 2 := by
  rcases layout.leastDigits_cases with ⟨one, -⟩ | two
  · exact Or.inl one
  · exact Or.inr two

variable {layout}

/-- Days and months as numbers have the padding of the layout. -/
theorem exists_padding (numbered : layout.namedMonth = false) :
    ∃ padding, Padding padding layout.leastDigits ∧ layout.days = numericDays padding := by
  unfold days
  rcases layout.leastDigits_mem with one | two
  · exact ⟨"0?", one ▸ Padding.flexible, by simp [numbered, one, flexibleDays]⟩
  · exact ⟨"0", two ▸ Padding.fixed, by simp [numbered, two, fixedDays]⟩

theorem days_named (named : layout.namedMonth = true) : layout.days = namedMonths := by
  simp [days, named]

theorem pattern_dayWords :
    Pattern layout.days.day.toList (layout.dayWords fun day => 1 ≤ day ∧ day ≤ 28) := by
  cases named : layout.namedMonth with
  | false =>
      obtain ⟨padding, pads, eq⟩ := exists_padding named
      rw [eq]
      exact pattern_day pads
  | true =>
      have pads : Padding "0?" layout.leastDigits :=
        (layout.leastDigits_named named) ▸ Padding.flexible
      have text : layout.days.day = (numericDays "0?").day := by
        rw [days_named named]
        rfl
      rw [text]
      exact pattern_day pads

/-- The words for months of either kind. -/
theorem monthWords_eq (numbered : layout.namedMonth = false) (holds : Nat → Prop) :
    layout.monthWords holds = numbers layout.leastDigits 2 holds := by
  simp only [monthWords, MonthWord, numbered, Bool.false_eq_true, if_false]
  rfl

theorem monthWords_named (named : layout.namedMonth = true) (holds : Nat → Prop) :
    layout.monthWords holds = abbreviations holds := by
  simp only [monthWords, MonthWord, named, if_true]
  rfl

/-- A list of months, written by their abbreviations. -/
theorem pattern_named (named : layout.namedMonth = true) (months : List Nat)
    {alternatives : List String} (inhabited : months ≠ [])
    (valid : ∀ month ∈ months, 1 ≤ month ∧ month ≤ 12)
    (text : alternatives.map String.toList = months.map fun month => anyCase (nameOf month))
    {holds : Nat → Prop} (same : ∀ month, month ∈ months ↔ holds month) :
    Pattern (anyOf alternatives).toList (layout.monthWords holds) := by
  rw [monthWords_named named, toList_anyOf, text]
  refine (pattern_months inhabited valid).congr fun word => ?_
  exact exists_congr fun month => and_congr_left fun _ => same month

theorem pattern_monthWords :
    Pattern layout.days.month.toList (layout.monthWords fun month => 1 ≤ month ∧ month ≤ 12)
      ∧ Pattern layout.days.month30.toList
        (layout.monthWords fun month => 1 ≤ month ∧ month ≤ 12 ∧ month ≠ 2)
      ∧ Pattern layout.days.month31.toList
        (layout.monthWords fun month => month ∈ [1, 3, 5, 7, 8, 10, 12])
      ∧ Pattern layout.days.february.toList (layout.monthWords fun month => month = 2) := by
  cases named : layout.namedMonth with
  | false =>
      obtain ⟨padding, pads, eq⟩ := exists_padding named
      rw [eq]
      simp only [monthWords_eq named]
      exact ⟨pattern_month pads, pattern_month30 pads, pattern_month31 pads, pattern_february pads⟩
  | true =>
      rw [days_named named]
      refine ⟨pattern_named named [1, 2, 3, 4, 5, 6, 7, 8, 9, 10, 11, 12] (by decide) (by decide)
          (by rfl) fun month => ?_,
        pattern_named named [1, 3, 4, 5, 6, 7, 8, 9, 10, 11, 12] (by decide) (by decide)
          (by rfl) fun month => ?_,
        pattern_named named [1, 3, 5, 7, 8, 10, 12] (by decide) (by decide)
          (by rfl) fun month => Iff.rfl, ?_⟩
      · simp
        omega
      · simp
        omega
      · rw [monthWords_named named]
        refine (pattern_anyCase (nameOf 2) (by decide)).congr fun word => ?_
        rw [← isAbbreviation_iff (by decide)]
        show _ ↔ ∃ month, month = 2 ∧ IsAbbreviation month word
        simp

/-! ### Days that exist -/

/-- Days, months and years that go together: one of the ways in which a day can be real. -/
structure DayKind where
  days : Nat → Prop
  months : Nat → Prop
  years : Int → Prop

/-- The four ways, in the order of the alternatives of `Catalog.calendar`. -/
def dayKinds : List DayKind :=
  [⟨fun day => 1 ≤ day ∧ day ≤ 28, fun month => 1 ≤ month ∧ month ≤ 12, fun _ => True⟩,
    ⟨fun day => day = 29 ∨ day = 30, fun month => 1 ≤ month ∧ month ≤ 12 ∧ month ≠ 2,
      fun _ => True⟩,
    ⟨fun day => day = 31, fun month => month ∈ [1, 3, 5, 7, 8, 10, 12], fun _ => True⟩,
    ⟨fun day => day = 29, fun month => month = 2, fun year => isLeapYear year = true⟩]

/-- The four ways say which days exist. -/
theorem isDay_iff (year : Int) (inRange : 0 ≤ year ∧ year ≤ 9999) (month day : Nat) :
    IsDay year month day ↔
      ∃ kind ∈ dayKinds, kind.days day ∧ kind.months month ∧ kind.years year := by
  simp only [dayKinds, List.exists_mem_cons_iff, List.not_mem_nil, false_and, exists_false,
    or_false, and_true]
  unfold IsDay daysInMonth
  split
  case h_12 => split <;> simp [*] <;> omega
  case h_13 =>
    simp only [imp_false] at *
    simp only [List.mem_cons, List.not_mem_nil, or_false]
    omega
  all_goals
    simp
    omega

/-- A group around a single alternative. -/
theorem pattern_anyOf_single {alternative : String} {L : Language Char}
    (h : Pattern alternative.toList L) : Pattern (anyOf [alternative]).toList L := by
  rw [toList_anyOf]
  have group := (Atom.group (List.cons_ne_nil (alternative.toList, L) [])
    (List.forall_mem_singleton.mpr h)).pattern
  simpa using group

/-- One of the alternatives, with its words for day, month and year. -/
def alternative (layout : DateLayout) (day month year : String) : String :=
  anyOf [layout.order.arrange (String.ofList (Sql.escaped layout.separator.toList)) day month year]

/-- The texts with a day, a month and a year of these kinds. -/
def texts (layout : DateLayout) (days months : Nat → Prop) (years : Int → Prop) : Language Char :=
  layout.order.arranged layout.separator.toList (layout.dayWords days) (layout.monthWords months)
    (layout.yearWords years)

/-- The texts with a day, a month and a year that go together in this way. -/
def textsOf (layout : DateLayout) (kind : DayKind) : Language Char :=
  layout.texts kind.days kind.months kind.years

theorem pattern_alternative {day month year : String} {days months : Nat → Prop}
    {years : Int → Prop} (hd : Pattern day.toList (layout.dayWords days))
    (hm : Pattern month.toList (layout.monthWords months))
    (hy : Pattern year.toList (layout.yearWords years)) :
    Pattern (layout.alternative day month year).toList (layout.texts days months years) :=
  pattern_anyOf_single (pattern_arrange layout.order layout.separator.toList hd hm hy)

/-- The texts that write a date in the layout. -/
def language (layout : DateLayout) : Language Char := {text | ∃ date, layout.Writes date text}

/-- A text writes a date if its words go together in one of the ways. -/
theorem mem_language_iff {text : List Char} :
    text ∈ layout.language ↔ ∃ kind ∈ dayKinds, text ∈ layout.textsOf kind := by
  constructor
  · rintro ⟨date, u, v, w, hu, hv, hw, eq⟩
    obtain ⟨kind, mem, isDay, isMonth, isYear⟩ :=
      (isDay_iff date.year (year_mem hw) date.month date.day).mp date.isDay
    exact ⟨kind, mem, u, ⟨_, isDay, hu⟩, v, ⟨_, isMonth, hv⟩, w, ⟨_, isYear, hw⟩, eq⟩
  · rintro ⟨kind, mem, u, ⟨day, isDay, hu⟩, v, ⟨month, isMonth, hv⟩, w, ⟨year, isYear, hw⟩, eq⟩
    have real : IsDay year month day :=
      (isDay_iff year (year_mem hw) month day).mpr ⟨kind, mem, isDay, isMonth, isYear⟩
    exact ⟨⟨year, month, day, real⟩, u, v, w, hu, hv, hw, eq⟩

/-- The expressions of the alternatives, in the order of the ways that they stand for. -/
def alternatives (layout : DateLayout) : List String :=
  [layout.alternative layout.days.day layout.days.month layout.years.any,
    layout.alternative "(29|30)" layout.days.month30 layout.years.any,
    layout.alternative "31" layout.days.month31 layout.years.any,
    layout.alternative "29" layout.days.february layout.years.leap]

/-- Each alternative with the texts of the way that it stands for. -/
def branches (layout : DateLayout) : List (List Char × Language Char) :=
  (layout.alternatives.map String.toList).zip (dayKinds.map layout.textsOf)

theorem pattern_branches (layout : DateLayout) : ∀ a ∈ layout.branches, Pattern a.1 a.2 := by
  obtain ⟨month, month30, month31, february⟩ := layout.pattern_monthWords
  have range := layout.leastDigits_mem
  have day29 : Pattern "29".toList (layout.dayWords fun day => day = 29) :=
    pattern_fixed range rfl (by decide) rfl
  have day31 : Pattern "31".toList (layout.dayWords fun day => day = 31) :=
    pattern_fixed range rfl (by decide) rfl
  simp only [branches, alternatives, dayKinds, List.map_cons, List.map_nil, List.zip_cons_cons,
    List.zip_nil_left, List.forall_mem_cons]
  exact ⟨pattern_alternative layout.pattern_dayWords month layout.pattern_years.1,
    pattern_alternative (pattern_twoDays range) month30 layout.pattern_years.1,
    pattern_alternative day31 month31 layout.pattern_years.1,
    pattern_alternative day29 february layout.pattern_years.2,
    fun a mem => absurd mem List.not_mem_nil⟩

/-- **The pattern of a layout matches the texts that write a date in it.** -/
theorem pattern_calendar (layout : DateLayout) :
    Pattern layout.format.pattern.toList layout.language := by
  have inhabited : layout.branches ≠ [] := List.cons_ne_nil _ _
  have expressions : layout.branches.map Prod.fst = layout.alternatives.map String.toList := rfl
  have languages : layout.branches.map Prod.snd = dayKinds.map layout.textsOf := rfl
  have text : layout.format.pattern = anyOf layout.alternatives := rfl
  rw [text, toList_anyOf, ← expressions]
  refine (Atom.group inhabited layout.pattern_branches).pattern.congr fun text => ?_
  rw [languages, mem_language_iff, mem_sum]
  simp only [List.mem_map, exists_exists_and_eq_and]

end DateLayout

end ColumnCast
