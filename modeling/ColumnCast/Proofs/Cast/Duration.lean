import ColumnCast.Catalog.Builtin
import ColumnCast.Proofs.Cast.Cascade
import ColumnCast.Proofs.Cast.Display
import ColumnCast.Proofs.Decimal.Rounding
import ColumnCast.Proofs.Regex.Pattern

/-!
# `ColumnCast.Proofs.Cast.Duration`: seconds, or a time counted from midnight

A duration has three tiers, and `Lasts` has a case for each. A cell that
writes a number is that number of seconds, whatever the time formats make
of it. Any other cell is a time by the first format that recognizes it,
and has no value if the token of that format does not fit. A cell that no
format recognizes has no value.

The database and the preview tell the first tier apart by different
means, a regular expression and `isSeconds`; both hold of the cells that
write a number (`isMatch_secondsPattern`, `isSeconds_iff`).

`duration_lasts` is the outcome. The expression is worth what `Lasts`
says, for every cell. So is the preview behind the first tier. Within it
the preview has what a decimal keeps of the number.
-/

set_option autoImplicit false

namespace ColumnCast

open Text (AreDigits)

namespace Temporal

/-! ### Cells that write a number -/

/-- A number of seconds is the text of a numeral. -/
theorem exists_of_isSeconds {text : List Char} (h : isSeconds text = true) :
    ∃ w : Written, w.Proper ∧ w.text = text := by
  obtain ⟨c, first, isDigit⟩ := unsigned_of_isSeconds h
  have inhabited : text.takeWhile Char.isDigit ≠ [] := by
    obtain ⟨rest, rfl⟩ : ∃ rest, text = c :: rest := ⟨_, List.eq_cons_of_mem_head? first⟩
    rw [List.takeWhile_cons_of_pos isDigit]
    exact List.cons_ne_nil _ _
  have whole : AreDigits (text.takeWhile Char.isDigit) := fun _ mem => List.mem_takeWhile_imp mem
  have halves := List.takeWhile_append_dropWhile (p := Char.isDigit) (l := text)
  unfold isSeconds at h
  cases rest : text.dropWhile Char.isDigit with
  | nil =>
      rw [rest, List.append_nil] at halves
      exact ⟨⟨_, []⟩, ⟨inhabited, whole, by simp [AreDigits]⟩, halves⟩
  | cons d fraction =>
      simp only [rest, Bool.and_eq_true, beq_iff_eq] at h
      obtain ⟨-, ⟨rfl, notEmpty⟩, digits⟩ := h
      refine ⟨⟨_, fraction⟩, ⟨inhabited, whole, List.all_eq_true.mp digits⟩, ?_⟩
      unfold Written.text
      rw [if_neg (by simpa using notEmpty)]
      rw [rest] at halves
      exact halves

theorem isSeconds_iff {cell : String} :
    isSeconds cell.toList = true ↔ ∃ x, Written.Denotes cell x := by
  constructor
  · intro h
    obtain ⟨w, proper, text⟩ := exists_of_isSeconds h
    exact ⟨w.number, w, proper, by rw [text, String.ofList_toList], rfl⟩
  · rintro ⟨x, w, proper, rfl, -⟩
    rw [String.toList_ofList]
    exact isSeconds_text proper

/-! ### The pattern of seconds -/

section Pattern

open Regex

/-- One digit or more. -/
def digitsLanguage : Language Char := within [('0', '9')] * KStar.kstar (within [('0', '9')])

theorem mem_within_digit {word : List Char} :
    word ∈ within [('0', '9')] ↔ ∃ c : Char, word = [c] ∧ c.isDigit = true := by
  refine exists_congr fun c => and_congr_right fun _ => ?_
  rw [Text.isDigit_iff]
  simp only [List.mem_singleton, exists_eq_left]
  rfl

theorem mem_digitsLanguage {word : List Char} :
    word ∈ digitsLanguage ↔ word ≠ [] ∧ AreDigits word := by
  unfold digitsLanguage
  constructor
  · rintro ⟨first, isFirst, more, ⟨words, rfl, areDigits⟩, rfl⟩
    obtain ⟨c, rfl, isDigit⟩ := mem_within_digit.mp isFirst
    refine ⟨List.cons_ne_nil _ _, ?_⟩
    intro d mem
    rcases List.mem_cons.mp mem with rfl | mem
    · exact isDigit
    · obtain ⟨word, inside, mem⟩ := List.mem_flatten.mp mem
      obtain ⟨e, rfl, isDigit⟩ := mem_within_digit.mp (areDigits word inside)
      rwa [List.mem_singleton.mp mem]
  · rintro ⟨inhabited, areDigits⟩
    -- Each further digit is a round of its own.
    obtain ⟨c, more, rfl⟩ := List.exists_cons_of_ne_nil inhabited
    refine ⟨[c], mem_within_digit.mpr ⟨c, rfl, areDigits c List.mem_cons_self⟩, more,
      ⟨more.map fun d => [d], ?_, ?_⟩, rfl⟩
    · rw [← List.flatMap_def, List.flatMap_singleton']
    · intro word mem
      obtain ⟨d, inside, rfl⟩ := List.mem_map.mp mem
      exact mem_within_digit.mpr ⟨d, rfl, areDigits d (List.mem_cons_of_mem _ inside)⟩

/-- The words of the pattern are the texts of numerals. -/
theorem mem_seconds {word : List Char} :
    word ∈ digitsLanguage * (1 + ({['.']} * digitsLanguage : Language Char))
      ↔ ∃ w : Written, w.Proper ∧ w.text = word := by
  constructor
  · rintro ⟨whole, isWhole, rest, isRest, rfl⟩
    obtain ⟨inhabited, areDigits⟩ := mem_digitsLanguage.mp isWhole
    rcases isRest with isRest | ⟨point, rfl, fraction, isFraction, rfl⟩
    · obtain rfl : rest = [] := isRest
      exact ⟨⟨whole, []⟩, ⟨inhabited, areDigits, by simp [AreDigits]⟩, (List.append_nil _).symm⟩
    · obtain ⟨inhabited', areDigits'⟩ := mem_digitsLanguage.mp isFraction
      refine ⟨⟨whole, fraction⟩, ⟨inhabited, areDigits, areDigits'⟩, ?_⟩
      exact if_neg (by simpa using inhabited')
  · rintro ⟨w, proper, rfl⟩
    have whole := mem_digitsLanguage.mpr ⟨proper.inhabited, proper.whole⟩
    unfold Written.text
    split
    · exact ⟨_, whole, [], Or.inl rfl, List.append_nil _⟩
    · rename_i inhabited
      have fraction := mem_digitsLanguage.mpr ⟨by simpa using inhabited, proper.fraction⟩
      exact ⟨_, whole, _, Or.inr ⟨['.'], rfl, _, fraction, rfl⟩, rfl⟩

/-- **The pattern matches the cells that write a number**, and no others. -/
theorem isMatch_secondsPattern : ∃ nested,
    Regex.ofChars? (Sql.anchor secondsPattern).toList = some nested
      ∧ ∀ cell : String, nested.regex.isMatch cell = true ↔ ∃ x, Written.Denotes cell x := by
  have digit : Regex.IsClass [('0', '9')] := by decide
  have digits := (Regex.Atom.classText digit).repeated
  have point : Regex.Pattern ['\\', '.'] {['.']} := Regex.Pattern.escaped ['.']
  -- The pattern is put together from its parts, and its language with it.
  have fraction :
      Regex.Atom ('(' :: (['\\', '.'] ++ (Regex.classText [('0', '9')] ++ ['+']) ++ [')']))
        ({['.']} * digitsLanguage : Language Char) := by
    have group := Regex.Atom.group (List.cons_ne_nil (_, _) []) fun a mem => by
      rw [List.mem_singleton.mp mem]
      exact point.append digits
    simpa [digitsLanguage] using group
  obtain ⟨nested, read, matching⟩ := (digits.append fraction.optional).anchored
  refine ⟨nested, read, fun cell => ?_⟩
  have number : (∃ x, Written.Denotes cell x) ↔ ∃ w : Written, w.Proper ∧ w.text = cell.toList := by
    constructor
    · rintro ⟨x, w, proper, rfl, -⟩
      exact ⟨w, proper, (String.toList_ofList).symm⟩
    · rintro ⟨w, proper, text⟩
      exact ⟨w.number, w, proper, by rw [text, String.ofList_toList], rfl⟩
  rw [matching, number, ← mem_seconds]
  rfl

end Pattern

/-! ### The three tiers -/

/-- How long the cell lasts, in seconds and exactly. -/
inductive Lasts (catalog : Catalog) (cell : String) : Option ℚ → Prop
  /-- A cell that writes a number, whatever else it may be. -/
  | number {x : ℚ} (writes : Written.Denotes cell x) : Lasts catalog cell (some x)
  /-- A time, in the layout of the first format that recognizes the cell. -/
  | clock {before after : List Format} {format : Format}
      (noNumber : ∀ x, ¬Written.Denotes cell x)
      (order : catalog.times = before ++ format :: after)
      (passed : ∀ b ∈ before, b.recognizes cell = .ok false)
      (recognized : format.recognizes cell = .ok true) :
      Lasts catalog cell
        (((Template.read? (Template.ofToken format.token) cell).bind Fields.time?).map
          TimeOfDay.seconds)
  /-- Neither of the two. -/
  | nothing (noNumber : ∀ x, ¬Written.Denotes cell x)
      (passed : ∀ f ∈ catalog.times, f.recognizes cell = .ok false) : Lasts catalog cell none

section Tiers

variable {catalog : Catalog} {cell : String} {span other : Option ℚ}

/-- Every cell is in one of the tiers: a search among the formats of a catalog does not fail. -/
theorem exists_lasts (catalog : Catalog) (cell : String) : ∃ span, Lasts catalog cell span := by
  by_cases number : ∃ x, Written.Denotes cell x
  · obtain ⟨x, writes⟩ := number
    exact ⟨_, .number writes⟩
  · have noNumber : ∀ x, ¬Written.Denotes cell x := fun x writes => number ⟨x, writes⟩
    cases found : Format.firstFor cell catalog.times with
    | error e =>
        exact absurd found
          (Format.firstFor_ne_error (fun f mem => catalog.recognizer_isOk_of_mem_times mem) e)
    | ok decided =>
        cases decided with
        | none => exact ⟨_, .nothing noNumber (Format.firstFor_eq_none_iff.mp found)⟩
        | some format =>
            obtain ⟨before, after, order, passed, recognized⟩ :=
              Format.firstFor_eq_some_iff.mp found
            exact ⟨_, .clock noNumber order passed recognized⟩

/-- What the preview makes of a cell that writes no number. -/
theorem Lasts.firstFor (lasts : Lasts catalog cell span)
    (noNumber : ∀ x, ¬Written.Denotes cell x) :
    ∃ decided, Format.firstFor cell catalog.times = .ok decided
      ∧ span = (decided.bind fun format =>
          (Template.read? (Template.ofToken format.token) cell).bind Fields.time?).map
            TimeOfDay.seconds := by
  cases lasts with
  | number writes => exact absurd writes (noNumber _)
  | clock _ order passed recognized =>
      exact ⟨_, Format.firstFor_eq_some_iff.mpr ⟨_, _, order, passed, recognized⟩, rfl⟩
  | nothing _ passed => exact ⟨none, Format.firstFor_eq_none_iff.mpr passed, rfl⟩

/-- No cell is in two tiers. -/
theorem Lasts.unique (lasts : Lasts catalog cell span) (lasts' : Lasts catalog cell other) :
    other = span := by
  by_cases number : ∃ x, Written.Denotes cell x
  · obtain ⟨x, writes⟩ := number
    have only : ∀ {seconds}, Lasts catalog cell seconds → seconds = some x := by
      intro seconds lasts
      cases lasts with
      | number writes' => rw [writes'.unique writes]
      | clock noNumber => exact absurd writes (noNumber x)
      | nothing noNumber => exact absurd writes (noNumber x)
    rw [only lasts, only lasts']
  · have noNumber : ∀ x, ¬Written.Denotes cell x := fun x writes => number ⟨x, writes⟩
    -- Both are what the search among the formats comes to.
    obtain ⟨decided, found, rfl⟩ := lasts.firstFor noNumber
    obtain ⟨decided', found', rfl⟩ := lasts'.firstFor noNumber
    rw [found] at found'
    rw [Except.ok.inj found']

/-! ### The preview -/

theorem toRat_sinceMidnight (t : TimeOfDay) : t.sinceMidnight.toRat = t.seconds := by
  unfold TimeOfDay.sinceMidnight TimeOfDay.seconds
  rw [Decimal.toRat_normalize]
  simp only [Decimal.toRat, nanosPerSecond]
  push_cast
  ring

/-- A number of seconds is read as what a decimal keeps of it. -/
theorem readDuration_number (catalog : Catalog) {x : ℚ} (writes : Written.Denotes cell x) :
    ∃ seconds, readDuration catalog cell = .ok seconds
      ∧ seconds.map Decimal.toRat = Decimal.held? x := by
  have number := isSeconds_iff.mpr ⟨x, writes⟩
  obtain ⟨w, proper, rfl, rfl⟩ := writes
  unfold readDuration
  rw [if_pos number]
  refine ⟨_, rfl, ?_⟩
  rw [String.toList_ofList]
  exact proper.toRat_read?

/-- A time is read exactly. -/
theorem readDuration_clock (noNumber : ∀ x, ¬Written.Denotes cell x)
    (lasts : Lasts catalog cell span) :
    ∃ seconds, readDuration catalog cell = .ok seconds
      ∧ seconds.map Decimal.toRat = span := by
  have notSeconds : ¬isSeconds cell.toList = true := by
    intro number
    obtain ⟨x, writes⟩ := isSeconds_iff.mp number
    exact noNumber x writes
  obtain ⟨decided, found, rfl⟩ := lasts.firstFor noNumber
  have time := readTime_eq_ok_iff.mpr ⟨_, readFields_eq_ok_iff.mpr ⟨decided, found, rfl⟩, rfl⟩
  unfold readDuration
  rw [if_neg notSeconds, time]
  refine ⟨_, rfl, ?_⟩
  rw [Option.map_map, Option.bind_assoc]
  exact congrArg (Option.map · _) (funext toRat_sinceMidnight)

/-! ### The expression -/

section Expression

open Sql (Term Datum Columns evaluate)

variable {source : Sql.Expr} {t : Term} {columns : Columns}

/-- The arm of a tier: that of the numbers, or that of a format. -/
def durationArm (source : Sql.Expr) : Option Format → Sql.Expr × Sql.Expr
  | none => (.recognized source secondsPattern, .cast source .decimal)
  | some format => (.recognized source format.pattern, .epoch (timeOf source format.token))

/-- The arm of a tier as it is read. -/
def durationTerm (t : Term) : Option Format → Term × Term
  | none => (.like t (.text (Sql.anchor secondsPattern)), .cast t .decimal)
  | some format => ((armTerm .time t format).1, .epoch (valueTerm .time t format.token))

/-- The expression is read as an arm for each tier. -/
theorem writesOperand_castDuration (catalog : Catalog) (h : Sql.WritesOperand source.render t) :
    Sql.WritesOperand (castDuration catalog source).render
      (.case ((none :: catalog.times.map some).map (durationTerm t)) .null) := by
  have arms : castDuration catalog source
      = .cascade ((none :: catalog.times.map some).map (durationArm source)) := by
    unfold castDuration Temporal.arms
    rw [List.map_cons, List.map_map]
    rfl
  rw [arms]
  refine Sql.writesOperand_cascade _ _ (List.cons_ne_nil _ _) fun tier _ => ?_
  cases tier with
  | none =>
      exact ⟨Sql.writesValue_recognized h secondsPattern,
        (Sql.writesOperand_cast h.value .decimal).value⟩
  | some format =>
      have time := @writesOperand_valueExpr .time source t h format.token
      exact ⟨Sql.writesValue_recognized h format.pattern,
        (Sql.writesOperand_epoch time.value).value⟩

/-- The condition of the first tier holds of the cells that write a number. -/
theorem evaluate_isNumber (raw : evaluate t columns = some (.text cell)) :
    ∃ holds, evaluate (durationTerm t none).1 columns = some (.truth holds)
      ∧ (holds = true ↔ ∃ x, Written.Denotes cell x) := by
  obtain ⟨nested, read, matching⟩ := isMatch_secondsPattern
  exact ⟨_, Sql.evaluate_like read raw, matching cell⟩

theorem evaluate_number (raw : evaluate t columns = some (.text cell)) {x : ℚ}
    (writes : Written.Denotes cell x) :
    evaluate (durationTerm t none).2 columns = some (.number x) := by
  unfold durationTerm
  rw [evaluate, raw]
  · show (Written.denoted? cell).map Datum.number = _
    rw [Written.denoted?_eq_some_iff.mpr writes]
    rfl
  · simp

theorem evaluate_clock (raw : evaluate t columns = some (.text cell)) (format : Format) :
    evaluate (durationTerm t (some format)).2 columns
      = some (((((Template.read? (Template.ofToken format.token) cell).bind Fields.time?).map
          TimeOfDay.seconds).map Datum.number).getD .null) := by
  obtain ⟨datum, read, worth⟩ : ∃ datum, Datum.ofCell? (readAs .time format.token cell) = some datum
      ∧ evaluate (valueTerm .time t format.token) columns = some datum :=
    evaluate_valueTerm (Or.inr (Or.inr rfl)) raw format.token
  unfold durationTerm
  rw [evaluate, worth]
  show Datum.epoch datum = _
  simp only [readAs] at read
  cases clock : (Template.read? (Template.ofToken format.token) cell).bind Fields.time? with
  | none =>
      rw [clock] at read
      obtain rfl : .null = datum := Option.some.inj read
      rfl
  | some time =>
      rw [clock] at read
      obtain rfl : .time time = datum := Option.some.inj read
      rfl

/-- **The expression is worth how long the cell lasts**, in every tier. -/
theorem evaluate_castDuration (raw : evaluate t columns = some (.text cell))
    (lasts : Lasts catalog cell span) :
    evaluate (.case ((none :: catalog.times.map some).map (durationTerm t)) .null) columns
      = some ((span.map Datum.number).getD .null) := by
  obtain ⟨holds, condition, isNumber⟩ := evaluate_isNumber raw
  have first : (∀ x, ¬Written.Denotes cell x) → Sql.Passes columns (durationTerm t none) := by
    intro noNumber
    refine ⟨_, condition, ?_⟩
    rintro ⟨rfl⟩
    obtain ⟨x, writes⟩ := isNumber.mp rfl
    exact noNumber x writes
  -- Arms of formats that do not recognize the cell stand behind the arm of numbers.
  have passes : ∀ {before : List Format}, (∀ x, ¬Written.Denotes cell x) →
      (∀ b ∈ before, b.recognizes cell = .ok false) →
      ∀ arm ∈ (none :: before.map some).map (durationTerm t), Sql.Passes columns arm := by
    intro before noNumber passed arm mem
    obtain ⟨tier, inside, rfl⟩ := List.mem_map.mp mem
    rcases List.mem_cons.mp inside with rfl | inside
    · exact first noNumber
    · obtain ⟨format, known, rfl⟩ := List.mem_map.mp inside
      have apart : evaluate (armTerm .time t format).1 columns = some (.truth false) :=
        evaluate_condition raw (passed format known)
      exact ⟨_, apart, by simp⟩
  cases lasts with
  | number writes =>
      rw [isNumber.mpr ⟨_, writes⟩] at condition
      have none : ∀ arm ∈ ([] : List (Term × Term)), Sql.Passes columns arm :=
        fun _ mem => absurd mem List.not_mem_nil
      have decides := Sql.evaluate_case none condition
        ((catalog.times.map some).map (durationTerm t)) .null
      exact decides.1.trans (evaluate_number raw writes)
  | @clock before after format noNumber order passed recognized =>
      have holds : evaluate (armTerm .time t format).1 columns = some (.truth true) :=
        evaluate_condition raw recognized
      have decides := @Sql.evaluate_case columns _ (passes noNumber passed)
        (durationTerm t (some format)) holds ((after.map some).map (durationTerm t)) .null
      rw [order, List.map_append, List.map_cons, List.map_cons, List.map_append, List.map_cons]
      exact decides.1.trans (evaluate_clock raw format)
  | nothing noNumber passed =>
      rw [(Sql.evaluate_case_of_passes (passes noNumber passed) .null).1, Sql.evaluate_null]
      rfl

end Expression

/-- **A duration has three tiers**, and every cell is in one. The expression is worth what the
tier says. So is the preview, but a number of seconds is read as what a decimal keeps of it:
it comes out exactly if a decimal holds it. -/
theorem duration_lasts (catalog : Catalog) (cell : String) :
    ∃ span, Lasts catalog cell span ∧ (∀ other, Lasts catalog cell other → other = span)
      ∧ (∀ (sql : String) (columns : Sql.Columns) (t : Sql.Term),
          Sql.readOperand? sql = some t → Sql.evaluate t columns = some (.text cell) →
          ∃ term, Sql.read? (castDuration catalog (.source sql)).render = some term
            ∧ Sql.evaluate term columns = some ((span.map Sql.Datum.number).getD .null))
      ∧ ∃ seconds, readDuration catalog cell = .ok seconds
          ∧ (∀ x, Written.Denotes cell x → seconds.map Decimal.toRat = Decimal.held? x)
          ∧ ((∀ x, ¬Written.Denotes cell x) → seconds.map Decimal.toRat = span)
          ∧ (seconds.map Decimal.toRat = span
              ↔ ∀ x, Written.Denotes cell x → ∃ d : Decimal, d.toRat = x) := by
  obtain ⟨span, lasts⟩ := exists_lasts catalog cell
  refine ⟨span, lasts, fun other lasts' => lasts.unique lasts', ?_, ?_⟩
  · intro sql columns t source raw
    have writes := writesOperand_castDuration catalog (Sql.writesOperand_iff.mpr source).source
    exact ⟨_, writes.value.read?_eq, evaluate_castDuration raw lasts⟩
  · by_cases number : ∃ x, Written.Denotes cell x
    · obtain ⟨x, writes⟩ := number
      obtain ⟨seconds, read, kept⟩ := readDuration_number catalog writes
      have nonneg : 0 ≤ x := by
        obtain ⟨w, -, -, rfl⟩ := writes
        exact w.number_nonneg
      have only : ∀ {y}, Written.Denotes cell y → y = x := fun writes' => writes'.unique writes
      have isExact : span = some x := Lasts.unique (.number writes) lasts
      refine ⟨seconds, read, ?_, fun noNumber => absurd writes (noNumber x), ?_⟩
      · intro y writes'
        rw [only writes', kept]
      · rw [kept, isExact, Decimal.held?_eq_self_iff nonneg]
        exact ⟨fun held y writes' => only writes' ▸ held, fun all => all x writes⟩
    · have noNumber : ∀ x, ¬Written.Denotes cell x := fun x writes => number ⟨x, writes⟩
      obtain ⟨seconds, read, clock⟩ := readDuration_clock noNumber lasts
      exact ⟨seconds, read, fun x writes => absurd writes (noNumber x), fun _ => clock,
        iff_of_true clock fun x writes => absurd writes (noNumber x)⟩

end Tiers

/-- Thirty digits are a number of seconds, and the preview has none. -/
theorem duration_lasts_not_read :
    Lasts Catalog.builtin "111111111111111111111111111111"
        (some 111111111111111111111111111111)
      ∧ readDuration Catalog.builtin "111111111111111111111111111111" = .ok none := by
  constructor
  · exact .number (Written.denoted?_eq_some_iff.mp (by decide +kernel))
  · decide +kernel

end Temporal

end ColumnCast
