import ColumnCast.Proofs.Calendar.TimeLayout
import ColumnCast.Proofs.Catalog.Words

/-!
# `ColumnCast.Proofs.Catalog.Clock`: the patterns of times

The counterpart for times of `ColumnCast.Proofs.Catalog.Calendar`: for
every layout of times, the built-in pattern matches the texts that write
a time in it, and no others (`TimeLayout.pattern_clock`).
-/

set_option autoImplicit false

namespace ColumnCast

open Regex Catalog

/-! ### Words -/

theorem pattern_hour24 : Pattern hour24.toList (numbers 1 2 fun hour => hour ≤ 23) := by
  have tens : Pattern (classText [('0', '0'), ('1', '1')] ++ ['?']) (1 + within [('0', '0'), ('1', '1')]) :=
    (Atom.classText (by decide)).optional
  have units : Pattern (classText [('0', '9')]) (within [('0', '9')]) :=
    (Atom.classText (by decide)).pattern
  have two : Pattern ['2'] {['2']} := (Atom.plain (by decide)).pattern
  have evening : Pattern (classText [('0', '3')]) (within [('0', '3')]) :=
    (Atom.classText (by decide)).pattern
  have branches : ∀ a ∈ [((classText [('0', '0'), ('1', '1')] ++ ['?']) ++ classText [('0', '9')],
        (1 + within [('0', '0'), ('1', '1')]) * within [('0', '9')]),
      (['2'] ++ classText [('0', '3')], ({['2']} : Language Char) * within [('0', '3')])],
      Pattern a.1 a.2 :=
    List.forall_mem_cons.mpr ⟨tens.append units, List.forall_mem_singleton.mpr (two.append evening)⟩
  have text : hour24.toList = '(' :: (['|'].intercalate
      [(classText [('0', '0'), ('1', '1')] ++ ['?']) ++ classText [('0', '9')],
        ['2'] ++ classText [('0', '3')]] ++ [')']) := by rfl
  rw [text]
  refine (Atom.group (List.cons_ne_nil _ _) branches).pattern.congr
    (mem_numbers_iff (Or.inl rfl) ?_ (fun c => ?_) (fun c d => ?_) ?_)
  · simp [Language.mem_add, add_mul]
  · simp [Language.mem_add, add_mul, char_le_iff]
    omega
  · simp [Language.mem_add, add_mul, char_le_iff, char_eq_iff]
    omega
  · simp [Language.mem_add, add_mul]

theorem pattern_hour12 :
    Pattern hour12.toList (numbers 1 2 fun hour => 1 ≤ hour ∧ hour ≤ 12) :=
  pattern_month Padding.flexible

theorem pattern_minute : Pattern minute.toList (numbers 2 2 fun minute => minute ≤ 59) := by
  refine (pattern_classes [('0', '5')] [('0', '9')] (by decide)).congr
    (mem_numbers_iff (Or.inr rfl) (by simp) (by simp) (fun c d => ?_) (by simp))
  simp [char_le_iff]
  omega

/-- The words for the halves of the day. -/
def halves : Language Char :=
  {word | word.map Char.toLower = ['a', 'm'] ∨ word.map Char.toLower = ['p', 'm']}

theorem pattern_meridiem : Pattern meridiem.toList halves := by
  refine (pattern_classes [('A', 'A'), ('a', 'a'), ('P', 'P'), ('p', 'p')] [('M', 'M'), ('m', 'm')]
    (by decide)).congr fun word => ?_
  show _ ↔ word.map Char.toLower = ['a', 'm'] ∨ word.map Char.toLower = ['p', 'm']
  rcases word with _ | ⟨c, _ | ⟨d, _ | ⟨e, word⟩⟩⟩
  · simp
  · simp
  · simp only [List.map_cons, List.map_nil, List.cons.injEq, and_true,
      Text.toLower_eq_iff (by decide : 97 ≤ 'a'.toNat ∧ 'a'.toNat ≤ 122),
      Text.toLower_eq_iff (by decide : 97 ≤ 'm'.toNat ∧ 'm'.toNat ≤ 122),
      Text.toLower_eq_iff (by decide : 97 ≤ 'p'.toNat ∧ 'p'.toNat ≤ 122)]
    simp [char_le_iff, char_eq_iff]
    omega
  · simp

/-! ### Layouts as patterns -/

namespace TimeLayout

/-- The expression for the texts of the layout. -/
def pattern (layout : TimeLayout) : String :=
  match layout.halved, layout.seconds with
  | false, true => hour24 ++ ":" ++ minute ++ ":" ++ minute
  | false, false => hour24 ++ ":" ++ minute
  | true, true => hour12 ++ ":" ++ minute ++ ":" ++ minute ++ " " ++ meridiem
  | true, false => hour12 ++ ":" ++ minute ++ " " ++ meridiem

/-- The format of the layout. -/
def format (layout : TimeLayout) : Format := ⟨layout.token, layout.pattern⟩

/-- The words for hours. -/
def hourWords (layout : TimeLayout) : Language Char :=
  if layout.halved then numbers 1 2 fun hour => 1 ≤ hour ∧ hour ≤ 12
  else numbers 1 2 fun hour => hour ≤ 23

def secondParts (layout : TimeLayout) : Language Char :=
  if layout.seconds then {[':']} * numbers 2 2 fun second => second ≤ 59 else 1

def halfParts (layout : TimeLayout) : Language Char :=
  if layout.halved then {[' ']} * halves else 1

theorem pattern_parts (layout : TimeLayout) :
    Pattern layout.format.pattern.toList
      (layout.hourWords * ({[':']} * ((numbers 2 2 fun minute => minute ≤ 59)
        * (layout.secondParts * layout.halfParts)))) := by
  have colon : Pattern [':'] {[':']} := (Atom.plain (by decide)).pattern
  have blank : Pattern [' '] {[' ']} := (Atom.plain (by decide)).pattern
  unfold format pattern hourWords secondParts halfParts
  cases layout.halved <;> cases layout.seconds
  all_goals
    simp only [String.toList_append, List.append_assoc, if_true, if_false, Bool.false_eq_true,
      mul_one, one_mul, mul_assoc]
  · exact pattern_hour24.append (colon.append pattern_minute)
  · exact pattern_hour24.append
      (colon.append (pattern_minute.append (colon.append pattern_minute)))
  · exact pattern_hour12.append
      (colon.append (pattern_minute.append (blank.append pattern_meridiem)))
  · exact pattern_hour12.append (colon.append (pattern_minute.append
      (colon.append (pattern_minute.append (blank.append pattern_meridiem)))))

variable {layout : TimeLayout}

theorem mem_single_mul {c : Char} {L : Language Char} {text : List Char} :
    text ∈ ({[c]} : Language Char) * L ↔ ∃ word ∈ L, text = c :: word := by
  rw [Language.mem_mul]
  constructor
  · rintro ⟨_, rfl, word, mem, rfl⟩
    exact ⟨word, mem, rfl⟩
  · rintro ⟨word, mem, rfl⟩
    exact ⟨[c], rfl, word, mem, rfl⟩

theorem mem_secondParts {part : List Char} :
    part ∈ layout.secondParts ↔ ∃ second ≤ 59, layout.SecondPart second part := by
  unfold secondParts SecondPart
  cases layout.seconds with
  | true =>
      simp only [if_true, mem_single_mul]
      constructor
      · rintro ⟨word, ⟨second, le, digits⟩, rfl⟩
        exact ⟨second, le, word, digits, rfl⟩
      · rintro ⟨second, le, word, digits, rfl⟩
        exact ⟨word, ⟨second, le, digits⟩, rfl⟩
  | false =>
      simp only [Bool.false_eq_true, if_false, Language.mem_one]
      exact ⟨fun nil => ⟨0, Nat.zero_le 59, rfl, nil⟩, fun ⟨_, _, _, nil⟩ => nil⟩

/-- The hour is known from its word and from the half of the day. -/
theorem mem_hour {hourWord halfPart : List Char} :
    (hourWord ∈ layout.hourWords ∧ halfPart ∈ layout.halfParts)
      ↔ ∃ hour < 24, layout.HourWord hour hourWord ∧ layout.HalfPart hour halfPart := by
  unfold hourWords halfParts HourWord HalfPart
  cases layout.halved with
  | false =>
      simp only [Bool.false_eq_true, if_false, Language.mem_one]
      constructor
      · rintro ⟨⟨hour, le, digits⟩, nil⟩
        exact ⟨hour, by omega, digits, nil⟩
      · rintro ⟨hour, lt, digits, nil⟩
        exact ⟨⟨hour, by omega, digits⟩, nil⟩
  | true =>
      simp only [if_true, mem_single_mul]
      constructor
      · rintro ⟨⟨number, range, digits⟩, word, morning | evening, rfl⟩
        · have before : number % 12 < 12 := Nat.mod_lt _ (by decide)
          refine ⟨number % 12, by omega, ⟨number, digits, range, by omega⟩, word, ?_, rfl⟩
          rw [morning, halfWord, if_pos before]
        · have after : ¬ number % 12 + 12 < 12 := by omega
          refine ⟨number % 12 + 12, by omega, ⟨number, digits, range, by omega⟩, word, ?_, rfl⟩
          rw [evening, halfWord, if_neg after]
      · rintro ⟨hour, lt, ⟨number, digits, range, -⟩, word, half, rfl⟩
        refine ⟨⟨number, range, digits⟩, word, ?_, rfl⟩
        unfold halfWord at half
        split at half
        · exact Or.inl half
        · exact Or.inr half

/-- The texts that write a time in the layout. -/
def language (layout : TimeLayout) : Language Char := {text | ∃ time, layout.Writes time text}

/-- **The pattern of a layout matches the texts that write a time in it.** -/
theorem pattern_clock (layout : TimeLayout) :
    Pattern layout.format.pattern.toList layout.language := by
  refine layout.pattern_parts.congr fun text => ?_
  simp only [Language.mem_mul, mem_secondParts]
  constructor
  · rintro ⟨hourWord, hasHour, _, ⟨_, rfl, _, ⟨minuteWord, ⟨minute, isMinute, hasMinute⟩, _,
      ⟨secondPart, ⟨second, isSecond, hasSecond⟩, halfPart, hasHalf, rfl⟩, rfl⟩, rfl⟩, rfl⟩
    obtain ⟨hour, isHour, hasHour, hasHalf⟩ := mem_hour.mp ⟨hasHour, hasHalf⟩
    have isTime : IsTime hour minute second 0 := by
      unfold IsTime
      omega
    exact ⟨⟨hour, minute, second, 0, isTime⟩, rfl, hourWord, minuteWord, secondPart, halfPart,
      hasHour, hasMinute, hasSecond, hasHalf, rfl⟩
  · rintro ⟨time, -, hourWord, minuteWord, secondPart, halfPart, hasHour, hasMinute, hasSecond,
      hasHalf, rfl⟩
    obtain ⟨isHour, isMinute, isSecond, -⟩ := time.isTime
    obtain ⟨hour, half⟩ := mem_hour.mpr ⟨time.hour, isHour, hasHour, hasHalf⟩
    exact ⟨hourWord, hour, _, ⟨_, rfl, _, ⟨minuteWord, ⟨time.minute, by omega, hasMinute⟩, _,
      ⟨secondPart, ⟨time.second, by omega, hasSecond⟩, halfPart, half, rfl⟩, rfl⟩, rfl⟩, rfl⟩

end TimeLayout

end ColumnCast
