import ColumnCast.Proofs.Regex.Locality

/-!
# `ColumnCast.Proofs.Regex.Opening`: bounds and group openings on their own

What stands around the parts of an expression is read like the parts
themselves: the bounds of a repetition and the opening of a group are the
same in a longer text.

* `readBounds?_append`: nothing is read behind the closing brace. A number
  that ends the text is refused, whatever it is followed by in the longer
  one.
* `skipReluctant_append`, `skipReluctantApart_append`: the question mark
  behind a repetition is the one place where what is added could be taken
  for part of what was read.
* `readOpening?_append` for a longer text, and `readOpening?_names` for
  more names in use: only a group that has one of them is refused.
-/

set_option autoImplicit false

namespace ColumnCast.Regex

/-! ### Repetition -/

section Repetition

variable (flags : Flags) (text more : List Char)

theorem takesDigits :
    TakesFront flags Char.isDigit (fun found c => found ++ [c]) (readCount.digits flags) where
  stopped found text := rfl
  finished found rounds := by cases rounds <;> rfl
  step found rounds c rest := rfl

theorem dropWhile_append_of_ne_nil {p : Char → Bool} (h : text.dropWhile p ≠ []) :
    (text ++ more).dropWhile p = text.dropWhile p ++ more := by
  rw [List.dropWhile_append, if_neg]
  simpa using h

theorem readCount_append (h : (readCount flags text).2 ≠ []) :
    readCount flags (text ++ more)
      = ((readCount flags text).1, (readCount flags text).2 ++ more) := by
  cases taken : readCount.digits flags [] (text.dropWhile Text.isBlank).length
      (text.dropWhile Text.isBlank) with
  | mk found behind =>
      simp only [readCount, taken] at h ⊢
      have left : behind ≠ [] := fun eq => h (by rw [eq]; rfl)
      have solid : text.dropWhile Text.isBlank ≠ [] := by
        intro blank
        rw [blank] at taken
        exact left (Prod.mk.inj taken).2.symm
      rw [dropWhile_append_of_ne_nil text more solid,
        (takesDigits flags).append (Nat.le_refl _) (by simp) taken left]
      simp only [dropWhile_append_of_ne_nil behind more h]

theorem readMost?_append (least : Nat) :
    Keeps more (readMost? flags least text) (readMost? flags least (text ++ more)) := by
  unfold readMost?
  have counted := readCount_append flags text more
  -- Without a closing brace in the text nothing is read, whatever the number.
  cases read : readCount flags text with
  | mk most behind =>
      rw [read] at counted
      cases behind with
      | nil =>
          cases most with
          | none => exact Keeps.none
          | some most => exact Keeps.none
      | cons d behind =>
          rw [counted (List.cons_ne_nil _ _)]
          refine Keeps.value fun most _ => ?_
          by_cases brace : d = '\x7d'
          · subst brace
            exact Keeps.ite Keeps.some Keeps.none
          · simp only [List.cons_append, List.cons.injEq, brace, false_and, imp_self,
              implies_true]
            exact Keeps.none

theorem readBounds?_append :
    Keeps more (readBounds? flags text) (readBounds? flags (text ++ more)) := by
  unfold readBounds?
  -- A number at the end of the text might go on in the longer one; it is refused where it ends.
  cases start : flags.skip text with
  | nil => exact Keeps.none
  | cons c rest =>
      rw [Flags.skip_cons_append more start, ← List.cons_append]
      have counted := readCount_append flags (c :: rest) more
      cases read : readCount flags (c :: rest) with
      | mk least behind =>
          rw [read] at counted
          cases behind with
          | nil =>
              cases least with
              | none => exact Keeps.none
              | some least => exact Keeps.none
          | cons d behind =>
              rw [counted (List.cons_ne_nil _ _)]
              refine Keeps.value fun least _ => ?_
              by_cases comma : d = ','
              · subst comma
                simp only [List.cons_append]
                cases second : flags.skip behind with
                | nil => exact Keeps.none
                | cons e tail =>
                    rw [Flags.skip_cons_append more second]
                    by_cases brace : e = '\x7d'
                    · subst brace
                      exact Keeps.some
                    · simp only [List.cons.injEq, brace, false_and, imp_self, implies_true]
                      exact readMost?_append flags (e :: tail) more least
              · by_cases brace : d = '\x7d'
                · subst brace
                  exact Keeps.some
                · simp only [List.cons_append, List.cons.injEq, comma, brace, false_and, imp_self,
                    implies_true]
                  exact Keeps.none

/-- What is added does not make a repetition reluctant. -/
theorem skipReluctant_append (follow : more.head? ≠ some '?') :
    skipReluctant (text ++ more) = skipReluctant text ++ more := by
  unfold skipReluctant
  cases text with
  | nil =>
      cases more with
      | nil => rfl
      | cons c more =>
          have mark : c ≠ '?' := fun eq => follow (congrArg some eq)
          simp [mark]
  | cons c text =>
      by_cases mark : c = '?'
      · subst mark
        rfl
      · simp [mark]

theorem skipReluctantApart_append
    (follow : flags.skip text = [] → (flags.skip (text ++ more)).head? ≠ some '?') :
    skipReluctantApart flags (text ++ more) = skipReluctantApart flags text ++ more := by
  unfold skipReluctantApart
  cases start : flags.skip text with
  | nil =>
      have follow := follow start
      cases behind : flags.skip (text ++ more) with
      | nil => rfl
      | cons c tail =>
          have mark : c ≠ '?' := fun eq => follow (by rw [behind, eq]; rfl)
          simp [mark]
  | cons c tail =>
      rw [Flags.skip_cons_append more start]
      by_cases mark : c = '?'
      · subst mark
        rfl
      · simp [mark]

end Repetition

/-! ### Groups -/

section Groups

variable (flags : Flags) (text more : List Char)

theorem readFlags?_append (seen : List Char) (on afterHyphen : Bool) :
    Keeps more (readFlags? flags seen on afterHyphen text)
      (readFlags? flags seen on afterHyphen (text ++ more)) := by
  induction text generalizing flags seen on afterHyphen with
  | nil => exact Keeps.none
  | cons c rest ih =>
      rw [List.cons_append]
      unfold readFlags?
      refine Keeps.ite (Keeps.ite Keeps.none Keeps.some) ?_
      refine Keeps.ite Keeps.none (Keeps.ite (ih flags _ _ _) ?_)
      exact Keeps.ite (ih _ _ _ _) Keeps.none

theorem readGroupName?_append :
    Keeps more (readGroupName? text) (readGroupName? (text ++ more)) := by
  by_cases mark : '>' ∈ text
  · obtain ⟨name, tail, rfl, first⟩ := List.eq_append_cons_of_mem mark
    rw [List.append_assoc, List.cons_append]
    unfold readGroupName?
    simp only [takeWhile_ne_append first, List.drop_left]
    cases name with
    | nil => exact Keeps.none
    | cons c name => exact Keeps.ite Keeps.some Keeps.none
  · have none : readGroupName? text = none := by
      unfold readGroupName?
      simp only [takeWhile_ne_eq_self mark, List.drop_length]
    rw [none]
    exact Keeps.none

/-- The name of the group that opens. -/
def GroupOpening.name? : GroupOpening → Option (List Char)
  | switch _ => none
  | group _ name => name

theorem openNamed?_append (names : List (List Char)) :
    Keeps more (openNamed? flags names text) (openNamed? flags names (text ++ more)) := by
  unfold openNamed?
  refine Keeps.bind (readGroupName?_append text more) fun name rest _ => ?_
  exact Keeps.ite Keeps.none Keeps.some

theorem openFlagged?_append (follow : more.head? ≠ some ')') :
    Keeps more (openFlagged? flags text) (openFlagged? flags (text ++ more)) := by
  unfold openFlagged?
  refine Keeps.bind (readFlags?_append flags text more [] true false) fun inner behind _ => ?_
  rcases behind with _ | ⟨c, body⟩
  · exact Keeps.none
  · by_cases colon : c = ':'
    · subst colon
      exact Keeps.some
    · by_cases closing : c = ')'
      · subst closing
        -- The reader looks one character further, where a second mark would be wrong.
        cases body with
        | nil =>
            have open' : (more.head? == some ')') = false := by simpa using follow
            simp only [List.cons_append, List.nil_append, open']
            exact Keeps.some
        | cons d body => exact Keeps.ite Keeps.none Keeps.some
      · simp only [List.cons_append, List.cons.injEq, colon, closing, false_and, imp_self,
          implies_true]
        exact Keeps.none

theorem readOpening?_append (apart : Apart more) (names : List (List Char))
    (inhabited : flags.skip text ≠ []) :
    Keeps more (readOpening? flags names text) (readOpening? flags names (text ++ more)) := by
  unfold readOpening?
  have flagged := fun text => openFlagged?_append flags text more (apart.head?_ne (by decide))
  cases start : flags.skip text with
  | nil => exact absurd start inhabited
  | cons c rest =>
      rw [Flags.skip_cons_append more start]
      -- `?<` and `?P<` open a group with a name, and any other `?` flags.
      by_cases mark : c = '?'
      · subst mark
        rcases rest with _ | ⟨d, rest⟩
        · exact Keeps.none
        · by_cases angle : d = '<'
          · subst angle
            exact openNamed?_append flags rest more names
          · by_cases letter : d = 'P'
            · subst letter
              rcases rest with _ | ⟨e, rest⟩
              · exact Keeps.none
              · by_cases angle : e = '<'
                · subst angle
                  exact openNamed?_append flags rest more names
                · simp only [List.cons_append, List.cons.injEq, angle, Char.reduceEq, false_and,
                    and_false, imp_self, implies_true]
                  exact Keeps.none
            · simp only [List.cons_append, List.cons.injEq, angle, letter, false_and, imp_self,
                implies_true]
              exact flagged (d :: rest)
      · simp only [List.cons.injEq, mark, false_and, imp_self, implies_true]
        exact Keeps.some

theorem openNamed?_names {names : List (List Char)} {opening : GroupOpening}
    {behind : List Char} (h : openNamed? flags names text = some (opening, behind))
    (extra : List (List Char)) :
    openNamed? flags (names ++ extra) text
      = if ∃ name ∈ opening.name?, name ∈ extra then none else some (opening, behind) := by
  unfold openNamed? at h ⊢
  obtain ⟨⟨name, rest⟩, read, h⟩ := Option.bind_eq_some_iff.mp h
  obtain ⟨unused, eq⟩ := Option.ite_none_left_eq_some.mp h
  obtain ⟨rfl, rfl⟩ := Prod.mk.inj (Option.some.inj eq)
  rw [read]
  have unused : name ∉ names := by simpa using unused
  simp [GroupOpening.name?, unused]

theorem openFlagged?_unnamed {opening : GroupOpening} {behind : List Char}
    (h : openFlagged? flags text = some (opening, behind)) : opening.name? = none := by
  unfold openFlagged? at h
  obtain ⟨⟨inner, rest⟩, read, h⟩ := Option.bind_eq_some_iff.mp h
  dsimp only at h
  split at h
  · obtain ⟨rfl, rfl⟩ := Prod.mk.inj (Option.some.inj h)
    rfl
  · obtain ⟨-, eq⟩ := Option.ite_none_left_eq_some.mp h
    obtain ⟨rfl, rfl⟩ := Prod.mk.inj (Option.some.inj eq)
    rfl
  · exact absurd h (by simp)

/-- With more names in use, nothing changes unless the group has one of them. -/
theorem readOpening?_names {names : List (List Char)} {opening : GroupOpening}
    {behind : List Char} (h : readOpening? flags names text = some (opening, behind))
    (extra : List (List Char)) :
    readOpening? flags (names ++ extra) text
      = if ∃ name ∈ opening.name?, name ∈ extra then none else some (opening, behind) := by
  unfold readOpening? at h ⊢
  split at h
  · exact openNamed?_names flags _ h extra
  · exact openNamed?_names flags _ h extra
  · rw [h, openFlagged?_unnamed flags _ h]
    simp
  · obtain ⟨rfl, rfl⟩ := Prod.mk.inj (Option.some.inj h)
    simp [GroupOpening.name?]

end Groups

end ColumnCast.Regex
