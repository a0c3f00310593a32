import ColumnCast.Proofs.Regex.Denotation

/-!
# `ColumnCast.Proofs.Regex.Context`: a match inside a longer text

An expression matches a part of a text as it matches the part alone, as
long as its tests hold at the same places. `Cursor.within` takes a place
of the part to the place in the longer text; `Spans.within` and
`Spans.of_within` take matches there and back, by induction on the
expression.

A space around the part is like the end of the text for most tests: it
belongs to no word. Only the tests for the end of a text or line see a
space behind (`Look.seesEnd`), and only those for a start see one before
(`Look.seesStart`). So two expressions with a space between them match
the texts of the one, a space, and the texts of the other
(`matchesWhole_joined_iff`).
-/

set_option autoImplicit false

namespace ColumnCast.Regex

/-! ### Tests that see no difference -/

/-- Does the test tell the end of the text from a space? -/
def Look.seesEnd : Look → Bool
  | textEnd | lineEnd | anyLineEnd => true
  | _ => false

/-- Does the test tell the start of the text from a space? -/
def Look.seesStart : Look → Bool
  | textStart | lineStart | anyLineStart => true
  | _ => false

theorem isWordChar_space (ascii : Bool) : isWordChar ascii (some ' ') = isWordChar ascii none := by
  cases ascii <;> decide

theorem Look.holds_space_behind {test : Look} (blind : test.seesEnd = false)
    (before : Option Char) : test.holds before (some ' ') = test.holds before none := by
  cases test with
  | textEnd | lineEnd | anyLineEnd => exact absurd blind (by decide)
  | anyLineStart => rfl
  | _ => simp [holds, isWordChar_space]

theorem Look.holds_space_before {test : Look} (blind : test.seesStart = false)
    (behind : Option Char) : test.holds (some ' ') behind = test.holds none behind := by
  cases test with
  | textStart | lineStart | anyLineStart => exact absurd blind (by decide)
  | anyLineEnd => rfl
  | _ => simp [holds, isWordChar_space]

/-- All tests in the expression have the property. -/
def allTests (p : Look → Bool) : Regex → Bool
  | empty | one _ => true
  | look test => p test
  | seq first second => first.allTests p && second.allTests p
  | alt left right => left.allTests p && right.allTests p
  | rep body _ _ => body.allTests p

/-! ### Places of a part -/

namespace Cursor

/-- The place of a part in a text where `before` stands before the part, that begins `shift`
characters behind the start, and `behind` follows it. -/
def within (shift : Nat) (before : Option Char) (behind : List Char) (c : Cursor) : Cursor :=
  ⟨c.position + shift, c.before.or before, c.rest ++ behind⟩

variable (shift : Nat) (before : Option Char) (behind : List Char)

theorem Passes.within {c d : Cursor} {word : List Char} (h : c.Passes word d) :
    (c.within shift before behind).Passes word (d.within shift before behind) := by
  induction h with
  | nil => exact .nil _
  | @cons position _ x rest word d tail ih =>
      have next : (⟨position + 1, some x, rest⟩ : Cursor).within shift before behind
          = ⟨position + shift + 1, some x, rest ++ behind⟩ := by
        simp [Cursor.within, Nat.add_right_comm]
      rw [next] at ih
      exact .cons ih

/-- A place that is not behind the part is a place of it. -/
theorem Passes.of_within {shift : Nat} {before : Option Char} {behind : List Char}
    {c d' : Cursor} {word tail : List Char}
    (h : (c.within shift before behind).Passes word d') (reach : d'.rest = tail ++ behind) :
    ∃ d, d' = d.within shift before behind ∧ c.Passes word d := by
  have text := h.rest_eq
  rw [reach, ← List.append_assoc] at text
  obtain ⟨d, passes, -⟩ := exists_passes c word (List.append_cancel_right text)
  refine ⟨d, ?_, passes⟩
  have same := passes.within shift before behind
  exact (h.eq_of_position same (by rw [h.position_eq, same.position_eq])).2

end Cursor

/-! ### Matches of a part -/

/-- The test holds at the places of a part as it holds at those of a text of its own. -/
def Look.Agrees (shift : Nat) (before : Option Char) (behind : List Char) (test : Look) : Prop :=
  ∀ c : Cursor, test.holds (c.within shift before behind).before
      (c.within shift before behind).rest.head?
    = test.holds c.before c.rest.head?

section Matches

variable {shift : Nat} {before : Option Char} {behind : List Char} {p : Look → Bool}
  (agrees : ∀ test, p test = true → test.Agrees shift before behind)
include agrees

theorem Spans.within {r : Regex} (tests : r.allTests p = true) {c d : Cursor}
    (h : r.Spans c d) : r.Spans (c.within shift before behind) (d.within shift before behind) := by
  induction r generalizing c d with
  | empty => exact congrArg _ h
  | one set =>
      obtain ⟨x, contains, passes⟩ := h
      exact ⟨x, contains, passes.within shift before behind⟩
  | look test =>
      obtain ⟨holds, rfl⟩ := h
      exact ⟨(agrees test tests c).trans holds, rfl⟩
  | seq first second ihFirst ihSecond =>
      obtain ⟨m, left, right⟩ := h
      have both := (Bool.and_eq_true _ _).mp tests
      exact ⟨_, ihFirst both.1 left, ihSecond both.2 right⟩
  | alt left right ihLeft ihRight =>
      have both := (Bool.and_eq_true _ _).mp tests
      exact h.imp (ihLeft both.1) (ihRight both.2)
  | rep body least most ih =>
      obtain ⟨more, bounds, chain⟩ := h
      have round : ∀ m n, body.Spans m n →
          body.Spans (m.within shift before behind) (n.within shift before behind) :=
        fun _ _ => ih tests
      exact ⟨more, bounds, chain.map round⟩

omit agrees in
/-- What is left behind a match is left where it begins. -/
theorem Spans.reach {r : Regex} {c d : Cursor} (h : r.Spans c d)
    (left : ∃ tail, d.rest = tail ++ behind) : ∃ tail, c.rest = tail ++ behind := by
  obtain ⟨word, passes⟩ := h.ahead
  obtain ⟨tail, eq⟩ := left
  exact ⟨word ++ tail, by rw [passes.rest_eq, eq, List.append_assoc]⟩

/-- A match that stays in the part is a match in a text of its own. -/
theorem Spans.of_within {r : Regex} (tests : r.allTests p = true) {c d' : Cursor}
    {tail : List Char} (h : r.Spans (c.within shift before behind) d')
    (reach : d'.rest = tail ++ behind) :
    ∃ d, d' = d.within shift before behind ∧ r.Spans c d := by
  induction r generalizing c d' tail with
  | empty => exact ⟨c, h.symm, rfl⟩
  | one set =>
      obtain ⟨x, contains, passes⟩ := h
      obtain ⟨d, eq, passes⟩ := passes.of_within reach
      exact ⟨d, eq, x, contains, passes⟩
  | look test =>
      obtain ⟨holds, eq⟩ := h
      exact ⟨c, eq.symm, (agrees test tests c).symm.trans holds, rfl⟩
  | seq first second ihFirst ihSecond =>
      obtain ⟨m', left, right⟩ := h
      have both := (Bool.and_eq_true _ _).mp tests
      obtain ⟨tail', reach'⟩ := right.reach ⟨tail, reach⟩
      obtain ⟨m, rfl, spans⟩ := ihFirst both.1 left reach'
      obtain ⟨d, rfl, spans'⟩ := ihSecond both.2 right reach
      exact ⟨d, rfl, m, spans, spans'⟩
  | alt left right ihLeft ihRight =>
      have both := (Bool.and_eq_true _ _).mp tests
      rcases h with h | h
      · obtain ⟨d, eq, spans⟩ := ihLeft both.1 h reach
        exact ⟨d, eq, Or.inl spans⟩
      · obtain ⟨d, eq, spans⟩ := ihRight both.2 h reach
        exact ⟨d, eq, Or.inr spans⟩
  | rep body least most ih =>
      obtain ⟨more, bounds, chain⟩ := h
      -- Every round stays in the part, since the last one does and none goes back.
      obtain ⟨d, eq, links⟩ := chain.comap (R := body.Spans)
        (fun m n' step ⟨tail, reach⟩ => ih tests step reach)
        (fun m' n' step => step.reach) ⟨tail, reach⟩
      exact ⟨d, eq, more, bounds, links⟩

end Matches

/-! ### Two parts with a space between them -/

theorem Look.agrees_front {test : Look} (blind : (!test.seesEnd) = true) (behind : List Char) :
    test.Agrees 0 none (' ' :: behind) := by
  intro c
  obtain ⟨position, before, rest⟩ := c
  cases rest with
  | nil => simpa [Cursor.within] using Look.holds_space_behind (by simpa using blind) before
  | cons x rest => simp [Cursor.within]

theorem Look.agrees_back {test : Look} (blind : (!test.seesStart) = true) (shift : Nat) :
    test.Agrees shift (some ' ') [] := by
  intro c
  obtain ⟨position, before, rest⟩ := c
  cases before with
  | none => simpa [Cursor.within] using Look.holds_space_before (by simpa using blind) rest.head?
  | some x => simp [Cursor.within]

/-- The start of the first part. -/
theorem within_front (first behind : List Char) :
    Cursor.start (first ++ ' ' :: behind) = (Cursor.start first).within 0 none (' ' :: behind) :=
  rfl

/-- The start of the second part, behind the space. -/
theorem within_back (position : Nat) (second : List Char) :
    (⟨position + 1, some ' ', second⟩ : Cursor)
      = (Cursor.start second).within (position + 1) (some ' ') [] := by
  simp [Cursor.within, Cursor.start]

/-- A single character is matched where it stands. -/
theorem spans_one_single_iff {x : Char} {c d : Cursor} :
    (one (.single x)).Spans c d
      ↔ ∃ rest, c.rest = x :: rest ∧ d = ⟨c.position + 1, some x, rest⟩ := by
  constructor
  · rintro ⟨y, contains, passes⟩
    obtain ⟨low, high⟩ := CharSet.contains_range.mp contains
    obtain rfl : y = x := Char.le_antisymm high low
    cases passes with
    | cons tail =>
        obtain rfl := tail.eq_of_nil
        exact ⟨_, rfl, rfl⟩
  · rintro ⟨rest, eq, rfl⟩
    obtain ⟨position, before, text⟩ := c
    obtain rfl : text = x :: rest := eq
    have self : x ≤ x := Char.le_refl x
    exact ⟨x, CharSet.contains_range.mpr ⟨self, self⟩, .cons (.nil _)⟩

/-- **One expression, a space, another expression**: where the first does not see the end of its
text nor the second the start, they match a text that consists of a text for the one, a space
and a text for the other. -/
theorem matchesWhole_joined_iff {r s : Regex} (front : r.allTests (!·.seesEnd) = true)
    (back : s.allTests (!·.seesStart) = true) (text : List Char) :
    (seqs [r, one (.single ' '), s]).MatchesWhole text
      ↔ ∃ first second, text = first ++ ' ' :: second
        ∧ r.MatchesWhole first ∧ s.MatchesWhole second := by
  have agreesFront : ∀ behind test, (!Look.seesEnd test) = true →
      test.Agrees 0 none (' ' :: behind) := fun behind test blind => test.agrees_front blind behind
  have agreesBack : ∀ shift test, (!Look.seesStart test) = true →
      test.Agrees shift (some ' ') [] := fun shift test blind => test.agrees_back blind shift
  constructor
  · rintro ⟨d, ⟨m, spans, n, space, spans'⟩, done⟩
    -- The text is divided where the match divides it.
    obtain ⟨second, left, rfl⟩ := spans_one_single_iff.mp space
    obtain ⟨first, ahead⟩ := spans.ahead
    obtain rfl : text = first ++ ' ' :: second := left ▸ ahead.rest_eq
    refine ⟨first, second, rfl, ?_, ?_⟩
    · rw [within_front] at spans
      obtain ⟨e, rfl, alone⟩ := spans.of_within (agreesFront second) front
        (left.trans (List.nil_append _).symm)
      refine ⟨e, alone, ?_⟩
      simpa [Cursor.within] using left
    · rw [within_back] at spans'
      obtain ⟨e, rfl, alone⟩ := spans'.of_within (agreesBack _) back
        (done.trans (List.nil_append _).symm)
      refine ⟨e, alone, ?_⟩
      simpa [Cursor.within] using done
  · rintro ⟨first, second, rfl, ⟨d, spans, done⟩, ⟨e, spans', done'⟩⟩
    have left := spans.within (agreesFront second) front
    rw [← within_front] at left
    have right := spans'.within (agreesBack (d.position + 1)) back
    rw [← within_back] at right
    have atSpace : (d.within 0 none (' ' :: second)).rest = ' ' :: second := by
      simp [Cursor.within, done]
    refine ⟨_, ⟨_, left, _, spans_one_single_iff.mpr ⟨second, atSpace, rfl⟩, right⟩, ?_⟩
    simpa [Cursor.within] using done'

end ColumnCast.Regex
