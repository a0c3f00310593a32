import ColumnCast.Proofs.Regex.Machine

/-!
# `ColumnCast.Proofs.Regex.Anchoring`: an expression between a caret and a dollar sign

A caret in front of the text of an expression and a dollar sign behind it
are read as two more parts. They belong to the branches they stand in,
the first and the last, and not to the expression as a whole.

`outline?` is the machine that has read a text of its own. From it the
anchored text is read in `exists_anchored`, by carrying the run over
(`finish_of_outline`), and `isMatch_anchored_iff` says what it matches:
`Machine.Accepts` holds each alternative at the places where its anchors
stand. A text that the expression matches as a whole is always accepted
(`Machine.accepts_of_matchesWhole`). The converse needs a single
alternative and a dollar sign that tests for the end of the text
(`Machine.accepts_iff_matchesWhole`).
-/

set_option autoImplicit false

namespace ColumnCast.Regex

/-! ### Outlines -/

/-- The machine that has read the text: its group holds the alternatives and the flags at the
end. -/
def outline? (text : List Char) : Option Machine :=
  (Machine.start text).run? text.length.succ

theorem ofChars?_eq_outline? (text : List Char) :
    ofChars? text = (outline? text).bind Machine.finish? :=
  readAll?_eq_run? _ (Machine.start text)

theorem exists_outline {text : List Char} {nested : Nested} (h : ofChars? text = some nested) :
    ∃ m, outline? text = some m ∧ m.outer = [] ∧ m.group.close = nested := by
  rw [ofChars?_eq_outline?] at h
  obtain ⟨m, run, finish⟩ := Option.bind_eq_some_iff.mp h
  obtain ⟨closed, eq⟩ := Option.ite_none_right_eq_some.mp finish
  exact ⟨m, run, List.isEmpty_iff.mp closed, Option.some.inj eq⟩

/-- The test that a dollar sign behind the text would add; none where the text ends in a
comment. -/
def Machine.closing? (m : Machine) : Option Look :=
  if m.group.flags.inComment m.text then none else some m.group.flags.dollar

/-- The part that a test makes. -/
def Piece.ofLook (test : Look) : Piece := .regex ⟨look test, 0⟩

/-- The group with a test behind its last branch. -/
def OpenGroup.endWith (group : OpenGroup) : Option Look → OpenGroup
  | none => group
  | some test => group.push group.flags (.ofLook test)

/-! ### What the alternatives match -/

namespace OpenGroup

variable (group : OpenGroup) (i : Nat) (c d : Cursor)

/-- A match of one of the alternatives, given by its place among them. -/
def SpansAt : Prop := ∃ r, group.alternatives[i]? = some r ∧ r.Spans c d

theorem length_alternatives : group.alternatives.length = group.branches.length + 1 := by
  simp [alternatives]

theorem spans_close : group.close.regex.Spans c d ↔ ∃ i, group.SpansAt i c d := by
  rw [close_regex, spans_alts (by simp [alternatives])]
  simp only [SpansAt, List.mem_iff_getElem?]
  constructor
  · rintro ⟨r, ⟨i, eq⟩, spans⟩
    exact ⟨i, r, eq, spans⟩
  · rintro ⟨i, r, eq, spans⟩
    exact ⟨r, ⟨i, eq⟩, spans⟩

/-- The last alternative is the branch being read; the others were put aside. -/
theorem spansAt_iff :
    group.SpansAt i c d
      ↔ (∃ b, group.branches.reverse[i]? = some b ∧ b.regex.Spans c d)
        ∨ i = group.branches.length ∧ (seqs (expressions group.parts)).Spans c d := by
  have split : group.alternatives
      = group.branches.reverse.map Nested.regex ++ [seqs (expressions group.parts)] := by
    simp [alternatives, branch_regex]
  have length := group.branches.length_reverse
  unfold SpansAt
  rw [split]
  rcases Nat.lt_trichotomy i group.branches.length with lt | rfl | gt
  · rw [List.getElem?_append_left (by simpa using lt), List.getElem?_map]
    simp [Nat.ne_of_lt lt]
  · rw [List.getElem?_append_right (by simp), List.getElem?_eq_none (Nat.le_of_eq length)]
    simp
  · rw [List.getElem?_append_right (by simpa using Nat.le_of_lt gt),
      List.getElem?_eq_none (by simp; omega), List.getElem?_eq_none (by omega)]
    simp [Nat.ne_of_gt gt]

theorem spans_endWith (test : Look) (parts : List Piece) :
    (seqs (expressions (.ofLook test :: parts))).Spans c d
      ↔ (seqs (expressions parts)).Spans c d ∧ test.holds d.before d.rest.head? = true := by
  have split : expressions (.ofLook test :: parts) = expressions parts ++ [look test] := by
    simp [expressions, Piece.ofLook, Piece.toNested]
  rw [split, spans_seqs_append]
  constructor
  · rintro ⟨m, spans, holds, rfl⟩
    exact ⟨spans, holds⟩
  · rintro ⟨spans, holds⟩
    exact ⟨d, spans, holds, rfl⟩

/-- A test behind the last branch is made where a match of that branch ends. -/
theorem spansAt_endWith (closing : Option Look) :
    (group.endWith closing).SpansAt i c d
      ↔ group.SpansAt i c d ∧ (i + 1 = group.alternatives.length →
          ∀ test ∈ closing, test.holds d.before d.rest.head? = true) := by
  cases closing with
  | none => simp [endWith]
  | some test =>
      have push : group.endWith (some test)
          = { group with parts := .ofLook test :: group.parts } := rfl
      rw [spansAt_iff, spansAt_iff, length_alternatives, push]
      simp only [spans_endWith, Option.mem_some_iff, forall_eq', Nat.add_right_cancel_iff]
      constructor
      · rintro (⟨b, eq, spans⟩ | ⟨rfl, spans, holds⟩)
        · refine ⟨Or.inl ⟨b, eq, spans⟩, fun last => ?_⟩
          have within := (List.getElem?_eq_some_iff.mp eq).1
          rw [List.length_reverse] at within
          omega
        · exact ⟨Or.inr ⟨rfl, spans⟩, fun _ => holds⟩
      · rintro ⟨⟨b, eq, spans⟩ | ⟨rfl, spans⟩, holds⟩
        · exact Or.inl ⟨b, eq, spans⟩
        · exact Or.inr ⟨rfl, spans, holds rfl⟩

end OpenGroup

/-- What is in front of the first branch matches in front of it. -/
theorem Led.spansAt_iff {lead : List Piece} {g g' : OpenGroup} (h : Led lead g g') (i : Nat)
    (c d : Cursor) :
    g'.SpansAt i c d
      ↔ if i = 0 then ∃ m, (seqs (OpenGroup.expressions lead)).Spans c m ∧ g.SpansAt 0 m d
        else g.SpansAt i c d := by
  simp only [OpenGroup.spansAt_iff]
  cases h with
  | single flags parts =>
      have split : OpenGroup.expressions (parts ++ lead)
          = OpenGroup.expressions lead ++ OpenGroup.expressions parts := by
        simp [OpenGroup.expressions]
      by_cases first : i = 0
      · simp [first, split, spans_seqs_append]
      · simp [first]
  | several flags parts branches h =>
      cases i with
      | zero => simp [h]
      | succ i => simp

theorem Led.length_alternatives {lead : List Piece} {g g' : OpenGroup} (h : Led lead g g') :
    g'.alternatives.length = g.alternatives.length := by
  cases h with
  | single => rfl
  | several => simp [OpenGroup.length_alternatives]

/-! ### Between the anchors -/

namespace Machine

variable {m m' : Machine}

/-- With a dollar sign behind its text, a machine that has read all else takes two more rounds
to the end. -/
theorem run?_dollar (text : m'.text = m.text ++ ['$']) (flags : m'.group.flags = m.group.flags)
    (done : m.ahead = []) (k : Nat) :
    ∃ n, m'.run? (k + 2) = some n ∧ n.outer = m'.outer
      ∧ n.group = m'.group.endWith m.closing? := by
  have skipped := Flags.skip_nil_append ['$'] done
  unfold closing?
  -- In a comment the dollar sign is not seen; otherwise it is all that is ahead, and one part.
  cases comment : m.group.flags.inComment m.text with
  | true =>
      rw [comment, if_pos rfl] at skipped
      have ahead : m'.ahead = [] := by
        unfold Machine.ahead
        rw [flags, text]
        exact skipped
      exact ⟨m', by rw [run?, ahead]; rfl, rfl, rfl⟩
  | false =>
      rw [comment] at skipped
      have solid : m.group.flags.skip ['$'] = ['$'] := by
        unfold Flags.skip
        split <;> rfl
      have ahead : m'.ahead = ['$'] := by
        unfold Machine.ahead
        rw [flags, text]
        exact skipped.trans solid
      rw [← flags]
      let n : Machine := ⟨m'.group.endWith (some m'.group.flags.dollar), m'.outer, m'.names, []⟩
      have step : m'.step? = some n := by
        unfold step?
        rw [ahead]
        rfl
      have rest : n.ahead = [] := Flags.skip_nil _
      refine ⟨n, ?_, rfl, rfl⟩
      rw [run?, ahead, List.isEmpty_cons, step]
      simp [run?, rest]

/-- Behind the whole text a dollar sign is no mark of a repetition. -/
theorem ready_dollar (closed : m.outer = []) : m.Ready ['$'] := by
  intro done
  refine ⟨closed, ?_⟩
  rw [Flags.skip_nil_append ['$'] done]
  unfold Flags.skip
  split
  · decide
  · split <;> decide

end Machine

/-- What a caret in front of a text leaves: its test. -/
def caretLead : List Piece := [.ofLook .textStart]

/-- **Before a dollar sign an expression is read as it is alone**, behind what is in front of it.
Only a group name that is in use already stops the reader. -/
theorem finish_of_outline {text : List Char} {m : Machine} (h : outline? text = some m)
    (closed : m.outer = []) (lead : List Piece) (extra : List (List Char)) {rounds : Nat}
    (enough : text.length + 2 ≤ rounds) :
    (∃ name ∈ m.names, name ∈ extra)
        ∧ (Machine.startBehind lead extra (text ++ ['$'])).run? rounds = none
      ∨ ∃ group', Led lead m.group group'
        ∧ ((Machine.startBehind lead extra (text ++ ['$'])).run? rounds).bind Machine.finish?
          = some (group'.endWith m.closing?).close := by
  have carries := Carries.start lead extra text ['$']
  rcases carries.run (Or.inr rfl) h (Machine.ready_dollar closed) with
    ⟨clash, stuck⟩ | ⟨used, lt, m', last, same⟩
  · exact Or.inl ⟨clash, stuck rounds⟩
  · obtain ⟨k, fuel⟩ : ∃ k, rounds = used + (k + 2) := ⟨rounds - used - 2, by omega⟩
    obtain ⟨n, run, outer, group⟩ := Machine.run?_dollar last.text last.flags
      (Machine.ahead_of_run h) k
    have groups := last.groups
    rw [closed] at groups
    obtain ⟨closed', led⟩ := groups.of_closed
    refine Or.inr ⟨m'.group, led, ?_⟩
    rw [fuel, same, run]
    simp [Machine.finish?, outer, closed', group]

/-- The first round over an anchored text reads the caret. -/
theorem ofChars?_caret (text : List Char) :
    ofChars? ('^' :: text)
      = ((Machine.startBehind caretLead [] text).run? (text.length + 1)).bind Machine.finish? := by
  rw [ofChars?_eq_outline?, outline?, List.length_cons]
  rfl

/-- **Between a caret and a dollar sign an expression is read as it is alone**, with the one test
in front of its first alternative and the other behind its last. -/
theorem exists_anchored {text : List Char} {m : Machine} (h : outline? text = some m)
    (closed : m.outer = []) :
    ∃ group', Led caretLead m.group group'
      ∧ ofChars? ('^' :: (text ++ ['$'])) = some (group'.endWith m.closing?).close := by
  rw [ofChars?_caret, List.length_append]
  rcases finish_of_outline h closed caretLead [] (Nat.le_refl _) with ⟨⟨name, -, used⟩, -⟩ | read
  · exact absurd used List.not_mem_nil
  · exact read

/-- What the anchored expression matches, alternative by alternative. -/
theorem spans_anchored {m : Machine} {group' : OpenGroup} (led : Led caretLead m.group group')
    (c d : Cursor) :
    (group'.endWith m.closing?).close.regex.Spans c d
      ↔ ∃ i, m.group.SpansAt i c d ∧ (i = 0 → c.before = none)
        ∧ (i + 1 = m.group.alternatives.length →
          ∀ test ∈ m.closing?, test.holds d.before d.rest.head? = true) := by
  rw [OpenGroup.spans_close]
  refine exists_congr fun i => ?_
  rw [OpenGroup.spansAt_endWith, led.length_alternatives, ← and_assoc]
  refine and_congr_left fun _ => ?_
  rw [led.spansAt_iff]
  have caret : ∀ m, (seqs (OpenGroup.expressions caretLead)).Spans c m
      ↔ c.before = none ∧ c = m := by
    intro m
    show Look.textStart.holds c.before c.rest.head? = true ∧ c = m ↔ _
    simp [Look.holds]
  by_cases first : i = 0
  · subst first
    simp [caret, and_comm]
  · simp [first]

/-! ### What the anchors hold -/

namespace Machine

variable {m : Machine} {text : List Char}

/-- One of the alternatives matches in the text, the first of them only from its start, and the
last only up to where the closing test holds. -/
def Accepts (m : Machine) (text : List Char) : Prop :=
  ∃ i c d, (Cursor.start text).Ahead c ∧ m.group.SpansAt i c d
    ∧ (i = 0 → c = Cursor.start text)
    ∧ (i + 1 = m.group.alternatives.length →
      ∀ test ∈ m.closing?, test.holds d.before d.rest.head? = true)

/-- At the end of the text every closing test holds. -/
theorem closing?_holds_of_end {test : Look} (h : test ∈ m.closing?) (before : Option Char) :
    test.holds before none = true := by
  unfold closing? at h
  split at h
  · exact absurd h (by simp)
  · obtain rfl := Option.some.inj h
    unfold Flags.dollar
    split
    · split <;> rfl
    · rfl

theorem accepts_of_matchesWhole (h : m.group.close.regex.MatchesWhole text) : m.Accepts text := by
  obtain ⟨d, spans, done⟩ := h
  obtain ⟨i, spans⟩ := (m.group.spans_close _ _).mp spans
  refine ⟨i, _, d, .refl _, spans, fun _ => rfl, fun _ test mem => ?_⟩
  rw [done]
  exact closing?_holds_of_end mem _

/-- A single alternative, held to both ends of the text, matches all of it. -/
theorem accepts_iff_matchesWhole (single : m.group.alternatives.length = 1)
    (closing : m.closing? = some .textEnd) :
    m.Accepts text ↔ m.group.close.regex.MatchesWhole text := by
  refine ⟨?_, accepts_of_matchesWhole⟩
  rintro ⟨i, c, d, -, spans, first, last⟩
  have bound : i = 0 := by
    obtain ⟨r, eq, -⟩ := spans
    have within := (List.getElem?_eq_some_iff.mp eq).1
    omega
  obtain rfl := first bound
  have done := last (by omega) .textEnd closing
  refine ⟨d, (m.group.spans_close _ _).mpr ⟨i, spans⟩, ?_⟩
  simpa [Look.holds] using done

end Machine

theorem isMatch_anchored_iff {m : Machine} {group' : OpenGroup}
    (led : Led caretLead m.group group') (text : String) :
    (group'.endWith m.closing?).close.regex.isMatch text = true ↔ m.Accepts text.toList := by
  rw [isMatch_iff]
  simp only [spans_anchored led]
  constructor
  · rintro ⟨c, ahead, d, i, spans, first, last⟩
    exact ⟨i, c, d, ahead, spans, fun zero => ahead.eq_start (first zero), last⟩
  · rintro ⟨i, c, d, ahead, spans, first, last⟩
    exact ⟨c, ahead, d, i, spans, fun zero => by rw [first zero]; rfl, last⟩

end ColumnCast.Regex
