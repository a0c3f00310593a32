import ColumnCast.Proofs.Regex.Anchoring
import ColumnCast.Proofs.Regex.Context

/-!
# `ColumnCast.Proofs.Regex.Joining`: one expression behind another

The texts of two expressions with a space between them are read as the
one expression, the space and the other, if the first text leaves nothing
that reaches over the space: no further branch and no flags.
`ofChars?_joined` reads them between a caret and a dollar sign, and
`isMatch_joined_iff` says what is matched then. `standsInFront` and
`standsBehind` compute from the texts whether this is what they match
alone.
-/

set_option autoImplicit false

namespace ColumnCast.Regex

/-- The part that a space makes. -/
def spacePart : Piece := .regex ⟨one (.single ' '), 0⟩

/-- Where the first expression and the space have been read, the machine is at the beginning of
the second. -/
theorem run?_front {front : List Char} {m : Machine} (first : outline? front = some m)
    (closed : m.outer = []) (single : m.group.branches = []) (plain : m.group.flags = {})
    (behind : List Char) :
    ∃ used ≤ front.length, ∀ k,
      (Machine.startBehind caretLead [] (front ++ ' ' :: behind)).run? (used + (k + 1))
        = (Machine.startBehind (spacePart :: (m.group.parts ++ caretLead)) m.names behind).run?
          k := by
  have allRead : m.text = [] := by
    have done := Machine.ahead_of_run first
    unfold Machine.ahead at done
    rw [plain] at done
    exact done
  -- The space is no part of a construct of the first expression: that one is closed and, without
  -- the flag for white space, nothing of it is still to be skipped.
  have ready : m.Ready (' ' :: behind) := by
    intro _
    refine ⟨closed, ?_⟩
    rw [plain, allRead]
    exact fun mark => absurd (Option.some.inj mark) (by decide)
  have carries := Carries.start caretLead [] front (' ' :: behind)
  rcases carries.run (Or.inl rfl) first ready with
    ⟨⟨name, -, used⟩, -⟩ | ⟨used, lt, m', last, same⟩
  · exact absurd used List.not_mem_nil
  · have groups := last.groups
    rw [closed] at groups
    obtain ⟨closed', led⟩ := groups.of_closed
    have atSpace : m' = ⟨⟨{}, [], m.group.parts ++ caretLead⟩, [], m.names, ' ' :: behind⟩ := by
      obtain ⟨group, outer, names, text⟩ := m'
      obtain rfl : outer = [] := closed'
      obtain rfl : names = m.names := last.names.trans (List.append_nil _)
      obtain rfl : text = _ := last.text
      obtain rfl : group = _ := led.of_single single
      rw [plain, single, allRead]
      rfl
    refine ⟨used, Nat.le_of_lt_succ lt, fun k => ?_⟩
    rw [same, atSpace]
    rfl

/-- **Behind an expression and a space another is read as it is alone**, in a text between a caret
and a dollar sign, if the first has one branch and leaves no flags. Only a group name that both
use stops the reader. -/
theorem ofChars?_joined {front back : List Char} {m n : Machine} (first : outline? front = some m)
    (closed : m.outer = []) (single : m.group.branches = []) (plain : m.group.flags = {})
    (second : outline? back = some n) (closed' : n.outer = []) :
    (∃ name ∈ n.names, name ∈ m.names)
        ∧ ofChars? ('^' :: (front ++ ' ' :: (back ++ ['$']))) = none
      ∨ ∃ group', Led (spacePart :: (m.group.parts ++ caretLead)) n.group group'
        ∧ ofChars? ('^' :: (front ++ ' ' :: (back ++ ['$'])))
          = some (group'.endWith n.closing?).close := by
  obtain ⟨used, le, same⟩ := run?_front first closed single plain (back ++ ['$'])
  have length : (front ++ ' ' :: (back ++ ['$'])).length + 1
      = front.length + back.length + 3 := by
    simp only [List.length_append, List.length_cons, List.length_nil]
    omega
  obtain ⟨k, fuel, enough⟩ : ∃ k, front.length + back.length + 3 = used + (k + 1)
      ∧ back.length + 2 ≤ k := ⟨front.length + back.length + 2 - used, by omega, by omega⟩
  rw [ofChars?_caret, length, fuel, same]
  rcases finish_of_outline second closed' (spacePart :: (m.group.parts ++ caretLead)) m.names
    enough with ⟨clash, stuck⟩ | read
  · exact Or.inl ⟨clash, by rw [stuck]; rfl⟩
  · exact Or.inr read

/-- A single branch is the whole expression. -/
theorem OpenGroup.spans_close_of_single {group : OpenGroup} (single : group.branches = [])
    (c d : Cursor) :
    group.close.regex.Spans c d ↔ (seqs (expressions group.parts)).Spans c d := by
  have alone : group.close.regex = seqs (expressions group.parts) := by
    rw [close_regex, alternatives, single]
    simp [alts, branch_regex]
  rw [alone]

section Joined

variable {m n : Machine} {group' : OpenGroup}
  (led : Led (spacePart :: (m.group.parts ++ caretLead)) n.group group')
  (single : m.group.branches = []) (single' : n.group.branches = [])
  (closing : n.closing? = some .textEnd)
include led single single' closing

/-- What has been read: the test for the start, the first expression, the space, the second
expression and the test for the end. -/
theorem spans_joined_iff (c d : Cursor) :
    (group'.endWith n.closing?).close.regex.Spans c d
      ↔ c.before = none
        ∧ (seqs [m.group.close.regex, one (.single ' '), n.group.close.regex]).Spans c d
        ∧ d.rest = [] := by
  have whole : group'.endWith (some .textEnd) = ⟨n.group.flags, [],
      .ofLook .textEnd :: (n.group.parts ++ (spacePart :: (m.group.parts ++ caretLead)))⟩ := by
    rw [led.of_single single', single']
    rfl
  have parts : OpenGroup.expressions (n.group.parts ++ (spacePart :: (m.group.parts ++ caretLead)))
      = look .textStart :: (OpenGroup.expressions m.group.parts
        ++ one (.single ' ') :: OpenGroup.expressions n.group.parts) := by
    simp [OpenGroup.expressions, spacePart, caretLead, Piece.ofLook, Piece.toNested]
  have ended : Look.textEnd.holds d.before d.rest.head? = true ↔ d.rest = [] := by
    simp [Look.holds]
  have front := OpenGroup.spans_close_of_single single
  have back := OpenGroup.spans_close_of_single single'
  rw [closing, whole, OpenGroup.spans_close_of_single rfl, OpenGroup.spans_endWith, parts,
    spans_seqs_cons]
  simp only [spans_seqs_append, spans_seqs_cons _ (OpenGroup.expressions n.group.parts), ended]
  constructor
  · rintro ⟨⟨_, ⟨atStart, rfl⟩, e, first, f, space, second⟩, done⟩
    refine ⟨by simpa [Look.holds] using atStart, ⟨e, ?_, f, space, ?_⟩, done⟩
    · exact (front c e).mpr first
    · exact (back f d).mpr second
  · rintro ⟨atStart, ⟨e, first, f, space, second⟩, done⟩
    refine ⟨⟨c, ⟨by simp [Look.holds, atStart], rfl⟩, e, ?_, f, space, ?_⟩, done⟩
    · exact (front c e).mp first
    · exact (back f d).mp second

/-- A search for it finds the texts that the two expressions match with a space between them. -/
theorem isMatch_joined_iff (text : String) :
    (group'.endWith n.closing?).close.regex.isMatch text = true
      ↔ (seqs [m.group.close.regex, one (.single ' '), n.group.close.regex]).MatchesWhole
        text.toList := by
  rw [isMatch_iff]
  simp only [spans_joined_iff led single single' closing]
  constructor
  · rintro ⟨c, ahead, d, first, joined, done⟩
    obtain rfl := ahead.eq_start first
    exact ⟨d, joined, done⟩
  · rintro ⟨d, joined, done⟩
    exact ⟨_, .refl _, d, rfl, joined, done⟩

end Joined

/-! ### Expressions that can be joined -/

/-- The expression can stand in front of another: it has one branch, leaves no flags, and does
not test for the end of its text. -/
def standsInFront (text : List Char) : Bool :=
  (outline? text).any fun m =>
    m.group.branches.isEmpty && m.group.flags = {} && m.group.close.regex.allTests (!·.seesEnd)

/-- The expression can stand behind another: it has one branch, a dollar sign behind it tests for
the end of the text, and it does not test for the start of its text. -/
def standsBehind (text : List Char) : Bool :=
  (outline? text).any fun n =>
    n.group.branches.isEmpty && n.closing? = some .textEnd
      && n.group.close.regex.allTests (!·.seesStart)

/-- The names of the groups in the expression. -/
def groupNames (text : List Char) : List (List Char) :=
  ((outline? text).map Machine.names).getD []

end ColumnCast.Regex
