import Mathlib.Data.List.TakeWhile
import ColumnCast.Format

/-!
# `ColumnCast.Proofs.Regex.Locality`: parts of an expression on their own

The reader of expressions takes a text apart from left to right, with a
reader for each kind of part. None of them looks far ahead: what it reads
of a text it reads of a longer one as well, and it leaves the rest of the
one with what was added behind it. `Keeps` says so of two outcomes, and is
handed on by the ways in which readers are put together (`Keeps.bind`,
`Keeps.value`, `Keeps.map`, `Keeps.ite`). The lemmas named `..._append`
say it reader by reader; `readPart?_append` is what they lead to.

What is added matters in few places: a brace would name the word's edge
before it, and a name between colons or an operator of a class could be
completed. `Apart` leaves these out.

Where blanks mean nothing, what is added can also end up in a comment.
`Flags.inComment` says when.
-/

set_option autoImplicit false

namespace ColumnCast.Regex

section Marks

variable {mark : Char}

theorem takeWhile_ne_eq_self {text : List Char} (h : mark ∉ text) :
    text.takeWhile (· != mark) = text :=
  List.takeWhile_eq_self_iff.mpr fun c mem => bne_iff_ne.mpr fun eq => h (by rwa [eq] at mem)

/-- The text up to the first mark. -/
theorem takeWhile_ne_append {name : List Char} (first : mark ∉ name) (tail : List Char) :
    (name ++ mark :: tail).takeWhile (· != mark) = name := by
  have letters : ∀ c ∈ name, (c != mark) = true := fun c mem =>
    bne_iff_ne.mpr fun eq => first (by rwa [eq] at mem)
  rw [List.takeWhile_append_of_pos letters]
  simp

end Marks

/-- What is added begins with a blank or a dollar sign. -/
def Apart (more : List Char) : Prop := more.head? = some ' ' ∨ more.head? = some '$'

theorem Apart.head?_ne {more : List Char} (apart : Apart more) {c : Char}
    (other : c ≠ ' ' ∧ c ≠ '$') : more.head? ≠ some c := by
  intro same
  rcases apart with head | head
  · exact other.1 (Option.some.inj (same.symm.trans head))
  · exact other.2 (Option.some.inj (same.symm.trans head))

/-! ### Blanks and comments -/

section Blanks

variable {text behind : List Char} {c : Char} (more : List Char)

/-- Is a comment open behind the text, all of which counts for nothing? -/
def commentAfter (inComment : Bool) : List Char → Bool
  | [] => inComment
  | c :: rest =>
    if inComment then commentAfter (c != '\n') rest
    else if Text.isBlank c then commentAfter false rest
    else if c = '#' then commentAfter true rest
    else false

/-- Is a comment open behind the character? None if the character counts. -/
def spaceStep (inComment : Bool) (c : Char) : Option Bool :=
  if inComment then some (c != '\n')
  else if Text.isBlank c then some false
  else if c = '#' then some true
  else none

theorem skipSpace_cons (inComment : Bool) (c : Char) (rest : List Char) :
    skipSpace inComment (c :: rest)
      = (spaceStep inComment c).elim (c :: rest) fun inComment' => skipSpace inComment' rest := by
  rw [skipSpace]
  unfold spaceStep
  repeat' split
  all_goals rfl

theorem commentAfter_cons (inComment : Bool) (c : Char) (rest : List Char) :
    commentAfter inComment (c :: rest)
      = (spaceStep inComment c).elim false fun inComment' => commentAfter inComment' rest := by
  rw [commentAfter]
  unfold spaceStep
  repeat' split
  all_goals rfl

/-- What counts in a text counts in a longer one. -/
theorem skipSpace_cons_append {inComment : Bool} (h : skipSpace inComment text = c :: behind) :
    skipSpace inComment (text ++ more) = c :: (behind ++ more) := by
  induction text generalizing inComment with
  | nil => exact absurd h (by simp [skipSpace])
  | cons d text ih =>
      rw [List.cons_append, skipSpace_cons]
      rw [skipSpace_cons] at h
      cases step : spaceStep inComment d with
      | none =>
          rw [step] at h
          obtain ⟨rfl, rfl⟩ := List.cons.inj h
          rfl
      | some inComment' =>
          rw [step] at h
          exact ih h

/-- Behind a text that counts for nothing, what is added is read as it would be alone, or as a
comment. -/
theorem skipSpace_nil_append {inComment : Bool} (h : skipSpace inComment text = []) :
    skipSpace inComment (text ++ more) = skipSpace (commentAfter inComment text) more := by
  induction text generalizing inComment with
  | nil => rfl
  | cons d text ih =>
      rw [List.cons_append, skipSpace_cons, commentAfter_cons]
      rw [skipSpace_cons] at h
      cases step : spaceStep inComment d with
      | none =>
          rw [step] at h
          exact absurd h (List.cons_ne_nil _ _)
      | some inComment' =>
          rw [step] at h
          exact ih h

theorem length_skipSpace_le (inComment : Bool) (text : List Char) :
    (skipSpace inComment text).length ≤ text.length := by
  induction text generalizing inComment with
  | nil => exact Nat.le_refl 0
  | cons c text ih =>
      rw [skipSpace_cons]
      cases spaceStep inComment c with
      | none => exact Nat.le_refl _
      | some inComment' => exact Nat.le_succ_of_le (ih inComment')

namespace Flags

variable {flags : Flags}

/-- Is a comment open behind the text, all of which counts for nothing? -/
def inComment (flags : Flags) (text : List Char) : Bool :=
  flags.spaced && commentAfter false text

theorem skip_nil (flags : Flags) : flags.skip [] = [] := by
  unfold skip
  split <;> rfl

theorem skip_cons_append (h : flags.skip text = c :: behind) :
    flags.skip (text ++ more) = c :: (behind ++ more) := by
  unfold skip at h ⊢
  split at h
  · rename_i spaced
    rw [if_pos spaced]
    exact skipSpace_cons_append more h
  · rename_i plain
    rw [if_neg plain, h]
    rfl

theorem skip_nil_append (h : flags.skip text = []) :
    flags.skip (text ++ more)
      = if flags.inComment text then skipSpace true more else flags.skip more := by
  unfold skip inComment at *
  split at h
  · rename_i spaced
    rw [if_pos spaced, skipSpace_nil_append more h, if_pos spaced, spaced, Bool.true_and]
    cases commentAfter false text <;> rfl
  · rename_i plain
    rw [if_neg plain, h, if_neg plain, Bool.eq_false_iff.mpr plain]
    rfl

theorem length_skip_le (flags : Flags) (text : List Char) :
    (flags.skip text).length ≤ text.length := by
  unfold skip
  split
  · exact length_skipSpace_le false text
  · exact Nat.le_refl _

end Flags

end Blanks

/-! ### What is left -/

/-- What a reader reads of a text it reads of a longer one as well, and leaves what was added:
`outcome` is of the text, `outcome'` of the longer one. -/
def Keeps {α : Type} (more : List Char) (outcome outcome' : Option (α × List Char)) : Prop :=
  ∀ x rest, outcome = some (x, rest) → outcome' = some (x, rest ++ more)

namespace Keeps

variable {α β γ : Type} {more : List Char}

theorem none {outcome' : Option (α × List Char)} : Keeps more none outcome' :=
  fun _ _ h => absurd h (by simp)

theorem some {x : α} {rest : List Char} : Keeps more (some (x, rest)) (some (x, rest ++ more)) := by
  intro x' rest' h
  obtain ⟨rfl, rfl⟩ := Prod.mk.inj (Option.some.inj h)
  rfl

/-- One reader after another. -/
theorem bind {first first' : Option (α × List Char)}
    {second second' : α × List Char → Option (β × List Char)} (h : Keeps more first first')
    (next : ∀ x rest, first = .some (x, rest) →
      Keeps more (second (x, rest)) (second' (x, rest ++ more))) :
    Keeps more (first.bind second) (first'.bind second') := by
  intro x rest read
  obtain ⟨⟨y, behind⟩, readFirst, readSecond⟩ := Option.bind_eq_some_iff.mp read
  rw [h y behind readFirst]
  exact next y behind readFirst x rest readSecond

/-- A value that does not come from the text. -/
theorem value {found : Option γ} {second second' : γ → Option (β × List Char)}
    (next : ∀ y, found = .some y → Keeps more (second y) (second' y)) :
    Keeps more (found.bind second) (found.bind second') := by
  intro x rest read
  obtain ⟨y, eq, readSecond⟩ := Option.bind_eq_some_iff.mp read
  rw [eq]
  exact next y eq x rest readSecond

theorem map {outcome outcome' : Option (α × List Char)} (h : Keeps more outcome outcome')
    (f : α → β) :
    Keeps more (outcome.map fun (x, rest) => (f x, rest))
      (outcome'.map fun (x, rest) => (f x, rest)) := by
  intro y rest read
  obtain ⟨⟨x, behind⟩, eq, pair⟩ := Option.map_eq_some_iff.mp read
  obtain ⟨rfl, rfl⟩ := Prod.mk.inj pair
  rw [h x behind eq]
  rfl

theorem ite {c : Prop} [Decidable c] {yes yes' no no' : Option (α × List Char)}
    (left : Keeps more yes yes') (right : Keeps more no no') :
    Keeps more (if c then yes else no) (if c then yes' else no') := by
  split
  · exact left
  · exact right

end Keeps

/-! ### What is taken in front -/

/-- The loop takes the characters in front that pass the test, with the blanks behind each, for
so many rounds at most. -/
structure TakesFront {α : Type} (flags : Flags) (test : Char → Bool) (take : α → Char → α)
    (loop : α → Nat → List Char → α × List Char) : Prop where
  stopped (found : α) (text : List Char) : loop found 0 text = (found, text)
  finished (found : α) (rounds : Nat) : loop found rounds [] = (found, [])
  step (found : α) (rounds : Nat) (c : Char) (rest : List Char) :
    loop found (rounds + 1) (c :: rest)
      = if test c then loop (take found c) rounds (flags.skip rest) else (found, c :: rest)

/-- All that pass the test are taken, unless nothing is left behind them: the loop does not see
where the text was cut off. -/
theorem TakesFront.append {α : Type} {flags : Flags} {test : Char → Bool} {take : α → Char → α}
    {loop : α → Nat → List Char → α × List Char} (takes : TakesFront flags test take loop)
    {found found' : α} {rounds rounds' : Nat} {text more behind : List Char}
    (enough : text.length ≤ rounds) (le : rounds ≤ rounds')
    (h : loop found rounds text = (found', behind)) (inhabited : behind ≠ []) :
    loop found rounds' (text ++ more) = (found', behind ++ more) := by
  -- On the rounds, of which there are at least as many as characters: a round that takes one
  -- leaves a text that is shorter, whatever blanks go with it.
  induction rounds generalizing rounds' found text with
  | zero =>
      obtain rfl := List.length_eq_zero_iff.mp (Nat.le_zero.mp enough)
      obtain ⟨rfl, rfl⟩ := Prod.mk.inj ((takes.stopped found []).symm.trans h)
      exact absurd rfl inhabited
  | succ rounds ih =>
      obtain ⟨rounds', rfl⟩ := Nat.exists_eq_add_of_le' (Nat.le_trans (Nat.succ_pos _) le)
      cases text with
      | nil =>
          obtain ⟨rfl, rfl⟩ := Prod.mk.inj ((takes.finished found _).symm.trans h)
          exact absurd rfl inhabited
      | cons c rest =>
          rw [List.cons_append, takes.step]
          rw [takes.step] at h
          split at h
          · rename_i passes
            rw [if_pos passes]
            have shorter := flags.length_skip_le rest
            cases start : flags.skip rest with
            | nil =>
                rw [start, takes.finished] at h
                exact absurd (Prod.mk.inj h).2.symm inhabited
            | cons d behind' =>
                rw [Flags.skip_cons_append more start, ← List.cons_append, ← start]
                have enough' : (flags.skip rest).length ≤ rounds :=
                  Nat.le_trans shorter (Nat.le_of_succ_le_succ enough)
                exact ih enough' (Nat.le_of_succ_le_succ le) h
          · rename_i fails
            rw [if_neg fails]
            obtain ⟨rfl, rfl⟩ := Prod.mk.inj h
            rfl

/-! ### Escapes -/

section Escapes

variable (flags : Flags) (text more : List Char)

theorem readHexDigits_append (found : List Char) (count : Nat) :
    Keeps more (readHexDigits flags found count text)
      (readHexDigits flags found count (text ++ more)) := by
  induction count generalizing found text with
  | zero => exact Keeps.some
  | succ count ih =>
      rw [readHexDigits, readHexDigits]
      cases start : flags.skip text with
      | nil => exact Keeps.none
      | cons c rest =>
          rw [Flags.skip_cons_append more start]
          exact Keeps.ite (ih rest _) Keeps.none

/-- The name in braces; more rounds change nothing. -/
theorem readBraced_append {rounds rounds' : Nat} (le : rounds ≤ rounds') :
    Keeps more (readBraced flags rounds text) (readBraced flags rounds' (text ++ more)) := by
  induction rounds generalizing rounds' text with
  | zero => exact Keeps.none
  | succ rounds ih =>
      obtain ⟨rounds', rfl⟩ := Nat.exists_eq_add_of_le' (Nat.le_trans (Nat.succ_pos _) le)
      rw [readBraced, readBraced]
      cases start : flags.skip text with
      | nil => exact Keeps.none
      | cons c rest =>
          rw [Flags.skip_cons_append more start]
          by_cases brace : c = '\x7d'
          · subst brace
            exact Keeps.some
          · simp only
            exact (ih rest (Nat.le_of_succ_le_succ le)).map _

theorem readBraced_whole_append :
    Keeps more (readBraced flags text.length.succ text)
      (readBraced flags (text ++ more).length.succ (text ++ more)) :=
  readBraced_append flags text more (Nat.succ_le_succ (by simp))

theorem readHex?_append (count : Nat) :
    Keeps more (readHex? flags count text) (readHex? flags count (text ++ more)) := by
  unfold readHex?
  cases start : flags.skip text with
  | nil => exact Keeps.none
  | cons c rest =>
      rw [Flags.skip_cons_append more start]
      by_cases brace : c = '\x7b'
      · subst brace
        refine Keeps.bind (readBraced_whole_append flags rest more) fun digits behind _ => ?_
        exact Keeps.ite Keeps.none (Keeps.value fun _ _ => Keeps.some)
      · simp only [List.cons.injEq, brace, false_and, imp_self, implies_true]
        refine Keeps.bind (readHexDigits_append flags (c :: rest) more [] count) fun _ _ _ => ?_
        exact Keeps.value fun _ _ => Keeps.some

theorem readProperty?_append (negated : Bool) :
    Keeps more (readProperty? flags negated text) (readProperty? flags negated (text ++ more)) := by
  unfold readProperty?
  cases start : flags.skip text with
  | nil => exact Keeps.none
  | cons c rest =>
      rw [Flags.skip_cons_append more start]
      by_cases brace : c = '\x7b'
      · subst brace
        refine Keeps.bind (readBraced_whole_append flags rest more) fun name behind _ => ?_
        dsimp only
        cases splitValue? name with
        | none => exact Keeps.value fun set _ => by exact Keeps.ite Keeps.some Keeps.none
        | some pair => exact Keeps.value fun set _ => by exact Keeps.ite Keeps.some Keeps.none
      · simp only
        refine Keeps.ite Keeps.none ?_
        exact Keeps.value fun set _ => by exact Keeps.ite Keeps.some Keeps.none

variable {more} (follow : more.head? ≠ some '\x7b')
include follow

theorem readEdge?_append :
    Keeps more (readEdge? flags text) (readEdge? flags (text ++ more)) := by
  unfold readEdge?
  -- Only a brace that follows at once would be read along, and none is added.
  cases text with
  | nil =>
      cases more with
      | nil => exact Keeps.some
      | cons d more =>
          have other : d ≠ '\x7b' := fun same => follow (congrArg some same)
          simp only [List.nil_append, List.cons.injEq, other, false_and, imp_self, implies_true]
          exact Keeps.some
  | cons c rest =>
      by_cases brace : c = '\x7b'
      · subst brace
        simp only [List.cons_append]
        cases start : flags.skip rest with
        | nil => exact Keeps.none
        | cons d behind =>
            rw [Flags.skip_cons_append more start]
            refine Keeps.ite ?_ Keeps.some
            refine Keeps.bind (readBraced_whole_append flags rest more) fun name behind _ => ?_
            exact Keeps.value fun _ _ => Keeps.some
      · simp only [List.cons_append, List.cons.injEq, brace, false_and, imp_self, implies_true]
        exact Keeps.some

theorem readEscape?_append :
    Keeps more (readEscape? flags text) (readEscape? flags (text ++ more)) := by
  cases text with
  | nil => exact Keeps.none
  | cons c rest =>
      rw [List.cons_append]
      unfold readEscape?
      -- A case for each letter with a meaning, in the order of the reader, and `h_13` for the
      -- characters without one.
      split
      case h_1 eq => exact absurd eq (List.cons_ne_nil _ _)
      case h_13 eq =>
        obtain ⟨rfl, rfl⟩ := List.cons.inj eq
        simp only
        split
        · exact Keeps.some
        · exact Keeps.some
        · exact Keeps.ite Keeps.some Keeps.none
      all_goals
        rename_i eq
        obtain ⟨rfl, rfl⟩ := List.cons.inj eq
      · exact readHex?_append flags rest more 2
      · exact readHex?_append flags rest more 4
      · exact readHex?_append flags rest more 8
      · exact readProperty?_append flags rest more false
      · exact readProperty?_append flags rest more true
      · exact Keeps.some
      · exact Keeps.some
      · exact readEdge?_append flags rest follow
      · exact Keeps.some
      · exact Keeps.some
      · exact Keeps.some

end Escapes

/-! ### Classes -/

section Classes

variable (flags : Flags) (text more : List Char)

theorem takesHyphens :
    TakesFront flags (· == '-') (fun frame _ => frame.add (.single '-')) (leadingHyphens flags) where
  stopped frame text := rfl
  finished frame rounds := by cases rounds <;> rfl
  step frame rounds c rest := by
    by_cases hyphen : c = '-'
    · subst hyphen
      rfl
    · unfold leadingHyphens
      simp [hyphen]

theorem openMembers?_append (negated : Bool) :
    Keeps more (openMembers? flags negated text) (openMembers? flags negated (text ++ more)) := by
  unfold openMembers?
  -- If nothing is left behind the hyphens nothing is read, so all of them are in the text.
  cases taken : leadingHyphens flags ⟨negated, [], none⟩ text.length text with
  | mk frame behind =>
      cases behind with
      | nil => exact Keeps.none
      | cons c rest =>
          rw [(takesHyphens flags).append (Nat.le_refl _) (by simp) taken (List.cons_ne_nil _ _)]
          by_cases bracket : c = ']'
          · subst bracket
            simp only [List.cons_append]
            refine Keeps.ite ?_ Keeps.some
            cases first : flags.skip rest with
            | nil => exact Keeps.none
            | cons d rest' =>
                rw [Flags.skip_cons_append more first]
                exact Keeps.some
          · simp only [List.cons_append, List.cons.injEq, bracket, false_and, imp_self,
              implies_true]
            exact Keeps.some

theorem openClass?_append :
    Keeps more (openClass? flags text) (openClass? flags (text ++ more)) := by
  unfold openClass?
  cases first : flags.skip text with
  | nil => exact Keeps.none
  | cons c rest =>
      rw [Flags.skip_cons_append more first]
      by_cases caret : c = '^'
      · subst caret
        simp only
        cases second : flags.skip rest with
        | nil => exact Keeps.none
        | cons d rest' =>
            rw [Flags.skip_cons_append more second]
            exact openMembers?_append flags (d :: rest') more true
      · simp only [List.cons.injEq, caret, false_and, imp_self, implies_true]
        exact openMembers?_append flags (c :: rest) more false

theorem asciiClass?_letters {name : String} {set : CharSet}
    (h : CharSet.asciiClass? name = some set) :
    name.toList.all (fun c => c != ' ' && c != '$') = true := by
  unfold CharSet.asciiClass? at h
  split at h
  case h_15 => exact absurd h (by simp)
  all_goals rfl

/-- A name ends at the first colon. -/
theorem asciiClassName?_colon {name : List Char} (first : ':' ∉ name) (negated : Bool)
    (tail : List Char) :
    asciiClassName? negated (name ++ ':' :: tail)
      = match tail with
        | ']' :: rest =>
          (CharSet.asciiClass? (String.ofList name)).map fun set => (.negatedIf negated set, rest)
        | _ => none := by
  unfold asciiClassName?
  simp only [takeWhile_ne_append first, List.drop_left]
  rcases tail with _ | ⟨c, tail⟩
  · rfl
  · by_cases bracket : c = ']'
    · subst bracket
      rfl
    · simp [bracket]

theorem asciiClassName?_none (h : ':' ∉ text) (negated : Bool) :
    asciiClassName? negated text = none := by
  unfold asciiClassName?
  simp only [takeWhile_ne_eq_self h, List.drop_length]

/-- Whether brackets hold the name of a class is the same in a longer text. -/
theorem asciiClassName?_append (apart : Apart more) (negated : Bool) :
    asciiClassName? negated (text ++ more)
      = (asciiClassName? negated text).map fun (set, rest) => (set, rest ++ more) := by
  by_cases colon : ':' ∈ text
  · obtain ⟨name, tail, rfl, first⟩ := List.eq_append_cons_of_mem colon
    rw [List.append_assoc, List.cons_append, asciiClassName?_colon first,
      asciiClassName?_colon first]
    cases tail with
    | nil =>
        have other := apart.head?_ne (c := ']') (by decide)
        cases more with
        | nil => rfl
        | cons c more =>
            have bracket : c ≠ ']' := fun eq => other (congrArg some eq)
            simp [bracket]
    | cons c tail =>
        by_cases bracket : c = ']'
        · subst bracket
          cases found : CharSet.asciiClass? (String.ofList name) <;> simp
        · simp [bracket]
  · rw [asciiClassName?_none text colon]
    by_cases completed : ':' ∈ more
    · obtain ⟨name, tail, rfl, first⟩ := List.eq_append_cons_of_mem completed
      rw [← List.append_assoc, asciiClassName?_colon (by simp [colon, first])]
      -- The name would hold what is added, which no name does.
      have unknown : CharSet.asciiClass? (String.ofList (text ++ name)) = none := by
        rw [Option.eq_none_iff_forall_ne_some]
        intro set found
        have letters := asciiClass?_letters found
        cases name with
        | nil => exact apart.head?_ne (c := ':') (by decide) rfl
        | cons c name =>
            have letter : c ≠ ' ' ∧ c ≠ '$' := by
              simpa using List.all_eq_true.mp letters c (by simp)
            rcases apart with head | head
            · exact letter.1 (Option.some.inj head)
            · exact letter.2 (Option.some.inj head)
      rw [unknown]
      split <;> rfl
    · rw [asciiClassName?_none _ (by simp [colon, completed])]
      rfl

theorem readAsciiClass?_append (apart : Apart more) :
    readAsciiClass? (text ++ more)
      = (readAsciiClass? text).map fun (set, rest) => (set, rest ++ more) := by
  unfold readAsciiClass?
  -- A text of one character or none could be completed, but not by what is added.
  rcases text with _ | ⟨c, _ | ⟨d, rest⟩⟩
  · have other := apart.head?_ne (c := ':') (by decide)
    cases more with
    | nil => rfl
    | cons c more =>
        have colon : c ≠ ':' := fun eq => other (congrArg some eq)
        simp [colon]
  · by_cases colon : c = ':'
    · subst colon
      have other := apart.head?_ne (c := '^') (by decide)
      have name := asciiClassName?_append [] more apart false
      cases more with
      | nil => rfl
      | cons c more =>
          have caret : c ≠ '^' := fun eq => other (congrArg some eq)
          simpa [caret] using name
    · simp [colon]
  · by_cases colon : c = ':'
    · subst colon
      by_cases caret : d = '^'
      · subst caret
        exact asciiClassName?_append rest more apart true
      · simpa [caret] using asciiClassName?_append (d :: rest) more apart false
    · simp [colon]

theorem readClassItem?_append (follow : more.head? ≠ some '\x7b') :
    Keeps more (readClassItem? flags text) (readClassItem? flags (text ++ more)) := by
  unfold readClassItem?
  cases text with
  | nil => exact Keeps.none
  | cons c rest =>
      by_cases backslash : c = '\\'
      · subst backslash
        exact readEscape?_append flags rest follow
      · simp only [List.cons_append]
        exact Keeps.some

theorem readClassRange?_append (follow : more.head? ≠ some '\x7b') :
    Keeps more (readClassRange? flags text) (readClassRange? flags (text ++ more)) := by
  unfold readClassRange?
  refine Keeps.bind (readClassItem?_append flags text more follow) fun first rest _ => ?_
  dsimp only
  -- What stands behind the first item says whether it begins a range, and something does.
  cases start : flags.skip rest with
  | nil => exact Keeps.none
  | cons c behind =>
      rw [Flags.skip_cons_append more start]
      by_cases hyphen : c = '-'
      · subst hyphen
        simp only
        cases second : flags.skip behind with
        | nil => exact Keeps.none
        | cons d tail =>
            rw [Flags.skip_cons_append more second]
            refine Keeps.ite (Keeps.value fun _ _ => Keeps.some) ?_
            refine Keeps.bind (readClassItem?_append flags (d :: tail) more follow) ?_
            intro last rest' _
            refine Keeps.value fun low _ => Keeps.value fun high _ => ?_
            exact Keeps.ite Keeps.some Keeps.none
      · simp only [List.cons.injEq, hyphen, false_and, imp_self, implies_true]
        exact Keeps.value fun _ _ => Keeps.some

theorem ne_cons_append {c d : Char} {rest : List Char}
    (h : ∀ tail, c :: rest = d :: tail → False) :
    ∀ tail, c :: (rest ++ more) = d :: tail → False := by
  intro tail eq
  exact h rest (by rw [(List.cons.inj eq).1])

/-- What is added completes no operator, which is a character twice. -/
theorem ne_double_append {c d : Char} {rest more : List Char}
    (alone : ∀ tail, c :: rest = d :: d :: tail → False) (head : more.head? ≠ some d) :
    ∀ tail, c :: (rest ++ more) = d :: d :: tail → False := by
  intro tail eq
  obtain ⟨rfl, eq⟩ := List.cons.inj eq
  cases rest with
  | nil => exact head (congrArg List.head? eq)
  | cons e rest => exact alone rest (by rw [(List.cons.inj eq).1])

/-- More rounds change nothing. -/
theorem readClass?_append (apart : Apart more) {rounds rounds' : Nat} (le : rounds ≤ rounds')
    (frame : OpenClass) (outer : List OpenClass) :
    Keeps more (readClass? flags frame outer rounds text)
      (readClass? flags frame outer rounds' (text ++ more)) := by
  induction rounds generalizing rounds' text frame outer with
  | zero => exact Keeps.none
  | succ rounds ih =>
      obtain ⟨rounds', rfl⟩ := Nat.exists_eq_add_of_le' (Nat.le_trans (Nat.succ_pos _) le)
      have le' : rounds ≤ rounds' := Nat.le_of_succ_le_succ le
      unfold readClass?
      cases start : flags.skip text with
      | nil => exact Keeps.none
      | cons c rest =>
          rw [Flags.skip_cons_append more start]
          split
          case h_1 eq => exact absurd eq (List.cons_ne_nil _ _)
          case h_2 eq =>
            obtain ⟨rfl, rfl⟩ := List.cons.inj eq
            simp only
            rw [readAsciiClass?_append _ more apart]
            cases named : readAsciiClass? rest with
            | some found => exact ih _ le' _ outer
            | none =>
                dsimp only [Option.map_none]
                cases opened : openClass? flags rest with
                | none => exact Keeps.none
                | some inner =>
                    rw [openClass?_append flags rest more _ _ opened]
                    exact ih _ le' _ _
          case h_3 eq =>
            obtain ⟨rfl, rfl⟩ := List.cons.inj eq
            cases outer with
            | nil => exact Keeps.some
            | cons parent outer => exact ih _ le' _ outer
          case h_7 _ _ bracket bracket' ampersands hyphens tildes =>
            -- None of the marks that have a meaning of their own is ahead in the longer text.
            have opening := ne_cons_append more bracket
            have closing := ne_cons_append more bracket'
            have ampersands := ne_double_append ampersands (apart.head?_ne (by decide))
            have hyphens := ne_double_append hyphens (apart.head?_ne (by decide))
            have tildes := ne_double_append tildes (apart.head?_ne (by decide))
            simp only
            cases read : readClassRange? flags (c :: rest) with
            | none => exact Keeps.none
            | some found =>
                have read' := readClassRange?_append flags _ more (apart.head?_ne (by decide))
                  _ _ read
                rw [← List.cons_append, read']
                exact ih _ le' _ outer
          all_goals
            rename_i eq
            obtain ⟨rfl, rfl⟩ := List.cons.inj eq
            exact ih _ le' _ outer

end Classes

/-! ### Parts -/

theorem readPart?_append (flags : Flags) (c : Char) (rest : List Char) {more : List Char}
    (apart : Apart more) :
    Keeps more (readPart? flags c rest) (readPart? flags c (rest ++ more)) := by
  unfold readPart?
  split
  case h_1 =>
    refine Keeps.bind (openClass?_append flags rest more) fun frame rest' _ => ?_
    refine Keeps.bind (readClass?_append flags rest' more apart (by simp) frame []) ?_
    intro set behind _
    exact Keeps.value fun _ _ => Keeps.some
  case h_2 =>
    refine Keeps.bind (readEscape?_append flags rest (apart.head?_ne (by decide))) ?_
    intro escape behind _
    exact Keeps.value fun _ _ => Keeps.some
  case h_3 =>
    cases flags.dot? with
    | none => exact Keeps.none
    | some r => exact Keeps.some
  case h_4 => exact Keeps.some
  case h_5 => exact Keeps.some
  case h_6 =>
    cases flags.literal? c with
    | none => exact Keeps.none
    | some r => exact Keeps.some

end ColumnCast.Regex
