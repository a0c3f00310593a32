import ColumnCast.Proofs.Regex.Denotation
import ColumnCast.Proofs.Regex.Opening

/-!
# `ColumnCast.Proofs.Regex.Machine`: the reader round by round

`readAll?` reads an expression with a stack of open groups. This file
takes it apart into rounds. `round?` says what the reader does in one
round and what text it leaves, `Machine.step?` does it to the stack, and
`Machine.run?` goes on until nothing is ahead; `readAll?_eq_run?` is the
reader.

What one machine reads another reads as well, with parts in front, more
group names in use and more text behind: `Carries` relates the two, and
their stacks differ in the outermost group alone (`Stacked`, `Led`).

* `round?_append`: what one round does, it does in the longer text, or it is
  refused there (`Round.Repeated`).
* `Carries.step`: a step preserves the relation, or the second machine
  stops because a group has a name that is in use.
* `Carries.run`: so does a whole run, by induction on the rounds. Where
  the first machine is done, the second is at what was added.
-/

set_option autoImplicit false

namespace ColumnCast.Regex

/-! ### Rounds -/

/-- What one round does to the open groups. -/
inductive Round
  /-- The innermost group reads on and is now this one. -/
  | within (group : OpenGroup)
  | opens (flags : Flags) (name : Option (List Char))
  | closes

namespace OpenGroup

/-- The group with other flags, and with one more part. -/
def push (group : OpenGroup) (flags : Flags) (part : Piece) : OpenGroup :=
  { group with flags := flags, parts := part :: group.parts }

/-- The group with the branch that was read put aside. -/
def alternate (group : OpenGroup) : OpenGroup :=
  { group with branches := group.branch :: group.branches, parts := [] }

end OpenGroup

/-- What the reader does in one round, with the innermost group, the names in use and the text
from the next character that counts. -/
def round? (group : OpenGroup) (names : List (List Char)) (text : List Char) :
    Option (Round × List Char) :=
  let repeated := fun (least : Nat) (most : Option Nat) (rest : List Char) =>
    (group.repeatLast? least most).map fun group => (Round.within group, rest)
  match text with
  | [] => none
  | '(' :: rest => do
    let (opening, rest) ← readOpening? group.flags names rest
    match opening with
    | .switch flags => some (.within (group.push flags .switch), rest)
    | .group flags name => some (.opens flags name, rest)
  | ')' :: rest => some (.closes, rest)
  | '|' :: rest => some (.within group.alternate, rest)
  | '?' :: rest => repeated 0 (some 1) (skipReluctant rest)
  | '*' :: rest => repeated 0 none (skipReluctant rest)
  | '+' :: rest => repeated 1 none (skipReluctant rest)
  | '\x7b' :: rest => do
    let ((least, most), rest) ← readBounds? group.flags rest
    repeated least most (skipReluctantApart group.flags rest)
  | c :: rest => do
    let (part, rest) ← readPart? group.flags c rest
    some (.within (group.push group.flags (.regex part)), rest)

/-- A state of the reader between two rounds. -/
structure Machine where
  group : OpenGroup
  outer : List OpenGroup
  names : List (List Char)
  text : List Char

namespace Machine

/-- The machine before its first round. -/
def start (text : List Char) : Machine := ⟨⟨{}, [], []⟩, [], [], text⟩

/-- The machine that begins behind these parts, with these names in use. -/
def startBehind (lead : List Piece) (names : List (List Char)) (text : List Char) : Machine :=
  ⟨⟨{}, [], lead⟩, [], names, text⟩

/-- The text from the next character that counts. -/
def ahead (m : Machine) : List Char := m.group.flags.skip m.text

/-- The machine after a round that leaves this text. -/
def perform? (m : Machine) (text : List Char) : Round → Option Machine
  | .within group => some ⟨group, m.outer, m.names, text⟩
  | .opens flags name => some ⟨⟨flags, [], []⟩, m.group :: m.outer, name.toList ++ m.names, text⟩
  | .closes =>
    match m.outer with
    | [] => none
    | parent :: outer => some ⟨parent.addGroup m.group, outer, m.names, text⟩

/-- One round. -/
def step? (m : Machine) : Option Machine :=
  (round? m.group m.names m.ahead).bind fun (round, rest) => m.perform? rest round

/-- Up to `rounds` rounds, until nothing is ahead. -/
def run? : (rounds : Nat) → Machine → Option Machine
  | 0, _ => none
  | rounds + 1, m => if m.ahead.isEmpty then some m else m.step?.bind (run? rounds)

/-- The expression, if every group is closed. -/
def finish? (m : Machine) : Option Nested :=
  if m.outer.isEmpty then some m.group.close else none

end Machine

theorem readAll?_eq_run? (rounds : Nat) (m : Machine) :
    readAll? m.group m.outer m.names rounds m.text = (m.run? rounds).bind Machine.finish? := by
  induction rounds generalizing m with
  | zero => rfl
  | succ rounds ih =>
      have next : ∀ group outer names text, readAll? group outer names rounds text
          = (Machine.run? rounds ⟨group, outer, names, text⟩).bind Machine.finish? :=
        fun group outer names text => ih ⟨group, outer, names, text⟩
      have ahead : m.group.flags.skip m.text = m.ahead := rfl
      unfold readAll? Machine.run? Machine.step? round?
      simp only [next, ahead]
      -- The two differ in where they look at what a part of the round gave: the reader goes on
      -- inside each case, the machine behind all of them.
      split
      case h_1 eq => simp [eq, Machine.finish?]
      case h_2 eq =>
        simp only [eq]
        rename_i rest
        rcases readOpening? m.group.flags m.names rest with _ | ⟨flags | ⟨flags, name⟩, behind⟩
        · rfl
        · rfl
        · rfl
      case h_3 eq =>
        simp only [eq]
        cases outer : m.outer with
        | nil => simp [Machine.perform?, outer]
        | cons parent outer' => simp [Machine.perform?, outer]
      case h_4 eq =>
        simp only [eq]
        rfl
      case h_8 rest eq =>
        simp only [eq]
        rcases readBounds? m.group.flags rest with _ | ⟨⟨least, most⟩, behind⟩
        · rfl
        · simp only [Option.bind_eq_bind, Option.bind_some]
          cases m.group.repeatLast? least most <;> rfl
      case h_9 c rest _ _ _ _ _ _ _ eq =>
        simp only [eq]
        rcases readPart? m.group.flags c rest with _ | ⟨part, behind⟩
        · rfl
        · rfl
      case h_5 eq | h_6 eq | h_7 eq =>
        simp only [eq]
        cases m.group.repeatLast? _ _ <;> rfl

/-! ### Groups that are read alike -/

namespace OpenGroup

/-- The expressions of the alternatives, first to last. -/
def alternatives (group : OpenGroup) : List Regex :=
  (group.branch :: group.branches).reverse.map Nested.regex

/-- The expressions of a branch, whose latest part comes first. -/
def expressions (parts : List Piece) : List Regex :=
  parts.reverse.map fun part => part.toNested.regex

theorem close_regex (group : OpenGroup) : group.close.regex = alts group.alternatives := rfl

theorem branch_regex (group : OpenGroup) : group.branch.regex = seqs (expressions group.parts) := by
  simp [branch, expressions, Nested.join, Function.comp_def]

theorem repeatLast?_eq_some {group group' : OpenGroup} {least : Nat} {most : Option Nat}
    (h : group.repeatLast? least most = some group') :
    ∃ r depth parts, group.parts = .regex ⟨r, depth⟩ :: parts
      ∧ group' = { group with parts := .regex ⟨.rep r least most, depth + 1⟩ :: parts } := by
  unfold repeatLast? at h
  split at h
  · rename_i r depth parts eq
    exact ⟨r, depth, parts, eq, (Option.some.inj h).symm⟩
  · exact absurd h (by simp)

end OpenGroup

/-- Two groups related in this way stay so whatever is read. -/
structure ReadAlike (R : OpenGroup → OpenGroup → Prop) : Prop where
  flags {g g' : OpenGroup} : R g g' → g'.flags = g.flags
  push {g g' : OpenGroup} (flags : Flags) (part : Piece) :
    R g g' → R (g.push flags part) (g'.push flags part)
  alternate {g g' : OpenGroup} : R g g' → R g.alternate g'.alternate
  repeatLast {g g' h : OpenGroup} {least : Nat} {most : Option Nat} :
    R g g' → g.repeatLast? least most = some h →
      ∃ h', g'.repeatLast? least most = some h' ∧ R h h'

theorem readAlike_eq : ReadAlike Eq where
  flags := by rintro g _ rfl; rfl
  push := by rintro g _ flags part rfl; rfl
  alternate := by rintro g _ rfl; rfl
  repeatLast := by rintro g _ h least most rfl read; exact ⟨h, read, rfl⟩

/-- The second group is the first with `lead` in front of its first branch. -/
inductive Led (lead : List Piece) : OpenGroup → OpenGroup → Prop
  | single (flags : Flags) (parts : List Piece) :
    Led lead ⟨flags, [], parts⟩ ⟨flags, [], parts ++ lead⟩
  | several (flags : Flags) (parts : List Piece) (branches : List Nested) {first first' : Nested}
    (h : ∀ c d, first'.regex.Spans c d
      ↔ ∃ m, (seqs (OpenGroup.expressions lead)).Spans c m ∧ first.regex.Spans m d) :
    Led lead ⟨flags, branches ++ [first], parts⟩ ⟨flags, branches ++ [first'], parts⟩

/-- What is in front of a single branch is in front of its parts. -/
theorem Led.of_single {lead : List Piece} {g g' : OpenGroup} (h : Led lead g g')
    (single : g.branches = []) : g' = ⟨g.flags, g.branches, g.parts ++ lead⟩ := by
  cases h with
  | single => rfl
  | several => exact absurd single (by simp)

theorem readAlike_led (lead : List Piece) : ReadAlike (Led lead) where
  flags := by
    intro g g' led
    cases led with
    | single => rfl
    | several => rfl
  push := by
    intro g g' flags part led
    cases led with
    | single _ parts => exact .single flags (part :: parts)
    | several _ parts branches h => exact .several flags (part :: parts) branches h
  alternate := by
    intro g g' led
    cases led with
    | single flags parts =>
        refine Led.several flags [] [] fun c d => ?_
        simp only [OpenGroup.branch_regex, OpenGroup.expressions, List.reverse_append,
          List.map_append]
        exact spans_seqs_append _ _ c d
    | several flags parts branches h => exact .several flags [] (_ :: branches) h
  repeatLast := by
    intro g g' h least most led read
    obtain ⟨r, depth, parts, eq, rfl⟩ := OpenGroup.repeatLast?_eq_some read
    cases led with
    | single flags =>
        obtain rfl := eq
        exact ⟨_, rfl, .single flags (_ :: parts)⟩
    | several flags _ branches h =>
        obtain rfl := eq
        exact ⟨_, rfl, .several flags (_ :: parts) branches h⟩

/-! ### The same round over a longer text -/

namespace Round

/-- The name that the round puts in use. -/
def name? : Round → Option (List Char)
  | opens _ name => name
  | _ => none

/-- The same is done, to related groups. -/
inductive Alike (R : OpenGroup → OpenGroup → Prop) : Round → Round → Prop
  | within {g g' : OpenGroup} (h : R g g') : Alike R (within g) (within g')
  | opens (flags : Flags) (name : Option (List Char)) :
    Alike R (opens flags name) (opens flags name)
  | closes : Alike R closes closes

/-- What an opening does: a switch of flags is a part of the group it stands in. -/
def ofOpening (group : OpenGroup) : GroupOpening → Round
  | .switch flags => .within (group.push flags .switch)
  | .group flags name => .opens flags name

theorem name?_ofOpening (group : OpenGroup) (opening : GroupOpening) :
    (ofOpening group opening).name? = opening.name? := by
  cases opening <;> rfl

theorem Alike.ofOpening {R : OpenGroup → OpenGroup → Prop} (alike : ReadAlike R)
    {g g' : OpenGroup} (rel : R g g') (opening : GroupOpening) :
    (ofOpening g opening).Alike R (ofOpening g' opening) := by
  cases opening with
  | switch flags => exact .within (alike.push flags .switch rel)
  | group flags name => exact .opens flags name

/-- The outcome of the round over a longer text: it is the same round, unless it puts a name in
use that is in use besides. -/
inductive Repeated (R : OpenGroup → OpenGroup → Prop) (extra : List (List Char))
    (behind : List Char) (round : Round) : Option (Round × List Char) → Prop
  | clash {name : List Char} (mem : name ∈ round.name?) (used : name ∈ extra) :
    Repeated R extra behind round none
  | same {round' : Round} (fresh : ∀ name ∈ round.name?, name ∉ extra)
    (alike : round.Alike R round') : Repeated R extra behind round (some (round', behind))

/-- What is added is not taken for the mark of a reluctant repetition. -/
def Quiet (more : List Char) (behind : List Char) : Round → Prop
  | within g => g.flags.skip behind = [] → (g.flags.skip (behind ++ more)).head? ≠ some '?'
  | opens _ _ => behind ≠ []
  | closes => True

end Round

theorem round?_open (g : OpenGroup) (names : List (List Char)) (text : List Char) :
    round? g names ('(' :: text)
      = (readOpening? g.flags names text).map fun (opening, rest) =>
          (Round.ofOpening g opening, rest) := by
  simp only [round?]
  rcases readOpening? g.flags names text with _ | ⟨flags | ⟨flags, name⟩, rest⟩
  · rfl
  · rfl
  · rfl

/-- A quiet round that opens a group has text behind the bracket. -/
theorem inhabited_of_open {g : OpenGroup} {names : List (List Char)} {text more behind : List Char}
    {round : Round} (h : round? g names ('(' :: text) = some (round, behind))
    (quiet : round.Quiet more behind) : g.flags.skip text ≠ [] := by
  intro blank
  simp only [round?_open, readOpening?, blank, Option.map_some] at h
  obtain ⟨rfl, rfl⟩ := Prod.mk.inj (Option.some.inj h)
  exact quiet rfl

section Round

variable {R : OpenGroup → OpenGroup → Prop} (alike : ReadAlike R) {g g' : OpenGroup}
  (rel : R g g') {names : List (List Char)} {text behind more : List Char} {round : Round}
include alike rel

/-- A repetition is the same repetition, whatever text it leaves: its reader knows no names. -/
theorem repeated_repeatLast (extra : List (List Char)) {rest' : List Char} {least : Nat}
    {most : Option Nat} {rest : List Char} (longer : rest' = rest ++ more)
    (h : ((g.repeatLast? least most).map fun group => (Round.within group, rest))
      = some (round, behind)) :
    round.Repeated R extra (behind ++ more)
      ((g'.repeatLast? least most).map fun group => (Round.within group, rest')) := by
  obtain ⟨group, read, eq⟩ := Option.map_eq_some_iff.mp h
  obtain ⟨rfl, rfl⟩ := Prod.mk.inj eq
  obtain ⟨group', read', rel'⟩ := alike.repeatLast rel read
  rw [read', longer]
  exact .same (by simp [Round.name?]) (.within rel')

/-- The names that are in use besides matter to the opening of a group alone. -/
theorem repeated_open (apart : Apart more)
    (h : round? g names ('(' :: text) = some (round, behind)) (quiet : round.Quiet more behind)
    (extra : List (List Char)) :
    round.Repeated R extra (behind ++ more)
      (round? g' (names ++ extra) ('(' :: (text ++ more))) := by
  have inhabited := inhabited_of_open h quiet
  rw [round?_open] at h ⊢
  obtain ⟨⟨opening, rest⟩, read, eq⟩ := Option.map_eq_some_iff.mp h
  obtain ⟨rfl, rfl⟩ := Prod.mk.inj eq
  have longer := readOpening?_append g.flags text more apart names inhabited _ _ read
  rw [alike.flags rel, readOpening?_names g.flags _ longer extra]
  split
  · rename_i clash
    obtain ⟨name, mem, used⟩ := clash
    exact .clash (by rwa [Round.name?_ofOpening]) used
  · rename_i clash
    refine .same (fun name mem used => clash ⟨name, ?_, used⟩) (.ofOpening alike rel opening)
    rwa [Round.name?_ofOpening] at mem

/-- **A round over a longer text is the same round**, with the names that are in use besides,
unless it opens a group with one of them. -/
theorem round?_append (apart : Apart more) (h : round? g names text = some (round, behind))
    (quiet : round.Quiet more behind) (extra : List (List Char)) :
    round.Repeated R extra (behind ++ more) (round? g' (names ++ extra) (text ++ more)) := by
  have mark := apart.head?_ne (c := '?') (by decide)
  cases text with
  | nil => exact absurd h (by simp [round?])
  | cons c rest =>
      rw [List.cons_append]
      by_cases opens : c = '('
      · subst opens
        exact repeated_open alike rel apart h quiet extra
      · unfold round? at h ⊢
        rw [alike.flags rel]
        split at h
        case h_1 eq => exact absurd eq (List.cons_ne_nil _ _)
        case h_2 eq => exact absurd (List.cons.inj eq).1 opens
        case h_3 eq =>
          obtain ⟨rfl, rfl⟩ := List.cons.inj eq
          obtain ⟨rfl, rfl⟩ := Prod.mk.inj (Option.some.inj h)
          exact .same (by simp [Round.name?]) .closes
        case h_4 eq =>
          obtain ⟨rfl, rfl⟩ := List.cons.inj eq
          obtain ⟨rfl, rfl⟩ := Prod.mk.inj (Option.some.inj h)
          exact .same (by simp [Round.name?]) (.within (alike.alternate rel))
        case h_5 eq | h_6 eq | h_7 eq =>
          obtain ⟨rfl, rfl⟩ := List.cons.inj eq
          exact repeated_repeatLast alike rel extra (skipReluctant_append _ more mark) h
        case h_8 eq =>
          obtain ⟨rfl, rfl⟩ := List.cons.inj eq
          obtain ⟨⟨⟨least, most⟩, rest'⟩, read, h⟩ := Option.bind_eq_some_iff.mp h
          simp only [readBounds?_append g.flags rest more _ _ read]
          -- Where only blanks are left, the text is the one that the round leaves, and quiet.
          have follow : g.flags.skip rest' = [] →
              (g.flags.skip (rest' ++ more)).head? ≠ some '?' := by
            intro blank
            obtain ⟨group, again, eq⟩ := Option.map_eq_some_iff.mp h
            obtain ⟨rfl, rfl⟩ := Prod.mk.inj eq
            obtain ⟨r, depth, parts, -, rfl⟩ := OpenGroup.repeatLast?_eq_some again
            have same : skipReluctantApart g.flags rest' = rest' := by
              simp only [skipReluctantApart, blank]
            rw [same] at quiet
            exact quiet blank
          exact repeated_repeatLast alike rel extra (skipReluctantApart_append _ rest' more follow) h
        case h_9 eq =>
          obtain ⟨rfl, rfl⟩ := List.cons.inj eq
          obtain ⟨⟨part, rest'⟩, read, h⟩ := Option.bind_eq_some_iff.mp h
          obtain ⟨rfl, rfl⟩ := Prod.mk.inj (Option.some.inj h)
          simp only [readPart?_append g.flags _ rest apart _ _ read]
          exact .same (by simp [Round.name?]) (.within (alike.push _ _ rel))

end Round

/-! ### The same run over a longer text -/

/-- The open groups of two readers, innermost first: all the same but the outermost, which has
`lead` in front. -/
inductive Stacked (lead : List Piece) :
    OpenGroup → List OpenGroup → OpenGroup → List OpenGroup → Prop
  | bottom {g g' : OpenGroup} (h : Led lead g g') : Stacked lead g [] g' []
  | above (g : OpenGroup) {parent parent' : OpenGroup} {outer outer' : List OpenGroup}
    (h : Stacked lead parent outer parent' outer') :
    Stacked lead g (parent :: outer) g (parent' :: outer')

namespace Stacked

variable {lead : List Piece} {g g' : OpenGroup} {outer outer' : List OpenGroup}

/-- The innermost groups may be replaced. -/
theorem innermost (h : Stacked lead g outer g' outer') :
    ∃ R, ReadAlike R ∧ R g g' ∧ ∀ f f', R f f' → Stacked lead f outer f' outer' := by
  cases h with
  | bottom led => exact ⟨Led lead, readAlike_led lead, led, fun f f' => .bottom⟩
  | above _ under =>
      refine ⟨Eq, readAlike_eq, rfl, ?_⟩
      rintro f _ rfl
      exact .above f under

/-- Without other open groups, the innermost is the outermost. -/
theorem of_closed (h : Stacked lead g [] g' outer') : outer' = [] ∧ Led lead g g' := by
  cases h with
  | bottom led => exact ⟨rfl, led⟩

theorem closes {parent : OpenGroup} (h : Stacked lead g (parent :: outer) g' outer') :
    ∃ parent' outer'', outer' = parent' :: outer''
      ∧ Stacked lead (parent.addGroup g) outer (parent'.addGroup g') outer'' := by
  cases h with
  | above _ under =>
      obtain ⟨R, alike, rel, replace⟩ := under.innermost
      refine ⟨_, _, rfl, replace _ _ ?_⟩
      show R (parent.push parent.flags _) (OpenGroup.push _ _ _)
      rw [alike.flags rel]
      exact alike.push parent.flags _ rel

end Stacked

/-- The second machine reads what the first reads, with `lead` in front, more names in use and
more text behind. -/
structure Carries (lead : List Piece) (extra : List (List Char)) (more : List Char)
    (m m' : Machine) : Prop where
  groups : Stacked lead m.group m.outer m'.group m'.outer
  names : m'.names = m.names ++ extra
  text : m'.text = m.text ++ more

/-- Where nothing is ahead every group is closed, and what is added is not taken for the mark
of a reluctant repetition. -/
def Machine.Ready (more : List Char) (m : Machine) : Prop :=
  m.ahead = [] → m.outer = [] ∧ (m.group.flags.skip (m.text ++ more)).head? ≠ some '?'

namespace Machine

variable {m n final : Machine} {rounds : Nat} {more : List Char}

/-- A run is over where nothing is ahead, or it goes on from the next machine. -/
theorem run?_succ_eq_some (h : m.run? (rounds + 1) = some final) :
    (m.ahead = [] ∧ final = m)
      ∨ m.ahead ≠ [] ∧ ∃ n, m.step? = some n ∧ n.run? rounds = some final := by
  rw [run?] at h
  split at h
  · rename_i done
    exact Or.inl ⟨List.isEmpty_iff.mp done, (Option.some.inj h).symm⟩
  · rename_i going
    exact Or.inr ⟨by simpa using going, Option.bind_eq_some_iff.mp h⟩

theorem run?_succ_of_ahead (inhabited : m.ahead ≠ []) (rounds : Nat) :
    m.run? (rounds + 1) = m.step?.bind (run? rounds) := by
  rw [run?, if_neg (by simpa using inhabited)]

/-- Names stay in use. -/
theorem names_subset_of_step (h : m.step? = some n) {name : List Char} (mem : name ∈ m.names) :
    name ∈ n.names := by
  obtain ⟨⟨round, rest⟩, -, perform⟩ := Option.bind_eq_some_iff.mp h
  cases round with
  | within g =>
      obtain rfl := Option.some.inj perform
      exact mem
  | opens flags name' =>
      obtain rfl := Option.some.inj perform
      exact List.mem_append_right _ mem
  | closes =>
      simp only [perform?] at perform
      split at perform
      · exact absurd perform (by simp)
      · obtain rfl := Option.some.inj perform
        exact mem

theorem names_subset (h : m.run? rounds = some final) {name : List Char}
    (mem : name ∈ m.names) : name ∈ final.names := by
  induction rounds generalizing m with
  | zero => exact absurd h (by simp [run?])
  | succ rounds ih =>
      obtain ⟨-, rfl⟩ | ⟨-, n, step, run⟩ := run?_succ_eq_some h
      · exact mem
      · exact ih run (names_subset_of_step step mem)

/-- Where a run ends nothing is ahead. -/
theorem ahead_of_run (h : m.run? rounds = some final) : final.ahead = [] := by
  induction rounds generalizing m with
  | zero => exact absurd h (by simp [run?])
  | succ rounds ih =>
      obtain ⟨done, rfl⟩ | ⟨-, n, -, run⟩ := run?_succ_eq_some h
      · exact done
      · exact ih run

/-- What holds where a run ends holds on the way: nothing is ahead at the end alone. -/
theorem Ready.of_run (ready : final.Ready more) (h : m.run? rounds = some final) :
    m.Ready more := by
  intro blank
  cases rounds with
  | zero => exact absurd h (by simp [run?])
  | succ rounds =>
      obtain ⟨-, rfl⟩ | ⟨inhabited, -⟩ := run?_succ_eq_some h
      · exact ready blank
      · exact absurd blank inhabited

end Machine

theorem round?_nil (g : OpenGroup) (names : List (List Char)) : round? g names [] = none := rfl

namespace Carries

variable {lead : List Piece} {extra : List (List Char)} {more : List Char} {m m' n : Machine}

theorem start (lead : List Piece) (extra : List (List Char)) (text more : List Char) :
    Carries lead extra more (Machine.start text) (Machine.startBehind lead extra (text ++ more)) :=
  ⟨.bottom (.single {} []), rfl, rfl⟩

theorem flags (h : Carries lead extra more m m') : m'.group.flags = m.group.flags := by
  obtain ⟨R, alike, rel, -⟩ := h.groups.innermost
  exact alike.flags rel

theorem ahead (h : Carries lead extra more m m') (inhabited : m.ahead ≠ []) :
    m'.ahead = m.ahead ++ more := by
  unfold Machine.ahead at *
  rw [h.flags, h.text]
  obtain ⟨c, rest, eq⟩ := List.exists_cons_of_ne_nil inhabited
  rw [eq]
  exact Flags.skip_cons_append more eq

/-- The round that closes the innermost group. -/
theorem closes (carries : Carries lead extra more m m') (rest : List Char)
    (h : m.perform? rest .closes = some n) :
    ∃ n', m'.perform? (rest ++ more) .closes = some n' ∧ Carries lead extra more n n' := by
  unfold Machine.perform? at h
  have groups := carries.groups
  cases outer : m.outer with
  | nil =>
      rw [outer] at h
      exact absurd h (by simp)
  | cons parent outer' =>
      rw [outer] at h groups
      obtain rfl := Option.some.inj h
      obtain ⟨parent', outer'', eq, closed⟩ := groups.closes
      refine ⟨⟨parent'.addGroup m'.group, outer'', m'.names, rest ++ more⟩, ?_, closed,
        carries.names, rfl⟩
      simp [Machine.perform?, eq]

/-- **What one round preserves.** -/
theorem step (carries : Carries lead extra more m m') (apart : Apart more)
    (h : m.step? = some n) (ready : n.Ready more) :
    (∃ name ∈ n.names, name ∈ extra) ∧ m'.step? = none
      ∨ ∃ n', m'.step? = some n' ∧ Carries lead extra more n n' := by
  obtain ⟨⟨round, rest⟩, read, perform⟩ := Option.bind_eq_some_iff.mp h
  have inhabited : m.ahead ≠ [] := by
    intro blank
    rw [blank, round?_nil] at read
    exact absurd read (by simp)
  -- Where the round reads the last of the text, the machine after it is at its end, and `ready`
  -- says that nothing is open there which the added text could go on with.
  have quiet : round.Quiet more rest := by
    cases round with
    | within g =>
        obtain rfl := Option.some.inj perform
        exact fun blank => (ready blank).2
    | opens flags name =>
        obtain rfl := Option.some.inj perform
        rintro rfl
        exact absurd (ready flags.skip_nil).1 (List.cons_ne_nil _ _)
    | closes => trivial
  obtain ⟨R, alike, rel, replace⟩ := carries.groups.innermost
  unfold Machine.step?
  rw [carries.ahead inhabited, carries.names]
  have again := round?_append alike rel apart read quiet extra
  -- Either the round names a group as one of `extra`, or it does the same to both machines.
  generalize round? m'.group (m.names ++ extra) (m.ahead ++ more) = outcome at again
  cases again with
  | @clash name mem used =>
      refine Or.inl ⟨⟨name, ?_, used⟩, rfl⟩
      cases round with
      | opens flags name' =>
          obtain rfl := Option.some.inj perform
          exact List.mem_append_left _ (Option.mem_toList.mpr mem)
      | within | closes => exact absurd mem (by simp [Round.name?])
  | same _ same =>
      refine Or.inr ?_
      cases same with
      | within related =>
          obtain rfl := Option.some.inj perform
          exact ⟨_, rfl, replace _ _ related, carries.names, rfl⟩
      | opens flags name =>
          obtain rfl := Option.some.inj perform
          refine ⟨_, rfl, .above _ carries.groups, ?_, rfl⟩
          rw [carries.names, List.append_assoc]
      | closes => exact carries.closes rest perform

/-- **What a whole run preserves**: where the one machine has read its text, the other has read
the same, unless one of the group names is in use besides. -/
theorem run {final : Machine} {rounds : Nat} (carries : Carries lead extra more m m')
    (apart : Apart more) (h : m.run? rounds = some final) (ready : final.Ready more) :
    (∃ name ∈ final.names, name ∈ extra) ∧ (∀ k, m'.run? k = none)
      ∨ ∃ used < rounds, ∃ final', Carries lead extra more final final'
        ∧ ∀ k, m'.run? (used + k) = final'.run? k := by
  induction rounds generalizing m m' with
  | zero => exact absurd h (by simp [Machine.run?])
  | succ rounds ih =>
      obtain ⟨-, rfl⟩ | ⟨inhabited, n, step, run⟩ := Machine.run?_succ_eq_some h
      · exact Or.inr ⟨0, Nat.succ_pos _, m', carries, fun k => by rw [Nat.zero_add]⟩
      · have inhabited' : m'.ahead ≠ [] := by
          rw [carries.ahead inhabited]
          exact List.append_ne_nil_of_left_ne_nil inhabited more
        rcases carries.step apart step (ready.of_run run) with
          ⟨⟨name, mem, used⟩, stuck⟩ | ⟨n', step', next⟩
        · -- The name that is in use is still in use where the first machine ends.
          refine Or.inl ⟨⟨name, Machine.names_subset run mem, used⟩, fun k => ?_⟩
          cases k with
          | zero => rfl
          | succ k => rw [Machine.run?_succ_of_ahead inhabited', stuck]; rfl
        · have goes : ∀ k, m'.run? (k + 1) = n'.run? k := fun k => by
            rw [Machine.run?_succ_of_ahead inhabited', step']; rfl
          rcases ih next run with ⟨clash, stuck⟩ | ⟨used, lt, final', last, same⟩
          · refine Or.inl ⟨clash, fun k => ?_⟩
            cases k with
            | zero => rfl
            | succ k => rw [goes, stuck]
          · refine Or.inr ⟨used + 1, Nat.succ_lt_succ lt, final', last, fun k => ?_⟩
            rw [Nat.add_right_comm, goes, same]

end Carries

end ColumnCast.Regex
