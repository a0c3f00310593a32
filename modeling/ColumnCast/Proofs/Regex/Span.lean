import ColumnCast.Regex.Basic

/-!
# `ColumnCast.Proofs.Regex.Span`: the places that a search lists

`Regex.ends` searches breadth first, keeps one place for each position
and stops a loop after as many rounds as there are characters ahead.
This file defines what it searches for, with none of these devices:
`Regex.Spans r c d` says that a match of `r` from `c` can end at `d`.

* `Passes` and `Ahead`: one place of a text lies a word behind another.
  Two places ahead of one origin are equal as soon as their positions
  are (`Ahead.eq_of_position`), which is why one place for each position
  is enough (`mem_distinct`).
* `mem_repeatStep`: so many steps in a row.
* `mem_spread`: the breadth-first closure. Its completeness half,
  `chain_mem_spread`, is carried by one invariant: whatever a place that
  was seen but is no longer new leads to, has been seen.
* `Chain.shorten`: a chain of steps needs no more links than it passes
  characters, for a link that passes none can be left out. This is the
  bound on the rounds.
* `mem_ends`: `Regex.ends` lists exactly the places that `Spans` names.
-/

set_option autoImplicit false

namespace ColumnCast.Regex

namespace Cursor

/-! ### Places behind one another -/

/-- The word stands between the two places. -/
inductive Passes : Cursor → List Char → Cursor → Prop
  | nil (c : Cursor) : Passes c [] c
  | cons {position : Nat} {before : Option Char} {x : Char} {rest word : List Char} {d : Cursor}
      (tail : Passes ⟨position + 1, some x, rest⟩ word d) :
      Passes ⟨position, before, x :: rest⟩ (x :: word) d

/-- Some word leads from the one place to the other. -/
def Ahead (c d : Cursor) : Prop := ∃ word, Passes c word d

theorem Passes.append {c m d : Cursor} {u v : List Char} (first : Passes c u m)
    (second : Passes m v d) : Passes c (u ++ v) d := by
  induction first with
  | nil => exact second
  | cons _ ih => exact .cons (ih second)

theorem Passes.position_eq {c d : Cursor} {word : List Char} (h : Passes c word d) :
    d.position = c.position + word.length := by
  induction h with
  | nil => rfl
  | cons _ ih =>
      simp only at ih ⊢
      rw [ih, List.length_cons]
      omega

theorem Passes.rest_eq {c d : Cursor} {word : List Char} (h : Passes c word d) :
    c.rest = word ++ d.rest := by
  induction h with
  | nil => rfl
  | cons _ ih => exact congrArg _ ih

/-- A word of two parts leads through the place between them. -/
theorem Passes.split {c d : Cursor} (u : List Char) {v : List Char} (h : Passes c (u ++ v) d) :
    ∃ m, Passes c u m ∧ Passes m v d := by
  induction u generalizing c with
  | nil => exact ⟨c, .nil c, h⟩
  | cons x u ih =>
      cases h with
      | cons tail =>
          obtain ⟨m, first, second⟩ := ih tail
          exact ⟨m, .cons first, second⟩

/-- A word that the text behind a place begins with leads somewhere. -/
theorem exists_passes (c : Cursor) (word : List Char) {rest : List Char}
    (h : c.rest = word ++ rest) : ∃ d, Passes c word d ∧ d.rest = rest := by
  induction word generalizing c with
  | nil => exact ⟨c, .nil c, h⟩
  | cons x word ih =>
      obtain ⟨position, before, text⟩ := c
      obtain rfl : text = x :: (word ++ rest) := h
      obtain ⟨d, passes, restEq⟩ := ih ⟨position + 1, some x, word ++ rest⟩ rfl
      exact ⟨d, .cons passes, restEq⟩

theorem Ahead.refl (c : Cursor) : Ahead c c := ⟨[], .nil c⟩

theorem Ahead.trans {c m d : Cursor} (first : Ahead c m) (second : Ahead m d) : Ahead c d := by
  obtain ⟨u, hu⟩ := first
  obtain ⟨v, hv⟩ := second
  exact ⟨u ++ v, hu.append hv⟩

/-- Ahead of one origin, the position says which place it is. -/
theorem Passes.eq_of_position {c d e : Cursor} {u v : List Char} (hd : Passes c u d)
    (he : Passes c v e) (same : d.position = e.position) : u = v ∧ d = e := by
  induction hd generalizing v with
  | nil c =>
      have length := he.position_eq
      obtain rfl : v = [] := List.length_eq_zero_iff.mp (by omega)
      cases he with
      | nil => exact ⟨rfl, rfl⟩
  | cons tail ih =>
      cases he with
      | nil =>
          have length := tail.position_eq
          simp only at same length
          omega
      | cons tail' =>
          obtain ⟨rfl, rfl⟩ := ih tail' same
          exact ⟨rfl, rfl⟩

theorem Ahead.eq_of_position {c d e : Cursor} (hd : Ahead c d) (he : Ahead c e)
    (same : d.position = e.position) : d = e := by
  obtain ⟨u, hu⟩ := hd
  obtain ⟨v, hv⟩ := he
  exact (hu.eq_of_position hv same).2

/-! ### One place for each position -/

theorem mem_of_mem_distinct {cs : List Cursor} {d : Cursor} (h : d ∈ distinct cs) : d ∈ cs := by
  induction cs with
  | nil => exact h
  | cons c cs ih =>
      have step : d ∈ insert c (distinct cs) := h
      unfold insert at step
      split at step
      · exact List.mem_cons_of_mem _ (ih step)
      · rcases List.mem_cons.mp step with rfl | h
        · exact List.mem_cons_self
        · exact List.mem_cons_of_mem _ (ih h)

/-- Keeping one place for each position loses none, ahead of one origin. -/
theorem mem_distinct {origin : Cursor} {cs : List Cursor} (ahead : ∀ c ∈ cs, origin.Ahead c)
    (d : Cursor) : d ∈ distinct cs ↔ d ∈ cs := by
  refine ⟨mem_of_mem_distinct, fun h => ?_⟩
  induction cs with
  | nil => exact h
  | cons c cs ih =>
      have tail := ih fun e he => ahead e (List.mem_cons_of_mem _ he)
      show d ∈ insert c (distinct cs)
      unfold insert
      split
      · rename_i found
        rcases List.mem_cons.mp h with rfl | h
        · -- The place that has the position of `d` already is `d`.
          obtain ⟨e, he, same⟩ := List.any_eq_true.mp found
          have inside := List.mem_cons_of_mem d (mem_of_mem_distinct he)
          have eq : e = d :=
            (ahead e inside).eq_of_position (ahead d List.mem_cons_self) (by simpa using same)
          exact eq ▸ he
        · exact tail h
      · rcases List.mem_cons.mp h with rfl | h
        · exact List.mem_cons_self
        · exact List.mem_cons_of_mem _ (tail h)

end Cursor

/-! ### Steps in a row -/

/-- So many steps of a relation lead from the one to the other. -/
def Chain {α : Type} (R : α → α → Prop) : (count : Nat) → α → α → Prop
  | 0, a, b => a = b
  | count + 1, a, b => ∃ m, R a m ∧ Chain R count m b

theorem Chain.ahead {R : Cursor → Cursor → Prop} (ahead : ∀ m d, R m d → m.Ahead d) :
    ∀ {count : Nat} {c d : Cursor}, Chain R count c d → c.Ahead d
  | 0, c, _, h => h ▸ Cursor.Ahead.refl c
  | _ + 1, _, _, ⟨_, first, more⟩ => (ahead _ _ first).trans (more.ahead ahead)

theorem Chain.append {α : Type} {R : α → α → Prop} {a b c : α} {k n : Nat}
    (first : Chain R k a b) (second : Chain R n b c) : Chain R (k + n) a c := by
  induction k generalizing a with
  | zero =>
      obtain rfl : a = b := first
      rwa [Nat.zero_add]
  | succ k ih =>
      obtain ⟨m, step, more⟩ := first
      rw [Nat.succ_add]
      exact ⟨m, step, ih more⟩

theorem Chain.split {α : Type} {R : α → α → Prop} {a c : α} (k : Nat) {n : Nat}
    (h : Chain R (k + n) a c) : ∃ b, Chain R k a b ∧ Chain R n b c := by
  induction k generalizing a with
  | zero => exact ⟨a, rfl, by rwa [Nat.zero_add] at h⟩
  | succ k ih =>
      rw [Nat.succ_add] at h
      obtain ⟨m, step, more⟩ := h
      obtain ⟨b, first, second⟩ := ih more
      exact ⟨b, ⟨m, step, first⟩, second⟩

theorem Chain.map {α β : Type} {R : α → α → Prop} {R' : β → β → Prop} {f : α → β}
    (step : ∀ a b, R a b → R' (f a) (f b)) {count : Nat} {a b : α} (chain : Chain R count a b) :
    Chain R' count (f a) (f b) := by
  induction count generalizing a with
  | zero => exact congrArg f chain
  | succ count ih =>
      obtain ⟨m, first, more⟩ := chain
      exact ⟨f m, step a m first, ih more⟩

/-- What every step preserves holds at the end of a chain. -/
theorem Chain.preserves {α : Type} {R : α → α → Prop} {P : α → Prop}
    (step : ∀ a, P a → ∀ b, R a b → P b) {count : Nat} {a b : α} (holds : P a)
    (chain : Chain R count a b) : P b := by
  induction count generalizing a with
  | zero =>
      obtain rfl : a = b := chain
      exact holds
  | succ count ih =>
      obtain ⟨m, first, more⟩ := chain
      exact ih (step a holds m first) more

/-- A chain that begins at an image and ends where `P` holds is the image of a chain, if each of
its links is that of a link and `P` holds on the way. -/
theorem Chain.comap {α β : Type} {R : α → α → Prop} {R' : β → β → Prop} {f : α → β} {P : β → Prop}
    (link : ∀ a b', R' (f a) b' → P b' → ∃ b, b' = f b ∧ R a b)
    (before : ∀ a' b', R' a' b' → P b' → P a') {count : Nat} {a : α} {b' : β}
    (chain : Chain R' count (f a) b') (last : P b') : ∃ b, b' = f b ∧ Chain R count a b := by
  have onTheWay : ∀ {count : Nat} {a' : β}, Chain R' count a' b' → P a' := by
    intro count a' chain
    induction count generalizing a' with
    | zero => exact (chain : a' = b') ▸ last
    | succ count ih =>
        obtain ⟨m', step, rest⟩ := chain
        exact before a' m' step (ih rest)
  induction count generalizing a with
  | zero => exact ⟨a, chain.symm, rfl⟩
  | succ count ih =>
      obtain ⟨m', step, rest⟩ := chain
      obtain ⟨m, rfl, step'⟩ := link a m' step (onTheWay rest)
      obtain ⟨b, eq, links⟩ := ih rest
      exact ⟨b, eq, m, step', links⟩

/-- Of a chain, the steps that pass no character can be left out: there is one with no more
steps than characters passed. -/
theorem Chain.shorten {R : Cursor → Cursor → Prop} (ahead : ∀ m d, R m d → m.Ahead d)
    {count : Nat} {c d : Cursor} (h : Chain R count c d) :
    ∃ fewer, fewer ≤ count ∧ c.position + fewer ≤ d.position ∧ Chain R fewer c d := by
  induction count generalizing c with
  | zero =>
      obtain rfl : c = d := h
      exact ⟨0, Nat.le_refl 0, Nat.le_refl _, rfl⟩
  | succ count ih =>
      obtain ⟨m, step, more⟩ := h
      obtain ⟨fewer, le, within, chain⟩ := ih more
      obtain ⟨word, passes⟩ := ahead _ _ step
      have length := passes.position_eq
      cases word with
      | nil =>
          cases passes with
          | nil => exact ⟨fewer, Nat.le_succ_of_le le, within, chain⟩
      | cons x word =>
          rw [List.length_cons] at length
          exact ⟨fewer + 1, Nat.succ_le_succ le, by omega, m, step, chain⟩

/-- The step takes a list of places ahead of the origin to all that the relation leads to
from one of them. -/
structure StepsBy (origin : Cursor) (step : List Cursor → List Cursor)
    (R : Cursor → Cursor → Prop) : Prop where
  mem : ∀ cs, (∀ m ∈ cs, origin.Ahead m) → ∀ d, d ∈ step cs ↔ ∃ m ∈ cs, R m d
  ahead : ∀ m d, R m d → m.Ahead d

section Steps

variable {origin : Cursor} {step : List Cursor → List Cursor} {R : Cursor → Cursor → Prop}

theorem StepsBy.ahead_step (by_R : StepsBy origin step R) {cs : List Cursor}
    (ahead : ∀ m ∈ cs, origin.Ahead m) : ∀ d ∈ step cs, origin.Ahead d := by
  intro d hd
  obtain ⟨m, hm, rel⟩ := (by_R.mem cs ahead d).mp hd
  exact (ahead m hm).trans (by_R.ahead m d rel)

/-- `repeatStep` leads where so many steps of the relation lead. -/
theorem mem_repeatStep (by_R : StepsBy origin step R) (count : Nat) {cs : List Cursor}
    (ahead : ∀ m ∈ cs, origin.Ahead m) (d : Cursor) :
    d ∈ repeatStep step count cs ↔ ∃ m ∈ cs, Chain R count m d := by
  induction count generalizing cs with
  | zero => simp [repeatStep, Chain]
  | succ count ih =>
      unfold repeatStep
      split
      · rename_i empty
        rw [List.isEmpty_iff.mp empty]
        simp
      · rw [ih (by_R.ahead_step ahead)]
        constructor
        · rintro ⟨n, hn, chain⟩
          obtain ⟨m, hm, rel⟩ := (by_R.mem cs ahead n).mp hn
          exact ⟨m, hm, n, rel, chain⟩
        · rintro ⟨m, hm, n, rel, chain⟩
          exact ⟨n, (by_R.mem cs ahead n).mpr ⟨m, hm, rel⟩, chain⟩

/-! ### The breadth-first closure -/

/-- The places of `found` at positions that are new. -/
theorem mem_filter_new {seen found : List Cursor} (seenAhead : ∀ c ∈ seen, origin.Ahead c)
    (foundAhead : ∀ c ∈ found, origin.Ahead c) (d : Cursor) :
    d ∈ found.filter (fun c => !seen.any fun e => e.position == c.position)
      ↔ d ∈ found ∧ d ∉ seen := by
  rw [List.mem_filter]
  refine and_congr_right fun hd => ?_
  rw [Bool.not_eq_true', List.any_eq_false]
  constructor
  · intro differ inside
    exact differ d inside (beq_self_eq_true _)
  · intro outside e he same
    have eq : e = d :=
      (seenAhead e he).eq_of_position (foundAhead d hd) (by simpa using same)
    exact outside (eq ▸ he)

theorem mem_spread_of_mem {rounds : Nat} {seen newest : List Cursor} {d : Cursor}
    (h : d ∈ seen) : d ∈ spread step rounds seen newest := by
  induction rounds generalizing seen newest with
  | zero => exact h
  | succ rounds ih =>
      unfold spread
      split
      · exact h
      · exact ih (List.mem_append_left _ h)

/-- What the closure adds is reached by steps from the newest places. -/
theorem chain_of_mem_spread (by_R : StepsBy origin step R) (rounds : Nat)
    {seen newest : List Cursor} (seenAhead : ∀ c ∈ seen, origin.Ahead c)
    (newestAhead : ∀ c ∈ newest, origin.Ahead c) {d : Cursor}
    (h : d ∈ spread step rounds seen newest) :
    d ∈ seen ∨ ∃ count ≤ rounds, ∃ c ∈ newest, Chain R count c d := by
  induction rounds generalizing seen newest with
  | zero => exact Or.inl h
  | succ rounds ih =>
      unfold spread at h
      split at h
      · exact Or.inl h
      · have stepAhead := by_R.ahead_step newestAhead
        have new := mem_filter_new seenAhead stepAhead
        have newAhead := fun c hc => stepAhead c ((new c).mp hc).1
        -- A place that the next round starts from is one step from the newest of this one.
        have before : ∀ {count : Nat} {e : Cursor},
            e ∈ (step newest).filter (fun c => !seen.any fun e => e.position == c.position) →
            Chain R count e d → ∃ c ∈ newest, Chain R (count + 1) c d := by
          intro count e he chain
          obtain ⟨c, hc, rel⟩ := (by_R.mem newest newestAhead e).mp ((new e).mp he).1
          exact ⟨c, hc, e, rel, chain⟩
        have bothAhead : ∀ c ∈ seen ++ (step newest).filter
            (fun c => !seen.any fun e => e.position == c.position), origin.Ahead c := by
          intro c hc
          rcases List.mem_append.mp hc with hc | hc
          · exact seenAhead c hc
          · exact newAhead c hc
        rcases ih bothAhead newAhead h with hd | ⟨count, le, e, he, chain⟩
        · rcases List.mem_append.mp hd with hd | hd
          · exact Or.inl hd
          · exact Or.inr ⟨1, by omega, before hd (rfl : Chain R 0 d d)⟩
        · exact Or.inr ⟨count + 1, by omega, before he chain⟩

/-- Every place within so many steps of a seen one is in the closure. The invariant is that
what a place seen before the last round leads to has been seen. -/
theorem chain_mem_spread (by_R : StepsBy origin step R) (rounds : Nat)
    {seen newest : List Cursor} (seenAhead : ∀ c ∈ seen, origin.Ahead c)
    (newestSeen : ∀ c ∈ newest, c ∈ seen)
    (closed : ∀ c ∈ seen, c ∉ newest → ∀ d, R c d → d ∈ seen)
    {count : Nat} (le : count ≤ rounds) {c d : Cursor} (hc : c ∈ seen)
    (chain : Chain R count c d) : d ∈ spread step rounds seen newest := by
  induction rounds generalizing seen newest count c with
  | zero =>
      obtain rfl : count = 0 := Nat.le_zero.mp le
      obtain rfl : c = d := chain
      exact mem_spread_of_mem hc
  | succ rounds ih =>
      cases count with
      | zero =>
          obtain rfl : c = d := chain
          exact mem_spread_of_mem hc
      | succ count =>
          unfold spread
          split
          · rename_i nothingNew
            -- With nothing new the places seen are closed under every step.
            obtain rfl := List.isEmpty_iff.mp nothingNew
            exact chain.preserves (fun e he => closed e he (by simp)) hc
          · have newestAhead := fun e he => seenAhead e (newestSeen e he)
            have stepAhead := by_R.ahead_step newestAhead
            have new := mem_filter_new seenAhead stepAhead
            -- One step from a seen place leads to one that the next round has seen.
            have next : ∀ e ∈ seen, ∀ m, R e m →
                m ∈ seen ++ (step newest).filter
                  (fun c => !seen.any fun e => e.position == c.position) := by
              intro e he m rel
              by_cases old : m ∈ seen
              · exact List.mem_append_left _ old
              · by_cases isNewest : e ∈ newest
                · exact List.mem_append_right _
                    ((new m).mpr ⟨(by_R.mem newest newestAhead m).mpr ⟨e, isNewest, rel⟩, old⟩)
                · exact absurd (closed e he isNewest m rel) old
            obtain ⟨m, rel, more⟩ := chain
            refine ih ?_ ?_ ?_ (Nat.le_of_succ_le_succ le) (next c hc m rel) more
            · intro e he
              rcases List.mem_append.mp he with he | he
              · exact seenAhead e he
              · exact stepAhead e ((new e).mp he).1
            · exact fun e he => List.mem_append_right _ he
            · intro e he notNew m rel
              rcases List.mem_append.mp he with he | he
              · exact next e he m rel
              · exact absurd he notNew

/-- The closure of some places holds what up to so many steps lead to from one of them. -/
theorem mem_spread (by_R : StepsBy origin step R) (rounds : Nat) {start : List Cursor}
    (ahead : ∀ c ∈ start, origin.Ahead c) (d : Cursor) :
    d ∈ spread step rounds start start ↔ ∃ count ≤ rounds, ∃ c ∈ start, Chain R count c d := by
  constructor
  · intro h
    rcases chain_of_mem_spread by_R rounds ahead ahead h with hd | found
    · exact ⟨0, Nat.zero_le _, d, hd, rfl⟩
    · exact found
  · rintro ⟨count, le, c, hc, chain⟩
    exact chain_mem_spread by_R rounds ahead (fun _ h => h) (fun c hc no => absurd hc no) le hc chain

/-- The least number of rounds from one place, and then the closure of what they reach: this
leads where a chain of so many steps and some more leads, and no chain needs more steps than
there are characters ahead. -/
theorem mem_rounds {c : Cursor} (by_R : StepsBy c step R) (least : Nat) (most : Option Nat)
    (d : Cursor) :
    d ∈ spread step
          (match most with
            | some most => min (most - least) (c.rest.length + 1)
            | none => c.rest.length + 1)
          (repeatStep step least [c]) (repeatStep step least [c])
      ↔ ∃ more, (∀ bound ∈ most, more ≤ bound - least) ∧ Chain R (least + more) c d := by
  have start : ∀ m ∈ [c], c.Ahead m := by
    intro m hm
    rw [List.mem_singleton] at hm
    exact hm ▸ Cursor.Ahead.refl c
  have reached := mem_repeatStep by_R least start
  have ahead : ∀ m ∈ repeatStep step least [c], c.Ahead m := by
    intro m hm
    obtain ⟨e, he, chain⟩ := (reached m).mp hm
    exact (start e he).trans (chain.ahead by_R.ahead)
  rw [mem_spread by_R _ ahead]
  constructor
  · rintro ⟨more, le, m, hm, chain⟩
    obtain ⟨e, he, first⟩ := (reached m).mp hm
    obtain rfl : e = c := List.mem_singleton.mp he
    refine ⟨more, ?_, first.append chain⟩
    rintro bound ⟨⟩
    exact Nat.le_trans le (Nat.min_le_left _ _)
  · rintro ⟨more, within, chain⟩
    obtain ⟨m, first, second⟩ := chain.split least
    -- Rounds that pass no character are left out, so the rounds ahead are enough.
    obtain ⟨fewer, le, passed, short⟩ := second.shorten by_R.ahead
    have room : fewer ≤ c.rest.length + 1 := by
      obtain ⟨u, hu⟩ := first.ahead by_R.ahead
      obtain ⟨v, hv⟩ := second.ahead by_R.ahead
      have lengths := congrArg List.length (hu.append hv).rest_eq
      have position := hv.position_eq
      rw [List.length_append, List.length_append] at lengths
      omega
    refine ⟨fewer, ?_, m, (reached m).mpr ⟨c, List.mem_singleton_self c, first⟩, short⟩
    cases most with
    | none => exact room
    | some bound => exact Nat.le_min.mpr ⟨Nat.le_trans le (within bound rfl), room⟩

end Steps

/-! ### Matches -/

/-- A match of the expression from the one place can end at the other. A loop takes its least
number of rounds and then some more, as many as its most leaves room for. -/
def Spans : Regex → Cursor → Cursor → Prop
  | empty, c, d => c = d
  | one set, c, d => ∃ x, set.contains x = true ∧ c.Passes [x] d
  | look test, c, d => test.holds c.before c.rest.head? = true ∧ c = d
  | seq first second, c, d => ∃ m, first.Spans c m ∧ second.Spans m d
  | alt left right, c, d => left.Spans c d ∨ right.Spans c d
  | rep body least most, c, d =>
    ∃ more, (∀ bound ∈ most, more ≤ bound - least) ∧ Chain body.Spans (least + more) c d

/-- A match ends ahead of where it begins. -/
theorem Spans.ahead {r : Regex} {c d : Cursor} (h : r.Spans c d) : c.Ahead d := by
  induction r generalizing c d with
  | empty => exact h ▸ Cursor.Ahead.refl c
  | one set =>
      obtain ⟨x, _, passes⟩ := h
      exact ⟨[x], passes⟩
  | look test => exact h.2 ▸ Cursor.Ahead.refl c
  | seq first second ihFirst ihSecond =>
      obtain ⟨m, hFirst, hSecond⟩ := h
      exact (ihFirst hFirst).trans (ihSecond hSecond)
  | alt left right ihLeft ihRight => exact h.elim ihLeft ihRight
  | rep body least most ih =>
      obtain ⟨more, _, chain⟩ := h
      exact chain.ahead fun m d => ih

/-- One round of a loop whose body is searched rightly. -/
theorem stepsBy_ends {body : Regex} (origin : Cursor)
    (ends_iff : ∀ c d, d ∈ body.ends c ↔ body.Spans c d) :
    StepsBy origin (fun cs => Cursor.distinct (cs.flatMap body.ends)) body.Spans where
  mem cs ahead d := by
    have all : ∀ e ∈ cs.flatMap body.ends, origin.Ahead e := by
      intro e he
      obtain ⟨m, hm, hd⟩ := List.mem_flatMap.mp he
      exact (ahead m hm).trans ((ends_iff m e).mp hd).ahead
    rw [Cursor.mem_distinct all, List.mem_flatMap]
    exact exists_congr fun m => and_congr_right fun _ => ends_iff m d
  ahead _ _ h := h.ahead

theorem mem_ends_one (set : CharSet) (c d : Cursor) :
    d ∈ (one set).ends c ↔ (one set).Spans c d := by
  obtain ⟨position, before, text⟩ := c
  cases text with
  | nil =>
      simp only [ends, Spans, List.not_mem_nil, false_iff]
      rintro ⟨x, _, passes⟩
      cases passes
  | cons y rest =>
      simp only [ends, Spans]
      constructor
      · intro h
        split at h
        · rename_i contains
          rw [List.mem_singleton] at h
          exact ⟨y, contains, h ▸ .cons (.nil _)⟩
        · exact absurd h List.not_mem_nil
      · rintro ⟨x, contains, passes⟩
        cases passes with
        | cons tail =>
            cases tail with
            | nil => simp [contains]

/-- **The search lists exactly the ends of matches.** -/
theorem mem_ends (r : Regex) (c d : Cursor) : d ∈ r.ends c ↔ r.Spans c d := by
  -- Of ends at one position the search keeps one. Nothing is lost by that, as all of them lie
  -- ahead of where it began: this is what `all` says where two searches are put together.
  induction r generalizing c d with
  | empty => simp [ends, Spans, eq_comm]
  | one set => exact mem_ends_one set c d
  | look test =>
      simp only [ends, Spans]
      split
      · rename_i holds
        simp [holds, eq_comm]
      · rename_i fails
        simp [fails]
  | seq first second ihFirst ihSecond =>
      have all : ∀ e ∈ (first.ends c).flatMap second.ends, c.Ahead e := by
        intro e he
        obtain ⟨m, hm, hd⟩ := List.mem_flatMap.mp he
        exact ((ihFirst c m).mp hm).ahead.trans ((ihSecond m e).mp hd).ahead
      simp only [ends, Spans]
      rw [Cursor.mem_distinct all, List.mem_flatMap]
      exact exists_congr fun m => and_congr (ihFirst c m) (ihSecond m d)
  | alt left right ihLeft ihRight =>
      have all : ∀ e ∈ left.ends c ++ right.ends c, c.Ahead e := by
        intro e he
        rcases List.mem_append.mp he with he | he
        · exact ((ihLeft c e).mp he).ahead
        · exact ((ihRight c e).mp he).ahead
      simp only [ends, Spans]
      rw [Cursor.mem_distinct all, List.mem_append, ihLeft, ihRight]
  | rep body least most ih =>
      simp only [ends, Spans]
      exact mem_rounds (stepsBy_ends c ih) least most d

end ColumnCast.Regex
