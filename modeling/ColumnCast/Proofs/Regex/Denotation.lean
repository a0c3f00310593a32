import Mathlib.Computability.Language
import ColumnCast.Proofs.Regex.Span

/-!
# `ColumnCast.Proofs.Regex.Denotation`: expressions as languages

An expression without tests matches the same words wherever it stands.
`Denotes r L` says so: the matches of `r` from a place are the words of
`L` that stand there. The operations of expressions are those of
languages (`Denotes.seq`, `Denotes.alt`, `Denotes.exactly`,
`Denotes.optional`, `Denotes.repeated`, and `Denotes.seqs` and `Denotes.alts` for lists).

`MatchesWhole` says that an expression matches a text from its start to
its end. The main statement is `isMatch_anchored`: with a test for the start of
the text in front and one for its end behind, an expression matches a
text just if the whole text is in the language.
-/

set_option autoImplicit false

namespace ColumnCast.Regex

/-- The matches of the expression are the words of the language, wherever they stand. -/
def Denotes (r : Regex) (L : Language Char) : Prop :=
  ∀ c d, r.Spans c d ↔ ∃ word ∈ L, c.Passes word d

/-- The words of one character that the set holds. -/
def CharSet.language (set : CharSet) : Language Char :=
  {word | ∃ x, set.contains x = true ∧ word = [x]}

theorem CharSet.mem_language {set : CharSet} {word : List Char} :
    word ∈ set.language ↔ ∃ x, set.contains x = true ∧ word = [x] := Iff.rfl

theorem CharSet.contains_range {low high x : Char} :
    (range low high).contains x = true ↔ low ≤ x ∧ x ≤ high := by
  simp [contains]

theorem denotes_empty : Denotes empty 1 := by
  intro c d
  constructor
  · intro h
    obtain rfl : c = d := h
    exact ⟨[], Language.nil_mem_one, .nil c⟩
  · rintro ⟨word, mem, passes⟩
    rw [Language.mem_one] at mem
    subst mem
    cases passes
    rfl

theorem denotes_one (set : CharSet) : Denotes (one set) set.language := by
  intro c d
  constructor
  · rintro ⟨x, contains, passes⟩
    exact ⟨[x], ⟨x, contains, rfl⟩, passes⟩
  · rintro ⟨word, ⟨x, contains, rfl⟩, passes⟩
    exact ⟨x, contains, passes⟩

/-- To pass a word of a product is to pass a word of each factor. -/
theorem exists_passes_mul_iff (L M : Language Char) (c d : Cursor) :
    (∃ m, (∃ u ∈ L, c.Passes u m) ∧ ∃ v ∈ M, m.Passes v d) ↔ ∃ word ∈ L * M, c.Passes word d := by
  constructor
  · rintro ⟨m, ⟨u, hu, passes⟩, v, hv, passes'⟩
    exact ⟨u ++ v, Language.append_mem_mul hu hv, passes.append passes'⟩
  · rintro ⟨word, mem, passes⟩
    obtain ⟨u, hu, v, hv, rfl⟩ := Language.mem_mul.mp mem
    obtain ⟨m, first, second⟩ := passes.split u
    exact ⟨m, ⟨u, hu, first⟩, v, hv, second⟩

namespace Denotes

variable {r s : Regex} {L M : Language Char}

theorem seq (hr : Denotes r L) (hs : Denotes s M) : Denotes (.seq r s) (L * M) := fun c d =>
  (exists_congr fun m => and_congr (hr c m) (hs m d)).trans (exists_passes_mul_iff L M c d)

theorem alt (hr : Denotes r L) (hs : Denotes s M) : Denotes (.alt r s) (L + M) := by
  intro c d
  show r.Spans c d ∨ s.Spans c d ↔ _
  rw [hr c d, hs c d]
  simp only [Language.mem_add, or_and_right, exists_or]

/-- Rounds of a loop are factors of a power. -/
theorem chain (hr : Denotes r L) (count : Nat) (c d : Cursor) :
    Chain r.Spans count c d ↔ ∃ word ∈ L ^ count, c.Passes word d := by
  induction count generalizing c with
  | zero =>
      rw [pow_zero]
      exact denotes_empty c d
  | succ count ih =>
      rw [pow_succ', ← exists_passes_mul_iff]
      exact exists_congr fun m => and_congr (hr c m) (ih m)

/-- A counted repetition. -/
theorem exactly (hr : Denotes r L) (count : Nat) :
    Denotes (.rep r count (some count)) (L ^ count) := by
  intro c d
  rw [← hr.chain count c d]
  constructor
  · rintro ⟨more, within, chain⟩
    obtain rfl : more = 0 := Nat.le_zero.mp (Nat.le_trans (within count rfl) (by omega))
    exact chain
  · intro chain
    exact ⟨0, fun _ _ => Nat.zero_le _, chain⟩

/-- What a plus sign repeats, at least once. -/
theorem repeated (hr : Denotes r L) : Denotes (.rep r 1 none) (L * KStar.kstar L) := by
  intro c d
  have rounds : ∀ word, word ∈ L * KStar.kstar L ↔ ∃ more, word ∈ L ^ (1 + more) := by
    intro word
    rw [Language.kstar_eq_iSup_pow, Language.mul_iSup, Language.mem_iSup]
    simp only [pow_add, pow_one]
  simp only [rounds]
  constructor
  · rintro ⟨more, -, chain⟩
    obtain ⟨word, mem, passes⟩ := (hr.chain (1 + more) c d).mp chain
    exact ⟨word, ⟨more, mem⟩, passes⟩
  · rintro ⟨word, ⟨more, mem⟩, passes⟩
    exact ⟨more, fun _ bound => absurd bound (by simp), (hr.chain (1 + more) c d).mpr ⟨word, mem, passes⟩⟩

/-- What a question mark makes optional. -/
theorem optional (hr : Denotes r L) : Denotes (.rep r 0 (some 1)) (1 + L) := by
  intro c d
  have never := hr.chain 0 c d
  have once := hr.chain 1 c d
  rw [pow_zero] at never
  rw [pow_one] at once
  simp only [Language.mem_add, or_and_right, exists_or]
  rw [← never, ← once]
  constructor
  · rintro ⟨more, within, chain⟩
    rw [Nat.zero_add] at chain
    have le : more ≤ 1 := within 1 rfl
    obtain rfl | rfl : more = 0 ∨ more = 1 := by omega
    · exact Or.inl chain
    · exact Or.inr chain
  · rintro (chain | chain)
    · exact ⟨0, fun _ _ => Nat.zero_le _, chain⟩
    · exact ⟨1, by rintro bound ⟨⟩; exact Nat.le_refl 1, chain⟩

/-- Expressions one after another denote the product of their languages. -/
theorem seqs {rs : List Regex} {Ls : List (Language Char)} (h : List.Forall₂ Denotes rs Ls) :
    Denotes (Regex.seqs rs) Ls.prod := by
  induction h with
  | nil => exact denotes_empty
  | cons hr more ih =>
      rw [List.prod_cons]
      cases more with
      | nil => simpa [Regex.seqs] using hr
      | cons _ _ => exact hr.seq ih

/-- Alternatives denote the sum of their languages. -/
theorem alts {rs : List Regex} {Ls : List (Language Char)} (h : List.Forall₂ Denotes rs Ls)
    (inhabited : rs ≠ []) : Denotes (Regex.alts rs) Ls.sum := by
  induction h with
  | nil => exact absurd rfl inhabited
  | cons hr more ih =>
      rw [List.sum_cons]
      cases more with
      | nil => simpa [Regex.alts] using hr
      | cons _ _ => exact hr.alt (ih (List.cons_ne_nil _ _))

end Denotes

/-! ### Whole texts -/

theorem spans_seqs_cons (r : Regex) (rs : List Regex) (c d : Cursor) :
    (seqs (r :: rs)).Spans c d ↔ ∃ m, r.Spans c m ∧ (seqs rs).Spans m d := by
  cases rs with
  | nil => simp [seqs, Spans]
  | cons s rs => exact Iff.rfl

theorem spans_seqs_append (rs ss : List Regex) (c d : Cursor) :
    (seqs (rs ++ ss)).Spans c d ↔ ∃ m, (seqs rs).Spans c m ∧ (seqs ss).Spans m d := by
  induction rs generalizing c with
  | nil => simp [seqs, Spans]
  | cons r rs ih =>
      rw [List.cons_append, spans_seqs_cons]
      simp only [ih, spans_seqs_cons]
      constructor
      · rintro ⟨m, first, n, second, third⟩
        exact ⟨n, ⟨m, first, second⟩, third⟩
      · rintro ⟨n, ⟨m, first, second⟩, third⟩
        exact ⟨m, first, n, second, third⟩

theorem Denotes.append {rs ss : List Regex} {L M : Language Char}
    (hr : Denotes (Regex.seqs rs) L) (hs : Denotes (Regex.seqs ss) M) :
    Denotes (Regex.seqs (rs ++ ss)) (L * M) := by
  intro c d
  rw [spans_seqs_append]
  exact hr.seq hs c d

theorem spans_alts {rs : List Regex} (inhabited : rs ≠ []) (c d : Cursor) :
    (alts rs).Spans c d ↔ ∃ r ∈ rs, r.Spans c d := by
  induction rs with
  | nil => exact absurd rfl inhabited
  | cons r rs ih =>
      cases rs with
      | nil => simp [alts]
      | cons s rs =>
          rw [List.exists_mem_cons_iff, ← ih (List.cons_ne_nil _ _)]
          rfl

/-- The places of a text are those ahead of its start. -/
theorem mem_onward (position : Nat) (before : Option Char) (text : List Char) (c : Cursor) :
    c ∈ Cursor.onward position before text ↔ Cursor.Ahead ⟨position, before, text⟩ c := by
  induction text generalizing position before with
  | nil =>
      rw [Cursor.onward, List.mem_singleton]
      constructor
      · rintro rfl
        exact .refl _
      · rintro ⟨word, passes⟩
        cases passes
        rfl
  | cons x text ih =>
      rw [Cursor.onward, List.mem_cons, ih]
      constructor
      · rintro (rfl | ⟨word, passes⟩)
        · exact .refl _
        · exact ⟨x :: word, .cons passes⟩
      · rintro ⟨word, passes⟩
        cases passes with
        | nil => exact Or.inl rfl
        | cons tail => exact Or.inr ⟨_, tail⟩

theorem isMatch_iff (r : Regex) (text : String) :
    r.isMatch text = true ↔ ∃ c, (Cursor.start text.toList).Ahead c ∧ ∃ d, r.Spans c d := by
  unfold isMatch
  rw [List.any_eq_true]
  refine exists_congr fun c => and_congr (mem_onward 0 none text.toList c) ?_
  rw [Bool.not_eq_true', List.isEmpty_eq_false_iff_exists_mem]
  exact exists_congr fun d => mem_ends r c d

theorem Cursor.Passes.eq_of_nil {c d : Cursor} (h : c.Passes [] d) : d = c := by
  cases h
  rfl

/-- Behind a character the place before it is not the start. -/
theorem Cursor.Passes.isSome_before {c d : Cursor} {word : List Char} (h : c.Passes word d)
    (inhabited : word ≠ []) : d.before.isSome = true := by
  induction h with
  | nil => exact absurd rfl inhabited
  | @cons _ _ x _ word d tail ih =>
      cases word with
      | nil =>
          cases tail
          rfl
      | cons _ _ => exact ih (List.cons_ne_nil _ _)

/-- Ahead of the start, nothing but the start has no character before it. -/
theorem Cursor.Ahead.eq_start {text : List Char} {c : Cursor} (h : (Cursor.start text).Ahead c)
    (first : c.before = none) : c = Cursor.start text := by
  obtain ⟨word, passes⟩ := h
  cases word with
  | nil => exact passes.eq_of_nil
  | cons x word =>
      have before := passes.isSome_before (List.cons_ne_nil _ _)
      rw [first] at before
      exact absurd before (by simp)

/-- The expression matches the whole text. -/
def MatchesWhole (r : Regex) (text : List Char) : Prop :=
  ∃ d, r.Spans (Cursor.start text) d ∧ d.rest = []

theorem matchesWhole_iff (r : Regex) (text : List Char) :
    r.MatchesWhole text ↔ ∃ d ∈ r.ends (Cursor.start text), d.rest = [] := by
  simp only [mem_ends, MatchesWhole]

instance (r : Regex) (text : List Char) : Decidable (r.MatchesWhole text) :=
  decidable_of_iff _ (matchesWhole_iff r text).symm

/-- **Between the two tests an expression matches whole texts**: a text matches just if all of
it is a word of the language. -/
theorem isMatch_anchored {rs : List Regex} {L : Language Char} (h : Denotes (seqs rs) L)
    (text : String) :
    (seqs (look .textStart :: (rs ++ [look .textEnd]))).isMatch text = true
      ↔ text.toList ∈ L := by
  rw [isMatch_iff]
  simp only [spans_seqs_cons, spans_seqs_append, h _ _]
  constructor
  · rintro ⟨c, ahead, d, m, ⟨atStart, rfl⟩, n, ⟨word, mem, passes⟩, n', ⟨atEnd, rfl⟩, -⟩
    obtain rfl := ahead.eq_start (by simpa [Look.holds] using atStart)
    have restEq := passes.rest_eq
    have done : n.rest = [] := by
      simpa only [Look.holds, Option.isNone_iff_eq_none, List.head?_eq_none_iff] using atEnd
    rw [done, List.append_nil] at restEq
    have whole : text.toList = word := restEq
    exact whole ▸ mem
  · intro mem
    obtain ⟨d, passes, done⟩ := (Cursor.start text.toList).exists_passes text.toList
      (List.append_nil _).symm
    refine ⟨_, .refl _, d, _, ⟨rfl, rfl⟩, d, ⟨_, mem, passes⟩, d, ⟨?_, rfl⟩, rfl⟩
    simp [Look.holds, done]

end ColumnCast.Regex
