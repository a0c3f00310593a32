import Mathlib.Data.List.Forall2

/-!
# `ColumnCast.Proofs.Traversal`: steps over lists that may fail

When two steps succeed or fail, one after the other, is said by
`bind_eq_ok_iff` and `bind_eq_error_iff`.

A step that may fail, taken for each item of a list in order, ends with
the results of all items (`mapM_eq_ok_iff`) or with the first failure
(`mapM_eq_error_iff`). `FirstFailure` is what "the first" means: no item
before it fails, and nothing is said of the items behind it.
-/

set_option autoImplicit false

namespace ColumnCast

variable {α β ε ε' : Type}

/-! ### Steps that may fail -/

section Steps

variable {step : Except ε α} {failure : ε}

/-- Two steps succeed if the first does and the second does on its result. -/
theorem bind_eq_ok_iff {next : α → Except ε β} {result : β} :
    (step >>= next) = .ok result ↔ ∃ a, step = .ok a ∧ next a = .ok result := by
  cases step with
  | error e => simp [bind, Except.bind]
  | ok a => simp [bind, Except.bind]

/-- Two steps fail if the first does, or else the second on its result. -/
theorem bind_eq_error_iff {next : α → Except ε β} :
    (step >>= next) = .error failure
      ↔ step = .error failure ∨ ∃ a, step = .ok a ∧ next a = .error failure := by
  cases step with
  | error e => simp [bind, Except.bind]
  | ok a => simp [bind, Except.bind]

theorem map_eq_ok_iff {f : α → β} {result : β} :
    step.map f = .ok result ↔ ∃ a, step = .ok a ∧ f a = result := by
  cases step <;> simp [Except.map]

theorem map_eq_error_iff {f : α → β} : step.map f = .error failure ↔ step = .error failure := by
  cases step <;> simp [Except.map]

theorem mapError_eq_ok_iff {wording : ε → ε'} {result : α} :
    step.mapError wording = .ok result ↔ step = .ok result := by
  cases step <;> simp [Except.mapError]

theorem mapError_eq_error_iff {wording : ε → ε'} {said : ε'} :
    step.mapError wording = .error said ↔ ∃ e, step = .error e ∧ said = wording e := by
  cases step <;> simp [Except.mapError, eq_comm]

end Steps

/-! ### The first failure -/

/-- An item of the list fails, and none before it. -/
def FirstFailure (fails : α → ε → Prop) (items : List α) (failure : ε) : Prop :=
  ∃ before item after, items = before ++ item :: after
    ∧ (∀ earlier ∈ before, ∀ other, ¬fails earlier other) ∧ fails item failure

namespace FirstFailure

variable {fails : α → ε → Prop} {failure : ε}

theorem not_nil : ¬FirstFailure fails [] failure := by
  rintro ⟨before, item, after, split, -⟩
  exact absurd split (by simp)

theorem cons_iff {item : α} {items : List α} :
    FirstFailure fails (item :: items) failure
      ↔ fails item failure
        ∨ ((∀ other, ¬fails item other) ∧ FirstFailure fails items failure) := by
  constructor
  · rintro ⟨before, found, after, split, passed, failed⟩
    cases before with
    | nil =>
        obtain ⟨rfl, -⟩ := List.cons.inj split
        exact Or.inl failed
    | cons first before =>
        obtain ⟨rfl, behind⟩ := List.cons.inj split
        exact Or.inr ⟨passed _ List.mem_cons_self, before, found, after, behind,
          fun earlier mem => passed earlier (List.mem_cons_of_mem _ mem), failed⟩
  · rintro (failed | ⟨passes, before, found, after, rfl, passed, failed⟩)
    · exact ⟨[], item, items, rfl, fun _ mem => absurd mem List.not_mem_nil, failed⟩
    · refine ⟨item :: before, found, after, rfl, fun earlier mem => ?_, failed⟩
      rcases List.mem_cons.mp mem with rfl | mem
      · exact passes
      · exact passed earlier mem

theorem congr {fails' : α → ε → Prop} {items : List α}
    (same : ∀ item ∈ items, ∀ other, fails item other ↔ fails' item other) :
    FirstFailure fails items failure ↔ FirstFailure fails' items failure := by
  refine exists_congr fun before => exists_congr fun item => exists_congr fun after =>
    and_congr_right fun split => and_congr ?_ (same item (by simp [split]) failure)
  exact forall_congr' fun earlier => imp_congr_right fun mem => forall_congr' fun other =>
    not_congr (same earlier (by simp [split, mem]) other)

/-- The first failure put into words is the first failure of the steps whose failures are put into
words. -/
theorem wording_iff (wording : ε → ε') {items : List α} {message : ε'} :
    (∃ failure, FirstFailure fails items failure ∧ message = wording failure)
      ↔ FirstFailure (fun item message => ∃ failure, fails item failure ∧ message = wording failure)
        items message := by
  have passes : ∀ item, (∀ message, ¬∃ failure, fails item failure ∧ message = wording failure)
      ↔ ∀ failure, ¬fails item failure := fun item =>
    ⟨fun passed failure failed => passed _ ⟨failure, failed, rfl⟩,
      fun passed _ ⟨failure, failed, _⟩ => passed failure failed⟩
  simp only [FirstFailure, passes]
  constructor
  · rintro ⟨failure, ⟨before, item, after, split, passed, failed⟩, said⟩
    exact ⟨before, item, after, split, passed, failure, failed, said⟩
  · rintro ⟨before, item, after, split, passed, failure, failed, said⟩
    exact ⟨failure, ⟨before, item, after, split, passed, failed⟩, said⟩

end FirstFailure

/-! ### Items and their results -/

section

variable {R S : α → β → Prop} {items : List α}

theorem exists_forall₂_iff :
    (∃ results, List.Forall₂ R items results) ↔ ∀ item ∈ items, ∃ result, R item result := by
  induction items with
  | nil => simp
  | cons item items ih =>
      rw [List.forall_mem_cons, ← ih]
      constructor
      · rintro ⟨_, all⟩
        obtain ⟨result, results, first, rest, rfl⟩ := List.forall₂_cons_left_iff.mp all
        exact ⟨⟨result, first⟩, results, rest⟩
      · rintro ⟨⟨result, first⟩, results, rest⟩
        exact ⟨result :: results, .cons first rest⟩

theorem forall₂_iff_of_mem {results : List β}
    (same : ∀ item ∈ items, ∀ result, R item result ↔ S item result) :
    List.Forall₂ R items results ↔ List.Forall₂ S items results := by
  induction items generalizing results with
  | nil => simp
  | cons item items ih =>
      have rest : ∀ others, List.Forall₂ R items others ↔ List.Forall₂ S items others :=
        fun others => ih fun other mem => same other (List.mem_cons_of_mem _ mem)
      simp only [List.forall₂_cons_left_iff, rest, same item List.mem_cons_self]

end

variable {step : α → Except ε β} {items : List α}

theorem mapM_eq_ok_iff {results : List β} :
    items.mapM step = .ok results
      ↔ List.Forall₂ (fun item result => step item = .ok result) items results := by
  induction items generalizing results with
  | nil =>
      rw [List.mapM_nil, List.forall₂_nil_left_iff]
      simp [pure, Except.pure, eq_comm]
  | cons item items ih =>
      rw [List.mapM_cons, List.forall₂_cons_left_iff]
      simp only [bind_eq_ok_iff, ih, pure, Except.pure, Except.ok.injEq]
      constructor
      · rintro ⟨result, first, others, rest, rfl⟩
        exact ⟨result, others, first, rest, rfl⟩
      · rintro ⟨result, others, first, rest, rfl⟩
        exact ⟨result, first, others, rest, rfl⟩

theorem mapM_eq_error_iff {failure : ε} :
    items.mapM step = .error failure
      ↔ FirstFailure (fun item other => step item = .error other) items failure := by
  induction items with
  | nil =>
      rw [List.mapM_nil]
      exact iff_of_false (by simp [pure, Except.pure]) FirstFailure.not_nil
  | cons item items ih =>
      rw [List.mapM_cons, FirstFailure.cons_iff, ← ih]
      cases first : step item with
      | error e => simp [bind, Except.bind]
      | ok result =>
          cases rest : items.mapM step with
          | error e => simp [bind, Except.bind]
          | ok results => simp [bind, Except.bind, pure, Except.pure]

/-- Lists whose items fare alike, one by one, fare alike. -/
theorem mapM_congr {α' : Type} {step' : α' → Except ε β} {items' : List α'}
    (same : List.Forall₂ (fun item item' => step item = step' item') items items') :
    items.mapM step = items'.mapM step' := by
  induction same with
  | nil => rfl
  | cons first _ ih => rw [List.mapM_cons, List.mapM_cons, first, ih]

/-- The first items have the first results. -/
theorem mapM_take {results : List β} (all : items.mapM step = .ok results) (count : Nat) :
    (items.take count).mapM step = .ok (results.take count) :=
  mapM_eq_ok_iff.mpr (List.forall₂_take count (mapM_eq_ok_iff.mp all))

theorem option_mapM_eq_none_iff {read? : α → Option β} :
    items.mapM read? = none ↔ ∃ item ∈ items, read? item = none := by
  induction items with
  | nil => simp
  | cons item items ih =>
      rw [List.mapM_cons]
      cases first : read? item with
      | none => simp [first]
      | some result =>
          cases rest : items.mapM read? with
          | none => simp [ih.mp rest]
          | some results => simpa [first, rest] using ih

theorem option_mapM_eq_some_iff {read? : α → Option β} {results : List β} :
    items.mapM read? = some results
      ↔ List.Forall₂ (fun item result => read? item = some result) items results := by
  induction items generalizing results with
  | nil =>
      rw [List.mapM_nil, List.forall₂_nil_left_iff]
      simp [eq_comm]
  | cons item items ih =>
      rw [List.mapM_cons, List.forall₂_cons_left_iff]
      constructor
      · intro all
        obtain ⟨result, first, all⟩ := Option.bind_eq_some_iff.mp all
        obtain ⟨others, rest, all⟩ := Option.bind_eq_some_iff.mp all
        obtain rfl := Option.some.inj all
        exact ⟨result, others, first, ih.mp rest, rfl⟩
      · rintro ⟨result, others, first, rest, rfl⟩
        rw [first, ih.mpr rest]
        rfl

theorem length_of_option_mapM {read? : α → Option β} {results : List β}
    (all : items.mapM read? = some results) : results.length = items.length :=
  (option_mapM_eq_some_iff.mp all).length_eq.symm

end ColumnCast
