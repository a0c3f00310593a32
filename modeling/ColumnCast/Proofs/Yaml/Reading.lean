import ColumnCast.Yaml.Node

/-!
# `ColumnCast.Proofs.Yaml.Reading`: the nodes of block tokens

`Reads` says that a reader, given rounds enough, makes a value of the
tokens it begins with and leaves the rest. There is a lemma for each form
a node of a block has here: scalars, lists with an end of their own, lists
without one, and records.
-/

set_option autoImplicit false

namespace ColumnCast.Yaml

open Reading

/-- With rounds enough the tokens are read as the value, if the rest follows them. -/
def Reads {α : Type} (read : Nat → Reading α) (need : Nat) (tokens : List Token) (value : α)
    (rest : List Token) : Prop :=
  ∀ rounds anchors, need ≤ rounds →
    (read rounds).run ⟨tokens ++ rest, anchors⟩ = some (value, ⟨rest, anchors⟩)

theorem Reads.mono {α : Type} {read : Nat → Reading α} {need more : Nat} {tokens rest : List Token}
    {value : α} (reads : Reads read need tokens value rest) (le : need ≤ more) :
    Reads read more tokens value rest :=
  fun rounds anchors enough => reads rounds anchors (Nat.le_trans le enough)

section Tokens

variable {token other : Token} {rest : List Token} {anchors : List (List Char × Nat)}

theorem isNext_run (ends : List Token) :
    (isNext ends).run ⟨rest, anchors⟩ = some (rest.head?.any ends.contains, ⟨rest, anchors⟩) := rfl

theorem accept_run_self (token : Token) :
    (accept token).run ⟨token :: rest, anchors⟩ = some (true, ⟨rest, anchors⟩) := by
  have next : (token :: rest).head?.any [token].contains = true := by simp
  unfold accept
  rw [StateT.run_bind, isNext_run, next]
  rfl

theorem accept_run_other (differs : rest.head? ≠ some token) :
    (accept token).run ⟨rest, anchors⟩ = some (false, ⟨rest, anchors⟩) := by
  have next : rest.head?.any [token].contains = false := by
    cases rest with
    | nil => rfl
    | cons other rest => simpa [eq_comm] using differs
  unfold accept
  rw [StateT.run_bind, isNext_run, next]
  rfl

theorem expect_run_self (token : Token) :
    (expect token).run ⟨token :: rest, anchors⟩ = some ((), ⟨rest, anchors⟩) := by
  unfold expect
  rw [StateT.run_bind, accept_run_self]
  rfl

end Tokens

variable {handles : TagHandles}

theorem readNode_run {token : Token} (isAlias : ∀ name, token ≠ .alias name)
    (isAnchor : ∀ name, token ≠ .anchor name) (isTag : ∀ name, token ≠ .tag name)
    (rounds : Nat) (setting : Setting) (rest : List Token) (anchors : List (List Char × Nat)) :
    (readNode handles (rounds + 1) setting).run ⟨token :: rest, anchors⟩
      = (readContent handles rounds setting none false).run ⟨token :: rest, anchors⟩ := by
  have same : (readNode handles (rounds + 1) setting).run ⟨token :: rest, anchors⟩
      = ((readContent handles rounds setting none false).run ⟨token :: rest, anchors⟩).bind
        fun read => some (read.1, read.2) := by
    -- What may stand before the content is an anchor or a tag, and an alias stands for it.
    rw [readNode]
    cases token
    case anchor name => exact absurd rfl (isAnchor name)
    case tag name => exact absurd rfl (isTag name)
    all_goals
      first
        | exact absurd rfl (isAlias _)
        | rfl
  rw [same]
  cases (readContent handles rounds setting none false).run _ <;> rfl

/-! ### Nodes -/

section Nodes

variable {setting : Setting} {ends tokens rest : List Token} {need : Nat}

/-- What is read as a node is so wherever none of the ends stands. -/
theorem Reads.unless {token : Token} {node : Node} (notEnd : ends.contains token = false)
    (reads : Reads (fun rounds => readNode handles rounds setting) need (token :: tokens) node
      rest) :
    Reads (fun rounds => readUnless handles rounds setting ends) (need + 1) (token :: tokens) node
      rest := by
  intro rounds anchors enough
  obtain ⟨rounds, rfl⟩ : ∃ n, rounds = n + 1 := ⟨rounds - 1, by omega⟩
  have node := reads rounds anchors (by omega)
  rw [← node]
  show (readUnless handles (rounds + 1) setting ends).run
    ⟨token :: (tokens ++ rest), anchors⟩ = _
  rw [readUnless, StateT.run_bind, isNext_run]
  show Option.bind (some ((some token).any ends.contains, _)) _ = _
  rw [Option.any_some, notEnd, Option.bind_some]
  rfl

theorem reads_node {token : Token} {node : Node} (isAlias : ∀ name, token ≠ .alias name)
    (isAnchor : ∀ name, token ≠ .anchor name) (isTag : ∀ name, token ≠ .tag name)
    (reads : ∀ rounds anchors, need ≤ rounds →
      (readContent handles (rounds + 1) setting none false).run ⟨token :: (tokens ++ rest), anchors⟩
        = some (node, ⟨rest, anchors⟩)) :
    Reads (fun rounds => readNode handles rounds setting) (need + 2) (token :: tokens) node
      rest := by
  intro rounds anchors enough
  obtain ⟨rounds, rfl⟩ : ∃ n, rounds = n + 2 := ⟨rounds - 2, by omega⟩
  rw [← reads rounds anchors (by omega)]
  exact readNode_run isAlias isAnchor isTag (rounds + 1) setting _ anchors

theorem reads_scalar (text : List Char) (style : Style) :
    Reads (fun rounds => readNode handles rounds setting) 2 [.scalar text style]
      (.scalar ⟨String.ofList text, style, none⟩) rest :=
  reads_node (by simp) (by simp) (by simp) fun rounds anchors _ => by
    rw [readContent]
    cases setting <;> rfl

/-! ### Lists -/

theorem reads_items_nil (handles : TagHandles) (rest : List Token) :
    Reads (fun rounds => readItems handles rounds) 1 [.blockEnd] [] rest := by
  intro rounds anchors enough
  obtain ⟨rounds, rfl⟩ : ∃ n, rounds = n + 1 := ⟨rounds - 1, by omega⟩
  show (readItems handles (rounds + 1)).run ⟨.blockEnd :: rest, anchors⟩ = _
  rw [readItems, StateT.run_bind, accept_run_other (by simp), Option.bind_eq_bind,
    Option.bind_some, if_neg (by simp), StateT.run_bind, expect_run_self]
  rfl

theorem reads_items_cons {item : Node} {items : List Node} {more : List Token}
    (first : Reads (fun rounds => readUnless handles rounds .block [.blockEntry, .blockEnd]) need
      tokens item (more ++ rest))
    (others : Reads (fun rounds => readItems handles rounds) need more items rest) :
    Reads (fun rounds => readItems handles rounds) (need + 1) (.blockEntry :: (tokens ++ more))
      (item :: items) rest := by
  intro rounds anchors enough
  obtain ⟨rounds, rfl⟩ : ∃ n, rounds = n + 1 := ⟨rounds - 1, by omega⟩
  have read := first rounds anchors (by omega)
  have read' := others rounds anchors (by omega)
  show (readItems handles (rounds + 1)).run ⟨.blockEntry :: (tokens ++ more ++ rest), anchors⟩ = _
  simp only [readItems, StateT.run_bind, accept_run_self, List.append_assoc, Option.bind_eq_bind,
    Option.bind_some, if_true, read, read', StateT.run_pure, Option.pure_def]

theorem reads_list {items : List Node} (inBlock : setting ≠ .flow)
    (reads : Reads (fun rounds => readItems handles rounds) need tokens items rest) :
    Reads (fun rounds => readNode handles rounds setting) (need + 2)
      (.blockSequenceStart :: tokens) (.list items) rest :=
  reads_node (by simp) (by simp) (by simp) fun rounds anchors enough => by
    have content : (readContent handles (rounds + 1) setting none false).run
          ⟨.blockSequenceStart :: (tokens ++ rest), anchors⟩
        = ((readItems handles rounds).run ⟨tokens ++ rest, anchors⟩).bind
          fun read => some (.list read.1, read.2) := by
      rw [readContent]
      cases setting with
      | flow => exact absurd rfl inBlock
      | block => rfl
      | pair => rfl
    rw [content, reads rounds anchors enough]
    rfl

theorem reads_looseItems_nil (handles : TagHandles) (behind : rest.head? ≠ some .blockEntry) :
    Reads (fun rounds => readLooseItems handles rounds) 1 [] [] rest := by
  intro rounds anchors enough
  obtain ⟨rounds, rfl⟩ : ∃ n, rounds = n + 1 := ⟨rounds - 1, by omega⟩
  show (readLooseItems handles (rounds + 1)).run ⟨rest, anchors⟩ = _
  rw [readLooseItems, StateT.run_bind, accept_run_other behind]
  rfl

theorem reads_looseItems_cons {item : Node} {items : List Node} {more : List Token}
    (first : Reads (fun rounds => readUnless handles rounds .block
      [.blockEntry, .key, .value, .blockEnd]) need tokens item (more ++ rest))
    (others : Reads (fun rounds => readLooseItems handles rounds) need more items rest) :
    Reads (fun rounds => readLooseItems handles rounds) (need + 1)
      (.blockEntry :: (tokens ++ more)) (item :: items) rest := by
  intro rounds anchors enough
  obtain ⟨rounds, rfl⟩ : ∃ n, rounds = n + 1 := ⟨rounds - 1, by omega⟩
  have read := first rounds anchors (by omega)
  have read' := others rounds anchors (by omega)
  show (readLooseItems handles (rounds + 1)).run
    ⟨.blockEntry :: (tokens ++ more ++ rest), anchors⟩ = _
  simp only [readLooseItems, StateT.run_bind, accept_run_self, List.append_assoc,
    Option.bind_eq_bind, Option.bind_some, if_true, read, read', StateT.run_pure, Option.pure_def]

/-- A list that is not indented begins with its first item. -/
theorem reads_looseList {items : List Node}
    (reads : Reads (fun rounds => readLooseItems handles rounds) need (.blockEntry :: tokens) items
      rest) :
    Reads (fun rounds => readNode handles rounds .pair) (need + 2) (.blockEntry :: tokens)
      (.list items) rest :=
  reads_node (by simp) (by simp) (by simp) fun rounds anchors enough => by
    have content : (readContent handles (rounds + 1) .pair none false).run
          ⟨.blockEntry :: (tokens ++ rest), anchors⟩
        = ((readLooseItems handles rounds).run ⟨.blockEntry :: (tokens ++ rest), anchors⟩).bind
          fun read => some (.list read.1, read.2) := by
      rw [readContent]
      rfl
    have read := reads rounds anchors enough
    rw [List.cons_append] at read
    rw [content, read]
    rfl

/-! ### Records -/

theorem reads_pairs_nil (handles : TagHandles) (rest : List Token) :
    Reads (fun rounds => readPairs handles rounds) 1 [.blockEnd] [] rest := by
  intro rounds anchors enough
  obtain ⟨rounds, rfl⟩ : ∃ n, rounds = n + 1 := ⟨rounds - 1, by omega⟩
  show (readPairs handles (rounds + 1)).run ⟨.blockEnd :: rest, anchors⟩ = _
  rw [readPairs, StateT.run_bind, accept_run_other (by simp), Option.bind_eq_bind,
    Option.bind_some, if_neg (by simp), StateT.run_bind, expect_run_self]
  rfl

theorem reads_pairs_cons {name value : Node} {fields : List (Node × Node)}
    {nameTokens more : List Token}
    (first : Reads (fun rounds => readUnless handles rounds .pair [.key, .value, .blockEnd]) need
      nameTokens name (.value :: (tokens ++ (more ++ rest))))
    (second : Reads (fun rounds => readUnless handles rounds .pair [.key, .value, .blockEnd]) need
      tokens value (more ++ rest))
    (others : Reads (fun rounds => readPairs handles rounds) need more fields rest) :
    Reads (fun rounds => readPairs handles rounds) (need + 1)
      (.key :: (nameTokens ++ .value :: (tokens ++ more))) ((name, value) :: fields) rest := by
  intro rounds anchors enough
  obtain ⟨rounds, rfl⟩ : ∃ n, rounds = n + 1 := ⟨rounds - 1, by omega⟩
  have read := first rounds anchors (by omega)
  have read' := second rounds anchors (by omega)
  have read'' := others rounds anchors (by omega)
  have parts : nameTokens ++ .value :: (tokens ++ more) ++ rest
      = nameTokens ++ .value :: (tokens ++ (more ++ rest)) := by simp
  show (readPairs handles (rounds + 1)).run
    ⟨.key :: (nameTokens ++ .value :: (tokens ++ more) ++ rest), anchors⟩ = _
  simp only [readPairs, StateT.run_bind, accept_run_self, parts, Option.bind_eq_bind,
    Option.bind_some, if_true, read, read', read'', StateT.run_pure, Option.pure_def]

theorem reads_record {fields : List (Node × Node)} (inBlock : setting ≠ .flow)
    (reads : Reads (fun rounds => readPairs handles rounds) need tokens fields rest) :
    Reads (fun rounds => readNode handles rounds setting) (need + 2)
      (.blockMappingStart :: tokens) (.record fields) rest :=
  reads_node (by simp) (by simp) (by simp) fun rounds anchors enough => by
    have content : (readContent handles (rounds + 1) setting none false).run
          ⟨.blockMappingStart :: (tokens ++ rest), anchors⟩
        = ((readPairs handles rounds).run ⟨tokens ++ rest, anchors⟩).bind
          fun read => some (.record read.1, read.2) := by
      rw [readContent]
      cases setting with
      | flow => exact absurd rfl inBlock
      | block => rfl
      | pair => rfl
    rw [content, reads rounds anchors enough]
    rfl

end Nodes

end ColumnCast.Yaml
