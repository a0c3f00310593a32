import ColumnCast.Proofs.Yaml.Lines

/-!
# `ColumnCast.Proofs.Yaml.Yields`: stretches of text and their tokens

A `Spot` is a text still to be read, with all that matters of what was read
before it: the column, the open blocks and whether a key may begin.
`Yields` says which tokens stand between one spot and a later one. It does
not depend on the tokens before, nor on the line, so stretches compose
(`Yields.trans`).

The stretches are the ones a block is written in: a mark and a blank, a
key with its colon, a scalar to the end of its last line. A field puts a
key and a scalar together (`Yields.field`), and `ofChars?_of_yields` is
for the whole text.
-/

set_option autoImplicit false

namespace ColumnCast.Yaml

open Scanner

/-- A text to be read, and where it stands. -/
structure Spot where
  rest : List Char
  column : Nat
  /-- The indentations of the open blocks, the innermost first. -/
  indents : List Nat
  /-- May a key begin here? -/
  allowed : Bool

/-- A scanner that stands at the spot behind some tokens. -/
def Spot.scanner (a : Spot) (tokens : List Token) (line : Nat) : Scanner :=
  spot tokens a.indents a.allowed ⟨a.rest, line, a.column⟩ none

/-- The tokens between two spots. -/
def Yields (a : Spot) (tokens : List Token) (b : Spot) : Prop :=
  ∀ before line, ∃ line', Leads (a.scanner before line) (b.scanner (tokens.reverse ++ before) line')

namespace Yields

variable {a b c : Spot} {t u : List Token} {rest text chars follow : List Char}
  {column count indent : Nat} {indents : List Nat} {allowed : Bool}

theorem trans (first : Yields a t b) (second : Yields b u c) : Yields a (t ++ u) c := by
  intro before line
  obtain ⟨middle, leads⟩ := first before line
  obtain ⟨line', leads'⟩ := second (t.reverse ++ before) middle
  refine ⟨line', ?_⟩
  rw [List.reverse_append, List.append_assoc]
  exact leads.trans leads'

/-! ### Gaps -/

theorem blank (starts : Starts rest) (inside : ∀ i ∈ indents.head?, i ≤ column) :
    Yields ⟨' ' :: rest, column, indents, allowed⟩ [] ⟨rest, column + 1, indents, allowed⟩ := by
  intro before line
  have deeper : ∀ i ∈ indents.head?, i ≤ column + 1 := fun i first =>
    Nat.le_succ_of_le (inside i first)
  have settled := @Leads.settle before indents allowed ⟨' ' :: rest, line, column⟩ none allowed
    ⟨rest, line, column + 1⟩ (skipToToken_indentation 1 starts _) starts (by simp) (by simp)
  rw [ended_eq_nil deeper, kept_eq_self deeper] at settled
  exact ⟨line, settled⟩

/-- At the end of a line the blocks end that are indented further than the next. -/
theorem line (starts : Starts rest) :
    Yields ⟨'\n' :: (indentation count ++ rest), column, indents, allowed⟩ (ended indents count)
      ⟨rest, count, kept indents count, true⟩ := by
  intro before line
  have settled := @Leads.settle before indents allowed
    ⟨'\n' :: (indentation count ++ rest), line, column⟩ none true ⟨rest, line + 1, count⟩
    (skipToToken_line count starts _) starts (by simp)
    (by simp only [List.length_cons, List.length_append]; omega)
  have same : (ended indents count).reverse = ended indents count := List.reverse_replicate
  rw [same]
  exact ⟨line + 1, settled⟩

/-! ### Marks -/

theorem reverse_opened (indents : List Nat) (column : Nat) (start : Token) :
    (opened indents column start).reverse = opened indents column start := by
  unfold opened
  split <;> rfl

theorem mark {mark : Char} {start token : Token} (is : Mark mark start token)
    (starts : Starts rest) (inside : ∀ i ∈ indents.head?, i ≤ column) :
    Yields ⟨mark :: ' ' :: rest, column, indents, true⟩ (opened indents column start ++ [token])
      ⟨rest, column + 2, entered indents column, true⟩ := by
  have entered_inside : ∀ i ∈ (entered indents column).head?, i ≤ column + 1 := by
    unfold entered
    split
    · rintro _ ⟨⟩
      exact Nat.le_succ column
    · exact fun i first => Nat.le_succ_of_le (inside i first)
  have begins : BeginsToken mark := by
    cases is <;> decide
  have taken : Yields ⟨mark :: ' ' :: rest, column, indents, true⟩
      (opened indents column start ++ [token])
      ⟨' ' :: rest, column + 1, entered indents column, true⟩ := by
    intro before line
    have leads := Leads.take rfl (starts_cons begins _) (by simp) inside
      (@takeNext?_mark before indents (' ' :: rest) line column _ _ _ is rfl) (by simp [spot])
    refine ⟨line, ?_⟩
    rw [List.reverse_append, reverse_opened]
    exact leads
  have both := taken.trans (blank starts entered_inside)
  rwa [List.append_nil] at both

/-! ### Keys and scalars -/

/-- The token of a written string. -/
def scalarToken (string : String) : Token := .scalar string.toList (scalarStyle string)

theorem key {width : Nat} (wide : 0 < width) {style : Style}
    (written : Written width text chars style) (flat : ∀ c ∈ text, isAnyBreak c = false)
    (few : String.utf8Len text ≤ maxSimpleKey) (ends : endsWord rest = true)
    (noEdge : ∀ line, Place.atDocumentEdge ⟨chars ++ ':' :: rest, line, column⟩ = false)
    (inside : ∀ i ∈ indents.head?, i ≤ column) :
    Yields ⟨chars ++ ':' :: rest, column, indents, true⟩
      (opened indents column .blockMappingStart ++ [.key, .scalar text style, .value])
      ⟨rest, column + chars.length + 1, entered indents column, false⟩ := by
  intro before line
  refine ⟨line, ?_⟩
  rw [List.reverse_append, reverse_opened]
  exact written.leads_key wide flat few ends (noEdge line) before inside

/-- **A key whose value begins on the next line.** -/
theorem heading {width : Nat} (wide : 0 < width) {style : Style}
    (written : Written width text chars style) (flat : ∀ c ∈ text, isAnyBreak c = false)
    (few : String.utf8Len text ≤ maxSimpleKey)
    (noEdge : ∀ rest line, Place.atDocumentEdge ⟨chars ++ ':' :: rest, line, column⟩ = false)
    (inside : ∀ i ∈ indents.head?, i ≤ column) {outer : List Nat}
    (opens : entered indents column = column :: outer) (forward : column ≤ count)
    (starts : Starts rest) :
    Yields ⟨chars ++ ':' :: '\n' :: (indentation count ++ rest), column, indents, true⟩
      (opened indents column .blockMappingStart ++ [.key, .scalar text style, .value])
      ⟨rest, count, column :: outer, true⟩ := by
  have ends : endsWord ('\n' :: (indentation count ++ rest)) = true := rfl
  have name := key wide written flat few ends (noEdge _) inside
  have goesOn : ∀ i ∈ (column :: outer).head?, i ≤ count := by
    rintro _ ⟨⟩
    exact forward
  rw [opens] at name
  have both := name.trans (line starts)
  rwa [ended_eq_nil goesOn, kept_eq_self goesOn, List.append_nil] at both

theorem scalar (string : String) (back : count ≤ indent) (starts : Starts follow)
    (deeper : indent < column) :
    Yields ⟨scalarText (indent + 2) string ++ (lineEnd (scalarText (indent + 2) string)
        ++ (indentation count ++ follow)), column, indent :: indents, allowed⟩
      (scalarToken string :: ended (indent :: indents) count)
      ⟨follow, count, kept (indent :: indents) count, true⟩ := by
  intro before line
  have same : (ended (indent :: indents) count).reverse = ended (indent :: indents) count :=
    List.reverse_replicate
  rw [List.reverse_cons, same, List.append_assoc]
  exact (written_scalarText (indent + 2) string).leads back starts before indents allowed line
    deeper

/-- **A field of a record**: its name, and its value to the end of the last line. -/
theorem field {name : List Char} (inhabited : name ≠ []) (bare : Bare name)
    (few : String.utf8Len name ≤ maxSimpleKey) (value : String)
    (noEdge : ∀ rest line, Place.atDocumentEdge ⟨name ++ ':' :: rest, line, column⟩ = false)
    (inside : ∀ i ∈ indents.head?, i ≤ column) {outer : List Nat}
    (opens : entered indents column = column :: outer) (back : count ≤ column)
    (starts : Starts follow) :
    Yields ⟨name ++ ':' :: ' ' :: (scalarText (column + 2) value
        ++ (lineEnd (scalarText (column + 2) value) ++ (indentation count ++ follow))),
        column, indents, true⟩
      (opened indents column .blockMappingStart
        ++ [.key, .scalar name .plain, .value, scalarToken value] ++ ended (column :: outer) count)
      ⟨follow, count, kept (column :: outer) count, true⟩ := by
  have written : Written (column + 2) name name .plain := .bare inhabited bare
  have ends : endsWord (' ' :: (scalarText (column + 2) value
      ++ (lineEnd (scalarText (column + 2) value) ++ (indentation count ++ follow)))) = true := rfl
  have name := key (Nat.succ_pos _) written bare.unbroken few ends (noEdge _) inside
  rw [opens] at name
  have gap := name.trans (blank ((written_scalarText (column + 2) value).starts _)
    (by rintro _ ⟨⟩; omega))
  have whole := gap.trans (scalar value back starts (by omega))
  simpa only [List.append_nil, List.append_assoc, List.cons_append, List.nil_append] using whole

end Yields

/-- **The tokens of a text** are those that it yields, and the ends of the blocks that are open at
its end. -/
theorem Token.ofChars?_of_yields {text : List Char} (printable : Printable text)
    {tokens : List Token} {column : Nat} {indents : List Nat} {allowed : Bool}
    (yields : Yields ⟨text, 0, [], true⟩ tokens ⟨[], column, indents, allowed⟩)
    (inside : ∀ i ∈ indents.head?, i ≤ column) :
    Token.ofChars? text = some (tokens ++ List.replicate indents.length .blockEnd) := by
  have allAllowed : text.all isAllowed = true :=
    List.all_eq_true.mpr fun c mem => isAllowed_of_isPrintable (printable c mem)
  obtain ⟨line, leads⟩ := yields [] 0
  obtain ⟨rounds, enough, same⟩ := leads (text.length + 1) (Nat.lt_succ_self _)
  obtain ⟨rounds, rfl⟩ : ∃ n, rounds = n + 1 := ⟨rounds - 1, by omega⟩
  unfold Token.ofChars?
  rw [if_pos allAllowed, normalizeBreaks_eq_self printable]
  show (Spot.scanner ⟨text, 0, [], true⟩ [] 0).finish? (text.length + 1) = _
  rw [same]
  show (spot _ _ _ _ none).finish? _ = _
  rw [finish?_end inside, List.append_nil, List.reverse_reverse]

end ColumnCast.Yaml
