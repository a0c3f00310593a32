import ColumnCast.Proofs.Yaml.Scanner
import Mathlib.Data.String.Basic

/-!
# `ColumnCast.Proofs.Yaml.Lines`: the tokens of written scalars

What a scalar is written as begins a token (`Written.starts`), and a line
of it ends where the line of the scalar does (`Written.lineEnd_eq`).
-/

set_option autoImplicit false

namespace ColumnCast.Yaml

/-! ### How long a key can be -/

theorem le_utf8Size (c : Char) :
    1 ≤ c.utf8Size ∧ (127 < c.toNat → 2 ≤ c.utf8Size) ∧ (2047 < c.toNat → 3 ≤ c.utf8Size) := by
  have size : c.utf8Size = if c.toNat ≤ 127 then 1 else if c.toNat ≤ 2047 then 2
      else if c.toNat ≤ 65535 then 3 else 4 := by
    unfold Char.utf8Size
    simp only [UInt32.le_iff_toNat_le]
    rfl
  rw [size]
  split
  · omega
  · split
    · omega
    · split <;> omega

/-- An escape has at most four characters for each byte. -/
theorem length_escapedChar_le (c : Char) : (escapedChar c).length ≤ 4 * c.utf8Size := by
  have size := le_utf8Size c
  have valid : c.toNat < 55296 ∨ 57343 < c.toNat ∧ c.toNat < 1114112 := c.valid
  unfold escapedChar
  -- In `h_15` the number of the character decides: it is written in two digits, four or eight.
  split
  case h_15 =>
    dsimp only
    split
    · rw [List.length_singleton]
      omega
    · split
      · rw [List.length_cons, List.length_cons, length_hexPadded (by decide) (by omega)]
        omega
      · split
        · rw [List.length_cons, List.length_cons, length_hexPadded (by decide) (by omega)]
          omega
        · rw [List.length_cons, List.length_cons, length_hexPadded (by decide) (by omega)]
          omega
  all_goals exact Nat.le_of_ble_eq_true rfl

theorem length_escaped_le (text : List Char) :
    (text.flatMap escapedChar).length ≤ 4 * String.utf8Len text := by
  induction text with
  | nil => simp
  | cons c text ih =>
      rw [List.flatMap_cons, List.length_append, String.utf8Len_cons]
      have first := length_escapedChar_le c
      omega

theorem length_le_utf8Len (text : List Char) : text.length ≤ String.utf8Len text := by
  induction text with
  | nil => simp
  | cons c text ih =>
      rw [List.length_cons, String.utf8Len_cons]
      have first := c.utf8Size_pos
      omega

theorem length_twiceQuoted_le (text : List Char) : (twiceQuoted text).length ≤ 2 * text.length := by
  induction text with
  | nil => simp [twiceQuoted]
  | cons c text ih =>
      rw [twiceQuoted_cons, quotedTwice, List.length_append, List.length_cons]
      split <;> simp only [List.length_cons, List.length_nil] <;> omega

theorem singleQuoted_flat (width : Nat) {text : List Char}
    (flat : ∀ c ∈ text, isAnyBreak c = false) :
    singleQuoted width text = '\'' :: (twiceQuoted text ++ ['\'']) := by
  have twice : ∀ c ∈ twiceQuoted text ++ ['\''], isAnyBreak c = false := by
    intro c mem
    rw [List.mem_append, List.mem_singleton] at mem
    rcases mem with mem | rfl
    · obtain ⟨d, inside, mem⟩ := List.mem_flatMap.mp mem
      unfold quotedTwice at mem
      split at mem
      · simp only [List.mem_cons, List.not_mem_nil, or_false, or_self] at mem
        rw [mem]
        decide
      · rw [List.mem_singleton.mp mem]
        exact flat d inside
    · decide
  have same := indented_flat width twice []
  rw [List.append_nil, indented, List.append_nil] at same
  exact congrArg _ same

theorem Written.short {width : Nat} {text chars : List Char} {style : Style}
    (written : Written width text chars style) (flat : ∀ c ∈ text, isAnyBreak c = false)
    (few : String.utf8Len text ≤ maxSimpleKey) : chars.length ≤ Scanner.maxKeyLength := by
  have length := length_le_utf8Len text
  unfold maxSimpleKey at few
  unfold Scanner.maxKeyLength
  cases written with
  | bare => omega
  | single =>
      have twice := length_twiceQuoted_le text
      rw [singleQuoted_flat width flat]
      simp only [List.length_cons, List.length_append, List.length_nil]
      omega
  | double =>
      have escaped := length_escaped_le text
      unfold doubleQuoted
      simp only [List.length_cons, List.length_append, List.length_nil]
      omega
  | literal lines quotable => exact absurd (flat _ lines) (by decide)

/-! ### Where a scalar begins and ends -/

theorem Written.starts {width : Nat} {text chars : List Char} {style : Style}
    (written : Written width text chars style) (follow : List Char) : Starts (chars ++ follow) := by
  cases written with
  | bare inhabited bare =>
      obtain ⟨c, rest, rfl⟩ := List.exists_cons_of_ne_nil inhabited
      have isPrinted := bare.printable c List.mem_cons_self
      have start := bare.words.start c rfl
      rintro _ ⟨⟩
      refine ⟨isApart_of_isPrintable isPrinted start.1 ?_, start.2,
        ne_of_isPrintable isPrinted (by decide)⟩
      rw [← isAnyBreak_eq_isBreak isPrinted]
      exact bare.unbroken c List.mem_cons_self
  | single => exact starts_cons (by decide : BeginsToken '\'') _
  | double => exact starts_cons (by decide : BeginsToken '"') _
  | literal => exact starts_cons (by decide : BeginsToken '|') _

theorem Written.ne_nil {width : Nat} {text chars : List Char} {style : Style}
    (written : Written width text chars style) : chars ≠ [] := by
  cases written with
  | bare inhabited => exact inhabited
  | single => simp [singleQuoted]
  | double => simp [doubleQuoted]
  | literal => simp [literalBlock]

theorem lineEnd_concat (text : List Char) {c : Char} (unbroken : isAnyBreak c = false) :
    lineEnd (text ++ [c]) = ['\n'] := by
  unfold lineEnd
  rw [List.getLast?_concat, Option.any_some, unbroken, if_neg (by simp)]

theorem lineEnd_cons (c : Char) {text : List Char} (inhabited : text ≠ []) :
    lineEnd (c :: text) = lineEnd text := by
  unfold lineEnd
  rw [List.getLast?_cons_of_ne_nil inhabited]

theorem lineEnd_append (front : List Char) {text : List Char} (inhabited : text ≠ []) :
    lineEnd (front ++ text) = lineEnd text := by
  unfold lineEnd
  rw [List.getLast?_append_of_ne_nil _ inhabited]

theorem indented_ne_nil (width : Nat) (atStart : Bool) {text : List Char} (inhabited : text ≠ []) :
    indented width atStart text ≠ [] := by
  have length := length_le_indented width atStart text
  have positive := List.length_pos_iff.mpr inhabited
  exact List.length_pos_iff.mp (by omega)

theorem lineEnd_indented (width : Nat) (atStart : Bool) (text : List Char) :
    lineEnd (indented width atStart text) = lineEnd text := by
  induction text generalizing atStart with
  | nil => rfl
  | cons c text ih =>
      by_cases last : text = []
      · rw [last, indented]
        split
        · rfl
        · exact lineEnd_append _ (by simp)
      · rw [lineEnd_cons c last, indented]
        split
        · rw [lineEnd_cons c (indented_ne_nil width true last), ih]
        · rw [lineEnd_append _ (by simp), lineEnd_cons c (indented_ne_nil width false last), ih]

theorem lineEnd_literalBlock (width : Nat) {text : List Char} (inhabited : text ≠ []) :
    lineEnd (literalBlock width text) = lineEnd text := by
  unfold literalBlock
  rw [lineEnd_append _ (by simp), lineEnd_cons _ (indented_ne_nil width true inhabited),
    lineEnd_indented]

theorem lineEnd_doubleQuoted (text : List Char) : lineEnd (doubleQuoted text) = ['\n'] :=
  lineEnd_concat ('"' :: text.flatMap escapedChar) (by decide)

theorem lineEnd_singleQuoted (width : Nat) (text : List Char) :
    lineEnd (singleQuoted width text) = ['\n'] := by
  unfold singleQuoted
  dsimp only
  rw [lineEnd_cons _ (indented_ne_nil width false (by simp)), lineEnd_indented]
  exact lineEnd_concat _ (by decide)

theorem Bare.lineEnd {text : List Char} (bare : Bare text) : lineEnd text = ['\n'] := by
  unfold Yaml.lineEnd
  rw [if_neg]
  intro last
  cases found : text.getLast? with
  | none => exact absurd last (by simp [found])
  | some c =>
      rw [found, Option.any_some, bare.unbroken c (List.mem_of_getLast? found)] at last
      exact absurd last (by simp)

/-! ### Taking a scalar -/

namespace Scanner

variable {tokens : List Token} {indents : List Nat} {allowed : Bool} {indent line column : Nat}

/-- A possible key is none behind its line, and was not one that had to be. -/
theorem saved_stale {rest : List Char} {q : Place} (later : line < q.line)
    (deeper : indent < column) :
    ∀ key ∈ saved tokens (indent :: indents) allowed ⟨rest, line, column⟩,
      isFresh q key = false ∧ key.required = false := by
  intro key mem
  unfold saved at mem
  split at mem
  · obtain rfl := Option.some.inj mem
    exact ⟨by simp [isFresh, later.ne], by simp [deeper.ne]⟩
  · exact absurd mem (by simp)

end Scanner

/-- A bare scalar stops at the end of its line if the next one is not indented as far. -/
theorem plainStop?_line {indent count : Nat} (shallow : count < indent) {follow : List Char}
    (start : ∀ c ∈ follow.head?, IsApart c) (line column : Nat) :
    plainStop? indent ⟨'\n' :: (indentation count ++ follow), line, column⟩
      = some (⟨follow, line + 1, count⟩, true) := by
  have gapped : Gap.readAt? indent {} ⟨'\n' :: (indentation count ++ follow), line, column⟩
      = some ({ breaks := ['\n'], broken := true }, ⟨follow, line + 1, count⟩) := by
    have breaks := @Gap.read?_breaks indent line column {} '\n' [] (by simp [isBreak])
      (indentation count ++ follow)
    unfold Gap.readAt?
    rw [List.nil_append] at breaks
    rw [breaks, Gap.read?_indentation rfl start, Nat.zero_add]
    rfl
  unfold plainStop?
  rw [if_neg (by simp [endsWord, isBreak]), gapped]
  show (if count < indent then _ else _) = _
  rw [if_pos shallow]
  rfl

section Taken

open Scanner

variable {indent line column count : Nat} {text chars follow : List Char}

theorem leads_quoted {mark : Char} (quote : mark = '\'' ∨ mark = '"') {rest : List Char}
    {line' column' : Nat} (read : readQuoted? mark ⟨mark :: rest, line, column⟩
      = some (text, ⟨'\n' :: (indentation count ++ follow), line', column'⟩))
    (later : line ≤ line') (shorter : ('\n' :: (indentation count ++ follow)).length ≤ rest.length)
    (starts : Starts follow) (tokens : List Token) (indents : List Nat) (allowed : Bool)
    (deeper : indent < column) :
    Leads (spot tokens (indent :: indents) allowed ⟨mark :: rest, line, column⟩ none)
      (spot (ended (indent :: indents) count ++ .scalar text .quoted :: tokens)
        (kept (indent :: indents) count) true ⟨follow, line' + 1, count⟩ none) := by
  have begins : Starts (mark :: rest) := by
    rcases quote with rfl | rfl
    · exact starts_cons (by decide) _
    · exact starts_cons (by decide) _
  have inside : ∀ i ∈ (indent :: indents).head?, i ≤ column := by
    rintro _ ⟨⟩
    exact deeper.le
  have behind : follow.length ≤ ('\n' :: (indentation count ++ follow)).length := by
    simp only [List.length_cons, List.length_append]
    omega
  exact (Leads.take rfl begins (by simp) inside (takeNext?_quoted quote read) shorter).trans
    (Leads.settle (skipToToken_line count starts _) starts
      (saved_stale (Nat.lt_succ_of_le later) deeper) behind)

/-- **A scalar is read to the end of its last line**, and with it what is indented further than
the next one. -/
theorem Written.leads {style : Style} (written : Written (indent + 2) text chars style)
    (back : count ≤ indent) (starts : Starts follow) (tokens : List Token) (indents : List Nat)
    (allowed : Bool) (line : Nat) (deeper : indent < column) :
    ∃ line', Leads
      (spot tokens (indent :: indents) allowed
        ⟨chars ++ (lineEnd chars ++ (indentation count ++ follow)), line, column⟩ none)
      (spot (ended (indent :: indents) count ++ .scalar text style :: tokens)
        (kept (indent :: indents) count) true ⟨follow, line', count⟩ none) := by
  have begins := written.starts (lineEnd chars ++ (indentation count ++ follow))
  have inside : ∀ i ∈ (indent :: indents).head?, i ≤ column := by
    rintro _ ⟨⟩
    exact deeper.le
  have apart : ∀ c ∈ follow.head?, IsApart c := fun c first => (starts c first).1
  cases written with
  | bare inhabited bare =>
      obtain ⟨c, rest, rfl⟩ := List.exists_cons_of_ne_nil inhabited
      rw [bare.lineEnd] at begins ⊢
      have noEdge : Place.atDocumentEdge
          ⟨c :: rest ++ ('\n' :: (indentation count ++ follow)), line, column⟩ = false :=
        Place.atDocumentEdge_of_column (by dsimp only; omega)
      have reads := readPlain?_eq bare inhabited rfl noEdge (Nat.le_succ_of_le (by omega))
        (plainStop?_line (Nat.lt_succ_of_le back) apart line _)
      have taken := @takeNext?_bare tokens (indent :: indents) allowed _ _ _ _ _ bare noEdge _ reads
      refine ⟨line + 1, (Leads.take rfl begins (by simp) inside taken ?_).trans
        (Leads.settle (skipToToken_start starts _) starts
          (saved_stale (Nat.lt_succ_self line) deeper) le_rfl)⟩
      simp [spot]
      omega
  | single noLine quotable noBlankStart =>
      rw [lineEnd_singleQuoted] at begins ⊢
      have single : ('\n' :: (indentation count ++ follow)).head? ≠ some '\'' := by simp
      obtain ⟨line', column', read, later, -⟩ := readQuoted?_single (Nat.succ_pos _) single quotable
        noLine noBlankStart line column
      refine ⟨_, leads_quoted (.inl rfl) read later ?_ starts tokens indents allowed deeper⟩
      simp
  | double =>
      rw [lineEnd_doubleQuoted] at begins ⊢
      have read := readQuoted?_double text ('\n' :: (indentation count ++ follow)) line column
      refine ⟨_, leads_quoted (.inr rfl) read le_rfl ?_ starts tokens indents allowed deeper⟩
      simp only [List.append_eq, List.length_append, List.length_cons]
      omega
  | literal lines quotable =>
      -- The block takes the break of its last line, and leaves no gap to go over.
      have inhabited := List.ne_nil_of_mem lines
      rw [lineEnd_literalBlock _ inhabited] at begins ⊢
      obtain ⟨line', read⟩ := readBlock?_literal (Nat.succ_pos indent) inhabited quotable.printable
        (Nat.le_succ_of_le back) apart line column
      have taken := @takeNext?_literal tokens (indent :: indents) allowed _ line column _ _ read
      refine ⟨line', (Leads.take rfl begins (by simp) inside taken ?_).trans
        (Leads.settle (skipToToken_start starts _) starts (by simp) le_rfl)⟩
      simp [spot]
      omega

theorem margin_le {indents : List Nat} (inside : ∀ i ∈ indents.head?, i ≤ column) :
    margin indents ≤ column + 1 := by
  cases indents with
  | nil => exact Nat.zero_le _
  | cons i indents => exact Nat.succ_le_succ (inside i rfl)

/-- **A key of one line is read up to its colon**, and opens a record where none is open. -/
theorem Written.leads_key {width : Nat} (wide : 0 < width) {style : Style}
    (written : Written width text chars style) (flat : ∀ c ∈ text, isAnyBreak c = false)
    (few : String.utf8Len text ≤ maxSimpleKey)
    {rest : List Char} (ends : endsWord rest = true)
    (noEdge : Place.atDocumentEdge ⟨chars ++ ':' :: rest, line, column⟩ = false)
    (tokens : List Token) {indents : List Nat} (inside : ∀ i ∈ indents.head?, i ≤ column) :
    Leads (spot tokens indents true ⟨chars ++ ':' :: rest, line, column⟩ none)
      (spot (.value :: .scalar text style :: .key
          :: (opened indents column .blockMappingStart ++ tokens))
        (entered indents column) false ⟨rest, line, column + chars.length + 1⟩ none) := by
  have begins := written.starts (':' :: rest)
  -- The scalar is saved as a possible key, and the colon makes it one while it is fresh.
  have scalar : Leads (spot tokens indents true ⟨chars ++ ':' :: rest, line, column⟩ none)
      (spot (.scalar text style :: tokens) indents false ⟨':' :: rest, line, column + chars.length⟩
        (saved tokens indents true ⟨chars ++ ':' :: rest, line, column⟩)) := by
    cases written with
    | bare inhabited bare =>
        obtain ⟨c, more, rfl⟩ := List.exists_cons_of_ne_nil inhabited
        have stops : plainWord? false (':' :: rest) = some [] := by
          rw [plainWord?, ends]
          rfl
        have stopped : plainStop? (margin indents) ⟨':' :: rest, line, column + (c :: more).length⟩
            = some (⟨':' :: rest, line, column + (c :: more).length⟩, false) := rfl
        have reads := readPlain?_eq bare inhabited stops noEdge
          (Nat.le_succ_of_le (margin_le inside)) stopped
        refine .take rfl begins (by simp) inside (takeNext?_bare bare noEdge reads) ?_
        simp [spot]
    | single noLine quotable noBlankStart =>
        have single : (':' :: rest).head? ≠ some '\'' := by simp
        obtain ⟨line', column', read, -, ended⟩ :=
          readQuoted?_single wide single quotable noLine noBlankStart line column
        obtain ⟨rfl, rfl⟩ := ended flat
        refine .take rfl begins (by simp) inside (takeNext?_quoted (.inl rfl) read) ?_
        simp [spot]
    | double =>
        have read := readQuoted?_double text (':' :: rest) line column
        refine .take rfl begins (by simp) inside (takeNext?_quoted (.inr rfl) read) ?_
        simp only [spot, List.append_eq, List.length_append, List.length_cons]
        omega
    | literal lines => exact absurd (flat _ lines) (by decide)
  have fresh : ∀ key ∈ saved tokens indents true ⟨chars ++ ':' :: rest, line, column⟩,
      isFresh ⟨':' :: rest, line, column + chars.length⟩ key = true := by
    rintro _ ⟨⟩
    simp [isFresh, written.short flat few]
  have further : ∀ i ∈ indents.head?, i ≤ column + chars.length := fun i first =>
    Nat.le_add_right_of_le (inside i first)
  exact scalar.trans (.take rfl (starts_cons (by decide) _) fresh further
    (takeNext?_colon ends _ line column _) le_rfl)

end Taken

end ColumnCast.Yaml
