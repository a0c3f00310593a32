import ColumnCast.Catalog.Yaml
import ColumnCast.Proofs.Yaml.Yields

/-!
# `ColumnCast.Proofs.Catalog.Tokens`: the tokens of a catalog's text

`Catalog.tokens` lists what stands in the text of a catalog: a record of
date sequences by identifier and a list of times, each format a record of
two strings. `ofChars?_toYaml` is that the text is read as these tokens,
whatever the strings hold.

The proof follows the layout from the inside: fields of a format, the items
of a sequence, an entry of the date sequences, all of them. Each step says
how far the next line is indented, since that decides which blocks end.
-/

set_option autoImplicit false

namespace ColumnCast.Catalog

open Yaml Yaml.Scanner Yaml.Yields

/-! ### Tokens -/

/-- The tokens of a format. -/
def formatTokens (format : Format) : List Token :=
  [.blockMappingStart, .key, .scalar "token".toList .plain, .value, scalarToken format.token,
    .key, .scalar "pattern".toList .plain, .value, scalarToken format.pattern, .blockEnd]

/-- The tokens of the items of a sequence. -/
def itemTokens (formats : List Format) : List Token :=
  formats.flatMap fun format => .blockEntry :: formatTokens format

/-- The tokens of a sequence, which has an end of its own if it is indented. -/
def sequenceTokens (indented : Bool) (formats : List Format) : List Token :=
  if indented then .blockSequenceStart :: (itemTokens formats ++ [.blockEnd])
  else itemTokens formats

/-- The tokens of a date sequence under its identifier. -/
def entryTokens (id : String) (formats : List Format) : List Token :=
  .key :: scalarToken id :: .value :: sequenceTokens (!isSimpleKey id) formats

/-- The tokens of date sequences. -/
def datesTokens (dates : DateSequences) : List Token :=
  dates.flatMap fun (id, formats) => entryTokens id formats

/-- The tokens of a catalog. -/
def tokens (catalog : Catalog) : List Token :=
  [.blockMappingStart, .key, .scalar "date_formats".toList .plain, .value, .blockMappingStart]
    ++ datesTokens catalog.dates ++ [.blockEnd, .key, .scalar "time_formats".toList .plain, .value]
    ++ itemTokens catalog.times ++ [.blockEnd]

/-! ### Formats -/

theorem endLine_eq (text : List Char) : endLine text = text ++ lineEnd text := by
  unfold endLine lineEnd
  split
  · rw [List.append_nil]
  · rfl

theorem fieldText_append (width : Nat) (name value : String) (rest : List Char) :
    fieldText width name value ++ rest
      = name.toList ++ ':' :: ' ' :: (scalarText (width + 2) value
        ++ (lineEnd (scalarText (width + 2) value) ++ rest)) := by
  unfold fieldText
  rw [endLine_eq, lineEnd_append _ (written_scalarText _ _).ne_nil]
  simp [indentStep]

theorem bare_token : Bare "token".toList := bare_of_allowsPlain (by decide)

theorem bare_pattern : Bare "pattern".toList := bare_of_allowsPlain (by decide)

/-- The text of a format, from behind the mark of its item. -/
def formatText (width : Nat) (format : Format) : List Char :=
  let inner := width + indentStep
  fieldText inner "token" format.token ++ indentation inner
    ++ fieldText inner "pattern" format.pattern

section Sequences

variable {width count : Nat} {outer : List Nat} {follow : List Char}

theorem starts_fieldText (width : Nat) {name : String} (inhabited : name.toList ≠ [])
    (bare : Bare name.toList) (value : String) (rest : List Char) :
    Starts (fieldText width name value ++ rest) := by
  have written : Yaml.Written width name.toList name.toList .plain := .bare inhabited bare
  rw [fieldText_append]
  exact written.starts _

theorem yields_format (format : Format) (back : count ≤ width) (starts : Starts follow) :
    Yields ⟨formatText width format ++ (indentation count ++ follow), width + 2, width :: outer,
        true⟩
      (formatTokens format ++ ended (width :: outer) count)
      ⟨follow, count, kept (width :: outer) count, true⟩ := by
  have deeper : ∀ i ∈ (width :: outer).head?, i < width + 2 := by simp
  have inside : ∀ i ∈ ((width + 2) :: width :: outer).head?, i ≤ width + 2 := by simp
  have noEdge (name rest : List Char) (line : Nat) :
      Place.atDocumentEdge ⟨name ++ ':' :: rest, line, width + 2⟩ = false :=
    Place.atDocumentEdge_of_column (Nat.succ_pos _)
  have token := field (by decide) bare_token (by decide) format.token (noEdge _) (by simp)
    (entered_deeper deeper) le_rfl
    (starts_fieldText (width + 2) (by decide) bare_pattern format.pattern
      (indentation count ++ follow))
  have pattern := field (by decide) bare_pattern (by decide) format.pattern (noEdge _) inside
    (entered_same _ _) (Nat.le_add_right_of_le back : count ≤ width + 2) starts
  -- The first field opens the mapping of the format, so that it ends nothing. The second is at the
  -- same depth, opens nothing and ends what the line behind it is less deep than.
  rw [opened_deeper deeper, ended_eq_nil inside, kept_eq_self inside] at token
  rw [opened_same, ended_cons (by omega), kept_cons (by omega)] at pattern
  rw [fieldText_append] at token
  have both := token.trans pattern
  rw [← fieldText_append, ← fieldText_append] at both
  unfold formatText formatTokens
  simpa only [List.append_assoc, List.cons_append, List.nil_append, indentStep] using both

/-- The text of a sequence, from behind the mark of its first item. -/
def itemsText (width : Nat) : Format → List Format → List Char
  | format, [] => formatText width format
  | format, next :: formats =>
    formatText width format ++ (indentation width ++ '-' :: ' ' :: itemsText width next formats)

theorem sequenceText_cons (width : Nat) (format : Format) (formats : List Format) :
    sequenceText width (format :: formats) = '-' :: ' ' :: itemsText width format formats := by
  have same (formats : List Format) : sequenceText width formats
      = (indentation width).intercalate
        (formats.map fun format => '-' :: ' ' :: formatText width format) := by
    simp [sequenceText, formatText]
  induction formats generalizing format with
  | nil => rw [same, List.map_singleton, List.intercalate_singleton, itemsText]
  | cons next formats ih =>
      have rest := ih next
      rw [same, List.map_cons] at rest
      rw [same, List.map_cons, List.map_cons, List.intercalate_cons_cons, rest, itemsText]
      simp

theorem starts_items (width : Nat) (format : Format) (formats : List Format)
    (rest : List Char) : Starts (itemsText width format formats ++ rest) := by
  have begins (more : List Char) : Starts (formatText width format ++ more) := by
    unfold formatText
    dsimp only
    rw [List.append_assoc, List.append_assoc]
    exact starts_fieldText _ (by decide) bare_token _ _
  cases formats with
  | nil => exact begins rest
  | cons next formats =>
      rw [itemsText, List.append_assoc]
      exact begins _

theorem yields_items (format : Format) (formats : List Format) (back : count ≤ width)
    (starts : Starts follow) :
    Yields ⟨itemsText width format formats ++ (indentation count ++ follow), width + 2,
        width :: outer, true⟩
      (formatTokens format ++ (itemTokens formats ++ ended (width :: outer) count))
      ⟨follow, count, kept (width :: outer) count, true⟩ := by
  -- The lines of an item that is not the last one end where the mark of the next one stands.
  induction formats generalizing format with
  | nil => exact yields_format format back starts
  | cons next formats ih =>
      have inside : ∀ i ∈ (width :: outer).head?, i ≤ width := by simp
      have first := @yields_format width width outer _ format le_rfl
        (starts_cons (by decide : BeginsToken '-')
          (' ' :: (itemsText width next formats ++ (indentation count ++ follow))))
      have item := mark .entry (starts_items width next formats (indentation count ++ follow))
        inside
      rw [ended_eq_nil inside, kept_eq_self inside] at first
      rw [opened_same, entered_same] at item
      have all := (first.trans item).trans (ih next)
      unfold itemTokens at all ⊢
      simpa [itemsText] using all

/-- **A sequence and its tokens.** It opens a list, unless it stands where one goes on. -/
theorem yields_sequence {formats : List Format} (inhabited : formats ≠ []) {indents : List Nat}
    (inside : ∀ i ∈ indents.head?, i ≤ width) (opens : entered indents width = width :: outer)
    (back : count ≤ width) (starts : Starts follow) :
    Yields ⟨sequenceText width formats ++ (indentation count ++ follow), width, indents, true⟩
      (opened indents width .blockSequenceStart
        ++ (itemTokens formats ++ ended (width :: outer) count))
      ⟨follow, count, kept (width :: outer) count, true⟩ := by
  obtain ⟨format, formats, rfl⟩ := List.exists_cons_of_ne_nil inhabited
  have item := mark .entry (starts_items width format formats (indentation count ++ follow)) inside
  rw [opens] at item
  have all := item.trans (@yields_items width count outer follow format formats back starts)
  rw [sequenceText_cons]
  unfold itemTokens at all ⊢
  simpa using all

end Sequences

/-! ### Date sequences -/

/-- The text of a date sequence under its identifier, from behind its indentation. -/
def entryText (id : String) (formats : List Format) : List Char :=
  if isSimpleKey id then
    scalarText 4 id ++ ':' :: '\n' :: (indentation 2 ++ sequenceText 2 formats)
  else
    '?' :: ' ' :: (scalarText 4 id ++ (lineEnd (scalarText 4 id)
      ++ (indentation 2 ++ ':' :: ' ' :: sequenceText 4 formats)))

/-- The text of date sequences. -/
def datesText (dates : DateSequences) : List Char :=
  dates.flatMap fun (id, formats) => dateEntryText id formats

theorem dateEntryText_eq (id : String) (formats : List Format) :
    dateEntryText id formats = indentation 2 ++ entryText id formats := by
  unfold dateEntryText entryText indentStep
  dsimp only
  split
  · simp
  · rw [endLine_eq, lineEnd_append _ (written_scalarText _ _).ne_nil]
    simp

theorem starts_sequence {formats : List Format} (inhabited : formats ≠ []) (width : Nat)
    (rest : List Char) : Starts (sequenceText width formats ++ rest) := by
  obtain ⟨format, formats, rfl⟩ := List.exists_cons_of_ne_nil inhabited
  rw [sequenceText_cons]
  exact starts_cons (by decide) _

theorem isSimpleKey_iff {id : String} :
    isSimpleKey id = true ↔ (∀ c ∈ id.toList, isAnyBreak c = false)
      ∧ String.utf8Len id.toList ≤ maxSimpleKey := by
  have bytes : id.utf8ByteSize = String.utf8Len id.toList := by
    rw [← String.utf8ByteSize_ofList, String.ofList_toList]
  unfold isSimpleKey
  rw [bytes]
  simp

/-- **A date sequence and its tokens**, under an identifier of either kind. -/
theorem yields_entry (id : String) {formats : List Format} (inhabited : formats ≠ [])
    {indents : List Nat} (inside : ∀ i ∈ indents.head?, i ≤ 2) (opens : entered indents 2 = [2, 0])
    {count : Nat} (back : count ≤ 2) {follow : List Char} (starts : Starts follow) :
    Yields ⟨entryText id formats ++ (indentation count ++ follow), 2, indents, true⟩
      (opened indents 2 .blockMappingStart ++ (entryTokens id formats ++ ended [2, 0] count))
      ⟨follow, count, kept [2, 0] count, true⟩ := by
  unfold entryText entryTokens sequenceTokens
  by_cases simple : isSimpleKey id = true
  · rw [if_pos simple, simple]
    obtain ⟨flat, few⟩ := isSimpleKey_iff.mp simple
    have name := heading (by decide) (written_scalarText 4 id) flat few
      (fun _ _ => Place.atDocumentEdge_of_column (by decide : 0 < 2)) inside opens le_rfl
      (starts_sequence inhabited 2 (indentation count ++ follow))
    have all := name.trans (yields_sequence inhabited (by decide) rfl back starts)
    rw [opened_same] at all
    simpa [scalarToken] using all
  · rw [if_neg simple, Bool.eq_false_iff.mpr simple]
    have colon : Starts (':' :: ' ' :: (sequenceText 4 formats
        ++ (indentation count ++ follow))) := starts_cons (by decide) _
    -- The sequence stands further in here, and so has an end of its own.
    have closes : ended [4, 2, 0] count = .blockEnd :: ended [2, 0] count :=
      ended_cons (by omega) _
    have goesOn : kept [4, 2, 0] count = kept [2, 0] count := kept_cons (by omega) _
    have question := mark .key ((written_scalarText 4 id).starts (lineEnd (scalarText 4 id)
      ++ (indentation 2 ++ ':' :: ' ' :: (sequenceText 4 formats
        ++ (indentation count ++ follow))))) inside
    rw [opens] at question
    have name := question.trans (scalar id le_rfl colon (by decide))
    have value := name.trans
      (mark .value (starts_sequence inhabited 4 (indentation count ++ follow)) (by decide))
    have all := value.trans (yields_sequence inhabited (by decide) rfl (by omega) starts)
    have blocks : entered (kept [2, 0] 2) 2 = [2, 0] := rfl
    rw [blocks, closes, goesOn] at all
    simpa [opened, ended, kept] using all

theorem starts_entry (id : String) (formats : List Format) (rest : List Char) :
    Starts (entryText id formats ++ rest) := by
  unfold entryText
  split
  · rw [List.append_assoc]
    exact (written_scalarText 4 id).starts _
  · exact starts_cons (by decide : BeginsToken '?') _

/-- The date sequences to the end of their record. -/
theorem yields_entries (id : String) (formats : List Format) (entries : DateSequences)
    (inhabited : ∀ entry ∈ (id, formats) :: entries, entry.2 ≠ []) {indents : List Nat}
    (inside : ∀ i ∈ indents.head?, i ≤ 2) (opens : entered indents 2 = [2, 0])
    {follow : List Char} (starts : Starts follow) :
    Yields ⟨entryText id formats ++ (datesText entries ++ follow), 2, indents, true⟩
      (opened indents 2 .blockMappingStart
        ++ (entryTokens id formats ++ (datesTokens entries ++ [.blockEnd])))
      ⟨follow, 0, [0], true⟩ := by
  induction entries generalizing id formats indents with
  | nil =>
      exact yields_entry id (inhabited _ List.mem_cons_self) inside opens (Nat.zero_le 2) starts
  | cons next entries ih =>
      obtain ⟨nextId, nextFormats⟩ := next
      have first := yields_entry id (inhabited _ List.mem_cons_self) inside opens le_rfl
        (starts_entry nextId nextFormats (datesText entries ++ follow))
      have goesOn : kept [2, 0] 2 = [2, 0] := rfl
      have noEnd : ended [2, 0] 2 = [] := rfl
      rw [goesOn, noEnd] at first
      have others := ih nextId nextFormats
        (fun entry mem => inhabited entry (List.mem_cons_of_mem _ mem))
        (by decide : ∀ i ∈ [2, 0].head?, i ≤ 2) rfl
      have all := first.trans others
      unfold datesText datesTokens at all ⊢
      simpa [dateEntryText_eq, opened] using all

/-! ### The catalog -/

theorem printable_endLine {text : List Char} (printable : Printable text) :
    Printable (endLine text) := by
  unfold endLine
  split
  · exact printable
  · exact printable.append (by decide)

theorem printable_formatText (width : Nat) (format : Format) :
    Printable (formatText width format) := by
  have field (name value : String) (printable : Printable name.toList) :
      Printable (fieldText (width + indentStep) name value) :=
    printable_endLine ((printable.append (by decide)).append (printable_scalarText _ _))
  exact ((field _ _ (by decide)).append (printable_indentation _)).append (field _ _ (by decide))

theorem printable_itemsText (width : Nat) (format : Format) (formats : List Format) :
    Printable (itemsText width format formats) := by
  induction formats generalizing format with
  | nil => exact printable_formatText width format
  | cons next formats ih =>
      exact (printable_formatText width format).append ((printable_indentation width).append
        (.cons (by decide) (.cons (by decide) (ih next))))

theorem printable_sequenceText (width : Nat) (formats : List Format) :
    Printable (sequenceText width formats) := by
  cases formats with
  | nil => simp [sequenceText, Printable]
  | cons format formats =>
      rw [sequenceText_cons]
      exact .cons (by decide) (.cons (by decide) (printable_itemsText width format formats))

theorem printable_dateEntryText (id : String) (formats : List Format) :
    Printable (dateEntryText id formats) := by
  have name := printable_scalarText 4 id
  unfold dateEntryText
  dsimp only
  split
  · exact ((((printable_indentation _).append name).append (by decide)).append
      (printable_indentation _)).append (printable_sequenceText _ _)
  · exact ((((printable_indentation _).append
      (printable_endLine (Printable.append (by decide) name))).append
      (printable_indentation _)).append (by decide)).append (printable_sequenceText _ _)

theorem printable_toYaml (catalog : Catalog) : Printable catalog.toYaml.toList := by
  unfold toYaml
  rw [String.toList_ofList]
  refine Printable.append (Printable.append (Printable.append (by decide) (.flatMap ?_))
    (by decide)) (printable_sequenceText _ _)
  exact fun entry _ => printable_dateEntryText entry.1 entry.2

theorem bare_date_formats : Bare "date_formats".toList := bare_of_allowsPlain (by decide)

theorem bare_time_formats : Bare "time_formats".toList := bare_of_allowsPlain (by decide)

theorem yields_times {times : List Format} (inhabited : times ≠ []) :
    Yields ⟨"time_formats".toList ++ ':' :: '\n' :: sequenceText 0 times, 0, [0], true⟩
      ([.key, .scalar "time_formats".toList .plain, .value] ++ itemTokens times)
      ⟨[], 0, [0], true⟩ := by
  have written : Yaml.Written 1 "time_formats".toList "time_formats".toList .plain :=
    .bare (by decide) bare_time_formats
  have name := heading (by decide) written bare_time_formats.unbroken (by decide)
    (fun _ _ => rfl) (by decide : ∀ i ∈ [0].head?, i ≤ 0) rfl (Nat.le_refl 0)
    (starts_sequence inhabited 0 [])
  have all := name.trans (@yields_sequence 0 0 [] [] times inhabited [0] (by decide) rfl le_rfl
    starts_nil)
  simpa [indentation, opened, ended, kept] using all

theorem yields_dates {dates : DateSequences} (filled : dates ≠ [])
    (inhabited : ∀ entry ∈ dates, entry.2 ≠ []) {follow : List Char} (starts : Starts follow) :
    Yields ⟨"date_formats".toList ++ ':' :: '\n' :: (datesText dates ++ follow), 0, [], true⟩
      ([.blockMappingStart, .key, .scalar "date_formats".toList .plain, .value, .blockMappingStart]
        ++ datesTokens dates ++ [.blockEnd])
      ⟨follow, 0, [0], true⟩ := by
  obtain ⟨⟨id, formats⟩, entries, rfl⟩ := List.exists_cons_of_ne_nil filled
  have written : Yaml.Written 1 "date_formats".toList "date_formats".toList .plain :=
    .bare (by decide) bare_date_formats
  have name := heading (by decide) written bare_date_formats.unbroken (by decide)
    (fun _ _ => rfl) (by decide : ∀ i ∈ [].head?, i ≤ 0) rfl (Nat.zero_le 2)
    (starts_entry id formats (datesText entries ++ follow))
  have all := name.trans (yields_entries id formats entries inhabited (by decide) rfl starts)
  unfold datesText datesTokens at all ⊢
  simpa [dateEntryText_eq, opened] using all

/-- **The text of a catalog is read as its tokens.** -/
theorem ofChars?_toYaml (catalog : Catalog) :
    Token.ofChars? catalog.toYaml.toList = some catalog.tokens := by
  obtain ⟨filled, dates, times⟩ := check_eq_ok_iff.mp catalog.checked
  have nonempty (entry : String × List Format) (mem : entry ∈ catalog.dates) : entry.2 ≠ [] :=
    (checkSequence_eq_ok_iff.mp (dates entry mem)).1
  have begins : Starts ("time_formats".toList ++ ':' :: '\n' :: sequenceText 0 catalog.times) :=
    starts_cons (by decide : BeginsToken 't') _
  have all := (yields_dates filled nonempty begins).trans
    (yields_times (checkSequence_eq_ok_iff.mp times).1)
  have text : catalog.toYaml.toList = "date_formats".toList ++ ':' :: '\n'
      :: (datesText catalog.dates
        ++ ("time_formats".toList ++ ':' :: '\n' :: sequenceText 0 catalog.times)) := by
    unfold toYaml
    rw [String.toList_ofList, List.append_assoc, List.append_assoc]
    rfl
  rw [← text] at all
  rw [Token.ofChars?_of_yields (printable_toYaml catalog) all (by decide)]
  unfold tokens
  simp

end ColumnCast.Catalog
