import ColumnCast.Catalog.Builtin
import ColumnCast.Proofs.Catalog.Order
import ColumnCast.Proofs.Catalog.Tokens
import ColumnCast.Proofs.Yaml.Reading

/-!
# `ColumnCast.Proofs.Catalog.Yaml`: a catalog is its text

Writing a catalog as YAML and reading it back gives the same catalog
(`ofYaml_toYaml`), for every catalog that can be obtained, and so whatever
its identifiers, tokens and patterns hold. The tokens of the text are read
as one node (`readDocument?_tokens`), the node as the formats of the
catalog (`formatsOfDocument?_node`), and these as the catalog, since the
identifiers of an obtained one stand in order already (`Obtained.sorted`).
-/

set_option autoImplicit false

namespace ColumnCast.Catalog

open Yaml Yaml.Yields

/-! ### Nodes -/

/-- The node of a string. -/
def scalarNode (string : String) : Node := .scalar ⟨string, scalarStyle string, none⟩

/-- The node of a field's name. -/
def nameNode (name : String) : Node := .scalar ⟨name, .plain, none⟩

/-- The node of a format. -/
def formatNode (format : Format) : Node :=
  .record [(nameNode "token", scalarNode format.token),
    (nameNode "pattern", scalarNode format.pattern)]

/-- The node of a sequence. -/
def sequenceNode (formats : List Format) : Node := .list (formats.map formatNode)

/-- The node of a catalog. -/
def node (catalog : Catalog) : Node :=
  .record [(nameNode "date_formats",
      .record (catalog.dates.map fun (id, formats) => (scalarNode id, sequenceNode formats))),
    (nameNode "time_formats", sequenceNode catalog.times)]

section Reads

variable {handles : TagHandles} {rest : List Token} {setting : Setting} {ends : List Token}

/-- A string is read as a name or a value of a record. -/
theorem reads_text (text : String) (style : Style) :
    Reads (fun rounds => readUnless handles rounds .pair [.key, .value, .blockEnd]) 3
      [.scalar text.toList style] (.scalar ⟨text, style, none⟩) rest := by
  have reads : Reads (fun rounds => readNode handles rounds .pair) 2 [.scalar text.toList style]
      (.scalar ⟨String.ofList text.toList, style, none⟩) rest := reads_scalar _ _
  rw [String.ofList_toList] at reads
  exact reads.unless rfl

/-- A format is read as an item, unless a record could not stand there. -/
theorem reads_format (format : Format) (notEnd : ends.contains .blockMappingStart = false) :
    Reads (fun rounds => readUnless handles rounds .block ends) 8 (formatTokens format)
      (formatNode format) rest := by
  have pattern := reads_pairs_cons (reads_text "pattern" .plain)
    (reads_text format.pattern (scalarStyle format.pattern))
    ((reads_pairs_nil handles rest).mono (by decide : 1 ≤ 3))
  have both := reads_pairs_cons ((reads_text "token" .plain).mono (by decide : 3 ≤ 4))
    ((reads_text format.token (scalarStyle format.token)).mono (by decide)) pattern
  have record : Reads (fun rounds => readNode handles rounds .block) 7 (formatTokens format)
    (formatNode format) rest := reads_record (by simp) both
  exact record.unless notEnd

theorem reads_items (handles : TagHandles) (rest : List Token) (formats : List Format) :
    Reads (fun rounds => readItems handles rounds) (formats.length + 8)
      (itemTokens formats ++ [.blockEnd]) (formats.map formatNode) rest := by
  induction formats with
  | nil => exact (reads_items_nil handles rest).mono (by decide)
  | cons format formats ih =>
      have all := reads_items_cons
        ((reads_format format rfl).mono (Nat.le_add_left 8 formats.length)) ih
      rw [List.length_cons, Nat.add_right_comm]
      simpa [itemTokens] using all

theorem reads_looseItems (handles : TagHandles) (behind : rest.head? ≠ some .blockEntry)
    (formats : List Format) :
    Reads (fun rounds => readLooseItems handles rounds) (formats.length + 8)
      (itemTokens formats) (formats.map formatNode) rest := by
  induction formats with
  | nil => exact (reads_looseItems_nil handles behind).mono (by decide)
  | cons format formats ih =>
      have all := reads_looseItems_cons
        ((reads_format format rfl).mono (Nat.le_add_left 8 formats.length)) ih
      rw [List.length_cons, Nat.add_right_comm]
      simpa [itemTokens] using all

/-- A sequence is the value of its identifier, indented or not. -/
theorem reads_sequence (handles : TagHandles) (behind : rest.head? ≠ some .blockEntry)
    {formats : List Format} (inhabited : formats ≠ []) (indented : Bool) :
    Reads (fun rounds => readUnless handles rounds .pair [.key, .value, .blockEnd])
      (formats.length + 11) (sequenceTokens indented formats) (sequenceNode formats) rest := by
  cases indented with
  | true =>
      have items := reads_items handles rest formats
      have list : Reads (fun rounds => readNode handles rounds .pair) (formats.length + 10)
        (.blockSequenceStart :: (itemTokens formats ++ [.blockEnd])) (sequenceNode formats) rest :=
        reads_list (by simp) items
      exact list.unless rfl
  | false =>
      obtain ⟨format, formats, rfl⟩ := List.exists_cons_of_ne_nil inhabited
      have items := reads_looseItems handles behind (format :: formats)
      exact (reads_looseList items).unless rfl

theorem reads_entry (handles : TagHandles) (id : String) {formats : List Format}
    (inhabited : formats ≠ []) {fields : List (Node × Node)} {more : List Token} {need : Nat}
    (length : formats.length + 11 ≤ need) (behind : (more ++ rest).head? ≠ some .blockEntry)
    (others : Reads (fun rounds => readPairs handles rounds) need more fields rest) :
    Reads (fun rounds => readPairs handles rounds) (need + 1) (entryTokens id formats ++ more)
      ((scalarNode id, sequenceNode formats) :: fields) rest := by
  have value := (reads_sequence handles behind inhabited (!isSimpleKey id)).mono length
  exact reads_pairs_cons ((reads_text id (scalarStyle id)).mono (by omega : 3 ≤ need)) value others

theorem reads_entries (handles : TagHandles) (rest : List Token) {limit : Nat}
    (entries : DateSequences) (inhabited : ∀ entry ∈ entries, entry.2 ≠ [])
    (few : ∀ entry ∈ entries, entry.2.length ≤ limit) :
    Reads (fun rounds => readPairs handles rounds) (entries.length + (limit + 11))
      (datesTokens entries ++ [.blockEnd])
      (entries.map fun (id, formats) => (scalarNode id, sequenceNode formats)) rest := by
  induction entries with
  | nil => exact (reads_pairs_nil handles rest).mono (by omega)
  | cons entry entries ih =>
      obtain ⟨id, formats⟩ := entry
      have others := ih (fun entry mem => inhabited entry (List.mem_cons_of_mem _ mem))
        (fun entry mem => few entry (List.mem_cons_of_mem _ mem))
      have length : formats.length ≤ limit := few _ List.mem_cons_self
      have behind : (datesTokens entries ++ [Token.blockEnd] ++ rest).head? ≠ some .blockEntry := by
        cases entries <;> simp [datesTokens, entryTokens]
      have all := reads_entry handles id (inhabited _ List.mem_cons_self)
        (by omega : formats.length + 11 ≤ entries.length + (limit + 11)) behind others
      rw [List.length_cons, Nat.add_right_comm]
      unfold datesTokens at all ⊢
      rw [List.flatMap_cons, List.append_assoc]
      exact all

end Reads

/-! ### Documents -/

theorem length_itemTokens (formats : List Format) :
    formats.length ≤ (itemTokens formats).length := by
  induction formats with
  | nil => exact le_rfl
  | cons format formats ih =>
      unfold itemTokens at ih ⊢
      rw [List.flatMap_cons, List.length_append, List.length_cons, List.length_cons]
      omega

theorem length_entryTokens (id : String) (formats : List Format) :
    formats.length < (entryTokens id formats).length := by
  have items := length_itemTokens formats
  unfold entryTokens sequenceTokens
  split <;> simp only [List.length_cons, List.length_append] <;> omega

/-- There are no more sequences than tokens of them, nor formats in any. -/
theorem length_datesTokens (dates : DateSequences) :
    dates.length ≤ (datesTokens dates).length
      ∧ ∀ entry ∈ dates, entry.2.length ≤ (datesTokens dates).length := by
  induction dates with
  | nil => simp
  | cons entry dates ih =>
      obtain ⟨id, formats⟩ := entry
      have first := length_entryTokens id formats
      have split : datesTokens ((id, formats) :: dates)
          = entryTokens id formats ++ datesTokens dates := rfl
      rw [split, List.length_append, List.length_cons]
      refine ⟨by omega, fun other mem => ?_⟩
      rcases List.mem_cons.mp mem with rfl | mem
      · exact Nat.le_add_right_of_le first.le
      · exact Nat.le_add_left_of_le (ih.2 other mem)

theorem reads_catalog (handles : TagHandles) (catalog : Catalog) :
    Reads (fun rounds => readNode handles rounds .block)
      (catalog.times.length + (catalog.dates.length + ((datesTokens catalog.dates).length + 30)))
      catalog.tokens catalog.node [] := by
  obtain ⟨-, dates, times⟩ := check_eq_ok_iff.mp catalog.checked
  have nonempty (entry : String × List Format) (mem : entry ∈ catalog.dates) : entry.2 ≠ [] :=
    (checkSequence_eq_ok_iff.mp (dates entry mem)).1
  have timesField := reads_pairs_cons ((reads_text "time_formats" .plain).mono (by omega))
    (reads_sequence handles (by simp : ([Token.blockEnd] ++ []).head? ≠ some .blockEntry)
      (checkSequence_eq_ok_iff.mp times).1 false)
    ((reads_pairs_nil handles []).mono (by omega : 1 ≤ catalog.times.length + 11))
  have entries {rest : List Token} := reads_entries handles rest catalog.dates nonempty
    (length_datesTokens catalog.dates).2
  -- The record of dates stands before the times, and has its own end.
  have record {rest : List Token} := (reads_record (by simp : Setting.pair ≠ .flow)
    (@entries rest)).unless
    (by rfl : [Token.key, .value, .blockEnd].contains .blockMappingStart = false)
  have fields := reads_pairs_cons ((reads_text "date_formats" .plain).mono (by omega))
    (record.mono (by omega : _ ≤ catalog.times.length
      + (catalog.dates.length + ((datesTokens catalog.dates).length + 20))))
    (timesField.mono (by omega))
  have all := (reads_record (by simp : Setting.block ≠ .flow) fields).mono
    (by omega : _ ≤ catalog.times.length
      + (catalog.dates.length + ((datesTokens catalog.dates).length + 30)))
  unfold tokens
  simpa [sequenceTokens, node, nameNode] using all

/-- **The tokens of a catalog are one document**, its node. -/
theorem readDocument?_tokens (catalog : Catalog) :
    readDocument? catalog.tokens = some (catalog.node, []) := by
  -- Rounds are given by the number of tokens, and needed by that of sequences and formats.
  have few := (length_datesTokens catalog.dates).1
  have few' := length_itemTokens catalog.times
  have enough : catalog.times.length
      + (catalog.dates.length + ((datesTokens catalog.dates).length + 30))
      ≤ 4 * catalog.tokens.length + 4 := by
    unfold tokens
    simp only [List.length_append, List.length_cons, List.length_nil]
    omega
  have read := reads_catalog defaultHandles catalog _ [] enough
  rw [List.append_nil] at read
  unfold readDocument?
  show ((readNode defaultHandles (4 * catalog.tokens.length + 4) .block).run
    ⟨catalog.tokens, []⟩).bind _ = _
  rw [read]
  rfl

/-! ### Documents -/

/-- What gives every member back gives the list back. -/
theorem mapM_map_eq_some {α β : Type} {read? : α → Option β} {write : β → α} {items : List β}
    (each : ∀ item ∈ items, read? (write item) = some item) :
    (items.map write).mapM read? = some items := by
  induction items with
  | nil => rfl
  | cons item items ih =>
      rw [List.map_cons, List.mapM_cons, each item List.mem_cons_self,
        ih fun other mem => each other (List.mem_cons_of_mem _ mem)]
      rfl

section Documents

variable (anchors : List (Nat × Node))

/-- A record of two fields is looked up by their names. -/
theorem fields?_pair {first second : String} (distinct : first ≠ second) (a b : Node) :
    Document.fields? [first, second]
        (⟨anchors, .record [(nameNode first, a), (nameNode second, b)]⟩ : Root)
      = some fun name =>
        List.lookup name [(first, (⟨anchors, a⟩ : Root)), (second, (⟨anchors, b⟩ : Root))] := by
  have once : Document.hasRepeated [first, second]
      [(first, (⟨anchors, a⟩ : Root)), (second, (⟨anchors, b⟩ : Root))] = false := by
    simp [Document.hasRepeated, distinct, distinct.symm]
  show (if Document.hasRepeated [first, second]
      [(first, (⟨anchors, a⟩ : Root)), (second, (⟨anchors, b⟩ : Root))] = true then none
    else some _) = _
  rw [once]
  rfl

theorem ofDocument?_formatNode (format : Format) :
    Format.ofDocument? (⟨anchors, formatNode format⟩ : Root) = some format := by
  unfold Format.ofDocument? formatNode
  rw [fields?_pair anchors (by decide)]
  simp [List.lookup_cons, scalarNode]
  rfl

theorem listOf?_sequenceNode (formats : List Format) :
    Document.listOf? Format.ofDocument? (⟨anchors, sequenceNode formats⟩ : Root)
      = some formats := by
  show ((formats.map formatNode).map fun item => (⟨anchors, item⟩ : Root)).mapM
    Format.ofDocument? = some formats
  rw [List.map_map]
  exact mapM_map_eq_some fun format _ => ofDocument?_formatNode anchors format

theorem entries?_dates (dates : DateSequences) :
    Document.entries? (Document.listOf? Format.ofDocument?)
        (⟨anchors,
          .record (dates.map fun (id, formats) => (scalarNode id, sequenceNode formats))⟩ : Root)
      = some dates := by
  unfold Document.entries?
  show ((dates.map _).map fun (name, value) =>
    ((⟨anchors, name⟩ : Root), (⟨anchors, value⟩ : Root))).mapM _ = some dates
  rw [List.map_map]
  refine mapM_map_eq_some fun entry _ => ?_
  obtain ⟨id, formats⟩ := entry
  show (Document.listOf? Format.ofDocument? (⟨anchors, sequenceNode formats⟩ : Root)).bind
    (fun formats => some (id, formats)) = _
  rw [listOf?_sequenceNode]
  rfl

/-- **The node of a catalog has its formats.** -/
theorem formatsOfDocument?_node (catalog : Catalog) :
    formatsOfDocument? (⟨anchors, catalog.node⟩ : Root) = some (catalog.dates, catalog.times) := by
  have dates := entries?_dates anchors catalog.dates
  have times := listOf?_sequenceNode anchors catalog.times
  unfold formatsOfDocument? node
  rw [fields?_pair anchors (by decide)]
  simp [List.lookup_cons, dates, times]

end Documents

/-- **The text of a catalog has its formats.** -/
theorem ofYaml_toYaml_eq (catalog : Catalog) :
    ofYaml catalog.toYaml = ofFormats catalog.dates catalog.times := by
  have root : Root.ofText? catalog.toYaml
      = some ⟨catalog.node.anchors.reverse, catalog.node⟩ := by
    unfold Root.ofText?
    rw [ofChars?_toYaml]
    show (readDocument? catalog.tokens).bind _ = _
    rw [readDocument?_tokens]
    rfl
  unfold ofYaml
  rw [root]
  show ofDocument _ = _
  unfold ofDocument
  rw [formatsOfDocument?_node]

/-! ### Catalogs that can be obtained -/

/-- The catalogs that there can be: made of formats, found in a document or a text, or built
in. -/
inductive Obtained : Catalog → Prop
  | ofFormats {dates : DateSequences} {times : List Format} {catalog : Catalog}
      (made : Catalog.ofFormats dates times = .ok catalog) : Obtained catalog
  | ofDocument {ν : Type} [Document ν] {document : ν} {catalog : Catalog}
      (made : Catalog.ofDocument document = .ok catalog) : Obtained catalog
  | ofYaml {text : String} {catalog : Catalog}
      (made : Catalog.ofYaml text = .ok catalog) : Obtained catalog
  | builtin : Obtained Catalog.builtin

theorem sorted_of_ofFormats {dates : DateSequences} {times : List Format} {catalog : Catalog}
    (made : ofFormats dates times = .ok catalog) : DateSequences.Sorted catalog.dates := by
  rw [eq_of_ofFormats made]
  exact DateSequences.sorted_ordered dates

theorem sorted_of_ofDocument {ν : Type} [Document ν] {document : ν} {catalog : Catalog}
    (made : ofDocument document = .ok catalog) : DateSequences.Sorted catalog.dates := by
  unfold ofDocument at made
  split at made
  · exact sorted_of_ofFormats made
  · exact absurd made (by simp)

theorem Obtained.sorted {catalog : Catalog} (obtained : Obtained catalog) :
    DateSequences.Sorted catalog.dates := by
  cases obtained with
  | ofFormats made => exact sorted_of_ofFormats made
  | ofDocument made => exact sorted_of_ofDocument made
  | ofYaml made =>
      unfold Catalog.ofYaml at made
      split at made
      · exact sorted_of_ofDocument made
      · exact absurd made (by simp)
  | builtin =>
      show DateSequences.Sorted builtinDates
      decide

/-- **Writing a catalog as YAML and reading it back gives the same catalog**, whatever its
identifiers, tokens and patterns hold. -/
theorem ofYaml_toYaml {catalog : Catalog} (obtained : Obtained catalog) :
    ofYaml catalog.toYaml = .ok catalog := by
  have same := obtained.sorted.ordered
  obtain ⟨dates, times, checked⟩ := catalog
  have ordered : DateSequences.ordered dates = dates := same
  rw [ofYaml_toYaml_eq]
  show ofFormats dates times = _
  rw [ofFormats_eq_ok dates times (ordered.symm ▸ checked)]
  simp [ordered]

/-- Among the strings there are numbers, words for nothing and for truth values, marks, quotes,
line breaks, blanks at both ends and characters that cannot be printed. -/
theorem ofYaml_toYaml_words :
    ∃ catalog, ofFormats
        [("yes: \"no\"\n", [⟨"null", "[0-9]+ "⟩, ⟨"1.5", " a|b\n\n"⟩]),
          ("true", [⟨"- #\x07", "~"⟩])]
        [⟨"", "it's"⟩, ⟨"two\nlines ", "\u2028x"⟩] = .ok catalog
      ∧ ofYaml catalog.toYaml = .ok catalog := by
  have checked : check (DateSequences.ordered
        [("yes: \"no\"\n", [⟨"null", "[0-9]+ "⟩, ⟨"1.5", " a|b\n\n"⟩]),
          ("true", [⟨"- #\x07", "~"⟩])])
        [⟨"", "it's"⟩, ⟨"two\nlines ", "\u2028x"⟩] = .ok () :=
    check_eq_ok_of_recognized (by decide) (by decide) (by decide) (by decide +kernel)
  have made := ofFormats_eq_ok _ _ checked
  exact ⟨_, made, ofYaml_toYaml (.ofFormats made)⟩

end ColumnCast.Catalog
