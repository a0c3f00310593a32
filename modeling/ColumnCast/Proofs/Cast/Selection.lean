import ColumnCast.Cast
import ColumnCast.Catalog.Builtin
import ColumnCast.Proofs.Select

/-!
# `ColumnCast.Proofs.Cast.Selection`: what a choice of options is worth

A multi select column holds options with commas between. This file is
about the cells that one would write for it: some options of the column,
in any order and as often as one likes, joined by commas.

`coerce_chosen` says which of these cells come back unchanged. A comma
within an option cannot be told from one between two options, so the
parts of such an option are looked up one by one. And a choice of nothing
but the empty option is no text at all, which means `NULL`. All other
choices come back (`coerce_apart` has both exceptions at work).
-/

set_option autoImplicit false

namespace ColumnCast.CastRequest

variable {request : CastRequest}

/-- Selects have no limit that could be refused. -/
theorem checkLimit_of_enumerated (enumerated : request.type.category = .enumerated) :
    request.checkLimit = .ok () := by
  have noRating : request.type ≠ .rating := by
    intro rating
    rw [rating] at enumerated
    exact absurd enumerated (by decide)
  unfold checkLimit
  cases request.limit with
  | none => rfl
  | some limit => simp [allowsLimit, noRating, enumerated]

theorem coerce_singleSelect (catalog : Catalog) (type : request.type = .singleSelect)
    (cell : String) :
    request.coerce catalog cell = .ok ((Select.readSingle? request.options cell).map .text) := by
  unfold coerce
  rw [checkLimit_of_enumerated (by rw [type]; rfl), type]
  rfl

theorem coerce_multiSelect (catalog : Catalog) (type : request.type = .multiSelect)
    (cell : String) :
    request.coerce catalog cell = .ok ((Select.readMulti? request.options cell).map .text) := by
  unfold coerce
  rw [checkLimit_of_enumerated (by rw [type]; rfl), type]
  rfl

/-- A multi select keeps a cell as a whole just if the choice of its parts does. -/
theorem coerce_eq_self_iff (catalog : Catalog) (type : request.type = .multiSelect)
    (cell : String) :
    request.coerce catalog cell = .ok (some (.text cell))
      ↔ Select.readMulti? request.options cell = some cell := by
  rw [coerce_multiSelect catalog type, Except.ok.injEq, Option.map_eq_some_iff]
  constructor
  · rintro ⟨kept, read, same⟩
    rw [read, Value.text.inj same]
  · exact fun read => ⟨cell, read, rfl⟩

/-- **A choice of options comes back as it is**, unless it is the empty option alone or has an
option with a comma in it, parts of which are no options. An option that a single select passes
through is such a choice. -/
theorem coerce_chosen (catalog : Catalog) (type : request.type = .multiSelect)
    {chosen : List String} (inhabited : chosen ≠ [])
    (valid : ∀ option ∈ chosen, option ∈ request.options) :
    (request.coerce catalog (",".intercalate chosen)
        = .ok (some (.text (",".intercalate chosen)))
      ↔ chosen ≠ [""] ∧ ∀ option ∈ chosen, ∀ part ∈ option.toList.splitOn ',',
        String.ofList part ∈ request.options)
    ∧ (chosen ≠ [""] → (∀ option ∈ chosen, ',' ∉ option.toList) →
      request.coerce catalog (",".intercalate chosen)
        = .ok (some (.text (",".intercalate chosen))))
    ∧ ∀ option ∈ chosen,
      { request with type := .singleSelect }.coerce catalog option = .ok (some (.text option))
      ∧ (option ≠ "" → ',' ∉ option.toList →
        request.coerce catalog option = .ok (some (.text option))) := by
  -- An option without a comma is its own only part.
  have whole : ∀ {option : String}, option ∈ request.options → ',' ∉ option.toList →
      ∀ part ∈ option.toList.splitOn ',', String.ofList part ∈ request.options := by
    intro option mem free part isPart
    rw [List.splitOn_eq_singleton free, List.mem_singleton] at isPart
    rw [isPart, String.ofList_toList]
    exact mem
  have iff := (coerce_eq_self_iff catalog type (",".intercalate chosen)).trans
    (Select.readMulti?_chosen_iff inhabited)
  refine ⟨iff, fun notEmpty free => ?_, fun option mem => ⟨?_, fun notEmpty free => ?_⟩⟩
  · exact iff.mpr ⟨notEmpty, fun option mem => whole (valid option mem) (free option mem)⟩
  · rw [coerce_singleSelect catalog rfl,
      Select.readSingle?_eq_some_iff.mpr ⟨valid option mem, rfl⟩]
    rfl
  · rw [coerce_eq_self_iff catalog type, Select.readMulti?_eq_self_iff]
    refine ⟨notEmpty, ?_⟩
    rw [Text.splitOn_eq]
    exact whole (valid option mem) free

/-- Three options, the empty one between two: the one with a comma is an option by itself and
falls into parts that are options too. -/
theorem coerce_chosen_parts :
    (["S,M", "", "S"] ≠ [] ∧ ∀ option ∈ ["S,M", "", "S"], option ∈ ["", "M", "S", "S,M"])
      ∧ CastRequest.coerce Catalog.builtin
        { type := .multiSelect, source := "\"sizes\"", options := ["", "M", "S", "S,M"] } "S,M,,S"
        = .ok (some (.text "S,M,,S")) := by
  have type : ({ type := .multiSelect, source := "\"sizes\"", options := ["", "M", "S", "S,M"] }
      : CastRequest).type = .multiSelect := rfl
  have inhabited : ["S,M", "", "S"] ≠ [] := by decide
  have valid : ∀ option ∈ ["S,M", "", "S"], option ∈ ["", "M", "S", "S,M"] := by decide
  have kept := (coerce_chosen Catalog.builtin type inhabited valid).1
  exact ⟨⟨inhabited, valid⟩, kept.mpr (by decide)⟩

/-- An option with a comma falls into parts that are no options, and the empty option alone is no
text. A single select passes either through, and a multi select keeps neither. -/
theorem coerce_apart :
    "S,M" ∈ ["S,M", ""] ∧ "" ∈ ["S,M", ""]
      ∧ CastRequest.coerce Catalog.builtin
        { type := .singleSelect, source := "\"sizes\"", options := ["S,M", ""] } "S,M"
        = .ok (some (.text "S,M"))
      ∧ CastRequest.coerce Catalog.builtin
        { type := .multiSelect, source := "\"sizes\"", options := ["S,M", ""] }
        (",".intercalate ["S,M"]) = .ok none
      ∧ CastRequest.coerce Catalog.builtin
        { type := .singleSelect, source := "\"sizes\"", options := ["S,M", ""] } ""
        = .ok (some (.text ""))
      ∧ CastRequest.coerce Catalog.builtin
        { type := .multiSelect, source := "\"sizes\"", options := ["S,M", ""] }
        (",".intercalate [""]) = .ok none := by
  decide

end ColumnCast.CastRequest
