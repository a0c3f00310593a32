import ColumnCast.Catalog
import ColumnCast.Document

/-!
# `ColumnCast.Catalog.Document`: catalogs in documents

A catalog document has two fields: `date_formats`, a record of sequences,
and `time_formats`, one sequence. What has that shape need not be a
catalog: `Catalog.ofDocument` also checks the formats.
-/

set_option autoImplicit false

namespace ColumnCast

variable {ν : Type} [Document ν]

/-- The format in a document. -/
def Format.ofDocument? (document : ν) : Option Format := do
  let field ← Document.fields? ["token", "pattern"] document
  return ⟨← Document.text? (← field "token"), ← Document.text? (← field "pattern")⟩

namespace Catalog

/-- The formats of dates and times in a document of the right shape. -/
def formatsOfDocument? (document : ν) : Option (DateSequences × List Format) := do
  let field ← Document.fields? ["date_formats", "time_formats"] document
  let sequence? : ν → Option (List Format) := Document.listOf? Format.ofDocument?
  return (← Document.entries? sequence? (← field "date_formats"),
    ← sequence? (← field "time_formats"))

/-- The catalog in a document. -/
def ofDocument (document : ν) : Except CastError Catalog :=
  match formatsOfDocument? document with
  | some (dates, times) => ofFormats dates times
  | none => .error (.badCatalog .unreadable)

end Catalog

end ColumnCast
