/-!
# `ColumnCast.Document`: structured configuration, before it has a meaning

A document is what a configuration file or a message holds: lists and
records over atoms. Notations differ in how they store that and in what a
bare word may stand for, so a document is any type with a `View` of one
level, and an `Atom` says how it can be read.

The readers below know what they look for, and ask. A record can also be
written as the list of its fields in their order. Every failure is the
same `none`: what is wrong with a document is not told apart.
-/

set_option autoImplicit false

namespace ColumnCast

/-- The ways in which an atom can be read. -/
structure Atom where
  text? : Option String := none
  /-- As a number without a sign. -/
  count? : Option Nat := none
  /-- Where nothing may stand: does nothing stand here? None if it cannot be told. -/
  isMissing? : Option Bool := some false
  /-- Does it also stand for a list without items and a record without fields? -/
  isVoid : Bool := false

/-- One level of a document. -/
inductive View (ν : Type)
  | atom (a : Atom)
  | list (items : List ν)
  | record (fields : List (ν × ν))

/-- The documents of a notation. -/
class Document (ν : Type) where
  view : ν → View ν

namespace Document

variable {ν α : Type} [Document ν]

/-- The text of an atom. -/
def text? (document : ν) : Option String :=
  match view document with
  | .atom a => a.text?
  | _ => none

/-- The number of an atom, if 32 bits hold it. -/
def word? (document : ν) : Option UInt32 :=
  match view document with
  | .atom a =>
    a.count?.bind fun number =>
      if number < 4294967296 then some (UInt32.ofNat number) else none
  | _ => none

/-- What `read?` makes of the document, unless nothing stands there. -/
def optional? (read? : ν → Option α) (document : ν) : Option (Option α) :=
  match view document with
  | .atom a => do
    if ← a.isMissing? then return none
    else return some (← read? document)
  | _ => do return some (← read? document)

/-- The items of a list, each as `read?` makes of it. -/
def listOf? (read? : ν → Option α) (document : ν) : Option (List α) :=
  match view document with
  | .list items => items.mapM read?
  | .atom a => if a.isVoid then some [] else none
  | .record _ => none

/-- The entries of a record whose names are not known beforehand. -/
def entries? (read? : ν → Option α) (document : ν) : Option (List (String × α)) :=
  match view document with
  | .record fields => fields.mapM fun (name, value) => do return (← text? name, ← read? value)
  | .atom a => if a.isVoid then some [] else none
  | .list _ => none

/-- Has a field that is looked for more than one value? -/
def hasRepeated (names : List String) (fields : List (String × ν)) : Bool :=
  names.any fun name => 2 ≤ (fields.filter fun field => field.1 == name).length

/-- The value of each named field. Fields of other names are passed over in a record, and
are too many in a list. -/
def fields? (names : List String) (document : ν) : Option (String → Option ν) :=
  match view document with
  | .record fields => do
    let named ← fields.mapM fun (name, value) => do return (← text? name, value)
    if hasRepeated names named then none else some fun name => named.lookup name
  | .list items =>
    if names.length < items.length then none
    else some fun name => (names.zip items).lookup name
  | .atom _ => none

/-- What `read?` makes of a field that may be absent. -/
def ifPresent? (read? : ν → Option α) (field : Option ν) : Option (Option α) :=
  match field with
  | none => some none
  | some document => (read? document).map some

end Document

end ColumnCast
