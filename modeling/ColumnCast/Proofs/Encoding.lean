import ColumnCast.Proofs.Cli.Preview

/-!
# `ColumnCast.Proofs.Encoding`: texts through UTF-8 and back

The bytes of a text in UTF-8 are read as that text, with one exception. An
encoding looks for a byte order mark before it reads anything, and the
first character of a text can be one: U+FEFF is three bytes in UTF-8, and
the mark is these three bytes.

* `Scheme.ofMark?_utf8`: no other character begins with a mark, of UTF-8 or
  of UTF-16. So the mark is all that may be lost.
* `decode?_textBytes`: what is read is the text without a mark at its start.
* `Cli.decodeFields_eq_ok_iff`: fields are read one by one, and neither the
  place of a field nor the fields beside it matter.

`Cli.decodeFields_textBytes` puts this together for the fields of a record,
and `Cli.decodeFields_drops_mark` shows a text that does not come back.
-/

set_option autoImplicit false

namespace ColumnCast

open Cli (Host decodeFields chooseEncoding)

/-! ### The mark among characters -/

/-- The byte order mark as a character. -/
def Encoding.mark : Char := '\uFEFF'

namespace Scheme

theorem utf8EncodeChar_mark : String.utf8EncodeChar Encoding.mark = [0xEF, 0xBB, 0xBF] := by
  decide

/-- A text that begins with the bytes of a character begins with no other one. -/
theorem eq_of_utf8EncodeChar_append {c d : Char} {rest others : List UInt8}
    (same : String.utf8EncodeChar c ++ rest = String.utf8EncodeChar d ++ others) : c = d := by
  have first (e : Char) (bytes : List UInt8) :
      (String.utf8EncodeChar e ++ bytes).toByteArray.utf8DecodeChar? 0 = some e := by
    rw [List.toByteArray_append]
    exact ByteArray.utf8DecodeChar?_utf8EncodeChar_append
  have both := first c rest
  rw [same, first d others] at both
  exact (Option.some.inj both).symm

/-- No character begins with a byte as great as those of the marks of UTF-16. -/
theorem lead_lt {c : Char} {byte : UInt8} {rest others : List UInt8}
    (starts : String.utf8EncodeChar c ++ rest = byte :: others) : byte.toNat < 0xF8 := by
  unfold String.utf8EncodeChar at starts
  dsimp only at starts
  split_ifs at starts <;>
  · obtain ⟨rfl, -⟩ := List.cons.inj starts
    rw [UInt8.toNat_ofNat']
    omega

/-- A text that does not begin with the mark shows no encoding other than UTF-8. -/
theorem ofMark?_utf8 {c : Char} (unmarked : c ≠ Encoding.mark) (rest : List UInt8) :
    ofMark? (String.utf8EncodeChar c ++ rest) = none := by
  unfold ofMark?
  split
  · next others starts =>
    have same : String.utf8EncodeChar c ++ rest
        = String.utf8EncodeChar Encoding.mark ++ others := by
      rw [starts, utf8EncodeChar_mark]
      rfl
    exact absurd (eq_of_utf8EncodeChar_append same) unmarked
  · next starts => exact absurd (lead_lt starts) (by decide)
  · next starts => exact absurd (lead_lt starts) (by decide)
  · rfl

end Scheme

/-! ### One text -/

namespace Encoding

/-- The text without a byte order mark at its start. One mark is taken, not all of them. -/
def withoutMark (text : String) : String :=
  match text.toList with
  | [] => ""
  | c :: rest => if c = mark then String.ofList rest else text

theorem withoutMark_eq_self_iff {text : String} :
    withoutMark text = text ↔ text.toList.head? ≠ some mark := by
  unfold withoutMark
  split
  · next empty =>
    rw [empty]
    exact iff_of_true (String.toList_eq_nil_iff.mp empty).symm (by simp)
  · next c rest split =>
    rw [split, List.head?_cons, ne_eq, Option.some.injEq]
    split_ifs with marked
    · -- The text is longer than what is left of it.
      refine iff_of_false (fun same => ?_) (not_not_intro marked)
      rw [← same, String.toList_ofList] at split
      exact absurd (congrArg List.length split) (by simp)
    · exact iff_of_true rfl marked

theorem textBytes_ofList (text : List Char) :
    Host.textBytes (String.ofList text) = text.flatMap String.utf8EncodeChar := by
  show (String.ofList text).toByteArray.data.toList = text.flatMap String.utf8EncodeChar
  rw [String.toByteArray_ofList, List.utf8Encode, List.toList_data_toByteArray]

/-- Text in UTF-8 is read as it was. -/
theorem decode?_utf8 (text : String) : Scheme.utf8.decode? (Host.textBytes text) = some text := by
  show String.fromUTF8? (ByteArray.mk (Host.textBytes text).toArray) = some text
  unfold Host.textBytes
  rw [Array.toArray_toList]
  exact dif_pos text.isValidUTF8

/-- **What UTF-8 gives back**: the text, without a mark at its start. -/
theorem decode?_textBytes (text : String) :
    utf8.decode? (Host.textBytes text) = some (withoutMark text) := by
  unfold decode? withoutMark
  cases split : text.toList with
  | nil =>
      obtain rfl := String.toList_eq_nil_iff.mp split
      exact decode?_utf8 ""
  | cons c rest =>
      obtain rfl : text = String.ofList (c :: rest) := by rw [← split, String.ofList_toList]
      have bytes := textBytes_ofList (c :: rest)
      rw [List.flatMap_cons] at bytes
      dsimp only
      split_ifs with marked
      · -- The mark decides for UTF-8, and is skipped.
        subst marked
        rw [bytes, Scheme.utf8EncodeChar_mark, ← textBytes_ofList]
        exact decode?_utf8 (String.ofList rest)
      · have unmarked := Scheme.ofMark?_utf8 marked (rest.flatMap String.utf8EncodeChar)
        rw [← bytes] at unmarked
        rw [unmarked]
        exact decode?_utf8 (String.ofList (c :: rest))

end Encoding

/-! ### Fields of a record -/

namespace Cli

/-- Fields are read one by one: each gives its own text, wherever it stands. -/
theorem decodeFields_eq_ok_iff {encoding : Encoding} {fields : List Csv.Field}
    {texts : List String} :
    decodeFields encoding fields = .ok texts
      ↔ List.Forall₂ (fun field text => encoding.decode? field = some text) fields texts := by
  rw [← option_mapM_eq_some_iff]
  unfold decodeFields
  cases fields.mapM encoding.decode? with
  | none => simp
  | some all => simp

/-- **Decoding loses no text but marks.** Without a label the encoding is UTF-8, and the texts that
were written come back, each without a byte order mark at its start. So they come back as they
were just if none of them begins with the mark. Every field is read by itself: each gives its own
text whatever its place and the other fields, or else the record has no texts at all. -/
theorem decodeFields_textBytes (texts : List String) :
    chooseEncoding none = .ok .utf8
      ∧ decodeFields .utf8 (texts.map Host.textBytes) = .ok (texts.map Encoding.withoutMark)
      ∧ (decodeFields .utf8 (texts.map Host.textBytes) = .ok texts
        ↔ ∀ text ∈ texts, text.toList.head? ≠ some Encoding.mark)
      ∧ ∀ (fields : List Csv.Field) (read : List String),
        decodeFields .utf8 fields = .ok read
          ↔ List.Forall₂ (fun field text => Encoding.utf8.decode? field = some text) fields
            read := by
  have given : decodeFields .utf8 (texts.map Host.textBytes)
      = .ok (texts.map Encoding.withoutMark) := by
    rw [decodeFields_eq_ok_iff, List.forall₂_map_left_iff, List.forall₂_map_right_iff,
      List.forall₂_same]
    intro text _
    exact Encoding.decode?_textBytes text
  refine ⟨rfl, given, ?_, fun fields read => decodeFields_eq_ok_iff⟩
  have each : texts.map Encoding.withoutMark = texts.map id
      ↔ ∀ text ∈ texts, Encoding.withoutMark text = id text := List.map_inj_left
  rw [List.map_id] at each
  rw [given, Except.ok.injEq, each]
  exact forall₂_congr fun text _ => Encoding.withoutMark_eq_self_iff

/-- A text of two characters, the first of them the mark, comes back as the other one. -/
theorem decodeFields_drops_mark :
    decodeFields .utf8 (["\uFEFFA"].map Host.textBytes) = .ok ["A"]
      ∧ decodeFields .utf8 (["\uFEFFA"].map Host.textBytes) ≠ .ok ["\uFEFFA"] := by
  have given : decodeFields .utf8 (["\uFEFFA"].map Host.textBytes) = .ok ["A"] := by
    rw [decodeFields_eq_ok_iff]
    exact .cons (Encoding.decode?_textBytes "\uFEFFA") .nil
  refine ⟨given, ?_⟩
  rw [given]
  decide

end Cli

end ColumnCast
