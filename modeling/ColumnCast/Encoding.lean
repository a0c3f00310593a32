import ColumnCast.Unicode.Ranges

/-!
# `ColumnCast.Encoding`: bytes as text

An encoding reads bytes as characters, or refuses them: nothing is ever
replaced. A byte order mark at the start decides for UTF-8 or UTF-16,
whatever the encoding, and is no part of the text. Encodings in which
characters of a large alphabet take several bytes are known by name, and
read ASCII alone.
-/

set_option autoImplicit false

namespace ColumnCast

/-- The characters of the bytes from 128 on, for an encoding with one byte each. -/
structure UpperHalf where
  chars : Array (Option Char)

namespace UpperHalf

/-- What stands in a table where a byte has no character. -/
def unassigned : Nat := 0xFFFD

/-- The characters that a table text lists, in order. -/
def ofText (text : String) : UpperHalf where
  chars :=
    (((Unicode.entries text).map Unicode.Ranges.entryBounds).flatMap fun (first, last) =>
      (List.range (last + 1 - first)).map fun i =>
        if first + i = unassigned then none else some (Char.ofNat (first + i))).toArray

/-- The character of a byte, if it has one. -/
def char? (table : UpperHalf) (byte : UInt8) : Option Char :=
  if byte < 128 then some (Char.ofNat byte.toNat) else (table.chars[byte.toNat - 128]?).join

end UpperHalf

/-- How an encoding reads bytes. -/
inductive Scheme
  | utf8
  | utf16 (bigEndian : Bool)
  | singleByte (table : UpperHalf)
  /-- The bytes from 128 on are characters for private use. -/
  | userDefined
  /-- Reads nothing but the empty text. -/
  | replacement
  | multiByte

namespace Scheme

/-- The first of the characters for private use that stand for bytes from 128 on. -/
def userDefinedBase : Nat := 0xF780

/-- The 16-bit units of the bytes, two bytes each. -/
def units? (bigEndian : Bool) : List UInt8 → Option (List Nat)
  | [] => some []
  | [_] => none
  | a :: b :: rest =>
    let unit := if bigEndian then 256 * a.toNat + b.toNat else 256 * b.toNat + a.toNat
    (units? bigEndian rest).map (unit :: ·)

/-- The characters of 16-bit units: a unit each, or a surrogate of each kind in order. -/
def charsOfUnits? : List Nat → Option (List Char)
  | [] => some []
  | high :: rest =>
    if high / 0x400 = 0x36 then
      match rest with
      | low :: rest =>
        if low / 0x400 = 0x37 then
          let number := 0x10000 + (high % 0x400) * 0x400 + low % 0x400
          (charsOfUnits? rest).map (Char.ofNat number :: ·)
        else none
      | [] => none
    else if high / 0x400 = 0x37 then none
    else (charsOfUnits? rest).map (Char.ofNat high :: ·)

/-- The text that bytes without a byte order mark stand for. -/
def decode? (scheme : Scheme) (bytes : List UInt8) : Option String :=
  match scheme with
  | utf8 => String.fromUTF8? (ByteArray.mk bytes.toArray)
  | utf16 bigEndian =>
    ((units? bigEndian bytes).bind charsOfUnits?).map String.ofList
  | singleByte table => (bytes.mapM table.char?).map String.ofList
  | userDefined =>
    some (String.ofList (bytes.map fun byte =>
      if byte < 128 then Char.ofNat byte.toNat
      else Char.ofNat (userDefinedBase + (byte.toNat - 128))))
  | replacement => if bytes.isEmpty then some "" else none
  | multiByte =>
    if bytes.all (· < 128) then
      some (String.ofList (bytes.map fun byte => Char.ofNat byte.toNat))
    else none

/-- What a byte order mark decides, and the bytes behind it. -/
def ofMark? (bytes : List UInt8) : Option (Scheme × List UInt8) :=
  match bytes with
  | 0xEF :: 0xBB :: 0xBF :: rest => some (utf8, rest)
  | 0xFF :: 0xFE :: rest => some (utf16 false, rest)
  | 0xFE :: 0xFF :: rest => some (utf16 true, rest)
  | _ => none

end Scheme

/-- A named way to read bytes. -/
structure Encoding where
  name : String
  /-- The labels it goes by, in small letters. -/
  labels : List String
  scheme : Scheme

namespace Encoding

/-- The text that bytes stand for. -/
def decode? (encoding : Encoding) (bytes : List UInt8) : Option String :=
  match Scheme.ofMark? bytes with
  | some (scheme, rest) => scheme.decode? rest
  | none => encoding.scheme.decode? bytes

end Encoding

end ColumnCast
