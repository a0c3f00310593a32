import ColumnCast.Decimal.Basic
import ColumnCast.Text

/-!
# `ColumnCast.Decimal.Text`: decimals as digits

Reading takes an optional sign, digits with at most one point, and
underscores after the first digit. Digits that no longer fit are rounded
off, a half up: this happens at the first digit beyond 28 places, or
after the point at the first digit that would carry the coefficient to
`2 ^ 96`; what follows that digit is not looked at. Before the point
there is nothing to round off, and the text is refused.

Printing writes every place that the decimal holds.
-/

set_option autoImplicit false

namespace ColumnCast.Decimal

/-- Coefficient and places after the character `next` that no longer fits. -/
def roundOff (coefficient places : Nat) (next : Char) : Option (Nat × Nat) :=
  if next.isDigit then
    if next.toNat < '5'.toNat then some (coefficient, places)
    else if coefficient + 1 < coefficientBound then some (coefficient + 1, places)
    else if places = 0 then none
    else some ((coefficient + 5) / 10, places - 1)
  else if next = '_' ∨ next = '.' then some (coefficient, places)
  else none

/-- Coefficient and places of unsigned digits. `started` says that a digit
came before, `pointed` that the point did. -/
def readDigits (pointed started : Bool) (coefficient places : Nat) :
    List Char → Option (Nat × Nat)
  | [] => if started then some (coefficient, places) else none
  | c :: rest =>
    if pointed && places ≥ maxPlaces then roundOff coefficient places c
    else if c.isDigit then
      let next := 10 * coefficient + (c.toNat - '0'.toNat)
      if next < coefficientBound then
        readDigits pointed true next (if pointed then places + 1 else places) rest
      else if pointed then roundOff coefficient places c
      else none
    else if c = '.' && !pointed then readDigits true started coefficient places rest
    else if c = '_' && started then readDigits pointed started coefficient places rest
    else none

/-- The decimal of a sign and unsigned digits. -/
def readSigned (negative : Bool) (text : List Char) : Option Decimal :=
  match readDigits false false 0 0 text with
  | some (coefficient, places) =>
    ofParts? (if negative then -(coefficient : Int) else coefficient) places
  | none => none

/-- The decimal that a text writes. -/
def read? (text : List Char) : Option Decimal :=
  match text with
  | '-' :: rest => readSigned true rest
  | '+' :: rest => readSigned false rest
  | _ => readSigned false text

/-- The number of one or more ASCII digits, with a plus sign or without. -/
def readCount? (text : List Char) : Option Nat :=
  let digits := match text with
    | '+' :: rest => rest
    | _ => text
  if digits.isEmpty || !digits.all Char.isDigit then none else some (Text.digitsValue digits)

/-- The decimal of digits and an exponent of ten, such as `1.2e-3`. -/
def readScientific? (text : List Char) : Option Decimal := do
  let base := text.takeWhile fun c => c != 'e' && c != 'E'
  let value ← read? base
  match text.drop (base.length + 1) with
  | '-' :: digits =>
    let exponent ← readCount? digits
    ofParts? value.coefficient (value.places + exponent)
  | digits =>
    if text.length = base.length then none
    else
      let exponent ← readCount? digits
      if exponent ≤ value.places then
        ofParts? value.coefficient (value.places - exponent)
      else if exponent ≤ maxPlaces then
        ofParts? (value.coefficient * scale (exponent - value.places)) 0
      else none

/-- The digits of a coefficient with the point before its last `places` digits. -/
def pointed (coefficient places : Nat) : String :=
  if places = 0 then toString coefficient
  else
    let digits := (Text.padded (places + 1) coefficient).toList
    let whole := digits.length - places
    String.ofList (digits.take whole ++ '.' :: digits.drop whole)

/-- The decimal as text, with every place it holds. -/
def toText (d : Decimal) : String :=
  (if d.coefficient < 0 then "-" else "") ++ pointed d.coefficient.natAbs d.places

end ColumnCast.Decimal
