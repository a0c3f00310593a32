/-!
# `ColumnCast.Decimal.Shortest`: the shortest digits of a float

A float stands for every real that rounds to it. `Shortest.ofBits?` finds
the decimal of that range with the fewest digits and, of those, the
nearest to the float. It tests one digit, two digits and so on: on the
grid of the decimals with that many digits, the two neighbours of the
float are the only ones that need to be tested.
-/

set_option autoImplicit false

namespace ColumnCast

/-- The decimal `digits * 10 ^ exponent`, below zero or not. -/
structure Shortest where
  negative : Bool
  digits : Nat
  exponent : Int
  deriving DecidableEq, Repr

namespace Shortest

/-- The positive rational `numerator / denominator`. -/
structure Ratio where
  numerator : Nat
  denominator : Nat

namespace Ratio

/-- `mantissa * 2 ^ exponent`. -/
def ofBinary (mantissa : Nat) (exponent : Int) : Ratio :=
  ⟨mantissa * Nat.pow 2 exponent.toNat, Nat.pow 2 (-exponent).toNat⟩

/-- `digits * 10 ^ exponent`. -/
def ofDecimal (digits : Nat) (exponent : Int) : Ratio :=
  ⟨digits * Nat.pow 10 exponent.toNat, Nat.pow 10 (-exponent).toNat⟩

/-- Is `a` below `b`? -/
def lt (a b : Ratio) : Bool := a.numerator * b.denominator < b.numerator * a.denominator

/-- Is `a` below `b`, or equal to it? -/
def le (a b : Ratio) : Bool := !b.lt a

/-- How many times `step` goes into `a`. -/
def quotient (a step : Ratio) : Nat :=
  a.numerator * step.denominator / (a.denominator * step.numerator)

/-- Is `middle` nearer to `a` than to `b`, where `a ≤ middle ≤ b`? Halfway goes by `tie`. -/
def nearerToFirst (middle a b : Ratio) (tie : Bool) : Bool :=
  let twice := 2 * middle.numerator * a.denominator * b.denominator
  let sum :=
    (a.numerator * b.denominator + b.numerator * a.denominator) * middle.denominator
  twice < sum || (twice == sum && tie)

end Ratio

/-- The reals that round to one float. -/
structure Interval where
  low : Ratio
  value : Ratio
  high : Ratio
  /-- Do the ends belong to it? -/
  closed : Bool

/-- Lies the number in the interval? -/
def Interval.contains (i : Interval) (x : Ratio) : Bool :=
  if i.closed then i.low.le x && x.le i.high else i.low.lt x && x.lt i.high

/-- The reals that round to `mantissa * 2 ^ exponent`. Below a power of two the floats lie
closer, except at the least exponent. -/
def Interval.ofBinary (mantissa : Nat) (exponent : Int) (isPower : Bool) : Interval where
  low := .ofBinary (4 * mantissa - (if isPower then 1 else 2)) (exponent - 2)
  value := .ofBinary (4 * mantissa) (exponent - 2)
  high := .ofBinary (4 * mantissa + 2) (exponent - 2)
  closed := mantissa % 2 == 0

/-- The exponents of ten at which floats have their first digit. -/
def leastExponent : Int := -324

/-- The exponent of the first digit of a number, that of ten to which it reaches. -/
def leadingExponent (x : Ratio) : Int :=
  ((List.range 640).findSome? fun (step : Nat) =>
    let exponent : Int := 315 - (step : Int)
    if (Ratio.ofDecimal 1 exponent).le x then some exponent else none).getD leastExponent

/-- The decimal with `count` digits in the interval that is nearest to its value. -/
def onGrid? (i : Interval) (leading : Int) (count : Nat) : Option (Nat × Int) :=
  let exponent := leading - count + 1
  let below := i.value.quotient (.ofDecimal 1 exponent)
  let a := Ratio.ofDecimal below exponent
  let b := Ratio.ofDecimal (below + 1) exponent
  match i.contains a && below != 0, i.contains b with
  | true, true =>
    if i.value.nearerToFirst a b (below % 2 == 0) then some (below, exponent)
    else some (below + 1, exponent)
  | true, false => some (below, exponent)
  | false, true => some (below + 1, exponent)
  | false, false => none

/-- The decimal without zeros at the end of its digits. -/
def dropZeros (digits : Nat) (exponent : Int) : (rounds : Nat) → Nat × Int
  | 0 => (digits, exponent)
  | rounds + 1 =>
    if digits != 0 && digits % 10 == 0 then dropZeros (digits / 10) (exponent + 1) rounds
    else (digits, exponent)

/-- The shortest decimal of a float that is given by its 64 bits; none for the infinities and
for what is no number. -/
def ofBits? (bits : UInt64) : Option Shortest :=
  let hidden := Nat.pow 2 52
  let negative := Nat.pow 2 63 ≤ bits.toNat
  let biased := bits.toNat / hidden % 2048
  let fraction := bits.toNat % hidden
  if biased = 2047 then none
  else if biased = 0 ∧ fraction = 0 then some ⟨negative, 0, 0⟩
  else
    let mantissa := if biased = 0 then fraction else hidden + fraction
    let exponent : Int := (max biased 1 : Nat) - 1075
    let interval := Interval.ofBinary mantissa exponent (1 < biased && fraction == 0)
    let leading := leadingExponent interval.value
    let found := (List.range 17).findSome? fun count => onGrid? interval leading (count + 1)
    found.map fun (digits, exponent) =>
      let (digits, exponent) := dropZeros digits exponent 20
      ⟨negative, digits, exponent⟩

/-! ### Texts -/

/-- The digits with the point where it belongs, `least` places at least after it. -/
def positional (s : Shortest) (least : Nat) : String :=
  let places := (-s.exponent).toNat
  let digits := toString (s.digits * Nat.pow 10 s.exponent.toNat)
  let padded := String.ofList (List.replicate (places + 1 - digits.length) '0') ++ digits
  let whole := (padded.toList.take (padded.length - places))
  let fraction := padded.toList.drop (padded.length - places)
  let fraction := fraction ++ List.replicate (least - fraction.length) '0'
  (if s.negative then "-" else "")
    ++ String.ofList (if fraction.isEmpty then whole else whole ++ '.' :: fraction)

/-- One digit before the point and the exponent after an `e`. -/
def scientific (s : Shortest) : String :=
  let digits := (toString s.digits).toList
  let exponent := s.exponent + (digits.length - 1 : Nat)
  (if s.negative then "-" else "")
    ++ String.ofList (digits.take 1 ++ if digits.length = 1 then [] else '.' :: digits.drop 1)
    ++ "e" ++ toString exponent

/-- Positional from `0.00001` up to 16 digits before the point, with one place at least;
scientific beyond. -/
def toText (s : Shortest) : String :=
  let pointAt := s.exponent + (toString s.digits).length
  if s.digits = 0 || (-5 < pointAt && pointAt ≤ 16) then s.positional 1 else s.scientific

end Shortest

end ColumnCast
