import Datapack.Number.Binary64

/-!
The fewest decimal digits that read back as a given magnitude, nearest to it among those.
-/

namespace Datapack.Number

open scoped Powers

/-- The number `digits * 10 ^ exponent`. -/
structure Decimal where
  digits : Nat
  exponent : Int
  deriving DecidableEq, Repr

def decimalWidth (value : Nat) : Nat :=
  (Nat.toDigits 10 value).length

/-- The exponent of the first digit in scientific form. -/
def Decimal.leading (decimal : Decimal) : Int :=
  decimalWidth decimal.digits - 1 + decimal.exponent

/-- Drops at most `count` zeros from the end of the digits; the value stays. -/
def Decimal.dropZeros : Nat → Decimal → Decimal
  | 0, decimal => decimal
  | count + 1, decimal =>
    if decimal.digits % 10 = 0 then
      dropZeros count ⟨decimal.digits / 10, decimal.exponent + 1⟩
    else decimal

/-- The reals that round to one magnitude, in quarters of a unit. The ends belong to it when
`closed` holds. -/
structure RoundingInterval where
  low : Nat
  value : Nat
  high : Nat
  closed : Bool

/-- Below a power of two the numbers lie twice as close, unless it is among the smallest. -/
def roundingInterval (units : Nat) : RoundingInterval :=
  let step := 2 ^ spacing units
  let below := if 0 < spacing units ∧ units = 2 ^ units.log2 then step else 2 * step
  { low := 4 * units - below
    value := 4 * units
    high := 4 * units + 2 * step
    closed := units / step % 2 = 0 }

/-- The place `p` with `10 ^ (p - 1) ≤ value < 10 ^ p`, for a positive magnitude. -/
def leadingPlace (units : Nat) : Int :=
  if unitsPerOne ≤ units then decimalWidth (units / unitsPerOne)
  else 1 - decimalWidth ((unitsPerOne - 1) / units)

/-- The multiple of `10 ^ exponent` in the interval that is nearest to its value. Only the value's
two neighbours on that grid can be. -/
def RoundingInterval.gridPoint? (interval : RoundingInterval) (half : Half) (exponent : Int) :
    Option Decimal :=
  let numerator := 10 ^ (-exponent).toNat
  let denominator := 4 * unitsPerOne * 10 ^ exponent.toNat
  let inside (point : Nat) : Bool :=
    let scaled := point * denominator
    if interval.closed then
      interval.low * numerator ≤ scaled && scaled ≤ interval.high * numerator
    else interval.low * numerator < scaled && scaled < interval.high * numerator
  let lower := interval.value * numerator / denominator
  match inside lower, inside (lower + 1) with
  | true, true => some ⟨roundQuotient half (interval.value * numerator) denominator, exponent⟩
  | true, false => some ⟨lower, exponent⟩
  | false, true => some ⟨lower + 1, exponent⟩
  | false, false => none

/-- Seventeen digits always suffice. -/
def Magnitude.shortest (half : Half) (magnitude : Magnitude) : Decimal :=
  let interval := roundingInterval magnitude.units
  let place := leadingPlace magnitude.units
  let found := (List.range 17).findSome? fun (count : Nat) =>
    interval.gridPoint? half (place - (count + 1 : Nat))
  (found.getD ⟨0, 0⟩).dropZeros 17

end Datapack.Number
