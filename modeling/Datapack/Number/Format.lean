import Datapack.Number.Shortest

/-!
Writing numbers in decimal. What differs between outputs is one record.
-/

namespace Datapack.Number

structure NumberFormat where
  /-- Which of two equally near shortest decimals is taken. -/
  half : Half
  /-- The exponents of the first digit that are written out in full. -/
  positional : Int → Bool
  /-- Follows a number without fractional digits. -/
  wholeSuffix : String
  undefinedText : String
  infiniteText : String

def zeros (count : Nat) : String :=
  String.ofList (List.replicate count '0')

/-- The decimal with every digit in its place. -/
def Decimal.positional (wholeSuffix : String) (decimal : Decimal) : String :=
  let digits := Nat.toDigits 10 decimal.digits
  let fraction := (-decimal.exponent).toNat
  if 0 ≤ decimal.exponent then
    String.ofList digits ++ zeros decimal.exponent.toNat ++ wholeSuffix
  else if fraction < digits.length then
    let whole := digits.length - fraction
    String.ofList (digits.take whole) ++ "." ++ String.ofList (digits.drop whole)
  else "0." ++ zeros (fraction - digits.length) ++ String.ofList digits

/-- The decimal with one digit before the point and a signed exponent. -/
def Decimal.scientific (decimal : Decimal) : String :=
  let digits := Nat.toDigits 10 decimal.digits
  let point := if digits.length = 1 then "" else "."
  let sign := if decimal.leading < 0 then "-" else "+"
  String.ofList (digits.take 1) ++ point ++ String.ofList (digits.drop 1) ++ "e" ++ sign ++
    toString decimal.leading.natAbs

def Magnitude.render (format : NumberFormat) (magnitude : Magnitude) : String :=
  if magnitude.units = 0 then "0" ++ format.wholeSuffix
  else
    let decimal := magnitude.shortest format.half
    if format.positional decimal.leading then decimal.positional format.wholeSuffix
    else decimal.scientific

def Binary64.render (format : NumberFormat) : Binary64 → String
  | .undefined => format.undefinedText
  | .infinite negative => (if negative then "-" else "") ++ format.infiniteText
  | .finite negative magnitude => (if negative then "-" else "") ++ magnitude.render format

/-- Every digit in its place, whatever the size. -/
def NumberFormat.plain : NumberFormat :=
  { half := .up
    positional := fun _ => true
    wholeSuffix := ""
    undefinedText := "NaN"
    infiniteText := "inf" }

end Datapack.Number
