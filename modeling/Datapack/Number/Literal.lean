import Datapack.Number.Binary64

/-!
Decimal numbers as they are spelled: a sign, digits around a point and an exponent.
-/

namespace Datapack.Number

/-- The parts of a spelled number. Any of them may be missing, also all digits. -/
structure Literal where
  sign : Option Char
  whole : List Char
  /-- The digits after the point, if there is a point. -/
  fraction : Option (List Char)
  exponent : Option Int
  deriving DecidableEq, Repr

def splitSign : List Char → Option Char × List Char
  | '+' :: rest => (some '+', rest)
  | '-' :: rest => (some '-', rest)
  | characters => (none, characters)

def naturalOfDigits (digits : List Char) : Nat :=
  Nat.ofDigitChars 10 digits 0

def hexDigit? (character : Char) : Option Nat :=
  if character.isDigit then some (character.toNat - '0'.toNat)
  else if 'a' ≤ character ∧ character ≤ 'f' then some (character.toNat - 'a'.toNat + 10)
  else if 'A' ≤ character ∧ character ≤ 'F' then some (character.toNat - 'A'.toNat + 10)
  else none

namespace Literal

/-- Reads nothing, or an exponent up to the end. -/
def exponent? : List Char → Option (Option Int)
  | [] => some none
  | marker :: rest =>
    let (sign, digits) := splitSign rest
    if (marker = 'e' ∨ marker = 'E') ∧ digits ≠ [] ∧ digits.all Char.isDigit then
      let size : Int := naturalOfDigits digits
      some (some (if sign = some '-' then -size else size))
    else none

def read? (characters : List Char) : Option Literal :=
  let (sign, body) := splitSign characters
  let whole := body.takeWhile Char.isDigit
  match body.dropWhile Char.isDigit with
  | '.' :: rest => do
    let exponent ← exponent? (rest.dropWhile Char.isDigit)
    return { sign, whole, fraction := some (rest.takeWhile Char.isDigit), exponent }
  | rest => do
    let exponent ← exponent? rest
    return { sign, whole, fraction := none, exponent }

def fractionDigits (literal : Literal) : List Char :=
  literal.fraction.getD []

def isNegative (literal : Literal) : Bool :=
  literal.sign == some '-'

def isWhole (literal : Literal) : Bool :=
  literal.fraction.isNone && literal.exponent.isNone

def hasDigits (literal : Literal) : Bool :=
  !literal.whole.isEmpty || !literal.fractionDigits.isEmpty

/-- No zero stands in front of another digit. -/
def isCanonical (literal : Literal) : Bool :=
  literal.whole == ['0'] || (!literal.whole.isEmpty && literal.whole.head? != some '0')

def value (literal : Literal) : Binary64 :=
  .ofDecimal literal.isNegative (naturalOfDigits (literal.whole ++ literal.fractionDigits))
    (literal.exponent.getD 0 - literal.fractionDigits.length)

end Literal

end Datapack.Number
