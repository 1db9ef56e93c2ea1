import Datapack.Document.Dialect
import Datapack.Number.Literal

/-!
Numbers in RON: integers in four bases, decimals, infinities and the undefined number.
-/

namespace Datapack.Ron

open Number
open scoped Powers

/-- The base that an integer's first characters name, and its digits. -/
def splitBase : List Char → Nat × List Char
  | '0' :: 'x' :: digits => (16, digits)
  | '0' :: 'o' :: digits => (8, digits)
  | '0' :: 'b' :: digits => (2, digits)
  | digits => (10, digits)

/-- An integer without a sign. Underscores may stand anywhere after the first digit. -/
def integer? (characters : List Char) : Option Nat :=
  let (base, digits) := splitBase characters
  if digits = [] ∨ digits.head? = some '_' then none
  else
    (digits.filter (· != '_')).foldlM
      (fun value character => do
        let digit ← hexDigit? character
        if digit < base then some (base * value + digit) else none)
      0

/-- Integers are words of 64 bits, signed ones if a sign is written. -/
def isInteger (characters : List Char) : Bool :=
  let (sign, body) := splitSign characters
  match integer? body, sign with
  | some value, none => value < 2 ^ (64 : Nat)
  | some value, some '-' => value ≤ 2 ^ (63 : Nat)
  | some value, some _ => value < 2 ^ (63 : Nat)
  | none, _ => false

def namedNumber? (literal : String) : Option Binary64 :=
  if literal = "inf" ∨ literal = "+inf" then some (.infinite false)
  else if literal = "-inf" then some (.infinite true)
  else if literal = "NaN" ∨ literal = "+NaN" ∨ literal = "-NaN" then some .undefined
  else none

/-- A decimal; what is too large is infinite. -/
def real? (literal : String) : Option Binary64 :=
  match namedNumber? literal with
  | some value => some value
  | none => ((Literal.read? literal.toList).filter Literal.hasDigits).map Literal.value

def natural? (literal : String) : Option Nat :=
  integer? literal.toList

def isNumber (literal : String) : Bool :=
  isInteger literal.toList || (real? literal).isSome

def dialect : Dialect :=
  { natural?, real?, listForm := .refused }

end Datapack.Ron
