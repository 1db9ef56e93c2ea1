import Datapack.Document.Dialect
import Datapack.Number.Literal

/-!
The unquoted values of TOML: numbers, truth values, dates and times.
-/

namespace Datapack.Toml

open Number
open scoped Powers

/-- Removes underscores if each stands between two digits. -/
def withoutUnderscores? (isDigit : Char → Bool) (afterDigit : Bool) :
    List Char → Option (List Char)
  | [] => some []
  | '_' :: next :: rest =>
    if afterDigit && isDigit next then
      (withoutUnderscores? isDigit true rest).map (next :: ·)
    else none
  | character :: rest =>
    if character = '_' then none
    else (withoutUnderscores? isDigit (isDigit character) rest).map (character :: ·)

def isDigitOf (base : Nat) (character : Char) : Bool :=
  match hexDigit? character with
  | some digit => digit < base
  | none => false

def naturalOfBase? (base : Nat) (characters : List Char) : Option Nat := do
  let digits ← withoutUnderscores? (isDigitOf base) false characters
  if digits = [] then none
  else
    digits.foldlM
      (fun value character => do
        let digit ← hexDigit? character
        if digit < base then some (base * value + digit) else none)
      0

def decimal? (characters : List Char) : Option Literal := do
  let characters ← withoutUnderscores? Char.isDigit false characters
  (Literal.read? characters).filter Literal.isCanonical

/-- An integer of 64 bits. Only a decimal one may have a sign. -/
def integer? (characters : List Char) : Option Int :=
  let value? : Option Int :=
    match characters with
    | '0' :: 'x' :: digits => (naturalOfBase? 16 digits).map Int.ofNat
    | '0' :: 'o' :: digits => (naturalOfBase? 8 digits).map Int.ofNat
    | '0' :: 'b' :: digits => (naturalOfBase? 2 digits).map Int.ofNat
    | characters =>
      ((decimal? characters).filter Literal.isWhole).map fun literal =>
        let size : Int := naturalOfDigits literal.whole
        if literal.isNegative then -size else size
  value?.filter fun value => -2 ^ (63 : Nat) ≤ value ∧ value < 2 ^ (63 : Nat)

def namedNumber? (characters : List Char) : Option Binary64 :=
  let (sign, name) := splitSign characters
  if name = "inf".toList then some (.infinite (sign == some '-'))
  else if name = "nan".toList then some .undefined
  else none

/-- A number with a point or an exponent. What is too large is an error, unless it is negative. -/
def float? (characters : List Char) : Option Binary64 :=
  match namedNumber? characters with
  | some value => some value
  | none => do
    let literal ← decimal? characters
    if literal.isWhole || literal.fraction == some [] then none
    else if literal.value = .infinite false then none
    else some literal.value

def natural? (literal : String) : Option Nat :=
  match integer? literal.toList with
  | some value => if 0 ≤ value then some value.toNat else none
  | none => none

def real? (literal : String) : Option Binary64 :=
  match integer? literal.toList with
  | some value => some (.ofInt value)
  | none => float? literal.toList

def dialect : Dialect :=
  { natural?, real?, listForm := .leading }

/-- Two digits in front, as a number within bounds, and the rest. -/
def twoDigits? (least greatest : Nat) : List Char → Option (Nat × List Char)
  | first :: second :: rest =>
    let value := naturalOfDigits [first, second]
    if first.isDigit && second.isDigit && least ≤ value && value ≤ greatest then
      some (value, rest)
    else none
  | _ => none

def isLeapYear (year : Nat) : Bool :=
  year % 4 == 0 && (year % 100 != 0 || year % 400 == 0)

def daysInMonth (year month : Nat) : Nat :=
  if month = 2 then if isLeapYear year then 29 else 28
  else if month = 4 ∨ month = 6 ∨ month = 9 ∨ month = 11 then 30
  else 31

def expect? (expected : Char) : List Char → Option (List Char)
  | character :: rest => if character = expected then some rest else none
  | [] => none

def afterDate? (characters : List Char) : Option (List Char) := do
  let (century, rest) ← twoDigits? 0 99 characters
  let (year, rest) ← twoDigits? 0 99 rest
  let (month, rest) ← twoDigits? 1 12 (← expect? '-' rest)
  let (_, rest) ← twoDigits? 1 (daysInMonth (100 * century + year) month) (← expect? '-' rest)
  return rest

def afterTime? (characters : List Char) : Option (List Char) := do
  let (_, rest) ← twoDigits? 0 23 characters
  let (_, rest) ← twoDigits? 0 59 (← expect? ':' rest)
  let (_, rest) ← twoDigits? 0 60 (← expect? ':' rest)
  match rest with
  | '.' :: fraction =>
    if (fraction.takeWhile Char.isDigit).isEmpty then none
    else some (fraction.dropWhile Char.isDigit)
  | rest => some rest

/-- Nothing, `Z`, or a signed difference in hours and minutes. -/
def isOffset : List Char → Bool
  | [] => true
  | ['Z'] => true
  | ['z'] => true
  | characters =>
    match splitSign characters with
    | (some _, rest) =>
      match (do
        let (_, rest) ← twoDigits? 0 23 rest
        let (_, rest) ← twoDigits? 0 59 (← expect? ':' rest)
        some rest : Option (List Char)) with
      | some [] => true
      | _ => false
    | _ => false

def isDate (characters : List Char) : Bool :=
  afterDate? characters == some []

def isTime (characters : List Char) : Bool :=
  afterTime? characters == some []

/-- A date and a time, with `T` or a blank between them and perhaps an offset behind. -/
def isDateTime (characters : List Char) : Bool :=
  match afterDate? characters with
  | some (separator :: rest) =>
    (separator == 'T' || separator == 't' || separator == ' ') &&
      match afterTime? rest with
      | some offset => isOffset offset
      | none => false
  | _ => false

/-- The document of an unquoted value. Dates and times have no field that anything asks for. -/
def scalar? (spelling : String) : Option Document :=
  let characters := spelling.toList
  if spelling = "true" then some (.flag true)
  else if spelling = "false" then some (.flag false)
  else if isDate characters || isTime characters || isDateTime characters then some (.object [])
  else if (integer? characters).isSome || (float? characters).isSome then some (.number spelling)
  else none

end Datapack.Toml
