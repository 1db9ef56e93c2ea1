import Datapack.Number.Binary64

/-!
Converting seconds to the host's ticks through fixed-point numbers with 32 fractional bits.
-/

namespace Datapack

open Number
open scoped Powers

def ticksPerSecond : Nat := 20

/-- Fixed-point numbers hold fewer than `2 ^ 63` parts of `2 ^ -32`. -/
def fixedPointLimit : Nat := 2 ^ (63 : Nat)

/-- The parts of `2 ^ -32` nearest to a magnitude, a half going to even. -/
def fixedPointParts (magnitude : Magnitude) : Nat :=
  roundQuotient .toEven magnitude.units (2 ^ (1042 : Nat))

/-- The nearest whole number of ticks, a half going up, as long as every step stays in range. -/
def ticksOfMagnitude? (magnitude : Magnitude) : Option Nat :=
  let parts := fixedPointParts magnitude
  if fixedPointLimit ≤ parts then none
  else if fixedPointLimit ≤ parts * ticksPerSecond then none
  else
    let ticks := roundQuotient .up (parts * ticksPerSecond) (2 ^ (32 : Nat))
    if fixedPointLimit ≤ ticks * 2 ^ (32 : Nat) then none else some ticks

/-- Negative, infinite and undefined times have no ticks; negative zero counts as zero. -/
def ticksOfSeconds? : Binary64 → Option Nat
  | .finite negative magnitude =>
    if negative && magnitude.units != 0 then none else ticksOfMagnitude? magnitude
  | _ => none

end Datapack
