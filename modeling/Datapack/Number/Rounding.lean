/-!
Rounding a quotient of natural numbers to a whole number.
-/

namespace Datapack.Number

namespace Powers

/-- Powers of the core library, where it has been asked for them. -/
scoped instance (priority := 1100) corePower {Base : Type} [NatPow Base] : Pow Base Nat :=
  instPowNat

end Powers

/-- Where a quotient exactly between two whole numbers goes. -/
inductive Half where
  | toEven
  | up
  deriving DecidableEq, Repr

/-- The whole number nearest to `numerator / denominator`. -/
def roundQuotient (half : Half) (numerator denominator : Nat) : Nat :=
  let quotient := numerator / denominator
  let twice := 2 * (numerator % denominator)
  if twice < denominator then quotient
  else if denominator < twice then quotient + 1
  else
    match half with
    | .toEven => quotient + quotient % 2
    | .up => quotient + 1

theorem div_le_roundQuotient (half : Half) (numerator denominator : Nat) :
    numerator / denominator ≤ roundQuotient half numerator denominator := by
  unfold roundQuotient
  cases half <;> grind

theorem roundQuotient_le_succ (half : Half) (numerator denominator : Nat) :
    roundQuotient half numerator denominator ≤ numerator / denominator + 1 := by
  unfold roundQuotient
  cases half <;> grind

end Datapack.Number
