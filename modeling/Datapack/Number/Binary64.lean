import Datapack.Number.Rounding

/-!
Double-precision numbers. A finite magnitude is a whole number of units of `2 ^ -1074`, so
comparing, adding and rounding are exact arithmetic on natural numbers.
-/

namespace Datapack.Number

open scoped Powers

/-- Units in the number one. -/
def unitsPerOne : Nat := 2 ^ (1074 : Nat)

/-- Numbers of this size are the multiples of `2 ^ spacing units`: 53 bits are kept. -/
def spacing (units : Nat) : Nat :=
  units.log2 - 52

/-- Units in `2 ^ 1024`, the first size that is too large. -/
def unitsLimit : Nat := 2 ^ (2098 : Nat)

theorem unitsLimit_pos : 0 < unitsLimit := by
  unfold unitsLimit
  generalize 2098 = exponent
  exact Nat.two_pow_pos exponent

/-- The finite magnitudes: below the limit and with at most 53 significant bits. -/
def IsRepresentable (units : Nat) : Prop :=
  units < unitsLimit ∧ 2 ^ spacing units ∣ units

instance (units : Nat) : Decidable (IsRepresentable units) :=
  inferInstanceAs (Decidable (units < unitsLimit ∧ 2 ^ spacing units ∣ units))

structure Magnitude where
  units : Nat
  representable : IsRepresentable units
  deriving DecidableEq

inductive Binary64 where
  | undefined
  | infinite (negative : Bool)
  | finite (negative : Bool) (magnitude : Magnitude)
  deriving DecidableEq

/-- The multiple of the local spacing nearest to `numerator / denominator` units, a half going to
the even multiple. -/
def nearestUnits (numerator denominator : Nat) : Nat :=
  let step := 2 ^ spacing (numerator / denominator)
  roundQuotient .toEven numerator (denominator * step) * step

theorem two_pow_spacing_dvd_nearestUnits (numerator denominator : Nat) :
    2 ^ spacing (nearestUnits numerator denominator) ∣ nearestUnits numerator denominator := by
  let quotient := numerator / denominator
  let exponent := spacing quotient
  let rounded := roundQuotient .toEven numerator (denominator * 2 ^ exponent)
  have value : nearestUnits numerator denominator = rounded * 2 ^ exponent := rfl
  rw [value]
  have small : rounded ≤ 2 ^ (53 : Nat) := by
    have upper := roundQuotient_le_succ .toEven numerator (denominator * 2 ^ exponent)
    have split : numerator / (denominator * 2 ^ exponent) = quotient / 2 ^ exponent :=
      (Nat.div_div_eq_div_mul ..).symm
    have bound : quotient / 2 ^ exponent < 2 ^ (53 : Nat) := by
      rw [Nat.div_lt_iff_lt_mul (Nat.two_pow_pos _), ← Nat.pow_add]
      refine Nat.lt_of_lt_of_le (Nat.lt_log2_self (n := quotient))
        (Nat.pow_le_pow_right (by omega) ?_)
      simp only [exponent, spacing]
      omega
    simp only [rounded]
    omega
  rcases Nat.eq_zero_or_pos rounded with zero | positive
  · simp [zero]
  · have nonzero : rounded * 2 ^ exponent ≠ 0 :=
      Nat.mul_ne_zero (by omega) (Nat.pos_iff_ne_zero.mp (Nat.two_pow_pos _))
    rcases Nat.lt_or_eq_of_le small with below | equal
    · refine Nat.dvd_trans (Nat.pow_dvd_pow 2 ?_) (Nat.dvd_mul_left ..)
      have : (rounded * 2 ^ exponent).log2 < 53 + exponent := by
        rw [Nat.log2_lt nonzero, Nat.pow_add]
        exact Nat.mul_lt_mul_of_pos_right below (Nat.two_pow_pos _)
      simp only [spacing]
      omega
    · rw [equal, ← Nat.pow_add]
      refine Nat.pow_dvd_pow 2 ?_
      simp only [spacing, Nat.log2_two_pow]
      omega

/-- The magnitude nearest to `numerator / denominator` units, if it is not too large. -/
def Magnitude.nearest? (numerator denominator : Nat) : Option Magnitude :=
  let units := nearestUnits numerator denominator
  if small : units < unitsLimit then
    some ⟨units, small, two_pow_spacing_dvd_nearestUnits numerator denominator⟩
  else none

def Magnitude.zero : Magnitude :=
  ⟨0, unitsLimit_pos, Nat.dvd_zero _⟩

namespace Binary64

def zero : Binary64 :=
  .finite false .zero

/-- A quotient of units rounded to a number; what is too large becomes infinite. -/
def ofQuotient (negative : Bool) (numerator denominator : Nat) : Binary64 :=
  match Magnitude.nearest? numerator denominator with
  | some magnitude => .finite negative magnitude
  | none => .infinite negative

def ofInt (value : Int) : Binary64 :=
  ofQuotient (value < 0) (value.natAbs * unitsPerOne) 1

def one : Binary64 :=
  ofInt 1

/-- The number nearest to `digits * 10 ^ exponent`. Below `2 ^ -1076` the answer is zero, which
keeps the powers of ten bounded. -/
def ofDecimal (negative : Bool) (digits : Nat) (exponent : Int) : Binary64 :=
  if digits = 0 then .finite negative .zero
  else if 400 < exponent then .infinite negative
  else if 0 ≤ exponent then
    ofQuotient negative (digits * 10 ^ exponent.toNat * unitsPerOne) 1
  else if (digits.log2 : Int) + 1 + 3 * exponent ≤ -1076 then .finite negative .zero
  else ofQuotient negative (digits * unitsPerOne) (10 ^ (-exponent).toNat)

def signedUnits (negative : Bool) (magnitude : Magnitude) : Int :=
  if negative then -(magnitude.units : Int) else magnitude.units

/-- Addition rounded to nearest. A zero sum is negative only if both terms are. -/
def add : Binary64 → Binary64 → Binary64
  | .undefined, _ => .undefined
  | _, .undefined => .undefined
  | .infinite left, .infinite right => if left = right then .infinite left else .undefined
  | .infinite left, .finite .. => .infinite left
  | .finite .., .infinite right => .infinite right
  | .finite leftSign left, .finite rightSign right =>
    let sum := signedUnits leftSign left + signedUnits rightSign right
    if sum = 0 then .finite (leftSign && rightSign) .zero
    else ofQuotient (sum < 0) sum.natAbs 1

instance : Add Binary64 :=
  ⟨add⟩

end Binary64

end Datapack.Number
