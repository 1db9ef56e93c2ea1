import Datapack.Number.Binary64
import Mathlib.Algebra.Order.Field.Basic
import Mathlib.Algebra.Order.Field.Rat
import Mathlib.Tactic.FieldSimp
import Mathlib.Tactic.Linarith

/-!
What rounding does to a quotient. Whichever way a half goes, the result is off by at most one half,
and a larger quotient is not rounded to less. Double-precision numbers lie closer together where
they are smaller, but the multiple of the local spacing that is nearest to a quotient is nearest to
it among all of them.
-/

namespace Datapack.Number

section Quotients

variable {half : Half} {numerator denominator : Nat}

/-- A quotient is rounded down or up by its remainder. Only if that is exactly one half does it
matter where a half goes. -/
theorem roundQuotient_cases (half : Half) (numerator denominator : Nat) :
    (roundQuotient half numerator denominator = numerator / denominator ∧
      2 * (numerator % denominator) ≤ denominator ∧
      (2 * (numerator % denominator) = denominator →
        half = .toEven ∧ numerator / denominator % 2 = 0)) ∨
    (roundQuotient half numerator denominator = numerator / denominator + 1 ∧
      denominator ≤ 2 * (numerator % denominator) ∧
      (2 * (numerator % denominator) = denominator →
        half = .toEven → numerator / denominator % 2 = 1)) := by
  unfold roundQuotient
  dsimp only
  split
  next less => exact .inl ⟨rfl, by omega, by omega⟩
  next =>
    split
    next more => exact .inr ⟨rfl, by omega, by omega⟩
    next =>
      cases half with
      | up => exact .inr ⟨rfl, by omega, nofun⟩
      | toEven =>
        rcases Nat.mod_two_eq_zero_or_one (numerator / denominator) with even | odd
        · exact .inl ⟨by simp [even], by omega, fun _ => ⟨rfl, even⟩⟩
        · exact .inr ⟨by simp [odd], by omega, fun _ _ => odd⟩

theorem roundQuotient_near (half : Half) (numerator : Nat) (positive : 0 < denominator) :
    2 * numerator ≤ 2 * (roundQuotient half numerator denominator * denominator) + denominator ∧
      2 * (roundQuotient half numerator denominator * denominator) ≤
        2 * numerator + denominator := by
  have parts := Nat.div_add_mod' numerator denominator
  have rest := Nat.mod_lt numerator positive
  rcases roundQuotient_cases half numerator denominator with ⟨down, small, -⟩ | ⟨up, large, -⟩
  · rw [down]
    omega
  · rw [up, Nat.succ_mul (numerator / denominator)]
    omega

/-- A half goes up, so that rounding is cutting off after adding one half. -/
theorem roundQuotient_up (positive : 0 < denominator) :
    roundQuotient .up numerator denominator =
      (2 * numerator + denominator) / (2 * denominator) := by
  have parts := Nat.div_add_mod' numerator denominator
  have rest := Nat.mod_lt numerator positive
  symm
  rw [Nat.div_eq_iff (by omega), Nat.mul_left_comm]
  rcases roundQuotient_cases .up numerator denominator with ⟨down, small, tie⟩ | ⟨up, large, -⟩
  · have below : 2 * (numerator % denominator) ≠ denominator := fun equal => nomatch (tie equal).1
    rw [down]
    omega
  · rw [up, Nat.succ_mul (numerator / denominator)]
    omega

theorem even_of_tie (positive : 0 < denominator)
    (tie : 2 * numerator =
        2 * (roundQuotient .toEven numerator denominator * denominator) + denominator ∨
      2 * (roundQuotient .toEven numerator denominator * denominator) =
        2 * numerator + denominator) :
    Even (roundQuotient .toEven numerator denominator) := by
  have parts := Nat.div_add_mod' numerator denominator
  have rest := Nat.mod_lt numerator positive
  rw [Nat.even_iff]
  rcases roundQuotient_cases .toEven numerator denominator with ⟨down, -, even⟩ | ⟨up, -, odd⟩
  · rw [down] at tie ⊢
    exact (even (by omega)).2
  · rw [up, Nat.succ_mul (numerator / denominator)] at tie
    have before := odd (by omega) rfl
    omega

theorem roundQuotient_mono {larger : Nat} (positive : 0 < denominator)
    (ordered : numerator ≤ larger) :
    roundQuotient half numerator denominator ≤ roundQuotient half larger denominator := by
  rcases Nat.eq_or_lt_of_le ordered with rfl | less
  · exact Nat.le_refl _
  · -- Were it rounded to less, the two errors would bridge a whole denominator.
    have lower := (roundQuotient_near half numerator positive).2
    have upper := (roundQuotient_near half larger positive).1
    by_contra exceeds
    have step := Nat.mul_le_mul_right denominator (Nat.lt_of_not_le exceeds)
    rw [Nat.succ_mul] at step
    omega

theorem abs_roundQuotient_sub_le (half : Half) (numerator : Nat) (positive : 0 < denominator) :
    |(roundQuotient half numerator denominator : ℚ) - numerator / denominator| ≤ 1 / 2 := by
  obtain ⟨lower, upper⟩ := roundQuotient_near half numerator positive
  rw [← Nat.cast_le (α := ℚ)] at lower upper
  push_cast at lower upper
  have scale : (0 : ℚ) < denominator := Nat.cast_pos.mpr positive
  rw [abs_sub_le_iff]
  constructor
  · rw [sub_le_comm, le_div_iff₀ scale]
    linarith
  · rw [sub_le_iff_le_add, div_le_iff₀ scale]
    linarith

theorem one_le_abs_sub_add_abs_sub {first second : ℤ} (different : first ≠ second) (point : ℚ) :
    1 ≤ |(first : ℚ) - point| + |(second : ℚ) - point| := by
  have apart : (1 : ℚ) ≤ |(first : ℚ) - second| := by
    exact_mod_cast Int.one_le_abs (sub_ne_zero.mpr different)
  rw [abs_sub_comm (second : ℚ)]
  exact apart.trans (abs_sub_le _ _ _)

theorem abs_roundQuotient_sub_le_abs (half : Half) (numerator : Nat) (positive : 0 < denominator)
    (other : ℤ) :
    |(roundQuotient half numerator denominator : ℚ) - numerator / denominator| ≤
      |(other : ℚ) - numerator / denominator| := by
  have near := abs_roundQuotient_sub_le half numerator positive
  generalize roundQuotient half numerator denominator = rounded at near ⊢
  by_cases same : (rounded : ℤ) = other
  · rw [← same, Int.cast_natCast]
  · have apart := one_le_abs_sub_add_abs_sub same (numerator / denominator)
    rw [Int.cast_natCast] at apart
    linarith

/-- If another whole number is as near to the quotient, the one that is taken is even. -/
theorem even_of_abs_eq (positive : 0 < denominator) {other : ℤ}
    (different : roundQuotient .toEven numerator denominator ≠ other)
    (equal : |(roundQuotient .toEven numerator denominator : ℚ) - numerator / denominator| =
      |(other : ℚ) - numerator / denominator|) :
    Even (roundQuotient .toEven numerator denominator) := by
  have near := abs_roundQuotient_sub_le .toEven numerator positive
  apply even_of_tie positive
  generalize roundQuotient .toEven numerator denominator = rounded at near different equal ⊢
  have scale : (0 : ℚ) < denominator := Nat.cast_pos.mpr positive
  have middle : |(rounded : ℚ) - numerator / denominator| = 1 / 2 := by
    have apart := one_le_abs_sub_add_abs_sub different (numerator / denominator)
    rw [Int.cast_natCast] at apart
    linarith
  rcases eq_or_eq_neg_of_abs_eq middle with above | below
  · right
    rw [sub_eq_iff_eq_add, ← sub_eq_iff_eq_add', eq_div_iff scale.ne'] at above
    have doubled : (2 * (rounded * denominator) : ℚ) = 2 * numerator + denominator := by linarith
    exact_mod_cast doubled
  · left
    rw [sub_eq_iff_eq_add, ← sub_eq_iff_eq_add', eq_div_iff scale.ne'] at below
    have doubled : (2 * numerator : ℚ) = 2 * (rounded * denominator) + denominator := by linarith
    exact_mod_cast doubled

end Quotients

section Magnitudes

variable {numerator denominator : Nat}

/-- A magnitude is a multiple of a power of two, unless it is below the magnitudes that are spaced
by that power. -/
theorem IsRepresentable.dvd_or_lt {units : Nat} (representable : IsRepresentable units)
    (exponent : Nat) : 2 ^ exponent ∣ units ∨ 0 < exponent ∧ units < 2 ^ (52 + exponent) := by
  rcases Nat.lt_or_ge (spacing units) exponent with finer | coarser
  · refine .inr ⟨by omega, Nat.lt_of_lt_of_le Nat.lt_log2_self ?_⟩
    apply Nat.pow_le_pow_right (by omega)
    unfold spacing at finer
    omega
  · exact .inl (Nat.dvd_trans (Nat.pow_dvd_pow 2 coarser) representable.2)

/-- Where magnitudes are spaced by more than a unit, the first of them is not above the quotient. -/
theorem two_pow_le_of_spacing_pos {units : Nat} (spaced : 0 < spacing units) :
    2 ^ (52 + spacing units) ≤ units := by
  unfold spacing at spaced ⊢
  have nonzero : units ≠ 0 := by
    rintro rfl
    simp at spaced
  have exponent : 52 + (units.log2 - 52) = units.log2 := by omega
  rw [exponent]
  exact Nat.log2_self_le nonzero

theorem spacing_le {units exponent : Nat} (small : units < 2 ^ 53 * 2 ^ exponent) :
    spacing units ≤ exponent := by
  rw [← Nat.pow_add] at small
  unfold spacing
  rcases Nat.eq_zero_or_pos units with rfl | positive
  · simp
  · have bound := (Nat.log2_lt positive.ne').mpr small
    omega

theorem nearestUnits_le (numerator denominator : Nat) :
    nearestUnits numerator denominator ≤
      numerator / denominator + 2 ^ spacing (numerator / denominator) := by
  unfold nearestUnits
  dsimp only
  generalize 2 ^ spacing (numerator / denominator) = step
  have upper := roundQuotient_le_succ .toEven numerator (denominator * step)
  rw [← Nat.div_div_eq_div_mul] at upper
  calc
    _ ≤ (numerator / denominator / step + 1) * step := Nat.mul_le_mul_right step upper
    _ = numerator / denominator / step * step + step := Nat.succ_mul ..
    _ ≤ _ := Nat.add_le_add_right (Nat.div_mul_le_self ..) step

theorem abs_mul_sub {step : Nat} (positive : 0 < denominator) (wide : 0 < step) (whole : ℚ) :
    |whole * step - numerator / denominator| =
      |whole - numerator / (denominator * step : Nat)| * step := by
  have scale : (denominator : ℚ) ≠ 0 := Nat.cast_ne_zero.mpr positive.ne'
  have unit : (step : ℚ) ≠ 0 := Nat.cast_ne_zero.mpr wide.ne'
  have factored : whole * step - numerator / denominator =
      (whole - numerator / (denominator * step : Nat)) * step := by
    push_cast
    field_simp
  rw [factored, abs_mul, Nat.abs_cast]

theorem abs_nearestUnits_sub_le (positive : 0 < denominator) :
    |(nearestUnits numerator denominator : ℚ) - numerator / denominator| ≤
      1 / 2 * (2 ^ spacing (numerator / denominator) : Nat) := by
  unfold nearestUnits
  have wide := Nat.two_pow_pos (spacing (numerator / denominator))
  dsimp only
  generalize 2 ^ spacing (numerator / denominator) = step at wide ⊢
  rw [Nat.cast_mul, abs_mul_sub positive wide]
  have near := abs_roundQuotient_sub_le .toEven numerator (Nat.mul_pos positive wide)
  exact mul_le_mul_of_nonneg_right near (Nat.cast_nonneg step)

/-- No multiple of the local spacing lies nearer to the quotient. -/
theorem abs_nearestUnits_sub_le_of_dvd (numerator : Nat) (positive : 0 < denominator)
    {other : Nat} (onGrid : 2 ^ spacing (numerator / denominator) ∣ other) :
    |(nearestUnits numerator denominator : ℚ) - numerator / denominator| ≤
      |(other : ℚ) - numerator / denominator| := by
  unfold nearestUnits
  have wide := Nat.two_pow_pos (spacing (numerator / denominator))
  dsimp only
  generalize 2 ^ spacing (numerator / denominator) = step at wide onGrid ⊢
  obtain ⟨whole, rfl⟩ := onGrid
  rw [Nat.mul_comm step, Nat.cast_mul, Nat.cast_mul, abs_mul_sub positive wide,
    abs_mul_sub positive wide]
  have near := abs_roundQuotient_sub_le_abs .toEven numerator (Nat.mul_pos positive wide) whole
  exact mul_le_mul_of_nonneg_right near (Nat.cast_nonneg step)

theorem abs_nearestUnits_sub_le_abs (positive : 0 < denominator) {other : Nat}
    (representable : IsRepresentable other) :
    |(nearestUnits numerator denominator : ℚ) - numerator / denominator| ≤
      |(other : ℚ) - numerator / denominator| := by
  rcases representable.dvd_or_lt (spacing (numerator / denominator)) with onGrid | ⟨spaced, below⟩
  · exact abs_nearestUnits_sub_le_of_dvd numerator positive onGrid
  · -- Finer magnitudes end below the first one of the grid, which lies on their side already.
    have edge := abs_nearestUnits_sub_le_of_dvd numerator positive
      (Nat.pow_dvd_pow 2 (Nat.le_add_left (spacing (numerator / denominator)) 52))
    have reached := two_pow_le_of_spacing_pos spaced
    generalize 2 ^ (52 + spacing (numerator / denominator)) = first at below edge reached
    have scale : (0 : ℚ) < denominator := Nat.cast_pos.mpr positive
    have under : (first : ℚ) ≤ numerator / denominator := by
      rw [le_div_iff₀ scale]
      exact_mod_cast (Nat.le_div_iff_mul_le positive).mp reached
    have less : (other : ℚ) ≤ first := Nat.cast_le.mpr below.le
    rw [abs_of_nonpos (sub_nonpos.mpr under)] at edge
    rw [abs_of_nonpos (sub_nonpos.mpr (less.trans under))]
    linarith

end Magnitudes

def Magnitude.value (magnitude : Magnitude) : ℚ :=
  magnitude.units / unitsPerOne

theorem Magnitude.value_nonneg (magnitude : Magnitude) : 0 ≤ magnitude.value :=
  div_nonneg (Nat.cast_nonneg _) (Nat.cast_nonneg _)

theorem unitsPerOne_pos : (0 : ℚ) < unitsPerOne := by
  unfold unitsPerOne
  generalize 1074 = exponent
  exact Nat.cast_pos.mpr (Nat.two_pow_pos exponent)

theorem Magnitude.value_eq_zero_iff (magnitude : Magnitude) :
    magnitude.value = 0 ↔ magnitude.units = 0 := by
  rw [value, div_eq_zero_iff, or_iff_left unitsPerOne_pos.ne', Nat.cast_eq_zero]

section Nearest

variable {numerator denominator : Nat} (nearest : Magnitude)
  (positive : 0 < denominator) (rounded : nearest.units = nearestUnits numerator denominator)

include positive rounded

theorem Magnitude.abs_value_sub_le :
    |nearest.value - numerator / denominator / unitsPerOne| ≤
      1 / 2 * (2 ^ spacing (numerator / denominator) : Nat) / unitsPerOne := by
  unfold value
  rw [← sub_div, abs_div, abs_of_pos unitsPerOne_pos, rounded]
  exact div_le_div_of_nonneg_right (abs_nearestUnits_sub_le positive) unitsPerOne_pos.le

theorem Magnitude.abs_value_sub_le_abs (other : Magnitude) :
    |nearest.value - numerator / denominator / unitsPerOne| ≤
      |other.value - numerator / denominator / unitsPerOne| := by
  unfold value
  rw [← sub_div, ← sub_div, abs_div, abs_div, rounded]
  exact div_le_div_of_nonneg_right
    (abs_nearestUnits_sub_le_abs positive other.representable) (abs_nonneg _)

end Nearest

namespace Binary64

def value? : Binary64 → Option ℚ
  | .finite negative magnitude => some (if negative then -magnitude.value else magnitude.value)
  | _ => none

/-- No finite number lies nearer to the target. -/
def IsNearestTo (number : Binary64) (target : ℚ) : Prop :=
  ∃ value, number.value? = some value ∧
    ∀ other otherValue, value? other = some otherValue →
      |value - target| ≤ |otherValue - target|

theorem ofQuotient_eq {numerator denominator : Nat} (negative : Bool)
    (small : nearestUnits numerator denominator < unitsLimit) :
    ofQuotient negative numerator denominator =
      .finite negative ⟨nearestUnits numerator denominator, small,
        two_pow_spacing_dvd_nearestUnits numerator denominator⟩ := by
  unfold ofQuotient Magnitude.nearest?
  dsimp only
  rw [dif_pos small]

/-- A quotient that is not too large is rounded to a number nearest to it. -/
theorem isNearestTo_ofQuotient {numerator denominator : Nat} (positive : 0 < denominator)
    (small : nearestUnits numerator denominator < unitsLimit) :
    (ofQuotient false numerator denominator).IsNearestTo
      (numerator / denominator / unitsPerOne) := by
  rw [ofQuotient_eq false small]
  refine ⟨_, rfl, ?_⟩
  intro other value known
  match other with
  | .finite negative magnitude =>
    have near := Magnitude.abs_value_sub_le_abs
      ⟨_, small, two_pow_spacing_dvd_nearestUnits numerator denominator⟩ positive rfl magnitude
    obtain rfl := Option.some.inj known
    cases negative with
    | false => exact near
    | true =>
      -- A quotient is not negative, so that a number's opposite lies on the far side of zero.
      have below := magnitude.value_nonneg
      have quotient : (0 : ℚ) ≤ numerator / denominator / unitsPerOne :=
        div_nonneg (div_nonneg (Nat.cast_nonneg _) (Nat.cast_nonneg _)) (Nat.cast_nonneg _)
      refine near.trans ?_
      rw [if_pos rfl, ← neg_add', abs_neg, abs_of_nonneg (add_nonneg below quotient),
        abs_sub_le_iff]
      constructor <;> linarith

end Binary64

end Datapack.Number
