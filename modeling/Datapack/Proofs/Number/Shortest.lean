import Datapack.Number.Shortest
import Datapack.Proofs.Number.Rounding
import Mathlib.Algebra.Order.Field.Power
import Mathlib.Tactic.Ring

/-!
The shortest decimal of a number is read back as that number. The decimals that are read as one
number are those in its rounding interval, and seventeen digits are enough to get there.
-/

namespace Datapack.Number

section Rounding

variable {numerator denominator units exponent : Nat}

/-- Two whole numbers of which a quotient is one half away are neighbours, so that one is odd. -/
theorem not_even_of_lt {first second : Nat} (positive : 0 < denominator) (less : first < second)
    (above : 2 * numerator ≤ 2 * (first * denominator) + denominator)
    (below : 2 * (second * denominator) ≤ 2 * numerator + denominator)
    (even : 2 * numerator = 2 * (first * denominator) + denominator → Even first)
    (alsoEven : 2 * (second * denominator) = 2 * numerator + denominator → Even second) :
    False := by
  have gap := Nat.mul_le_mul_right denominator less
  rw [Nat.succ_mul] at gap
  have next : second = first + 1 := by
    apply Nat.eq_of_mul_eq_mul_right positive
    rw [Nat.succ_mul]
    omega
  have odd := alsoEven (by omega)
  rw [next, Nat.even_add_one] at odd
  exact odd (even (by omega))

theorem roundQuotient_toEven_eq {whole : Nat} (positive : 0 < denominator)
    (lower : 2 * (whole * denominator) ≤ 2 * numerator + denominator)
    (upper : 2 * numerator ≤ 2 * (whole * denominator) + denominator)
    (tie : 2 * (whole * denominator) = 2 * numerator + denominator ∨
      2 * numerator = 2 * (whole * denominator) + denominator → Even whole) :
    roundQuotient .toEven numerator denominator = whole := by
  obtain ⟨above, below⟩ := roundQuotient_near .toEven numerator positive
  have even := @even_of_tie numerator denominator positive
  generalize roundQuotient .toEven numerator denominator = rounded at above below even ⊢
  rcases Nat.lt_trichotomy rounded whole with less | same | more
  · exact (not_even_of_lt positive less above lower (fun equal => even (.inl equal))
      fun equal => tie (.inl equal)).elim
  · exact same
  · exact (not_even_of_lt positive more upper below (fun equal => tie (.inr equal))
      fun equal => even (.inr equal)).elim

theorem nearestUnits_eq (positive : 0 < denominator)
    (spaced : spacing (numerator / denominator) = exponent) (onGrid : 2 ^ exponent ∣ units)
    (lower : 2 * (units * denominator) ≤ 2 * numerator + denominator * 2 ^ exponent)
    (upper : 2 * numerator ≤ 2 * (units * denominator) + denominator * 2 ^ exponent)
    (tie : 2 * (units * denominator) = 2 * numerator + denominator * 2 ^ exponent ∨
      2 * numerator = 2 * (units * denominator) + denominator * 2 ^ exponent →
        Even (units / 2 ^ exponent)) :
    nearestUnits numerator denominator = units := by
  obtain ⟨whole, rfl⟩ := onGrid
  have wide := Nat.two_pow_pos exponent
  have scaled : 2 ^ exponent * whole * denominator = whole * (denominator * 2 ^ exponent) := by
    ac_rfl
  rw [scaled] at lower upper tie
  rw [Nat.mul_div_cancel_left whole wide] at tie
  unfold nearestUnits
  dsimp only
  rw [spaced, roundQuotient_toEven_eq (Nat.mul_pos positive wide) lower upper tie, Nat.mul_comm]

theorem add_le_of_dvd {step first second : Nat} (stepFirst : step ∣ first)
    (stepSecond : step ∣ second) (less : first < second) : first + step ≤ second := by
  have room := Nat.le_of_dvd (Nat.sub_pos_of_lt less) (Nat.dvd_sub stepSecond stepFirst)
  omega

theorem spacing_eq_of_log2 {other : Nat}
    (lower : 2 ^ other.log2 ≤ units) (upper : units < 2 ^ (other.log2 + 1)) :
    spacing units = spacing other := by
  have positive : units ≠ 0 := by
    rintro rfl
    exact absurd lower (Nat.not_le_of_lt (Nat.two_pow_pos _))
  unfold spacing
  rw [(Nat.log2_eq_iff positive).mpr ⟨lower, upper⟩]

variable (positive : 0 < denominator) (representable : IsRepresentable units) (nonzero : units ≠ 0)

include positive

include representable nonzero in
/-- From above a number is reached from up to half a step away. -/
theorem nearestUnits_of_above (reached : units * denominator ≤ numerator)
    (upper : 2 * numerator ≤ 2 * (units * denominator) + denominator * 2 ^ spacing units)
    (tie : 2 * numerator = 2 * (units * denominator) + denominator * 2 ^ spacing units →
      Even (units / 2 ^ spacing units)) :
    nearestUnits numerator denominator = units := by
  have room : units + 2 ^ spacing units ≤ 2 ^ (units.log2 + 1) := by
    refine add_le_of_dvd representable.2 (Nat.pow_dvd_pow 2 ?_) Nat.lt_log2_self
    unfold spacing
    omega
  have wide := Nat.mul_pos positive (Nat.two_pow_pos (spacing units))
  have bound := Nat.mul_le_mul_right denominator room
  rw [Nat.add_mul, Nat.mul_comm (2 ^ spacing units)] at bound
  have spaced : spacing (numerator / denominator) = spacing units := by
    apply spacing_eq_of_log2
    · refine (Nat.log2_self_le nonzero).trans ?_
      rwa [Nat.le_div_iff_mul_le positive]
    · rw [Nat.div_lt_iff_lt_mul positive]
      omega
  refine nearestUnits_eq positive spaced representable.2 (by omega) upper ?_
  rintro (equal | equal)
  · omega
  · exact tie equal

include representable nonzero in
theorem nearestUnits_of_below (regular : ¬(0 < spacing units ∧ units = 2 ^ units.log2))
    (missed : numerator < units * denominator)
    (lower : 2 * (units * denominator) ≤ 2 * numerator + denominator * 2 ^ spacing units)
    (tie : 2 * (units * denominator) = 2 * numerator + denominator * 2 ^ spacing units →
      Even (units / 2 ^ spacing units)) :
    nearestUnits numerator denominator = units := by
  have under : numerator / denominator < units := by
    rwa [Nat.div_lt_iff_lt_mul positive]
  have spaced : spacing (numerator / denominator) = spacing units := by
    rcases Nat.eq_zero_or_pos (spacing units) with smallest | coarse
    · have small : units < 2 ^ 53 := by
        rw [← Nat.log2_lt nonzero]
        unfold spacing at smallest
        omega
      rw [smallest, ← Nat.le_zero]
      exact spacing_le (under.trans small)
    · have first : 2 ^ units.log2 + 2 ^ spacing units ≤ units := by
        refine add_le_of_dvd (Nat.pow_dvd_pow 2 (Nat.sub_le _ _)) representable.2 ?_
        exact Nat.lt_of_le_of_ne (Nat.log2_self_le nonzero) fun same => regular ⟨coarse, same.symm⟩
      apply spacing_eq_of_log2
      · have bound := Nat.mul_le_mul_right denominator first
        rw [Nat.add_mul, Nat.mul_comm (2 ^ spacing units)] at bound
        rw [Nat.le_div_iff_mul_le positive]
        omega
      · exact under.trans Nat.lt_log2_self
  refine nearestUnits_eq positive spaced representable.2 lower (by omega) ?_
  rintro (equal | equal)
  · exact tie equal
  · omega

/-- Below a power of two the numbers lie twice as close, and the power is even among them. -/
theorem nearestUnits_of_below_power (spaced : 0 < spacing units) (power : units = 2 ^ units.log2)
    (missed : numerator < units * denominator)
    (lower : 4 * (units * denominator) ≤ 4 * numerator + denominator * 2 ^ spacing units) :
    nearestUnits numerator denominator = units := by
  obtain ⟨exponent, size⟩ : ∃ exponent, units.log2 = exponent + 53 := by
    refine ⟨units.log2 - 53, ?_⟩
    unfold spacing at spaced
    omega
  have step : spacing units = exponent + 1 := by
    unfold spacing
    omega
  have whole : units = 2 ^ 53 * 2 ^ exponent := by
    rw [← Nat.pow_add, Nat.add_comm, ← size]
    exact power
  have wide := Nat.mul_pos positive (Nat.two_pow_pos exponent)
  have scaled : units * denominator = 2 ^ 53 * (denominator * 2 ^ exponent) := by
    rw [whole]
    ac_rfl
  have doubled : denominator * 2 ^ spacing units = 2 * (denominator * 2 ^ exponent) := by
    rw [step, Nat.pow_succ]
    ac_rfl
  rw [doubled] at lower
  have under : numerator / denominator < 2 ^ (exponent + 53) := by
    rwa [Nat.div_lt_iff_lt_mul positive, ← size, ← power]
  have reached : 2 ^ (exponent + 52) ≤ numerator / denominator := by
    have half : 2 ^ (exponent + 52) * denominator = 2 ^ 52 * (denominator * 2 ^ exponent) := by
      rw [Nat.pow_add]
      ac_rfl
    rw [Nat.le_div_iff_mul_le positive, half]
    omega
  have finer : spacing (numerator / denominator) = exponent := by
    have least : numerator / denominator ≠ 0 := by
      have := Nat.two_pow_pos (exponent + 52)
      omega
    unfold spacing
    rw [(Nat.log2_eq_iff least).mpr ⟨reached, under⟩]
    omega
  refine nearestUnits_eq positive finer ⟨2 ^ 53, ?_⟩ (by omega) (by omega) fun _ => ?_
  · rw [whole, Nat.mul_comm]
  · rw [whole, Nat.mul_div_cancel _ (Nat.two_pow_pos exponent)]
    exact ⟨2 ^ 52, rfl⟩

end Rounding

/-- The point, in quarters of a unit, belongs to the interval. -/
structure RoundingInterval.Contains (interval : RoundingInterval) (point : ℚ) : Prop where
  lower : interval.low ≤ point
  upper : point ≤ interval.high
  ends : point = interval.low ∨ point = interval.high → interval.closed = true

section Intervals

variable {units : Nat} (representable : IsRepresentable units) (nonzero : units ≠ 0)

theorem even_of_closed (closed : (roundingInterval units).closed = true) :
    Even (units / 2 ^ spacing units) :=
  Nat.even_iff.mpr (of_decide_eq_true closed)

include representable nonzero

theorem two_pow_spacing_le : 2 ^ spacing units ≤ units :=
  Nat.le_of_dvd (Nat.pos_of_ne_zero nonzero) representable.2

theorem low_add_of_power (power : 0 < spacing units ∧ units = 2 ^ units.log2) :
    (roundingInterval units).low + 2 ^ spacing units = 4 * units := by
  have step := two_pow_spacing_le representable nonzero
  unfold roundingInterval
  simp only [if_pos power]
  omega

theorem low_add_of_regular (regular : ¬(0 < spacing units ∧ units = 2 ^ units.log2)) :
    (roundingInterval units).low + 2 * 2 ^ spacing units = 4 * units := by
  have step := two_pow_spacing_le representable nonzero
  unfold roundingInterval
  simp only [if_neg regular]
  omega

/-- The lower end is at least a quarter and at most half a step away. -/
theorem low_bounds :
    (roundingInterval units).low + 2 ^ spacing units ≤ 4 * units ∧
      4 * units ≤ (roundingInterval units).low + 2 * 2 ^ spacing units := by
  by_cases power : 0 < spacing units ∧ units = 2 ^ units.log2
  · have low := low_add_of_power representable nonzero power
    omega
  · have low := low_add_of_regular representable nonzero power
    omega

/-- What lies in the interval of a number is rounded to that number. -/
theorem nearestUnits_of_contains {numerator denominator : Nat} (positive : 0 < denominator)
    (inside : (roundingInterval units).Contains ((4 * numerator : Nat) / denominator)) :
    nearestUnits numerator denominator = units := by
  obtain ⟨lower, upper, ends⟩ := inside
  have scale : (0 : ℚ) < denominator := Nat.cast_pos.mpr positive
  rw [le_div_iff₀ scale] at lower
  rw [div_le_iff₀ scale] at upper
  rw [div_eq_iff scale.ne', div_eq_iff scale.ne'] at ends
  norm_cast at lower upper ends
  have high : (roundingInterval units).high * denominator =
      4 * (units * denominator) + 2 * (denominator * 2 ^ spacing units) := by
    rw [show (roundingInterval units).high = 4 * units + 2 * 2 ^ spacing units from rfl]
    ring
  rw [high] at upper ends
  rcases Nat.lt_or_ge numerator (units * denominator) with missed | reached
  · by_cases power : 0 < spacing units ∧ units = 2 ^ units.log2
    · have low : (roundingInterval units).low * denominator + denominator * 2 ^ spacing units =
          4 * (units * denominator) := by
        rw [← Nat.mul_assoc, ← low_add_of_power representable nonzero power]
        ring
      exact nearestUnits_of_below_power positive power.1 power.2 missed (by omega)
    · have low : (roundingInterval units).low * denominator +
          2 * (denominator * 2 ^ spacing units) = 4 * (units * denominator) := by
        rw [← Nat.mul_assoc 4, ← low_add_of_regular representable nonzero power]
        ring
      apply nearestUnits_of_below positive representable nonzero power missed (by omega)
      exact fun equal => even_of_closed (ends (.inl (by omega)))
  · apply nearestUnits_of_above positive representable nonzero reached (by omega)
    exact fun equal => even_of_closed (ends (.inr (by omega)))

end Intervals

def Decimal.value (decimal : Decimal) : ℚ :=
  decimal.digits * (10 : ℚ) ^ decimal.exponent

def Decimal.quarters (decimal : Decimal) : ℚ :=
  4 * unitsPerOne * decimal.value

theorem ten_zpow (exponent : ℤ) :
    (10 : ℚ) ^ exponent = (10 ^ exponent.toNat : Nat) / (10 ^ (-exponent).toNat : Nat) := by
  rcases Int.le_total 0 exponent with whole | fraction
  · obtain ⟨power, rfl⟩ := Int.eq_ofNat_of_zero_le whole
    simp
  · obtain ⟨power, same⟩ := Int.eq_ofNat_of_zero_le (Int.neg_nonneg_of_nonpos fraction)
    obtain rfl : exponent = -power := by omega
    simp

theorem Decimal.quarters_eq (decimal : Decimal) :
    decimal.quarters =
      (4 * (decimal.digits * 10 ^ decimal.exponent.toNat * unitsPerOne) : Nat) /
        (10 ^ (-decimal.exponent).toNat : Nat) := by
  rw [quarters, value, ten_zpow]
  push_cast
  ring

/-- Beyond `10 ^ 400` there are no numbers. -/
theorem le_of_exponent_large {digits exponent : Nat} (nonzero : digits ≠ 0)
    (large : 401 ≤ exponent) : 8 * unitsLimit ≤ 4 * (digits * 10 ^ exponent * unitsPerOne) := by
  -- The exponent gets a name, so that its power is compared once and never written out.
  obtain ⟨power, limit, known⟩ : ∃ power, 8 * unitsLimit ≤ 4 * (10 ^ power * unitsPerOne) ∧
      power = 401 := ⟨401, by decide +kernel, rfl⟩
  refine limit.trans (Nat.mul_le_mul_left 4 (Nat.mul_le_mul_right unitsPerOne ?_))
  calc
    10 ^ power ≤ 10 ^ exponent := Nat.pow_le_pow_right (by decide) (by omega)
    _ ≤ digits * 10 ^ exponent := Nat.le_mul_of_pos_left _ (Nat.pos_of_ne_zero nonzero)

theorem lt_of_exponent_small (digits : Nat) {exponent : Nat}
    (small : digits.log2 + 1077 ≤ 3 * exponent) : 4 * (digits * unitsPerOne) < 10 ^ exponent := by
  obtain ⟨places, quarters, known⟩ : ∃ places, 4 * unitsPerOne = 2 ^ places ∧ places = 1076 :=
    ⟨1076, by decide +kernel, rfl⟩
  calc
    4 * (digits * unitsPerOne) = digits * 2 ^ places := by
      rw [← quarters]
      ring
    _ < 2 ^ (digits.log2 + 1) * 2 ^ places :=
      Nat.mul_lt_mul_of_pos_right Nat.lt_log2_self (Nat.two_pow_pos places)
    _ ≤ 2 ^ (3 * exponent) := by
      rw [← Nat.pow_add]
      exact Nat.pow_le_pow_right (by decide) (by omega)
    _ ≤ 10 ^ exponent := by
      rw [Nat.pow_mul]
      exact Nat.pow_le_pow_left (by decide) exponent

section Reading

variable {magnitude : Magnitude} (nonzero : magnitude.units ≠ 0) {decimal : Decimal}
  (inside : (roundingInterval magnitude.units).Contains decimal.quarters)

include nonzero inside

theorem two_le_quarters : (2 : Nat) ≤ decimal.quarters := by
  have step := two_pow_spacing_le magnitude.representable nonzero
  obtain ⟨-, low⟩ := low_bounds magnitude.representable nonzero
  refine le_trans (Nat.cast_le.mpr ?_) inside.lower
  omega

theorem quarters_lt : decimal.quarters < (8 * unitsLimit : Nat) := by
  have step := two_pow_spacing_le magnitude.representable nonzero
  refine lt_of_le_of_lt inside.upper ?_
  have high : (roundingInterval magnitude.units).high =
      4 * magnitude.units + 2 * 2 ^ spacing magnitude.units := rfl
  have limit := magnitude.representable.1
  rw [high, Nat.cast_lt]
  omega

theorem ofQuotient_of_contains {negative : Bool} {numerator denominator : Nat}
    (positive : 0 < denominator) (same : decimal.quarters = (4 * numerator : Nat) / denominator) :
    Binary64.ofQuotient negative numerator denominator = .finite negative magnitude := by
  rw [same] at inside
  have rounded := nearestUnits_of_contains magnitude.representable nonzero positive inside
  have small := magnitude.representable.1
  rw [← rounded] at small
  rw [Binary64.ofQuotient_eq negative small]
  congr

/-- Every decimal in the interval of a number is read as that number. -/
theorem ofDecimal_of_contains (negative : Bool) :
    Binary64.ofDecimal negative decimal.digits decimal.exponent = .finite negative magnitude := by
  have quarters := decimal.quarters_eq
  have least := two_le_quarters nonzero inside
  have most := quarters_lt nonzero inside
  unfold Binary64.ofDecimal
  split
  next zero =>
    rw [quarters, zero, Nat.zero_mul, Nat.zero_mul, Nat.mul_zero, Nat.cast_zero, zero_div] at least
    norm_num at least
  next some =>
    split
    next huge =>
      rw [quarters, Int.toNat_eq_zero.mpr (by omega : -decimal.exponent ≤ 0), Nat.pow_zero,
        Nat.cast_one, div_one, Nat.cast_lt] at most
      exact absurd most (Nat.not_lt_of_le (le_of_exponent_large some (by omega)))
    next =>
      split
      next whole =>
        apply ofQuotient_of_contains nonzero inside Nat.one_pos
        rw [quarters, Int.toNat_eq_zero.mpr (by omega : -decimal.exponent ≤ 0), Nat.pow_zero]
      next fraction =>
        rw [Int.toNat_eq_zero.mpr (by omega), Nat.pow_zero, Nat.mul_one] at quarters
        have positive : 0 < 10 ^ (-decimal.exponent).toNat := Nat.pow_pos (by decide)
        split
        next tiny =>
          rw [quarters, le_div_iff₀ (Nat.cast_pos.mpr positive), ← Nat.cast_mul,
            Nat.cast_le] at least
          have less := lt_of_exponent_small decimal.digits
            (by omega : decimal.digits.log2 + 1077 ≤ 3 * (-decimal.exponent).toNat)
          omega
        next => exact ofQuotient_of_contains nonzero inside positive quarters

end Reading

section Grids

variable {interval : RoundingInterval} {half : Half} {exponent : ℤ}

theorem RoundingInterval.contains_of_between {point : ℚ} (above : interval.low < point)
    (below : point < interval.high) : interval.Contains point where
  lower := above.le
  upper := below.le
  ends := by
    rintro (equal | equal)
    · exact absurd equal above.ne'
    · exact absurd equal below.ne

theorem quarters_grid (point : Nat) (exponent : ℤ) :
    Decimal.quarters ⟨point, exponent⟩ =
      (point * (4 * unitsPerOne * 10 ^ exponent.toNat) : Nat) /
        (10 ^ (-exponent).toNat : Nat) := by
  have scaled : 4 * (point * 10 ^ exponent.toNat * unitsPerOne) =
      point * (4 * unitsPerOne * 10 ^ exponent.toNat) := by ring
  rw [Decimal.quarters_eq, scaled]

theorem ten_pow_pos (exponent : Nat) : (0 : ℚ) < (10 ^ exponent : Nat) :=
  Nat.cast_pos.mpr (Nat.pow_pos (by decide))

theorem contains_quarters_iff (interval : RoundingInterval) (point : Nat) (exponent : ℤ) :
    interval.Contains (Decimal.quarters ⟨point, exponent⟩) ↔
      (if interval.closed then
        interval.low * 10 ^ (-exponent).toNat ≤ point * (4 * unitsPerOne * 10 ^ exponent.toNat) &&
          point * (4 * unitsPerOne * 10 ^ exponent.toNat) ≤
            interval.high * 10 ^ (-exponent).toNat
      else
        interval.low * 10 ^ (-exponent).toNat < point * (4 * unitsPerOne * 10 ^ exponent.toNat) &&
          point * (4 * unitsPerOne * 10 ^ exponent.toNat) <
            interval.high * 10 ^ (-exponent).toNat : Bool) = true := by
  have scale := ten_pow_pos (-exponent).toNat
  rw [quarters_grid]
  generalize point * (4 * unitsPerOne * 10 ^ exponent.toNat) = numerator
  generalize 10 ^ (-exponent).toNat = denominator at scale ⊢
  have lower : (interval.low : ℚ) ≤ numerator / denominator ↔
      interval.low * denominator ≤ numerator := by
    rw [le_div_iff₀ scale, ← Nat.cast_mul, Nat.cast_le]
  have upper : (numerator / denominator : ℚ) ≤ interval.high ↔
      numerator ≤ interval.high * denominator := by
    rw [div_le_iff₀ scale, ← Nat.cast_mul, Nat.cast_le]
  have atLow : (numerator / denominator : ℚ) = interval.low ↔
      numerator = interval.low * denominator := by
    rw [div_eq_iff scale.ne', ← Nat.cast_mul, Nat.cast_inj]
  have atHigh : (numerator / denominator : ℚ) = interval.high ↔
      numerator = interval.high * denominator := by
    rw [div_eq_iff scale.ne', ← Nat.cast_mul, Nat.cast_inj]
  constructor
  · rintro ⟨low, high, ends⟩
    rw [lower] at low
    rw [upper] at high
    rw [atLow, atHigh] at ends
    split
    · simp [low, high]
    · next opened =>
      simp only [Bool.and_eq_true, decide_eq_true_eq]
      have apart := mt ends opened
      omega
  · intro between
    split at between
    · next closed =>
      simp only [Bool.and_eq_true, decide_eq_true_eq] at between
      exact ⟨lower.mpr between.1, upper.mpr between.2, fun _ => closed⟩
    · simp only [Bool.and_eq_true, decide_eq_true_eq] at between
      refine ⟨lower.mpr (by omega), upper.mpr (by omega), ?_⟩
      rw [atLow, atHigh]
      omega

theorem contains_of_gridPoint? {decimal : Decimal}
    (found : interval.gridPoint? half exponent = some decimal) :
    interval.Contains decimal.quarters := by
  unfold RoundingInterval.gridPoint? at found
  dsimp only at found
  split at found
  next first second =>
    obtain rfl := Option.some.inj found
    generalize interval.value * 10 ^ (-exponent).toNat = numerator at first second ⊢
    have lower := div_le_roundQuotient half numerator (4 * unitsPerOne * 10 ^ exponent.toNat)
    have upper := roundQuotient_le_succ half numerator (4 * unitsPerOne * 10 ^ exponent.toNat)
    generalize roundQuotient half numerator _ = rounded at lower upper ⊢
    rcases Nat.eq_or_lt_of_le lower with rfl | more
    · exact (contains_quarters_iff ..).mpr first
    · obtain rfl : rounded = _ := Nat.le_antisymm upper more
      exact (contains_quarters_iff ..).mpr second
  next first second =>
    obtain rfl := Option.some.inj found
    exact (contains_quarters_iff ..).mpr first
  next first second =>
    obtain rfl := Option.some.inj found
    exact (contains_quarters_iff ..).mpr second
  next => cases found

theorem quarters_div_le (value : Nat) (exponent : ℤ) :
    Decimal.quarters
      ⟨value * 10 ^ (-exponent).toNat / (4 * unitsPerOne * 10 ^ exponent.toNat), exponent⟩ ≤
      value := by
  rw [quarters_grid, div_le_iff₀ (ten_pow_pos _), ← Nat.cast_mul, Nat.cast_le]
  exact Nat.div_mul_le_self _ _

theorem lt_quarters_div (value : Nat) (exponent : ℤ) :
    value < Decimal.quarters
      ⟨value * 10 ^ (-exponent).toNat / (4 * unitsPerOne * 10 ^ exponent.toNat) + 1, exponent⟩ := by
  have units : 0 < 4 * unitsPerOne := Nat.mul_pos (by decide) (Nat.cast_pos.mp unitsPerOne_pos)
  rw [quarters_grid, lt_div_iff₀ (ten_pow_pos _), ← Nat.cast_mul, Nat.cast_lt,
    Nat.mul_comm _ (4 * _ * _)]
  exact Nat.lt_mul_div_succ _ (Nat.mul_pos units (Nat.pow_pos (by decide)))

theorem quarters_succ (point : Nat) (exponent : ℤ) :
    Decimal.quarters ⟨point + 1, exponent⟩ =
      Decimal.quarters ⟨point, exponent⟩ + Decimal.quarters ⟨1, exponent⟩ := by
  unfold Decimal.quarters Decimal.value
  push_cast
  ring

/-- On a grid that is narrower than the interval one of the value's neighbours belongs to it. -/
theorem isSome_gridPoint? (half : Half) (low : interval.low < interval.value)
    (high : interval.value < interval.high)
    (narrow : Decimal.quarters ⟨1, exponent⟩ < (interval.high : ℚ) - interval.low) :
    (interval.gridPoint? half exponent).isSome := by
  have low : (interval.low : ℚ) < interval.value := Nat.cast_lt.mpr low
  have high : (interval.value : ℚ) < interval.high := Nat.cast_lt.mpr high
  have under := quarters_div_le interval.value exponent
  have above := lt_quarters_div interval.value exponent
  unfold RoundingInterval.gridPoint?
  dsimp only
  split
  next => rfl
  next => rfl
  next => rfl
  next first second =>
    exfalso
    generalize interval.value * 10 ^ (-exponent).toNat / (4 * unitsPerOne * 10 ^ exponent.toNat) =
      point at first second under above
    have outside : ¬interval.Contains (Decimal.quarters ⟨point, exponent⟩) := by
      rw [contains_quarters_iff, first]
      exact Bool.false_ne_true
    have alsoOutside : ¬interval.Contains (Decimal.quarters ⟨point + 1, exponent⟩) := by
      rw [contains_quarters_iff, second]
      exact Bool.false_ne_true
    rcases lt_or_ge (interval.low : ℚ) (Decimal.quarters ⟨point, exponent⟩) with reached | below
    · exact outside (interval.contains_of_between reached (under.trans_lt high))
    · rw [quarters_succ] at above alsoOutside
      exact alsoOutside (interval.contains_of_between (low.trans above) (by linarith))

end Grids

section Digits

theorem lt_ten_pow_decimalWidth (value : Nat) : value < 10 ^ decimalWidth value :=
  (Nat.length_toDigits_le_iff (by decide) Nat.length_toDigits_pos).mp (Nat.le_refl _)

theorem ten_pow_decimalWidth_le {value : Nat} (nonzero : value ≠ 0) :
    10 ^ (decimalWidth value - 1) ≤ value := by
  rcases Nat.eq_zero_or_pos (decimalWidth value - 1) with single | more
  · rw [single]
    exact Nat.pos_of_ne_zero nonzero
  · by_contra less
    have fewer := (Nat.length_toDigits_le_iff (by decide) more).mpr (Nat.lt_of_not_le less)
    unfold decimalWidth at fewer more
    omega

variable {units : Nat} (nonzero : units ≠ 0)

include nonzero

theorem quarters_leadingPlace_le :
    Decimal.quarters ⟨1, leadingPlace units - 1⟩ ≤ (4 * units : Nat) := by
  have positive : 0 < unitsPerOne := Nat.cast_pos.mp unitsPerOne_pos
  rw [Decimal.quarters_eq]
  unfold leadingPlace
  dsimp only
  generalize unitsPerOne = one at positive ⊢
  split
  next large =>
    have whole : units / one ≠ 0 := (Nat.div_pos large positive).ne'
    have width : 0 < decimalWidth (units / one) := Nat.length_toDigits_pos
    have digits := ten_pow_decimalWidth_le whole
    generalize decimalWidth (units / one) = places at width digits ⊢
    have exponent : ((places : ℤ) - 1).toNat = places - 1 := by omega
    have none : (-((places : ℤ) - 1)).toNat = 0 := by omega
    rw [exponent, none, Nat.one_mul, Nat.pow_zero, Nat.cast_one, div_one, Nat.cast_le]
    exact Nat.mul_le_mul_left 4 ((Nat.le_div_iff_mul_le positive).mp digits)
  next small =>
    have digits := lt_ten_pow_decimalWidth ((one - 1) / units)
    generalize decimalWidth ((one - 1) / units) = places at digits ⊢
    have none : (1 - (places : ℤ) - 1).toNat = 0 := by omega
    have exponent : (-(1 - (places : ℤ) - 1)).toNat = places := by omega
    rw [exponent, none, Nat.one_mul, Nat.pow_zero, Nat.one_mul, div_le_iff₀ (ten_pow_pos _),
      ← Nat.cast_mul, Nat.cast_le, Nat.mul_assoc]
    rw [Nat.div_lt_iff_lt_mul (Nat.pos_of_ne_zero nonzero), Nat.mul_comm] at digits
    omega

variable (representable : IsRepresentable units)

include representable

/-- With seventeen digits the grid is narrower than the interval. -/
theorem quarters_seventeenth_lt :
    Decimal.quarters ⟨1, leadingPlace units - 17⟩ <
      ((roundingInterval units).high : ℚ) - (roundingInterval units).low := by
  have leading := quarters_leadingPlace_le nonzero
  have tenths : Decimal.quarters ⟨1, leadingPlace units - 1⟩ =
      Decimal.quarters ⟨1, leadingPlace units - 17⟩ * 10 ^ 16 := by
    unfold Decimal.quarters Decimal.value
    dsimp only
    generalize (unitsPerOne : ℚ) = scale
    have split : leadingPlace units - 1 = leadingPlace units - 17 + 16 := by omega
    rw [split, zpow_add₀ (by norm_num)]
    norm_num
    ring
  rw [tenths] at leading
  generalize Decimal.quarters ⟨1, leadingPlace units - 17⟩ = grid at leading ⊢
  have high : (roundingInterval units).high = 4 * units + 2 * 2 ^ spacing units := rfl
  have step := Nat.two_pow_pos (spacing units)
  by_cases power : 0 < spacing units ∧ units = 2 ^ units.log2
  · have low := low_add_of_power representable nonzero power
    have size : units = 2 ^ 52 * 2 ^ spacing units := by
      have exponent : 52 + spacing units = units.log2 := by
        have spaced := power.1
        unfold spacing at spaced ⊢
        omega
      rw [← Nat.pow_add, exponent]
      exact power.2
    have width : (roundingInterval units).high =
        (roundingInterval units).low + 3 * 2 ^ spacing units := by omega
    rw [width]
    generalize 2 ^ spacing units = spaced at size step ⊢
    rw [size] at leading
    have positive : (0 : ℚ) < spaced := Nat.cast_pos.mpr step
    push_cast at leading ⊢
    linarith
  · have low := low_add_of_regular representable nonzero power
    have size : units < 2 ^ 53 * 2 ^ spacing units := by
      rw [← Nat.pow_add]
      refine Nat.lt_of_lt_of_le Nat.lt_log2_self (Nat.pow_le_pow_right (by decide) ?_)
      unfold spacing
      omega
    have width : (roundingInterval units).high =
        (roundingInterval units).low + 4 * 2 ^ spacing units := by omega
    rw [width]
    generalize 2 ^ spacing units = spaced at size step ⊢
    have less : (units : ℚ) < (2 ^ 53 * spaced : Nat) := Nat.cast_lt.mpr size
    have positive : (0 : ℚ) < spaced := Nat.cast_pos.mpr step
    push_cast at leading less ⊢
    linarith

theorem low_lt_value : (roundingInterval units).low < (roundingInterval units).value := by
  have value : (roundingInterval units).value = 4 * units := rfl
  have step := Nat.two_pow_pos (spacing units)
  obtain ⟨low, -⟩ := low_bounds representable nonzero
  omega

end Digits

theorem value_lt_high (units : Nat) :
    (roundingInterval units).value < (roundingInterval units).high :=
  Nat.lt_add_of_pos_right (Nat.mul_pos (by decide) (Nat.two_pow_pos _))

/-- Zeros at the end of the digits are no part of the value. -/
theorem Decimal.quarters_dropZeros (count : Nat) (decimal : Decimal) :
    (decimal.dropZeros count).quarters = decimal.quarters := by
  fun_induction Decimal.dropZeros count decimal with
  | case1 => rfl
  | case2 count decimal zero inductionHypothesis =>
    have digits : (decimal.digits : ℚ) = 10 * (decimal.digits / 10 : Nat) := by
      exact_mod_cast (Nat.mul_div_cancel' (Nat.dvd_of_mod_eq_zero zero)).symm
    rw [inductionHypothesis]
    unfold Decimal.quarters Decimal.value
    rw [digits, zpow_add_one₀ (by norm_num)]
    ring
  | case3 => rfl

/-- The shortest decimal lies in the interval: at the latest the seventeenth digit gets there. -/
theorem contains_shortest (half : Half) {magnitude : Magnitude} (nonzero : magnitude.units ≠ 0) :
    (roundingInterval magnitude.units).Contains (magnitude.shortest half).quarters := by
  unfold Magnitude.shortest
  dsimp only
  rw [Decimal.quarters_dropZeros]
  have last := isSome_gridPoint? half (low_lt_value nonzero magnitude.representable)
    (value_lt_high _) (quarters_seventeenth_lt nonzero magnitude.representable)
  generalize roundingInterval magnitude.units = interval at last ⊢
  generalize leadingPlace magnitude.units = place at last ⊢
  have reached : ((List.range 17).findSome? fun (count : Nat) =>
      interval.gridPoint? half (place - (count + 1 : Nat))).isSome :=
    List.findSome?_isSome_iff.mpr ⟨16, List.mem_range.mpr (by decide), last⟩
  obtain ⟨decimal, found⟩ := Option.isSome_iff_exists.mp reached
  obtain ⟨count, -, reached⟩ := List.exists_of_findSome?_eq_some found
  rw [found]
  exact contains_of_gridPoint? reached

theorem digits_shortest_ne_zero (half : Half) {magnitude : Magnitude}
    (nonzero : magnitude.units ≠ 0) : (magnitude.shortest half).digits ≠ 0 := by
  intro none
  have least := two_le_quarters nonzero (contains_shortest half nonzero)
  rw [Decimal.quarters, Decimal.value, none, Nat.cast_zero, zero_mul, mul_zero] at least
  norm_num at least

/-- Whatever has the value of a number's shortest decimal is read as that number. -/
theorem ofDecimal_of_shortest (negative : Bool) {half : Half} {magnitude : Magnitude}
    (nonzero : magnitude.units ≠ 0) {decimal : Decimal}
    (same : decimal.value = (magnitude.shortest half).value) :
    Binary64.ofDecimal negative decimal.digits decimal.exponent = .finite negative magnitude := by
  have inside := contains_shortest half nonzero
  apply ofDecimal_of_contains nonzero _ negative
  rwa [Decimal.quarters, same]

end Datapack.Number
