import Datapack.Duration
import Datapack.Proofs.Number.Rounding
import Mathlib.Data.Rat.Floor

/-!
How well ticks stand for seconds. Seconds are rounded twice, to parts of `2 ^ -32` and then to whole
ticks, and three limits are checked on the way; together the limits come to one, and together the
two errors stay below what would spoil a whole number of ticks.
-/

namespace Datapack

open Number

/-- The last limit is the tightest: up to half a tick below `2 ^ 31` ticks every duration passes. -/
theorem ticksOfMagnitude?_eq (magnitude : Magnitude) :
    ticksOfMagnitude? magnitude =
      if 40 * fixedPointParts magnitude + 2 ^ 32 < 2 ^ 64 then
        some ((40 * fixedPointParts magnitude + 2 ^ 32) / 2 ^ 33)
      else none := by
  unfold ticksOfMagnitude? fixedPointLimit ticksPerSecond
  dsimp only
  rw [roundQuotient_up (Nat.two_pow_pos 32)]
  generalize fixedPointParts magnitude = parts
  have rounded : (2 * (parts * 20) + 2 ^ 32) / (2 * 2 ^ 32) = (40 * parts + 2 ^ 32) / 2 ^ 33 := by
    congr 1
    omega
  rw [rounded]
  by_cases passes : 40 * parts + 2 ^ 32 < 2 ^ 64
  · rw [if_pos passes, if_neg (by omega), if_neg (by omega), if_neg (by omega)]
  · rw [if_neg passes]
    split
    · rfl
    · split
      · rfl
      · rw [if_pos (by omega)]

theorem lt_of_ticksOfSeconds? {seconds : Binary64} {ticks : Nat}
    (converted : ticksOfSeconds? seconds = some ticks) : ticks < 2 ^ 31 := by
  unfold ticksOfSeconds? at converted
  split at converted
  next negative magnitude =>
    split at converted
    · cases converted
    · rw [ticksOfMagnitude?_eq] at converted
      split at converted
      next inRange =>
        obtain rfl := Option.some.inj converted
        omega
      next => cases converted
  next => cases converted

theorem fixedPointParts_mono {first second : Magnitude} (ordered : first.units ≤ second.units) :
    fixedPointParts first ≤ fixedPointParts second := by
  unfold fixedPointParts
  generalize 1042 = exponent
  exact roundQuotient_mono (Nat.two_pow_pos exponent) ordered

def fixedPoint (parts : ℤ) : ℚ :=
  parts / 2 ^ 32

/-- No multiple of `2 ^ -32` lies nearer to the value, and if another one is as near, this one is
even. -/
structure IsNearestFixedPoint (value : ℚ) (parts : ℤ) : Prop where
  nearest : ∀ other, |fixedPoint parts - value| ≤ |fixedPoint other - value|
  even : ∀ other ≠ parts, |fixedPoint parts - value| = |fixedPoint other - value| → Even parts

theorem fixedPoint_injective : Function.Injective fixedPoint := by
  intro first second same
  unfold fixedPoint at same
  rwa [div_left_inj' (by norm_num), Int.cast_inj] at same

/-- Between two even ones that are equally near there would be a nearer one, half-way. -/
theorem IsNearestFixedPoint.unique {value : ℚ} {first second : ℤ}
    (nearest : IsNearestFixedPoint value first) (other : IsNearestFixedPoint value second) :
    first = second := by
  by_contra different
  have equal := le_antisymm (nearest.nearest second) (other.nearest first)
  obtain ⟨left, rfl⟩ := nearest.even second (Ne.symm different) equal
  obtain ⟨right, rfl⟩ := other.even _ different equal.symm
  have middle : fixedPoint (left + right) = value := by
    rcases abs_eq_abs.mp equal with same | opposite
    · exact absurd (fixedPoint_injective (sub_left_injective same)) different
    · unfold fixedPoint at opposite ⊢
      push_cast at opposite ⊢
      linarith
  have none : |fixedPoint (left + left) - value| ≤ 0 := by
    simpa [middle] using nearest.nearest (left + right)
  have hit : fixedPoint (left + left) = fixedPoint (left + right) := by
    rw [middle]
    exact sub_eq_zero.mp (abs_nonpos_iff.mp none)
  exact different (by linarith [fixedPoint_injective hit])

theorem unitsPerOne_eq {first second : Nat} (whole : first + second = 1074) :
    unitsPerOne = 2 ^ first * 2 ^ second := by
  rw [unitsPerOne, ← whole, Nat.pow_add]

section FixedPoint

variable (magnitude : Magnitude)

theorem abs_fixedPoint_sub (parts : ℤ) :
    |fixedPoint parts - magnitude.value| =
      |(parts : ℚ) - magnitude.units / (2 ^ 1042 : Nat)| / 2 ^ 32 := by
  have split : unitsPerOne = 2 ^ 1042 * 2 ^ 32 := unitsPerOne_eq (by decide)
  have scale : ((2 ^ 32 : Nat) : ℚ) = 2 ^ 32 := by norm_num
  unfold fixedPoint Magnitude.value
  rw [split, Nat.cast_mul, scale, ← div_div, ← sub_div, abs_div,
    abs_of_pos (by norm_num : (0 : ℚ) < 2 ^ 32)]

theorem isNearestFixedPoint_fixedPointParts :
    IsNearestFixedPoint magnitude.value (fixedPointParts magnitude) := by
  constructor
  · intro other
    rw [abs_fixedPoint_sub, abs_fixedPoint_sub]
    unfold fixedPointParts
    generalize 1042 = exponent
    exact div_le_div_of_nonneg_right
      (abs_roundQuotient_sub_le_abs .toEven _ (Nat.two_pow_pos exponent) other) (by norm_num)
  · intro other different equal
    rw [abs_fixedPoint_sub, abs_fixedPoint_sub, div_left_inj' (by norm_num)] at equal
    unfold fixedPointParts at different equal ⊢
    generalize 1042 = exponent at different equal ⊢
    exact (Int.even_coe_nat _).mpr
      (even_of_abs_eq (Nat.two_pow_pos exponent) different.symm equal)

theorem abs_fixedPointParts_sub_le :
    |fixedPoint (fixedPointParts magnitude) - magnitude.value| ≤ 1 / 2 ^ 33 := by
  have near : |(fixedPointParts magnitude : ℚ) - magnitude.units / (2 ^ 1042 : Nat)| ≤ 1 / 2 := by
    unfold fixedPointParts
    generalize 1042 = exponent
    exact abs_roundQuotient_sub_le .toEven _ (Nat.two_pow_pos exponent)
  rw [abs_fixedPoint_sub, div_le_iff₀ (by norm_num)]
  refine near.trans ?_
  norm_num

end FixedPoint

theorem fixedPoint_lt_iff (parts : Nat) :
    20 * fixedPoint parts < 2 ^ 31 - 1 / 2 ↔ 40 * parts + 2 ^ 32 < 2 ^ 64 := by
  unfold fixedPoint
  rw [← Nat.cast_lt (α := ℚ)]
  push_cast
  norm_num
  constructor
  · intro below
    linarith
  · intro below
    linarith

theorem round_fixedPoint (parts : Nat) :
    round (20 * fixedPoint parts) = ((40 * parts + 2 ^ 32) / 2 ^ 33 : Nat) := by
  have raised : 20 * fixedPoint parts + 1 / 2 =
      ((40 * parts + 2 ^ 32 : Nat) : ℚ) / (2 ^ 33 : Nat) := by
    unfold fixedPoint
    push_cast
    ring
  rw [round_eq, raised, Rat.floor_natCast_div_natCast]
  norm_cast

theorem abs_ticks_sub_le {parts ticks : Nat} {value : ℚ}
    (near : |fixedPoint parts - value| ≤ 1 / 2 ^ 33)
    (rounded : round (20 * fixedPoint parts) = ticks) :
    |(ticks : ℚ) - 20 * value| ≤ 1 / 2 + 20 * (1 / 2 ^ 33) := by
  have last := abs_sub_round (20 * fixedPoint parts)
  rw [rounded, Int.cast_natCast, abs_sub_comm] at last
  calc
    |(ticks : ℚ) - 20 * value| ≤
        |(ticks : ℚ) - 20 * fixedPoint parts| + |20 * fixedPoint parts - 20 * value| :=
      abs_sub_le ..
    _ = |(ticks : ℚ) - 20 * fixedPoint parts| + 20 * |fixedPoint parts - value| := by
      rw [← mul_sub, abs_mul, abs_of_pos (by norm_num : (0 : ℚ) < 20)]
    _ ≤ 1 / 2 + 20 * (1 / 2 ^ 33) := by linarith

theorem ticksOfSeconds?_finite {negative : Bool} {magnitude : Magnitude}
    (harmless : negative = true → magnitude.units = 0) :
    ticksOfSeconds? (.finite negative magnitude) = ticksOfMagnitude? magnitude := by
  unfold ticksOfSeconds?
  cases negative with
  | false => simp
  | true => simp [harmless rfl]

theorem exists_magnitude {seconds : Binary64} {value : ℚ} (known : seconds.value? = some value)
    (nonnegative : 0 ≤ value) :
    ∃ magnitude : Magnitude, magnitude.value = value ∧
      ticksOfSeconds? seconds = ticksOfMagnitude? magnitude := by
  match seconds with
  | .finite false magnitude =>
    exact ⟨magnitude, Option.some.inj known, ticksOfSeconds?_finite nofun⟩
  | .finite true magnitude =>
    have opposite : -magnitude.value = value := Option.some.inj known
    have zero : magnitude.value = 0 := by
      have least := magnitude.value_nonneg
      linarith
    refine ⟨magnitude, by linarith, ticksOfSeconds?_finite fun _ => ?_⟩
    exact magnitude.value_eq_zero_iff.mp zero

theorem ticksOfSeconds?_eq_none {seconds : Binary64}
    (unfit : ∀ value, seconds.value? = some value → value < 0) :
    ticksOfSeconds? seconds = none := by
  match seconds with
  | .undefined => rfl
  | .infinite _ => rfl
  | .finite false magnitude => exact absurd (unfit _ rfl) magnitude.value_nonneg.not_gt
  | .finite true magnitude =>
    have below := unfit _ rfl
    have nonzero : magnitude.units ≠ 0 := by
      intro zero
      rw [if_pos rfl, magnitude.value_eq_zero_iff.mpr zero] at below
      linarith
    unfold ticksOfSeconds?
    simp [nonzero]

section WholeTicks

variable {whole : Nat}

/-- Twenty ticks make a second, so `2 ^ 31` ticks are fewer than `2 ^ 27` seconds. -/
theorem twentieth_lt (few : whole < 2 ^ 31) :
    whole * unitsPerOne / 20 < 2 ^ 53 * 2 ^ 1048 := by
  rw [unitsPerOne_eq (by decide : 26 + 1048 = 1074), Nat.div_lt_iff_lt_mul (by decide)]
  generalize 1048 = exponent
  calc
    whole * (2 ^ 26 * 2 ^ exponent) = whole * 2 ^ 26 * 2 ^ exponent := (Nat.mul_assoc ..).symm
    _ < 2 ^ 53 * 20 * 2 ^ exponent :=
      Nat.mul_lt_mul_of_pos_right (by omega) (Nat.two_pow_pos exponent)
    _ = 2 ^ 53 * 2 ^ exponent * 20 := Nat.mul_right_comm ..

theorem nearestUnits_twentieth_lt (few : whole < 2 ^ 31) :
    nearestUnits (whole * unitsPerOne) 20 < unitsLimit := by
  have below := twentieth_lt few
  have upper := nearestUnits_le (whole * unitsPerOne) 20
  have fine := Nat.pow_le_pow_right (n := 2) (by decide) (spacing_le below)
  have limit : 2 ^ 54 * 2 ^ 1048 ≤ unitsLimit := by
    have room : 54 + 1048 ≤ 2098 := by decide
    unfold unitsLimit
    generalize 1048 = exponent, 2098 = bound at room ⊢
    rw [← Nat.pow_add]
    exact Nat.pow_le_pow_right (by decide) room
  generalize 1048 = exponent at below fine limit
  omega

theorem target_twentieth :
    ((whole * unitsPerOne : Nat) : ℚ) / (20 : Nat) / unitsPerOne = whole / 20 := by
  have positive := unitsPerOne_pos
  push_cast
  field_simp

/-- What is nearest to a whole number of ticks is off by at most `2 ^ -27` seconds. -/
theorem abs_sub_twentieth_le (few : whole < 2 ^ 31) {seconds : Binary64}
    (nearest : seconds.IsNearestTo (whole / 20)) :
    ∃ value, seconds.value? = some value ∧ 0 ≤ value ∧ |value - whole / 20| ≤ 1 / 2 ^ 27 := by
  obtain ⟨value, known, least⟩ := nearest
  refine ⟨value, known, ?_, ?_⟩
  · -- Zero is a number too, and what lies below it is farther away.
    have zero := least (.finite false .zero) Magnitude.zero.value rfl
    have target : (0 : ℚ) ≤ whole / 20 := div_nonneg (Nat.cast_nonneg _) (by norm_num)
    rw [Magnitude.zero.value_eq_zero_iff.mpr rfl, zero_sub, abs_neg, abs_of_nonneg target,
      abs_sub_le_iff] at zero
    linarith
  · let rounded : Magnitude :=
      ⟨nearestUnits (whole * unitsPerOne) 20, nearestUnits_twentieth_lt few,
        two_pow_spacing_dvd_nearestUnits (whole * unitsPerOne) 20⟩
    refine (least (.finite false rounded) rounded.value rfl).trans ?_
    have error := Magnitude.abs_value_sub_le rounded (by decide) rfl
    rw [target_twentieth] at error
    refine error.trans ?_
    have fine := Nat.pow_le_pow_right (n := 2) (by decide) (spacing_le (twentieth_lt few))
    rw [div_le_iff₀ unitsPerOne_pos]
    generalize 2 ^ spacing (whole * unitsPerOne / 20) = step at fine ⊢
    have wide : (2 ^ 26 * step : ℚ) ≤ unitsPerOne := by
      rw [unitsPerOne_eq (by decide : 26 + 1048 = 1074)]
      generalize 1048 = exponent at fine ⊢
      exact_mod_cast Nat.mul_le_mul_left (2 ^ 26) fine
    linarith

theorem ticksOfSeconds?_twentieth (few : whole < 2 ^ 31) {seconds : Binary64}
    (nearest : seconds.IsNearestTo (whole / 20)) : ticksOfSeconds? seconds = some whole := by
  obtain ⟨value, known, nonnegative, near⟩ := abs_sub_twentieth_le few nearest
  obtain ⟨magnitude, rfl, same⟩ := exists_magnitude known nonnegative
  have error := abs_fixedPointParts_sub_le magnitude
  rw [same, ticksOfMagnitude?_eq]
  generalize fixedPointParts magnitude = parts at error ⊢
  -- Twenty times the two errors is less than half a tick.
  have off : |20 * fixedPoint parts - whole| < 1 / 2 := by
    have detour := abs_sub_le (fixedPoint parts) magnitude.value (whole / 20)
    have scaled : 20 * fixedPoint parts - whole = 20 * (fixedPoint parts - whole / 20) := by ring
    rw [scaled, abs_mul, abs_of_pos (by norm_num : (0 : ℚ) < 20)]
    norm_num at error near ⊢
    linarith
  obtain ⟨lower, upper⟩ := abs_lt.mp off
  have rounded : round (20 * fixedPoint parts) = whole := by
    rw [round_eq, Int.floor_eq_iff, Int.cast_natCast]
    constructor <;> linarith
  have inRange : 20 * fixedPoint parts < 2 ^ 31 - 1 / 2 := by
    have last : (whole : ℚ) + 1 ≤ 2 ^ 31 := by exact_mod_cast few
    linarith
  rw [round_fixedPoint, Nat.cast_inj] at rounded
  rw [if_pos ((fixedPoint_lt_iff parts).mp inRange), rounded]

theorem isNearestTo_twentieth (few : whole < 2 ^ 31) :
    (Binary64.ofQuotient false (whole * unitsPerOne) 20).IsNearestTo (whole / 20) := by
  rw [← target_twentieth]
  exact Binary64.isNearestTo_ofQuotient (by decide) (nearestUnits_twentieth_lt few)

end WholeTicks

section Accepted

variable {seconds : Binary64} {value : ℚ} (known : seconds.value? = some value)
  (nonnegative : 0 ≤ value)

include known nonnegative

theorem ticksOfSeconds?_eq :
    ∃ parts : Nat, IsNearestFixedPoint value parts ∧ |fixedPoint parts - value| ≤ 1 / 2 ^ 33 ∧
      ∀ ticks : Nat, ticksOfSeconds? seconds = some ticks ↔
        20 * fixedPoint parts < 2 ^ 31 - 1 / 2 ∧ round (20 * fixedPoint parts) = ticks := by
  obtain ⟨magnitude, rfl, same⟩ := exists_magnitude known nonnegative
  refine ⟨fixedPointParts magnitude, isNearestFixedPoint_fixedPointParts magnitude,
    abs_fixedPointParts_sub_le magnitude, ?_⟩
  intro ticks
  rw [same, ticksOfMagnitude?_eq, fixedPoint_lt_iff, round_fixedPoint, Nat.cast_inj]
  simp

end Accepted

/-- Seconds become the nearest ticks, up to the largest number of them that a score of the host
holds. With a number of seconds that is not negative rounded to a multiple of `2 ^ -32`, a half
going to even, there are ticks exactly if twenty times that stays half a tick below `2 ^ 31`, and
then they are that product rounded, a half going up. So they are off by at most half a tick and
twenty times `2 ^ -33`. The number nearest to a whole number of ticks gives these ticks back, and
negative, infinite and undefined times give none. -/
theorem ticks_are_accurate_and_reach_the_largest_score :
    (∀ (seconds : Binary64) (value : ℚ), seconds.value? = some value → 0 ≤ value →
      (∃ parts, IsNearestFixedPoint value parts) ∧
        ∀ parts, IsNearestFixedPoint value parts →
          ((∃ ticks, ticksOfSeconds? seconds = some ticks) ↔
            20 * fixedPoint parts < 2 ^ 31 - 1 / 2) ∧
          ∀ ticks : Nat, ticksOfSeconds? seconds = some ticks →
            ticks = round (20 * fixedPoint parts) ∧ ticks ≤ 2 ^ 31 - 1 ∧
              |(ticks : ℚ) - 20 * value| ≤ 1 / 2 + 20 * (1 / 2 ^ 33)) ∧
      (∀ whole : Nat, whole ≤ 2 ^ 31 - 1 →
        (Binary64.ofQuotient false (whole * unitsPerOne) 20).IsNearestTo (whole / 20) ∧
          ∀ seconds : Binary64, seconds.IsNearestTo (whole / 20) →
            ticksOfSeconds? seconds = some whole) ∧
      (∀ seconds : Binary64,
        (seconds.value? = none ∨ ∃ value < 0, seconds.value? = some value) →
          ticksOfSeconds? seconds = none) ∧
      ticksOfSeconds? (.finite true .zero) = some 0 := by
  refine ⟨?_, ?_, ?_, ?_⟩
  · intro seconds value known nonnegative
    obtain ⟨parts, nearest, near, accepted⟩ := ticksOfSeconds?_eq known nonnegative
    refine ⟨⟨parts, nearest⟩, ?_⟩
    intro other also
    obtain rfl := also.unique nearest
    refine ⟨?_, ?_⟩
    · constructor
      · rintro ⟨ticks, converted⟩
        exact ((accepted ticks).mp converted).1
      · intro inRange
        exact ⟨_, (accepted _).mpr ⟨inRange, round_fixedPoint parts⟩⟩
    · intro ticks converted
      obtain ⟨-, rounded⟩ := (accepted ticks).mp converted
      exact ⟨rounded.symm, Nat.le_pred_of_lt (lt_of_ticksOfSeconds? converted),
        abs_ticks_sub_le near rounded⟩
  · intro whole bounded
    have few : whole < 2 ^ 31 := by omega
    exact ⟨isNearestTo_twentieth few, fun _ nearest => ticksOfSeconds?_twentieth few nearest⟩
  · rintro seconds (unbounded | ⟨value, negative, known⟩)
    · exact ticksOfSeconds?_eq_none (by simp [unbounded])
    · apply ticksOfSeconds?_eq_none
      simpa [known] using negative
  · decide +kernel

theorem largest_score_is_reached :
    let seconds := Binary64.ofQuotient false (2147483647 * unitsPerOne) 20
    (2147483647 : Nat) ≤ 2 ^ 31 - 1 ∧ seconds.IsNearestTo ((2147483647 : Nat) / 20) ∧
      ticksOfSeconds? seconds = some 2147483647 := by
  obtain ⟨-, reached, -⟩ := ticks_are_accurate_and_reach_the_largest_score
  obtain ⟨nearest, converted⟩ := reached 2147483647 (by decide)
  exact ⟨by decide, nearest, converted _ nearest⟩

/-- Both are finite, and one lies between zero and the other one. -/
def Number.Binary64.IsUpTo (shorter longer : Binary64) : Prop :=
  ∃ less more, shorter.value? = some less ∧ longer.value? = some more ∧ 0 ≤ less ∧ less ≤ more

/-- More seconds are not fewer ticks, and fewer seconds than some that have ticks have ticks. -/
theorem ticksOfSeconds?_mono {shorter longer : Binary64} (ordered : shorter.IsUpTo longer)
    {ticks : Nat} (converted : ticksOfSeconds? longer = some ticks) :
    ∃ fewer ≤ ticks, ticksOfSeconds? shorter = some fewer := by
  obtain ⟨less, more, low, high, nonnegative, ordered⟩ := ordered
  obtain ⟨first, rfl, same⟩ := exists_magnitude low nonnegative
  obtain ⟨second, rfl, equal⟩ := exists_magnitude high (nonnegative.trans ordered)
  have units : first.units ≤ second.units := by
    unfold Magnitude.value at ordered
    rwa [div_le_div_iff_of_pos_right unitsPerOne_pos, Nat.cast_le] at ordered
  have parts := fixedPointParts_mono units
  rw [equal, ticksOfMagnitude?_eq] at converted
  rw [same, ticksOfMagnitude?_eq]
  split at converted
  next inRange =>
    obtain rfl := Option.some.inj converted
    exact ⟨_, Nat.div_le_div_right (by omega), if_pos (by omega)⟩
  next => cases converted

end Datapack
