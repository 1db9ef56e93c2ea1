import Datapack.Proofs.Duration
import Datapack.Proofs.Economy.Acceptance

/-!
Delays in order. A generator with a longer delay waits at least as many ticks, and where a delay is
accepted every shorter one is.
-/

namespace Datapack.Economy

open Number

/-- Whether they stand in one configuration or in two, the generator with the shorter delay has no
larger threshold. -/
theorem threshold_le {quick slow : Config} {quickLayout slowLayout : Layout}
    (resolvedQuick : resolve quick = .ok quickLayout)
    (resolvedSlow : resolve slow = .ok slowLayout) {first second : Nat}
    {shorter longer : Generator} (early : quick.generators[first]? = some shorter)
    (late : slow.generators[second]? = some longer)
    (ordered : shorter.delaySeconds.IsUpTo longer.delaySeconds) :
    ∃ placedShorter placedLonger, quickLayout.generators[first]? = some placedShorter ∧
      slowLayout.generators[second]? = some placedLonger ∧
      placedShorter.threshold ≤ placedLonger.threshold := by
  obtain ⟨few, short, placedShorter⟩ := getElem?_generators resolvedQuick early
  obtain ⟨many, long, placedLonger⟩ := getElem?_generators resolvedSlow late
  obtain ⟨fewer, bounded, converted⟩ := ticksOfSeconds?_mono ordered long
  obtain rfl := Option.some.inj (short.symm.trans converted)
  exact ⟨_, _, placedShorter, placedLonger, bounded⟩

theorem Generator.IsTimed.of_isUpTo {shorter longer : Generator} (timed : longer.IsTimed)
    (ordered : shorter.delaySeconds.IsUpTo longer.delaySeconds) : shorter.IsTimed := by
  obtain ⟨ticks, converted⟩ := Option.isSome_iff_exists.mp timed
  obtain ⟨fewer, -, accepted⟩ := ticksOfSeconds?_mono ordered converted
  exact Option.isSome_iff_exists.mpr ⟨fewer, accepted⟩

/-- A time between zero and one that has ticks has ticks, and no more of them. So of two generators
the one with the longer delay never has the smaller threshold, and a configuration stays accepted
when its generators are replaced by others, as long as each has a delay up to one of the old
ones. -/
theorem shorter_delays_never_take_more_ticks :
    (∀ shorter longer : Binary64, shorter.IsUpTo longer →
      ∀ ticks, ticksOfSeconds? longer = some ticks →
        ∃ fewer ≤ ticks, ticksOfSeconds? shorter = some fewer) ∧
      (∀ (quick slow : Config) (quickLayout slowLayout : Layout),
        resolve quick = .ok quickLayout → resolve slow = .ok slowLayout →
        ∀ (first second : Nat) (shorter longer : Generator),
          quick.generators[first]? = some shorter → slow.generators[second]? = some longer →
          shorter.delaySeconds.IsUpTo longer.delaySeconds →
          ∃ placedShorter placedLonger, quickLayout.generators[first]? = some placedShorter ∧
            slowLayout.generators[second]? = some placedLonger ∧
            placedShorter.threshold ≤ placedLonger.threshold) ∧
      ∀ (config : Config) (layout : Layout) (generators : List Generator),
        resolve config = .ok layout →
        (∀ shorter ∈ generators, ∃ longer ∈ config.generators,
          shorter.delaySeconds.IsUpTo longer.delaySeconds) →
        ∃ hastened, resolve { config with generators } = .ok hastened := by
  refine ⟨?_, ?_, ?_⟩
  · intro shorter longer ordered ticks converted
    exact ticksOfSeconds?_mono ordered converted
  · intro quick slow quickLayout slowLayout resolvedQuick resolvedSlow first second shorter longer
      early late ordered
    exact threshold_le resolvedQuick resolvedSlow early late ordered
  · intro config layout generators resolved shortened
    obtain ⟨timed, fit⟩ := exists_resolve_iff.mp ⟨layout, resolved⟩
    refine exists_resolve_iff.mpr ⟨?_, fit⟩
    intro shorter member
    obtain ⟨longer, listed, ordered⟩ := shortened shorter member
    exact (timed longer listed).of_isUpTo ordered

theorem second_may_be_shortened_to_negative_zero :
    let second := Binary64.ofQuotient false (20 * unitsPerOne) 20
    (Binary64.finite true .zero).IsUpTo second ∧ ticksOfSeconds? second = some 20 ∧
      ∃ fewer ≤ 20, ticksOfSeconds? (.finite true .zero) = some fewer := by
  intro second
  obtain ⟨shortened, -⟩ := shorter_delays_never_take_more_ticks
  have few : 20 < 2 ^ 31 := by decide
  have nearest : second.IsNearestTo ((20 : Nat) / 20) := isNearestTo_twentieth few
  have converted := ticksOfSeconds?_twentieth few nearest
  obtain ⟨value, known, nonnegative, -⟩ := abs_sub_twentieth_le few nearest
  have zero : (Binary64.finite true .zero).value? = some 0 := by
    rw [Binary64.value?, if_pos rfl, (Magnitude.value_eq_zero_iff .zero).mpr rfl, neg_zero]
  have ordered : (Binary64.finite true .zero).IsUpTo second :=
    ⟨0, value, zero, known, le_refl 0, nonnegative⟩
  exact ⟨ordered, converted, shortened _ _ ordered 20 converted⟩

end Datapack.Economy
