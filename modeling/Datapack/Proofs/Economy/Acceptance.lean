import Datapack.Proofs.Economy.Resolution

/-!
Which configurations are accepted. A generator's delay must be a number of ticks, and the host must
be able to hold the counts of every item. All delays are checked before any count, and the first
entry that does not pass is the one that is named.
-/

namespace Datapack.Economy

def Generator.IsTimed (generator : Generator) : Prop :=
  (ticksOfSeconds? generator.delaySeconds).isSome = true

def ShopItem.Fits (item : ShopItem) : Prop :=
  item.count.toNat ≤ 2 ^ 31 - 1 ∧ item.price.count.toNat ≤ 2 ^ 31 - 1

/-- The count that is to blame: the reward's if it is too large, or else the price's. -/
def ShopItem.excess (item : ShopItem) : UInt32 :=
  if 2 ^ 31 - 1 < item.count.toNat then item.count else item.price.count

theorem exists_placeGenerator_iff {index : Nat} {generator : Generator} :
    (∃ placed, placeGenerator index generator = .ok placed) ↔ generator.IsTimed := by
  unfold placeGenerator Generator.IsTimed
  cases ticksOfSeconds? generator.delaySeconds <;> simp

theorem placeGenerator_eq_error {index : Nat} {generator : Generator} {cause : ConfigError}
    (refused : placeGenerator index generator = .error cause) :
    ¬generator.IsTimed ∧ cause = .invalidDelay (.ofNat index) generator.delaySeconds := by
  unfold placeGenerator at refused
  unfold Generator.IsTimed
  split at refused
  · cases refused
  next untimed => exact ⟨by simp [untimed], (Except.error.inj refused).symm⟩

theorem exists_score_iff {shop : Id} {item : String} {count : UInt32} :
    (∃ value, score shop item count = .ok value) ↔ count.toNat ≤ 2 ^ 31 - 1 := by
  unfold score largestScore
  split
  next small => exact iff_of_true ⟨_, rfl⟩ small
  next large => exact iff_of_false nofun large

theorem score_eq_error {shop : Id} {item : String} {count : UInt32} {cause : ConfigError}
    (refused : score shop item count = .error cause) :
    ¬count.toNat ≤ 2 ^ 31 - 1 ∧ cause = .countOverflow shop item count := by
  unfold score largestScore at refused
  split at refused
  · cases refused
  next large => exact ⟨large, (Except.error.inj refused).symm⟩

section Items

variable {currencies : List Currency} {shop : Id} {item : ShopItem}

theorem exists_makeOffer_iff :
    (∃ offer, makeOffer currencies shop item = .ok offer) ↔ item.Fits := by
  simp only [makeOffer, bind_eq_ok_iff]
  constructor
  · rintro ⟨_, count, counted, price, priced, -⟩
    exact ⟨exists_score_iff.mp ⟨count, counted⟩, exists_score_iff.mp ⟨price, priced⟩⟩
  · rintro ⟨small, cheap⟩
    obtain ⟨count, counted⟩ := exists_score_iff.mpr small
    obtain ⟨price, priced⟩ := exists_score_iff.mpr cheap
    exact ⟨_, count, counted, price, priced, rfl⟩

/-- The reward is counted first, so its count is blamed even if the price's is too large as well. -/
theorem makeOffer_eq_error {cause : ConfigError}
    (refused : makeOffer currencies shop item = .error cause) :
    ¬item.Fits ∧ cause = .countOverflow shop item.id item.excess := by
  rcases bind_eq_error_iff.mp refused with reward | ⟨count, counted, refused⟩
  · obtain ⟨large, overflow⟩ := score_eq_error reward
    refine ⟨fun fits => large fits.1, ?_⟩
    rw [overflow, ShopItem.excess, if_pos (Nat.lt_of_not_le large)]
  · have small := exists_score_iff.mp ⟨count, counted⟩
    rcases bind_eq_error_iff.mp refused with price | ⟨priceCount, -, never⟩
    · obtain ⟨large, overflow⟩ := score_eq_error price
      refine ⟨fun fits => large fits.2, ?_⟩
      rw [overflow, ShopItem.excess, if_neg (Nat.not_lt.mpr small)]
    · cases never

theorem exists_mapM_makeOffer_iff {items : List ShopItem} :
    (∃ offers, items.mapM (makeOffer currencies shop) = .ok offers) ↔
      ∀ item ∈ items, item.Fits := by
  simp only [exists_mapM_iff, exists_makeOffer_iff]

end Items

/-- What is wrong with a configuration that is refused. -/
inductive FirstOffence (config : Config) : ConfigError → Prop where
  | delay {before after : List Generator} {generator : Generator} :
      config.generators = before ++ generator :: after →
      (∀ earlier ∈ before, earlier.IsTimed) →
      ¬generator.IsTimed →
      FirstOffence config (.invalidDelay (.ofNat before.length) generator.delaySeconds)
  | count {before after : List Shop} {shop : Shop} {earlier later : List ShopItem}
      {item : ShopItem} :
      (∀ generator ∈ config.generators, generator.IsTimed) →
      config.shops = before ++ shop :: after →
      shop.items = earlier ++ item :: later →
      (∀ other ∈ before, ∀ item ∈ other.items, item.Fits) →
      (∀ other ∈ earlier, other.Fits) →
      ¬item.Fits →
      FirstOffence config (.countOverflow (.ofNat before.length) item.id item.excess)

theorem firstOffence_of_resolve {config : Config} {cause : ConfigError}
    (refused : resolve config = .error cause) : FirstOffence config cause := by
  rcases bind_eq_error_iff.mp refused with delay | ⟨generators, placed, refused⟩
  · obtain ⟨before, generator, after, split, earlier, own⟩ := first_of_mapM_zipIdx_eq_error delay
    obtain ⟨untimed, rfl⟩ := placeGenerator_eq_error own
    simp only [exists_placeGenerator_iff] at earlier
    exact .delay split ((forall_mem_zipIdx Generator.IsTimed).mp earlier) untimed
  · have timed := exists_mapM_iff.mp ⟨generators, placed⟩
    simp only [exists_placeGenerator_iff] at timed
    rcases bind_eq_error_iff.mp refused with counts | ⟨offers, -, never⟩
    · rcases bind_eq_error_iff.mp counts with group | ⟨groups, -, never⟩
      · obtain ⟨before, shop, after, split, fit, own⟩ := first_of_mapM_zipIdx_eq_error group
        obtain ⟨earlier, item, later, listed, smaller, blamed⟩ := first_of_mapM_eq_error own
        obtain ⟨large, rfl⟩ := makeOffer_eq_error blamed
        simp only [exists_mapM_makeOffer_iff] at fit
        simp only [exists_makeOffer_iff] at smaller
        exact .count ((forall_mem_zipIdx Generator.IsTimed).mp timed) split listed
          ((forall_mem_zipIdx fun shop : Shop => ∀ item ∈ shop.items, item.Fits).mp fit)
          smaller large
      · cases never
    · cases never

theorem exists_resolve_iff {config : Config} :
    (∃ layout, resolve config = .ok layout) ↔
      (∀ generator ∈ config.generators, generator.IsTimed) ∧
        ∀ shop ∈ config.shops, ∀ item ∈ shop.items, item.Fits := by
  constructor
  · rintro ⟨layout, resolved⟩
    obtain ⟨generators, placed, resolved⟩ := bind_eq_ok_iff.mp resolved
    obtain ⟨offers, offered, -⟩ := bind_eq_ok_iff.mp resolved
    obtain ⟨groups, grouped, -⟩ := bind_eq_ok_iff.mp offered
    have timed := exists_mapM_iff.mp ⟨generators, placed⟩
    have fit := exists_mapM_iff.mp ⟨groups, grouped⟩
    simp only [exists_placeGenerator_iff] at timed
    simp only [exists_mapM_makeOffer_iff] at fit
    exact ⟨(forall_mem_zipIdx Generator.IsTimed).mp timed,
      (forall_mem_zipIdx fun shop : Shop => ∀ item ∈ shop.items, item.Fits).mp fit⟩
  · rintro ⟨timed, fit⟩
    cases resolved : resolve config with
    | ok layout => exact ⟨layout, rfl⟩
    | error cause =>
      cases firstOffence_of_resolve resolved with
      | delay split _ untimed => exact absurd (timed _ (by simp [split])) untimed
      | @count before after shop earlier later item _ split listed _ _ large =>
        exact absurd (fit shop (by simp [split]) item (by simp [listed])) large

theorem resolve_ne_alreadyConfigured (config : Config) :
    resolve config ≠ .error .alreadyConfigured := by
  intro refused
  cases firstOffence_of_resolve refused

/-- Exactly the configurations are accepted in which every delay is a number of ticks and the host
can hold every count. If some delay is none, the first generator with such a delay is named,
whatever the shops hold. If only counts are at fault, the first such item is named, in the order of
shops and then of items, with the count of its reward if that is too large and else with that of its
price. -/
theorem resolve_names_first_offender (config : Config)
    (fewGenerators : config.generators.length < 2 ^ 32)
    (fewShops : config.shops.length < 2 ^ 32) :
    ((∃ layout, resolve config = .ok layout) ↔
        (∀ generator ∈ config.generators, generator.IsTimed) ∧
          ∀ shop ∈ config.shops, ∀ item ∈ shop.items, item.Fits) ∧
      ((∃ generator ∈ config.generators, ¬generator.IsTimed) →
        ∃ (before after : List Generator) (generator : Generator) (number : Id),
          config.generators = before ++ generator :: after ∧
            (∀ earlier ∈ before, earlier.IsTimed) ∧ ¬generator.IsTimed ∧
            number.toNat = before.length ∧
            resolve config = .error (.invalidDelay number generator.delaySeconds)) ∧
      ((∀ generator ∈ config.generators, generator.IsTimed) →
        (∃ shop ∈ config.shops, ∃ item ∈ shop.items, ¬item.Fits) →
        ∃ (before after : List Shop) (shop : Shop) (earlier later : List ShopItem)
          (item : ShopItem) (number : Id),
          config.shops = before ++ shop :: after ∧ shop.items = earlier ++ item :: later ∧
            (∀ other ∈ before, ∀ item ∈ other.items, item.Fits) ∧
            (∀ other ∈ earlier, other.Fits) ∧ ¬item.Fits ∧ number.toNat = before.length ∧
            resolve config = .error (.countOverflow number item.id
              (if 2 ^ 31 - 1 < item.count.toNat then item.count else item.price.count))) := by
  refine ⟨exists_resolve_iff, ?_, ?_⟩
  · rintro ⟨generator, member, untimed⟩
    cases resolved : resolve config with
    | ok layout => exact absurd ((exists_resolve_iff.mp ⟨layout, resolved⟩).1 _ member) untimed
    | error cause =>
      cases firstOffence_of_resolve resolved with
      | @delay before after first split earlier own =>
        rw [split, List.length_append] at fewGenerators
        have number := Id.toNat_ofNat (by omega : before.length < 2 ^ 32)
        exact ⟨before, after, first, _, split, earlier, own, number, rfl⟩
      | count timed => exact absurd (timed generator member) untimed
  · rintro timed ⟨shop, member, item, sold, large⟩
    cases resolved : resolve config with
    | ok layout =>
      exact absurd ((exists_resolve_iff.mp ⟨layout, resolved⟩).2 _ member _ sold) large
    | error cause =>
      cases firstOffence_of_resolve resolved with
      | delay split _ untimed => exact absurd (timed _ (by simp [split])) untimed
      | @count before after first earlier later blamed _ split listed fit smaller own =>
        rw [split, List.length_append] at fewShops
        have number := Id.toNat_ofNat (by omega : before.length < 2 ^ 32)
        exact ⟨before, after, first, earlier, later, blamed, _, split, listed, fit, smaller, own,
          number, rfl⟩

def apple : ShopItem :=
  { id := "apple", count := 1, name := "Apple", slot := 0, price := { id := "iron", count := 4 } }

def goldenApple : ShopItem :=
  { apple with id := "golden_apple", price := { id := "iron", count := 3000000000 } }

/-- A generator that drops at every tick and two that never would, and behind a shop without fault
one with two items that the host cannot count. -/
def muddle : Config where
  generators := [
    { item := "iron_ingot", position := ⟨.zero, .zero, .zero⟩, delaySeconds := .zero },
    { item := "gold_ingot", position := ⟨.zero, .zero, .zero⟩, delaySeconds := .infinite false },
    { item := "emerald", position := ⟨.zero, .zero, .zero⟩, delaySeconds := .undefined }]
  shops := [
    { items := [apple] },
    { items := [apple, goldenApple, { apple with count := 2147483648 }] }]

theorem muddle_is_refused_for_its_second_delay :
    let untimed : Config := { muddle with generators := [] }
    resolve muddle = .error (.invalidDelay 1 (.infinite false)) ∧
      resolve untimed = .error (.countOverflow 1 "golden_apple" 3000000000) ∧
      (∃ before after generator, muddle.generators = before ++ generator :: after ∧
        before.length = 1 ∧ (∀ earlier ∈ before, earlier.IsTimed) ∧ ¬generator.IsTimed) ∧
      ∃ before after shop, untimed.shops = before ++ shop :: after ∧ before.length = 1 ∧
        ∀ other ∈ before, ∀ item ∈ other.items, item.Fits := by
  intro untimed
  have delayed : resolve muddle = .error (.invalidDelay 1 (.infinite false)) := by decide +kernel
  have counted : resolve untimed = .error (.countOverflow 1 "golden_apple" 3000000000) := rfl
  have large : ¬goldenApple.Fits := by
    unfold ShopItem.Fits
    decide
  refine ⟨delayed, counted, ?_, ?_⟩
  · obtain ⟨-, delays, -⟩ := resolve_names_first_offender muddle (by decide) (by decide)
    obtain ⟨before, after, generator, number, split, earlier, own, place, refused⟩ :=
      delays ⟨_, .tail _ (.head _), nofun⟩
    obtain ⟨rfl, -⟩ := ConfigError.invalidDelay.inj (Except.error.inj (delayed.symm.trans refused))
    exact ⟨before, after, generator, split, place.symm, earlier, own⟩
  · obtain ⟨-, -, counts⟩ := resolve_names_first_offender untimed (by decide) (by decide)
    obtain ⟨before, after, shop, _, _, _, number, split, -, fit, -, -, place, refused⟩ :=
      counts (fun _ member => absurd member List.not_mem_nil)
        ⟨_, .tail _ (.head _), goldenApple, .tail _ (.head _), large⟩
    obtain ⟨rfl, -⟩ := ConfigError.countOverflow.inj (Except.error.inj (counted.symm.trans refused))
    exact ⟨before, after, shop, split, place.symm, fit⟩

end Datapack.Economy
