import Datapack.Proofs.Economy.Shops

/-!
The numbers of a resolved layout. Entries are numbered in the order in which they are listed,
keepers across all shops, and what is found under a shop's number is what the shop was configured
with.
-/

namespace Datapack.Economy

section Values

variable {Value : Type} {values : List Value} (few : values.length < 2 ^ 32)

include few

theorem Id.toNat_of_mem_zipIdx {entry : Value × Nat} (member : entry ∈ values.zipIdx) :
    (UInt32.ofNat entry.2 : Id).toNat = entry.2 := by
  have bounded := List.snd_lt_of_mem_zipIdx member
  exact Id.toNat_ofNat (by omega)

theorem map_toNat_zipIdx :
    values.zipIdx.map (fun entry => (UInt32.ofNat entry.2 : Id).toNat) =
      List.range values.length := by
  rw [List.map_congr_left fun _ => Id.toNat_of_mem_zipIdx few, List.range_eq_range']
  exact List.zipIdx_map_snd 0 values

end Values

section Resolved

variable {config : Config} {layout : Layout} (resolved : resolve config = .ok layout)

include resolved

theorem map_generators :
    layout.generators.map
        (fun placed => (placed.id, placed.item, placed.position, some placed.threshold)) =
      config.generators.zipIdx.map fun entry =>
        (.ofNat entry.2, entry.1.item, entry.1.position,
          ticksOfSeconds? entry.1.delaySeconds) := by
  obtain ⟨placed, -⟩ := resolve_eq_ok resolved
  rw [← List.forall₂_eq_eq_eq, List.forall₂_map_left_iff, List.forall₂_map_right_iff]
  refine placed.flip.imp ?_
  intro result entry made
  obtain ⟨threshold, ticks, rfl⟩ := placeGenerator_eq_ok made
  rw [ticks]

theorem shop?_eq (few : config.shops.length < 2 ^ 32) (id : Id) :
    layout.shop? id = config.shops[id.toNat]?.map fun shop => { id, name := shop.name } := by
  obtain ⟨-, shops, -⟩ := resolve_eq_ok resolved
  unfold Layout.shop?
  rw [shops, placeShops, List.find?_map, ← List.head?_filter]
  simp only [Function.comp_def]
  rw [filter_ofNat few, Option.head?_toList, Option.map_map]
  simp only [Function.comp_def, UInt32.ofNat_toNat]

theorem offers_eq_flatMap_offersOf (few : config.shops.length < 2 ^ 32) :
    layout.offers =
      (List.range config.shops.length).flatMap fun index => layout.offersOf (.ofNat index) := by
  obtain ⟨-, -, -, offers⟩ := resolve_eq_ok resolved
  rw [offers, List.range_eq_range', ← List.zipIdx_map_snd 0 config.shops, List.flatMap_map]
  apply List.flatMap_congr
  intro entry member
  have present := List.mem_zipIdx_iff_getElem?.mp member
  exact (offersOf_eq resolved few present).symm

end Resolved

theorem bounds_of_mem_keeperPlaces {shops : List Shop} {start : Nat} {place : Nat × Position}
    (member : place ∈ keeperPlaces shops start) :
    start ≤ place.1 ∧ place.1 < shops.length + start := by
  obtain ⟨entry, listed, stands⟩ := List.mem_flatMap.mp member
  obtain ⟨position, -, rfl⟩ := List.mem_map.mp stands
  exact ⟨List.le_snd_of_mem_zipIdx listed, List.snd_lt_of_mem_zipIdx listed⟩

/-- Of the keepers of all shops, those of one shop stand together, behind those of the shops before
it. Their places in the row follow on the number of keepers before them. -/
theorem filter_zipIdx_keeperPlaces (shops : List Shop) (start first index : Nat) :
    ((keeperPlaces shops start).zipIdx first).filter
        (fun entry => entry.1.1 == start + index) =
      ((shops[index]?.elim [] Shop.shopkeepers).zipIdx
        (first + ((shops.take index).flatMap Shop.shopkeepers).length)).map
          fun entry => ((start + index, entry.1), entry.2) := by
  -- A shop that is passed by moves the first number on by its keepers.
  induction shops generalizing start first index with
  | nil => simp [keeperPlaces]
  | cons shop shops inductionHypothesis =>
    have joined : keeperPlaces (shop :: shops) start =
        shop.shopkeepers.map (fun position => (start, position)) ++
          keeperPlaces shops (start + 1) := rfl
    rw [joined, List.zipIdx_append, List.filter_append, List.length_map, List.zipIdx_map,
      List.filter_map]
    cases index with
    | zero =>
      have others : ((keeperPlaces shops (start + 1)).zipIdx
          (first + shop.shopkeepers.length)).filter (fun entry => entry.1.1 == start + 0) = [] := by
        apply List.filter_eq_nil_iff.mpr
        intro entry member
        have later := (bounds_of_mem_keeperPlaces (List.fst_mem_of_mem_zipIdx member)).1
        simp only [beq_iff_eq]
        omega
      rw [others]
      simp [Function.comp_def, Prod.map]
    | succ index =>
      have shifted : start + (index + 1) = start + 1 + index := by omega
      rw [shifted, inductionHypothesis]
      simp [Function.comp_def, Nat.add_assoc]

theorem filter_placeShopkeepers {shops : List Shop} (few : shops.length < 2 ^ 32) (id : Id) :
    (placeShopkeepers shops).filter (fun keeper => keeper.shop == id) =
      ((keeperPlaces shops 0).zipIdx.filter (fun entry => entry.1.1 == id.toNat)).map
        fun entry => { id := .ofNat entry.2, shop := .ofNat entry.1.1, position := entry.1.2 } := by
  have unwrapped : ∀ entry ∈ (keeperPlaces shops 0).zipIdx,
      ((UInt32.ofNat entry.1.1 : Id) == id) = (entry.1.1 == id.toNat) := by
    intro entry member
    have bounds := bounds_of_mem_keeperPlaces (List.fst_mem_of_mem_zipIdx member)
    exact Id.ofNat_beq (by omega) id
  rw [placeShopkeepers_eq, List.filter_map]
  exact congrArg _ (List.filter_congr unwrapped)

theorem keepers_of_shop {shops : List Shop} (fewShops : shops.length < 2 ^ 32)
    (fewKeepers : (shops.flatMap Shop.shopkeepers).length < 2 ^ 32) (id : Id) :
    let owned := (placeShopkeepers shops).filter fun keeper => keeper.shop == id
    let configured := shops[id.toNat]?.elim [] Shop.shopkeepers
    owned.map (·.position) = configured ∧
      owned.map (·.id.toNat) =
        List.range' ((shops.take id.toNat).flatMap Shop.shopkeepers).length
          configured.length := by
  intro owned configured
  have places := filter_zipIdx_keeperPlaces shops 0 0 id.toNat
  simp only [Nat.zero_add] at places
  constructor
  · unfold owned
    rw [filter_placeShopkeepers fewShops, places, List.map_map, List.map_map]
    exact List.zipIdx_map_fst _ configured
  · rw [← length_keeperPlaces shops 0] at fewKeepers
    have unwrapped : ∀ entry ∈ (keeperPlaces shops 0).zipIdx.filter
        (fun entry => entry.1.1 == id.toNat), (UInt32.ofNat entry.2 : Id).toNat = entry.2 :=
      fun _ member => Id.toNat_of_mem_zipIdx fewKeepers (List.mem_of_mem_filter member)
    unfold owned
    rw [filter_placeShopkeepers fewShops, List.map_map]
    simp only [Function.comp_def]
    rw [List.map_congr_left unwrapped, places, List.map_map]
    exact List.zipIdx_map_snd _ configured

/-- In a layout with fewer than `2 ^ 32` entries of each kind, generators, shops and keepers are
numbered from zero on, in the order of the configuration and without gaps. The keepers of a shop are
those it was configured with, and their numbers follow on the number of keepers before them. The
offers of a shop are its items with counts, slots, names and prices as they were, and there are none
for a number that no shop has. One shop after the other, they are all offers there are. -/
theorem numbers_are_dense_and_lose_nothing {config : Config} {layout : Layout}
    (resolved : resolve config = .ok layout)
    (fewGenerators : config.generators.length < 2 ^ 32)
    (fewShops : config.shops.length < 2 ^ 32)
    (fewKeepers : (config.shops.flatMap Shop.shopkeepers).length < 2 ^ 32) :
    layout.generators.map (·.id.toNat) = List.range config.generators.length ∧
      layout.generators.map (fun placed => (placed.item, placed.position, some placed.threshold)) =
        config.generators.map (fun generator =>
          (generator.item, generator.position, ticksOfSeconds? generator.delaySeconds)) ∧
      layout.shops.map (·.id.toNat) = List.range config.shops.length ∧
      (∀ id, layout.shop? id =
        config.shops[id.toNat]?.map fun shop => { id, name := shop.name }) ∧
      layout.shopkeepers.map (·.id.toNat) =
        List.range (config.shops.flatMap Shop.shopkeepers).length ∧
      (∀ id : Id,
        let owned := layout.shopkeepers.filter fun keeper => keeper.shop == id
        let configured := config.shops[id.toNat]?.elim [] Shop.shopkeepers
        owned.map (·.position) = configured ∧
          owned.map (·.id.toNat) =
            List.range' ((config.shops.take id.toNat).flatMap Shop.shopkeepers).length
              configured.length) ∧
      (∀ id, layout.offersOf id =
        config.shops[id.toNat]?.elim [] fun shop =>
          shop.items.map (ShopItem.offer config.currencies id)) ∧
      layout.offers =
        (List.range config.shops.length).flatMap fun index => layout.offersOf (.ofNat index) := by
  obtain ⟨-, shops, keepers, -⟩ := resolve_eq_ok resolved
  have generators := map_generators resolved
  have numbers := congrArg (List.map fun entry => entry.1.toNat) generators
  have contents := congrArg (List.map Prod.snd) generators
  simp only [List.map_map, Function.comp_def] at numbers contents
  refine ⟨numbers.trans (map_toNat_zipIdx fewGenerators), contents.trans ?_, ?_,
    shop?_eq resolved fewShops, ?_, ?_, offersOf_eq_elim resolved fewShops,
    offers_eq_flatMap_offersOf resolved fewShops⟩
  · rw [← List.zipIdx_map_fst 0 config.generators, List.map_map, List.zipIdx_map_fst]
    rfl
  · rw [shops, placeShops, List.map_map]
    exact map_toNat_zipIdx fewShops
  · rw [← length_keeperPlaces _ 0] at fewKeepers ⊢
    rw [keepers, placeShopkeepers_eq, List.map_map]
    exact map_toNat_zipIdx fewKeepers
  · rw [keepers]
    exact keepers_of_shop fewShops fewKeepers

theorem market_numbers_keepers_across_shops :
    resolve market = .ok marketLayout ∧
      (marketLayout.shopkeepers.filter fun keeper => keeper.shop == 2).map (·.id.toNat) = [2] ∧
      marketLayout.shop? 2 = some { id := 2, name := "Shop" } ∧ marketLayout.shop? 3 = none ∧
      marketLayout.offersOf 2 = [torch.offer market.currencies 2, bread.offer market.currencies 2] ∧
      marketLayout.offersOf 3 = [] ∧
      marketLayout.offers =
        marketLayout.offersOf 0 ++ (marketLayout.offersOf 1 ++ marketLayout.offersOf 2) := by
  have resolved : resolve market = .ok marketLayout := rfl
  obtain ⟨-, -, -, shop, -, keepers, offers, joined⟩ :=
    numbers_are_dense_and_lose_nothing resolved (by decide) (by decide) (by decide)
  exact ⟨resolved, (keepers 2).2, shop 2, shop 3, offers 2, offers 3, joined⟩

end Datapack.Economy
