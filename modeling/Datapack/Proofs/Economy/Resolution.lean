import Datapack.Economy.Layout
import Datapack.Proofs.Lists
import Mathlib.Algebra.Group.Nat.Defs

/-!
What an accepted configuration resolves to: entries keep their order, and as long as there are
fewer than `2 ^ 32` of them a number belongs to one entry only.
-/

namespace Datapack

section Numbering

variable {Value : Type}

theorem filter_zipIdx (values : List Value) (start index : Nat) :
    (values.zipIdx start).filter (fun entry => entry.2 == start + index) =
      (values[index]?.map fun value => (value, start + index)).toList := by
  induction values generalizing start index with
  | nil => rfl
  | cons value values inductionHypothesis =>
    rw [List.zipIdx_cons]
    cases index with
    | zero =>
      have others : (values.zipIdx (start + 1)).filter (fun entry => entry.2 == start) = [] := by
        apply List.filter_eq_nil_iff.mpr
        intro entry member
        have later := List.le_snd_of_mem_zipIdx member
        simp only [beq_iff_eq]
        omega
      simp [others]
    | succ index =>
      have shifted : start + (index + 1) = start + 1 + index := by omega
      have first : (start == start + 1 + index) = false := by
        simp only [beq_eq_false_iff_ne]
        omega
      simpa [shifted, List.filter_cons, first] using inductionHypothesis (start + 1) index

theorem zipIdx_take (values : List Value) (start count : Nat) :
    (values.take count).zipIdx start = (values.zipIdx start).take count := by
  apply List.ext_getElem?
  intro index
  simp only [List.getElem?_zipIdx, List.getElem?_take]
  split <;> rfl

section Parts

variable {Part Result : Type} {parts : Value → List Part}

theorem length_flatMap_zipIdx (convert : Value × Nat → Part → Result) (values : List Value)
    (start : Nat) :
    ((values.zipIdx start).flatMap fun entry => (parts entry.1).map (convert entry)).length =
      (values.flatMap parts).length := by
  induction values generalizing start with
  | nil => rfl
  | cons value values inductionHypothesis =>
    simp only [List.zipIdx_cons, List.flatMap_cons, List.length_append, List.length_map,
      inductionHypothesis]

/-- What a numbered entry's part is converted to stands where the part stands among all parts. -/
theorem getElem?_flatMap_zipIdx (convert : Value × Nat → Part → Result) {values : List Value}
    {index offset : Nat} {value : Value} {part : Part} (present : values[index]? = some value)
    (listed : (parts value)[offset]? = some part) (start : Nat) :
    ((values.zipIdx start).flatMap fun entry => (parts entry.1).map (convert entry))[
        ((values.take index).flatMap parts).length + offset]? =
      some (convert (value, start + index) part) := by
  have numbered : (values.zipIdx start)[index]? = some (value, start + index) := by
    rw [List.getElem?_zipIdx, present, Option.map_some]
  have inside : offset < ((parts value).map (convert (value, start + index))).length := by
    rw [List.length_map]
    exact (List.getElem?_eq_some_iff.mp listed).1
  rw [← length_flatMap_zipIdx convert _ start, zipIdx_take, getElem?_flatMap numbered inside,
    List.getElem?_map, listed, Option.map_some]

end Parts

namespace Economy

theorem Id.toNat_ofNat {number : Nat} (small : number < 2 ^ 32) :
    (UInt32.ofNat number : Id).toNat = number :=
  UInt32.toNat_ofNat_of_lt' small

theorem Id.ofNat_eq_iff {number : Nat} (small : number < 2 ^ 32) {id : Id} :
    UInt32.ofNat number = id ↔ number = id.toNat := by
  rw [← UInt32.toNat_inj, Id.toNat_ofNat small]

theorem Id.ofNat_inj {first second : Nat} (small : first < 2 ^ 32) (bounded : second < 2 ^ 32) :
    (UInt32.ofNat first : Id) = UInt32.ofNat second ↔ first = second := by
  rw [Id.ofNat_eq_iff small, Id.toNat_ofNat bounded]

theorem Id.ofNat_beq {number : Nat} (small : number < 2 ^ 32) (id : Id) :
    ((UInt32.ofNat number : Id) == id) = (number == id.toNat) := by
  rw [Bool.eq_iff_iff, beq_iff_eq, beq_iff_eq]
  exact Id.ofNat_eq_iff small

/-- Of the numbered entries of a list, the one with a number is the one that stands there. -/
theorem filter_ofNat {values : List Value} (few : values.length < 2 ^ 32) (id : Id) :
    values.zipIdx.filter (fun entry => (UInt32.ofNat entry.2 : Id) == id) =
      (values[id.toNat]?.map fun value => (value, id.toNat)).toList := by
  have unwrapped : ∀ entry ∈ values.zipIdx,
      ((UInt32.ofNat entry.2 : Id) == id) = (entry.2 == 0 + id.toNat) := by
    intro entry member
    have bounded := List.snd_lt_of_mem_zipIdx member
    rw [Nat.zero_add]
    exact Id.ofNat_beq (by omega) id
  rw [List.filter_congr unwrapped, filter_zipIdx, Nat.zero_add]

end Economy

end Numbering

namespace Economy

/-- The offer of an item whose counts the host can hold. -/
def ShopItem.offer (currencies : List Currency) (shop : Id) (item : ShopItem) : Offer :=
  { shop
    slot := item.slot
    itemId := item.id
    count := item.count.toNat
    name := item.name
    priceId := item.price.id
    priceCount := item.price.count.toNat
    label := label currencies item.price.id }

theorem score_eq_ok {shop : Id} {item : String} {count : UInt32} {value : Nat}
    (fits : score shop item count = .ok value) : value = count.toNat := by
  unfold score at fits
  split at fits
  · exact (Except.ok.inj fits).symm
  · cases fits

theorem makeOffer_eq_ok {currencies : List Currency} {shop : Id} {item : ShopItem}
    {offer : Offer} (made : makeOffer currencies shop item = .ok offer) :
    item.offer currencies shop = offer := by
  obtain ⟨count, counted, made⟩ := bind_eq_ok_iff.mp made
  obtain ⟨priceCount, priced, made⟩ := bind_eq_ok_iff.mp made
  rw [score_eq_ok counted, score_eq_ok priced] at made
  exact Except.ok.inj made

theorem placeOffers_eq_ok {currencies : List Currency} {shops : List Shop} {offers : List Offer}
    (placed : placeOffers currencies shops = .ok offers) :
    offers = shops.zipIdx.flatMap fun entry =>
      entry.1.items.map (ShopItem.offer currencies (.ofNat entry.2)) := by
  obtain ⟨groups, grouped, joined⟩ := bind_eq_ok_iff.mp placed
  have listed : shops.zipIdx.map (fun entry =>
      entry.1.items.map (ShopItem.offer currencies (.ofNat entry.2))) = groups := by
    rw [← List.forall₂_eq_eq_eq, List.forall₂_map_left_iff]
    refine (mapM_eq_ok_iff.mp grouped).imp ?_
    intro entry group converted
    rw [← List.forall₂_eq_eq_eq, List.forall₂_map_left_iff]
    exact (mapM_eq_ok_iff.mp converted).imp fun _ _ made => makeOffer_eq_ok made
  rw [← Except.ok.inj joined, ← listed, List.flatMap_def]

theorem placeGenerator_eq_ok {index : Nat} {generator : Generator} {placed : PlacedGenerator}
    (made : placeGenerator index generator = .ok placed) :
    ∃ threshold, ticksOfSeconds? generator.delaySeconds = some threshold ∧
      placed =
        { id := .ofNat index
          item := generator.item
          position := generator.position
          threshold } := by
  unfold placeGenerator at made
  split at made
  · next threshold ticks => exact ⟨threshold, ticks, (Except.ok.inj made).symm⟩
  · cases made

/-- A resolved layout follows its configuration entry by entry. -/
theorem resolve_eq_ok {config : Config} {layout : Layout} (resolved : resolve config = .ok layout) :
    List.Forall₂ (fun entry generator => placeGenerator entry.2 entry.1 = .ok generator)
        config.generators.zipIdx layout.generators ∧
      layout.shops = placeShops config.shops ∧
      layout.shopkeepers = placeShopkeepers config.shops ∧
      layout.offers = config.shops.zipIdx.flatMap fun entry =>
        entry.1.items.map (ShopItem.offer config.currencies (.ofNat entry.2)) := by
  obtain ⟨generators, placed, resolved⟩ := bind_eq_ok_iff.mp resolved
  obtain ⟨offers, offered, resolved⟩ := bind_eq_ok_iff.mp resolved
  obtain rfl := Except.ok.inj resolved
  exact ⟨mapM_eq_ok_iff.mp placed, rfl, rfl, placeOffers_eq_ok offered⟩

/-- Generators keep their places, which give them their numbers. -/
theorem getElem?_generators {config : Config} {layout : Layout}
    (resolved : resolve config = .ok layout) {index : Nat} {generator : Generator}
    (present : config.generators[index]? = some generator) :
    ∃ threshold, ticksOfSeconds? generator.delaySeconds = some threshold ∧
      layout.generators[index]? = some
        { id := .ofNat index
          item := generator.item
          position := generator.position
          threshold } := by
  obtain ⟨placed, -⟩ := resolve_eq_ok resolved
  have numbered : config.generators.zipIdx[index]? = some (generator, index) := by
    rw [List.getElem?_zipIdx, present, Nat.zero_add, Option.map_some]
  obtain ⟨result, found, made⟩ := getElem?_of_forall₂ placed numbered
  obtain ⟨threshold, ticks, rfl⟩ := placeGenerator_eq_ok made
  exact ⟨threshold, ticks, found⟩

theorem id_generators {config : Config} {layout : Layout}
    (resolved : resolve config = .ok layout) {index : Nat} {placed : PlacedGenerator}
    (present : layout.generators[index]? = some placed) :
    index < config.generators.length ∧ placed.id = UInt32.ofNat index := by
  obtain ⟨related, -⟩ := resolve_eq_ok resolved
  obtain ⟨⟨generator, number⟩, found, made⟩ := getElem?_of_forall₂ related.flip present
  rw [List.getElem?_zipIdx] at found
  obtain ⟨original, listed, same⟩ := Option.map_eq_some_iff.mp found
  obtain ⟨-, -, rfl⟩ := placeGenerator_eq_ok made
  obtain ⟨-, rfl⟩ := Prod.mk.inj same
  exact ⟨(List.getElem?_eq_some_iff.mp listed).1, by rw [Nat.zero_add]⟩

/-- The offers with a number are the items of the shop that stands there, in order. -/
theorem offersOf_eq_elim {config : Config} {layout : Layout}
    (resolved : resolve config = .ok layout) (few : config.shops.length < 2 ^ 32) (id : Id) :
    layout.offersOf id =
      config.shops[id.toNat]?.elim [] fun shop =>
        shop.items.map (ShopItem.offer config.currencies id) := by
  obtain ⟨-, -, -, offers⟩ := resolve_eq_ok resolved
  -- The offers of one shop have one number, so the filter keeps all of them or none.
  have whole : ∀ entry ∈ config.shops.zipIdx,
      (entry.1.items.map (ShopItem.offer config.currencies (.ofNat entry.2))).filter
          (fun offer => offer.shop == id) =
        if (UInt32.ofNat entry.2 : Id) == id then
          entry.1.items.map (ShopItem.offer config.currencies (.ofNat entry.2))
        else [] := by
    intro entry _
    rw [List.filter_map]
    split
    · next same => simp [Function.comp_def, ShopItem.offer, same]
    · next different => simp [Function.comp_def, ShopItem.offer, different]
  unfold Layout.offersOf
  rw [offers, List.filter_flatMap, List.flatMap_congr whole,
    flatMap_if (fun entry : Shop × Nat => (UInt32.ofNat entry.2 : Id) == id), filter_ofNat few]
  cases config.shops[id.toNat]? <;> simp

theorem offersOf_eq {config : Config} {layout : Layout} (resolved : resolve config = .ok layout)
    (few : config.shops.length < 2 ^ 32) {index : Nat} {shop : Shop}
    (present : config.shops[index]? = some shop) :
    layout.offersOf (.ofNat index) =
      shop.items.map (ShopItem.offer config.currencies (.ofNat index)) := by
  have inside : index < config.shops.length := (List.getElem?_eq_some_iff.mp present).1
  rw [offersOf_eq_elim resolved few, Id.toNat_ofNat (by omega), present]
  rfl

def itemNumber (shops : List Shop) (shop item : Nat) : Nat :=
  ((shops.take shop).flatMap Shop.items).length + item

/-- Offers stand where their items stand among the items of all shops. -/
theorem getElem?_offers {config : Config} {layout : Layout}
    (resolved : resolve config = .ok layout) {index place : Nat} {shop : Shop} {item : ShopItem}
    (present : config.shops[index]? = some shop) (listed : shop.items[place]? = some item) :
    layout.offers[itemNumber config.shops index place]? =
      some (item.offer config.currencies (.ofNat index)) := by
  obtain ⟨-, -, -, offers⟩ := resolve_eq_ok resolved
  rw [offers]
  have found := getElem?_flatMap_zipIdx
    (fun entry : Shop × Nat => ShopItem.offer config.currencies (.ofNat entry.2)) present listed 0
  rwa [Nat.zero_add] at found

theorem length_offers {config : Config} {layout : Layout}
    (resolved : resolve config = .ok layout) :
    layout.offers.length = (config.shops.flatMap Shop.items).length := by
  obtain ⟨-, -, -, offers⟩ := resolve_eq_ok resolved
  rw [offers]
  exact length_flatMap_zipIdx
    (fun entry : Shop × Nat => ShopItem.offer config.currencies (.ofNat entry.2)) _ 0

/-- Where keepers stand, each with the place of the shop in the list. -/
def keeperPlaces (shops : List Shop) (start : Nat) : List (Nat × Position) :=
  (shops.zipIdx start).flatMap fun entry =>
    entry.1.shopkeepers.map fun position => (entry.2, position)

theorem length_keeperPlaces (shops : List Shop) (start : Nat) :
    (keeperPlaces shops start).length = (shops.flatMap Shop.shopkeepers).length :=
  length_flatMap_zipIdx (fun entry position => (entry.2, position)) shops start

theorem foldl_placeShopkeeper (shop : Nat) (positions : List Position)
    (placed : List PlacedShopkeeper) :
    positions.foldl (placeShopkeeper shop) placed =
      placed ++ (positions.zipIdx placed.length).map fun entry =>
        { id := .ofNat entry.2, shop := .ofNat shop, position := entry.1 } := by
  induction positions generalizing placed with
  | nil => simp
  | cons position positions inductionHypothesis =>
    rw [List.foldl_cons, inductionHypothesis]
    simp [placeShopkeeper]

/-- The running number of a shopkeeper is its place among all of them. -/
theorem placeShopkeepers_eq (shops : List Shop) :
    placeShopkeepers shops = (keeperPlaces shops 0).zipIdx.map fun entry =>
      { id := .ofNat entry.2, shop := .ofNat entry.1.1, position := entry.1.2 } := by
  have placed : ∀ (numbered : List (Shop × Nat)) (placed : List PlacedShopkeeper),
      numbered.foldl
          (fun placed entry => entry.1.shopkeepers.foldl (placeShopkeeper entry.2) placed) placed =
        placed ++ ((numbered.flatMap fun entry =>
            entry.1.shopkeepers.map fun position => (entry.2, position)).zipIdx
              placed.length).map fun entry =>
          { id := .ofNat entry.2, shop := .ofNat entry.1.1, position := entry.1.2 } := by
    intro numbered
    induction numbered with
    | nil => simp
    | cons entry numbered inductionHypothesis =>
      intro placed
      rw [List.foldl_cons, inductionHypothesis, foldl_placeShopkeeper, List.flatMap_cons,
        List.zipIdx_append, List.map_append]
      simp [List.zipIdx_map, Function.comp_def]
  exact placed shops.zipIdx []

theorem length_placeShopkeepers (shops : List Shop) :
    (placeShopkeepers shops).length = (shops.flatMap Shop.shopkeepers).length := by
  rw [placeShopkeepers_eq, List.length_map, List.length_zipIdx, length_keeperPlaces]

end Economy

end Datapack
