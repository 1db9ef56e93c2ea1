import Datapack.Duration
import Datapack.Economy.Label

/-!
A configuration with everything numbered, delays in ticks and prices labelled.
-/

namespace Datapack.Economy

open Number

/-- Numbers wrap beyond `2 ^ 32` entries. -/
abbrev Id := UInt32

structure PlacedGenerator where
  id : Id
  item : String
  position : Position
  threshold : Nat
  deriving DecidableEq

structure PlacedShop where
  id : Id
  name : String
  deriving DecidableEq

structure PlacedShopkeeper where
  id : Id
  shop : Id
  position : Position
  deriving DecidableEq

structure Offer where
  shop : Id
  slot : UInt8
  itemId : String
  count : Nat
  name : String
  priceId : String
  priceCount : Nat
  label : Label
  deriving DecidableEq

/-- Shopkeepers are numbered across shops; offers stand in the order of shops and items. -/
structure Layout where
  generators : List PlacedGenerator := []
  shops : List PlacedShop := []
  shopkeepers : List PlacedShopkeeper := []
  offers : List Offer := []
  deriving DecidableEq

inductive ConfigError where
  | alreadyConfigured
  | invalidDelay (generator : Id) (delay : Binary64)
  | countOverflow (shop : Id) (item : String) (count : UInt32)
  deriving DecidableEq

def largestScore : Nat := 2147483647

namespace ConfigError

def message : ConfigError → String
  | .alreadyConfigured => "economy plugin is already configured"
  | .invalidDelay generator delay =>
    "generator " ++ toString generator.toNat ++ " has invalid delay " ++ delay.render .plain ++ "s"
  | .countOverflow shop item count =>
    "item '" ++ item ++ "' in shop " ++ toString shop.toNat ++ " has count " ++
      toString count.toNat ++ " (largest is " ++ toString largestScore ++ ")"

end ConfigError

def placeGenerator (index : Nat) (generator : Generator) : Except ConfigError PlacedGenerator :=
  match ticksOfSeconds? generator.delaySeconds with
  | some threshold =>
    .ok
      { id := .ofNat index
        item := generator.item
        position := generator.position
        threshold }
  | none => .error (.invalidDelay (.ofNat index) generator.delaySeconds)

/-- The count as a score, unless the host cannot hold it. -/
def score (shop : Id) (item : String) (count : UInt32) : Except ConfigError Nat :=
  if count.toNat ≤ largestScore then .ok count.toNat else .error (.countOverflow shop item count)

def makeOffer (currencies : List Currency) (shop : Id) (item : ShopItem) :
    Except ConfigError Offer := do
  let count ← score shop item.id item.count
  let priceCount ← score shop item.id item.price.count
  return {
    shop
    slot := item.slot
    itemId := item.id
    count
    name := item.name
    priceId := item.price.id
    priceCount
    label := label currencies item.price.id }

def placeShops (shops : List Shop) : List PlacedShop :=
  shops.zipIdx.map fun (shop, index) => { id := .ofNat index, name := shop.name }

def placeShopkeeper (shop : Nat) (placed : List PlacedShopkeeper) (position : Position) :
    List PlacedShopkeeper :=
  placed ++ [{ id := .ofNat placed.length, shop := .ofNat shop, position }]

/-- The running number goes on from one shop to the next. -/
def placeShopkeepers (shops : List Shop) : List PlacedShopkeeper :=
  shops.zipIdx.foldl
    (fun placed entry => entry.1.shopkeepers.foldl (placeShopkeeper entry.2) placed) []

def placeOffers (currencies : List Currency) (shops : List Shop) :
    Except ConfigError (List Offer) := do
  let offers ← shops.zipIdx.mapM fun (shop, index) =>
    shop.items.mapM (makeOffer currencies (.ofNat index))
  return offers.flatten

/-- All delays are checked before any count. -/
def resolve (config : Config) : Except ConfigError Layout := do
  let generators ← config.generators.zipIdx.mapM fun (generator, index) =>
    placeGenerator index generator
  let offers ← placeOffers config.currencies config.shops
  return {
    generators
    shops := placeShops config.shops
    shopkeepers := placeShopkeepers config.shops
    offers }

namespace Layout

def offersOf (layout : Layout) (shop : Id) : List Offer :=
  layout.offers.filter fun offer => offer.shop == shop

def shop? (layout : Layout) (id : Id) : Option PlacedShop :=
  layout.shops.find? fun shop => shop.id == id

end Layout

end Datapack.Economy
