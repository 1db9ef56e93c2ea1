import Datapack.Economy.Purchase
import Datapack.Economy.Stock
import Datapack.Event

/-!
The instructions of an economy at each event.
-/

namespace Datapack.Economy

open Number

def Layout.shownName (layout : Layout) (shop : Id) : String :=
  match layout.shop? shop with
  | some placed => orElseIfEmpty placed.name defaultShopName
  | none => defaultShopName

def summonShopkeeper (namespaceName : Namespace) (keeper : PlacedShopkeeper) : Command :=
  .summon "villager" keeper.position
    (.compound [
      ("Tags", .tags [namespaceName.text, shopkeeperTag namespaceName]),
      ("NoAI", .byte 1),
      ("Silent", .byte 1),
      ("Invulnerable", .byte 1)])

/-- The container a shopkeeper sells from. It carries a marker so that it keeps its place. -/
def containerData (namespaceName : Namespace) (keeper : Id) (shopName : String) : Snbt :=
  .compound [
    ("id", .string "minecraft:chest_minecart"),
    ("Tags", .tags
      [namespaceName.text, shopTag namespaceName, containerTag namespaceName keeper]),
    ("Passengers", .list [
      .compound [
        ("id", .string "minecraft:marker"),
        ("Tags", .tags [namespaceName.text])]]),
    ("Silent", .byte 1),
    ("Invulnerable", .byte 1),
    ("CustomName", .string shopName),
    ("DisplayState", .compound [("Name", .string "minecraft:barrier")])]

/-- The container rides on a display one block above the shopkeeper. -/
def summonContainer (namespaceName : Namespace) (keeper : PlacedShopkeeper) (shopName : String) :
    Command :=
  .summon "item_display" (keeper.position.above Binary64.one)
    (.compound [
      ("Tags", .tags [namespaceName.text]),
      ("Passengers", .list [containerData namespaceName keeper.id shopName])])

def loadCommands (namespaceName : Namespace) (layout : Layout) : List Command :=
  [.addObjective (generatorsObjective namespaceName),
    .addObjective (currencyObjective namespaceName)] ++
  layout.generators.map (fun generator =>
    .setScore (generatorHolder generator.id) (generatorsObjective namespaceName) 0) ++
  layout.shopkeepers.flatMap (fun keeper =>
    [summonShopkeeper namespaceName keeper,
      summonContainer namespaceName keeper (layout.shownName keeper.shop)]) ++
  layout.shops.map (fun shop =>
    .store (shopStorage namespaceName) (shopStoragePath shop.id)
      (shopContents namespaceName layout shop.id))

def unloadCommands (namespaceName : Namespace) : List Command :=
  [.removeObjective (generatorsObjective namespaceName),
    .removeObjective (currencyObjective namespaceName),
    .kill (.tagged namespaceName.text)]

/-- Counts one tick; on reaching the threshold drops the item and starts again from zero. -/
def generatorCommands (namespaceName : Namespace) (generator : PlacedGenerator) : List Command :=
  let holder := generatorHolder generator.id
  let objective := generatorsObjective namespaceName
  let ready := [Clause.scoreAtLeast holder objective generator.threshold]
  [.addScore holder objective 1,
    .execute ready
      (.summon "item" generator.position
        (.compound [
          ("Tags", .tags [namespaceName.text]),
          ("Item", .compound [("id", .string generator.item), ("count", .int 1)])])),
    .execute ready (.setScore holder objective 0)]

def turnShopkeepers (namespaceName : Namespace) : Command :=
  .execute [.as (.tagged (shopkeeperTag namespaceName)), .atSelf] .facePlayer

def refillCommand (namespaceName : Namespace) (keeper : PlacedShopkeeper) : Command :=
  .execute [.as (.tagged (containerTag namespaceName keeper.id))]
    (.fillItems (shopStorage namespaceName) (shopStoragePath keeper.shop))

/-- Looks for an offer's stack in the player's hand and inventory. -/
def purchaseCommands (namespaceName : Namespace) (offer : Offer) : List Command :=
  [Slots.cursor, Slots.container].map fun slots =>
    .execute [.as .everyPlayer, .holds slots (offer.stockTest namespaceName)]
      (purchaseCall namespaceName offer)

/-- Takes back all stock that is still in a player's inventory. -/
def cleanupCommand (namespaceName : Namespace) : Command :=
  .execute [.as .everyPlayer] (.clear (anyStock namespaceName))

def tickCommands (namespaceName : Namespace) (layout : Layout) : List Command :=
  .comment "Generators" :: layout.generators.flatMap (generatorCommands namespaceName) ++
  [.comment "Shopkeepers", turnShopkeepers namespaceName] ++
  .comment "Shops" :: layout.shopkeepers.map (refillCommand namespaceName) ++
  .comment "Purchases" :: layout.offers.flatMap (purchaseCommands namespaceName) ++
  [.comment "Cleanup", cleanupCommand namespaceName]

def commands (namespaceName : Namespace) (layout : Layout) : Event → List Command
  | .load => loadCommands namespaceName layout
  | .unload => unloadCommands namespaceName
  | .tick => tickCommands namespaceName layout

def scripts (namespaceName : Namespace) (layout : Layout) : Scripts :=
  fun event => (commands namespaceName layout event).map Command.text

end Datapack.Economy
