import Datapack.Document.Dialect
import Datapack.Economy.Config
import Datapack.Json.Writer

/-!
Configurations as documents: read from any format, written as JSON.
-/

namespace Datapack

def positionShape : Shape :=
  { name := "Vector3", fields := [⟨"x", none⟩, ⟨"y", none⟩, ⟨"z", none⟩] }

def Position.ofDocument? (dialect : Dialect) (document : Document) : Option Position := do
  let members ← document.members? dialect positionShape
  return {
    x := ← members.required? "x" (Document.real? dialect)
    y := ← members.required? "y" (Document.real? dialect)
    z := ← members.required? "z" (Document.real? dialect) }

def Position.document (position : Position) : Document :=
  .object [
    ("x", Json.real position.x),
    ("y", Json.real position.y),
    ("z", Json.real position.z)]

end Datapack

namespace Datapack.Economy

open Document (text? listOf?)

def count? (dialect : Dialect) (document : Document) : Option UInt32 :=
  (document.natural? dialect UInt32.size).map .ofNat

def slot? (dialect : Dialect) (document : Document) : Option UInt8 :=
  (document.natural? dialect UInt8.size).map .ofNat

def Generator.shape : Shape :=
  { name := "Generator"
    fields := [⟨"item", none⟩, ⟨"position", none⟩, ⟨"delay_seconds", some "delaySeconds"⟩] }

def Generator.ofDocument? (dialect : Dialect) (document : Document) : Option Generator := do
  let members ← document.members? dialect Generator.shape
  return {
    item := ← members.required? "item" text?
    position := ← members.required? "position" (Position.ofDocument? dialect)
    delaySeconds := ← members.required? "delay_seconds" (Document.real? dialect) }

def Generator.document (generator : Generator) : Document :=
  .object [
    ("item", .text generator.item),
    ("position", generator.position.document),
    ("delay_seconds", Json.real generator.delaySeconds)]

def Currency.shape : Shape :=
  { name := "Currency", fields := [⟨"id", none⟩, ⟨"name", none⟩, ⟨"color", none⟩] }

def Currency.ofDocument? (dialect : Dialect) (document : Document) : Option Currency := do
  let members ← document.members? dialect Currency.shape
  return {
    id := ← members.required? "id" text?
    name := ← members.required? "name" text?
    color := ← members.required? "color" text? }

def Currency.document (currency : Currency) : Document :=
  .object [
    ("id", .text currency.id),
    ("name", .text currency.name),
    ("color", .text currency.color)]

def Price.shape : Shape :=
  { name := "Item", fields := [⟨"id", none⟩, ⟨"count", none⟩] }

def Price.ofDocument? (dialect : Dialect) (document : Document) : Option Price := do
  let members ← document.members? dialect Price.shape
  return {
    id := ← members.required? "id" text?
    count := ← members.required? "count" (count? dialect) }

def Price.document (price : Price) : Document :=
  .object [
    ("id", .text price.id),
    ("count", .natural price.count.toNat)]

def ShopItem.shape : Shape :=
  { name := "ShopItem"
    fields :=
      [⟨"id", none⟩, ⟨"count", none⟩, ⟨"name", none⟩, ⟨"slot", some "Slot"⟩, ⟨"price", none⟩] }

def ShopItem.ofDocument? (dialect : Dialect) (document : Document) : Option ShopItem := do
  let members ← document.members? dialect ShopItem.shape
  return {
    id := ← members.required? "id" text?
    count := ← members.required? "count" (count? dialect)
    name := ← members.required? "name" text?
    slot := ← members.withDefault? "slot" 0 (slot? dialect)
    price := ← members.required? "price" (Price.ofDocument? dialect) }

def ShopItem.document (item : ShopItem) : Document :=
  .object [
    ("id", .text item.id),
    ("count", .natural item.count.toNat),
    ("name", .text item.name),
    ("slot", .natural item.slot.toNat),
    ("price", item.price.document)]

def shopkeeperShape : Shape :=
  { name := "Shopkeeper", fields := [⟨"position", none⟩] }

def shopkeeper? (dialect : Dialect) (document : Document) : Option Position := do
  let members ← document.members? dialect shopkeeperShape
  members.required? "position" (Position.ofDocument? dialect)

def shopkeeperDocument (position : Position) : Document :=
  .object [("position", position.document)]

def Shop.shape : Shape :=
  { name := "Shop", fields := [⟨"name", none⟩, ⟨"items", none⟩, ⟨"shopkeepers", none⟩] }

def Shop.ofDocument? (dialect : Dialect) (document : Document) : Option Shop := do
  let members ← document.members? dialect Shop.shape
  return {
    name := ← members.withDefault? "name" defaultShopName text?
    items := ← members.withDefault? "items" [] (listOf? (ShopItem.ofDocument? dialect))
    shopkeepers := ← members.withDefault? "shopkeepers" [] (listOf? (shopkeeper? dialect)) }

def Shop.document (shop : Shop) : Document :=
  .object [
    ("name", .text shop.name),
    ("items", .list (shop.items.map ShopItem.document)),
    ("shopkeepers", .list (shop.shopkeepers.map shopkeeperDocument))]

def Config.shape : Shape :=
  { name := "EconomyConfig"
    fields := [⟨"generators", none⟩, ⟨"currencies", none⟩, ⟨"shops", none⟩] }

def Config.ofDocument? (dialect : Dialect) (document : Document) : Option Config := do
  let members ← document.members? dialect Config.shape
  return {
    generators := ← members.withDefault? "generators" [] (listOf? (Generator.ofDocument? dialect))
    currencies := ← members.withDefault? "currencies" [] (listOf? (Currency.ofDocument? dialect))
    shops := ← members.withDefault? "shops" [] (listOf? (Shop.ofDocument? dialect)) }

def Config.document (config : Config) : Document :=
  .object [
    ("generators", .list (config.generators.map Generator.document)),
    ("currencies", .list (config.currencies.map Currency.document)),
    ("shops", .list (config.shops.map Shop.document))]

def Config.json (config : Config) : String :=
  Json.compact config.document

end Datapack.Economy
