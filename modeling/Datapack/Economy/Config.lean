import Datapack.Position

/-!
What a pack author writes down: generators, currencies and shops.
-/

namespace Datapack.Economy

open Number

/-- Drops one item at a place every so many seconds. -/
structure Generator where
  item : String
  position : Position
  delaySeconds : Binary64
  deriving DecidableEq

structure Currency where
  id : String
  name : String
  color : String
  deriving DecidableEq

structure Price where
  id : String
  count : UInt32
  deriving DecidableEq

structure ShopItem where
  id : String
  count : UInt32
  name : String
  slot : UInt8
  price : Price
  deriving DecidableEq

def defaultShopName : String := "Shop"

/-- A shop sells its items from every place where one of its keepers stands. -/
structure Shop where
  name : String := defaultShopName
  items : List ShopItem := []
  shopkeepers : List Position := []
  deriving DecidableEq

structure Config where
  generators : List Generator := []
  currencies : List Currency := []
  shops : List Shop := []
  deriving DecidableEq

end Datapack.Economy
