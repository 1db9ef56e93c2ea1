import Datapack.Economy.Layout
import Datapack.Namespace

/-!
The names under which an economy keeps its scores, entities and storage.
-/

namespace Datapack.Economy

def Id.text (id : Id) : String :=
  toString id.toNat

def generatorsObjective (namespaceName : Namespace) : String :=
  namespaceName.prefixed "generators"

def currencyObjective (namespaceName : Namespace) : String :=
  namespaceName.prefixed "currency"

def generatorHolder (id : Id) : String :=
  id.text

def shopkeeperTag (namespaceName : Namespace) : String :=
  namespaceName.prefixed "shopkeeper"

def shopTag (namespaceName : Namespace) : String :=
  namespaceName.prefixed "shop"

def containerTag (namespaceName : Namespace) (shopkeeper : Id) : String :=
  namespaceName.prefixed ("shop_" ++ shopkeeper.text)

/-- The key that marks a stack as stock of a shop. -/
def stockMarker (namespaceName : Namespace) : String :=
  namespaceName.prefixed "shop_item"

def shopStorage (namespaceName : Namespace) : String :=
  namespaceName.resource "shops"

def shopStoragePath (shop : Id) : String :=
  shop.text

end Datapack.Economy
