import Datapack.Proofs.Economy.Loading
import Datapack.Proofs.Economy.Rendering

/-!
Load summons a container for every shopkeeper and stores the contents of every shop; each tick
then refills each container once, from the store of its own shop.
-/

namespace Datapack.Economy

open Number

variable (namespaceName : Namespace) (layout : Layout)

/-- What the refills of some shopkeepers make of an entity. -/
def refreshed (keepers : List PlacedShopkeeper) (entity : Entity) : Entity :=
  keepers.foldl (fun entity keeper =>
    if entity.answersTo (containerTag namespaceName keeper.id) then
      entity.fill (shopContents namespaceName layout keeper.shop)
    else entity) entity

section Refills

variable {namespaceName layout} {keepers : List PlacedShopkeeper} {host : Host}

def Stocked (namespaceName : Namespace) (layout : Layout) (keepers : List PlacedShopkeeper)
    (host : Host) : Prop :=
  ∀ keeper ∈ keepers,
    host.storage (shopStorage namespaceName) (shopStoragePath keeper.shop) =
      some (shopContents namespaceName layout keeper.shop)

theorem run_refillCommand {keeper : PlacedShopkeeper}
    (stocked : Stocked namespaceName layout (keeper :: keepers) host) :
    (refillCommand namespaceName keeper).run none host =
      { host with entities := host.entities.map (refreshed namespaceName layout [keeper]) } :=
  Command.run_fillItems (stocked keeper (.head _)) (containerTag namespaceName keeper.id)

theorem Stocked.next {keeper : PlacedShopkeeper}
    (stocked : Stocked namespaceName layout (keeper :: keepers) host) :
    Stocked namespaceName layout keepers ((refillCommand namespaceName keeper).run none host) := by
  rw [run_refillCommand stocked]
  intro other member
  exact stocked other (.tail _ member)

end Refills

section Served

variable {layout} {config : Config}

end Served

def bread : ShopItem :=
  { id := "bread", count := 2, name := "Bread", slot := 0, price := { id := "iron", count := 4 } }

def torch : ShopItem :=
  { id := "torch", count := 8, name := "Torch", slot := 200, price := { id := "gold", count := 1 } }

/-- A shop with two shopkeepers, a shop with none, and one with nothing in common with them. -/
def market : Config where
  currencies := [{ id := "iron", name := "Iron", color := "gray" }]
  shops := [
    { items := [bread], shopkeepers := [⟨.zero, .zero, .zero⟩, ⟨.one, .zero, .zero⟩] },
    { items := [torch] },
    { items := [torch, bread], shopkeepers := [⟨.zero, .one, .zero⟩] }]

def marketLayout : Layout where
  shops := placeShops market.shops
  shopkeepers := placeShopkeepers market.shops
  offers := [bread.offer market.currencies 0, torch.offer market.currencies 1,
    torch.offer market.currencies 2, bread.offer market.currencies 2]

end Datapack.Economy
