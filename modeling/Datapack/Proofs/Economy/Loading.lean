import Datapack.Economy.Scripts
import Datapack.Proofs.Economy.Identifiers
import Datapack.Proofs.Host.Lemmas

/-!
What the load script leaves on a host: its entities behind those that stood there, a store for
every shop, and a count of zero for every generator.
-/

namespace Datapack.Economy

open Number

variable (namespaceName : Namespace) (layout : Layout)

def arrivals (keeper : PlacedShopkeeper) : List Entity :=
  (summonShopkeeper namespaceName keeper).summoned ++
    (summonContainer namespaceName keeper (layout.shownName keeper.shop)).summoned

def container (keeper : PlacedShopkeeper) : Entity :=
  { kind := "minecraft:chest_minecart"
    position := keeper.position.above Binary64.one
    entries :=
      (containerData namespaceName keeper.id (layout.shownName keeper.shop)).entries }

/-- A shopkeeper comes with a display, the container that rides on it and a marker. -/
theorem arrivals_eq (keeper : PlacedShopkeeper) :
    ∃ shopkeeper display marker : Entity,
      arrivals namespaceName layout keeper =
          [shopkeeper, display, container namespaceName layout keeper, marker] ∧
        shopkeeper.tags = [namespaceName.text, shopkeeperTag namespaceName] ∧
        display.tags = [namespaceName.text] ∧
        (container namespaceName layout keeper).tags =
          [namespaceName.text, shopTag namespaceName, containerTag namespaceName keeper.id] ∧
        marker.tags = [namespaceName.text] ∧
        [shopkeeper.kind, display.kind, marker.kind] =
          ["villager", "item_display", "minecraft:marker"] := by
  refine ⟨_, _, _, rfl, ?_, ?_, ?_, ?_, rfl⟩
  · exact Entity.tags_eq_of_entry rfl
  · exact Entity.tags_eq_of_entry rfl
  · exact Entity.tags_eq_of_entry rfl
  · exact Entity.tags_eq_of_entry rfl

theorem entities_summons (keepers : List PlacedShopkeeper) (host : Host) :
    (Command.runAll (keepers.flatMap fun keeper =>
        [summonShopkeeper namespaceName keeper,
          summonContainer namespaceName keeper (layout.shownName keeper.shop)]) host).entities =
      host.entities ++ keepers.flatMap (arrivals namespaceName layout) := by
  induction keepers generalizing host with
  | nil => simp
  | cons keeper keepers inductionHypothesis =>
    rw [List.flatMap_cons, Command.runAll_append, inductionHypothesis, List.flatMap_cons,
      ← List.append_assoc]
    congr 1
    exact List.append_assoc host.entities _ _

/-- A shop's store holds its contents, whatever was stored there. -/
theorem storage_stores (shops : List PlacedShop) (host : Host) (shop : Id) :
    (Command.runAll (shops.map fun shop =>
        .store (shopStorage namespaceName) (shopStoragePath shop.id)
          (shopContents namespaceName layout shop.id)) host).storage
        (shopStorage namespaceName) (shopStoragePath shop) =
      if shop ∈ shops.map PlacedShop.id then some (shopContents namespaceName layout shop)
      else host.storage (shopStorage namespaceName) (shopStoragePath shop) := by
  induction shops generalizing host with
  | nil => simp
  | cons first shops inductionHypothesis =>
    rw [List.map_cons, Command.runAll_cons, inductionHypothesis]
    -- A later line with the same path stores the same contents again.
    by_cases later : shop ∈ shops.map PlacedShop.id
    · simp [later]
    · by_cases own : shop = first.id
      · subst own
        simp [later, Command.run, Host.store]
      · have elsewhere : shopStoragePath shop ≠ shopStoragePath first.id := by
          unfold shopStoragePath
          exact mt Id.text_inj.mp own
        simp [later, own, Command.run, Host.store, elsewhere]

theorem objectives_summons (keepers : List PlacedShopkeeper) (host : Host) :
    (Command.runAll (keepers.flatMap fun keeper =>
        [summonShopkeeper namespaceName keeper,
          summonContainer namespaceName keeper (layout.shownName keeper.shop)]) host).objectives =
      host.objectives := by
  apply Command.runAll_keeps Host.objectives
  intro line member host
  obtain ⟨keeper, -, member⟩ := List.mem_flatMap.mp member
  simp only [List.mem_cons, List.not_mem_nil, or_false] at member
  rcases member with rfl | rfl <;> rfl

theorem entities_seeds (generators : List PlacedGenerator) (host : Host) :
    (Command.runAll ([.addObjective (generatorsObjective namespaceName),
        .addObjective (currencyObjective namespaceName)] ++
      generators.map fun generator =>
        .setScore (generatorHolder generator.id) (generatorsObjective namespaceName) 0)
      host).entities = host.entities := by
  apply Command.runAll_keeps Host.entities
  intro line member host
  simp only [List.cons_append, List.nil_append, List.mem_cons, List.mem_map] at member
  rcases member with rfl | rfl | ⟨generator, -, rfl⟩ <;> simp [Command.run]

theorem entities_load (host : Host) :
    (Command.runAll (loadCommands namespaceName layout) host).entities =
      host.entities ++ layout.shopkeepers.flatMap (arrivals namespaceName layout) := by
  unfold loadCommands
  rw [Command.runAll_append, Command.runAll_append]
  rw [Command.runAll_keeps Host.entities, entities_summons, entities_seeds]
  intro line member host
  obtain ⟨shop, -, rfl⟩ := List.mem_map.mp member
  rfl

theorem storage_load {shop : PlacedShop} (placed : shop ∈ layout.shops) (host : Host) :
    (Command.runAll (loadCommands namespaceName layout) host).storage
        (shopStorage namespaceName) (shopStoragePath shop.id) =
      some (shopContents namespaceName layout shop.id) := by
  unfold loadCommands
  rw [Command.runAll_append, storage_stores, if_pos (List.mem_map_of_mem placed)]

theorem isSome_seeds (generators : List PlacedGenerator) (host : Host) (objective : String) :
    ((Command.runAll (generators.map fun generator =>
        .setScore (generatorHolder generator.id) (generatorsObjective namespaceName) 0)
      host).objectives objective).isSome = (host.objectives objective).isSome := by
  apply Command.runAll_keeps fun host => (host.objectives objective).isSome
  intro line member host
  obtain ⟨generator, -, rfl⟩ := List.mem_map.mp member
  exact Host.isSome_setScore host _ _ _ _

theorem score?_seeds (generators : List PlacedGenerator) {host : Host}
    (present : (host.objectives (generatorsObjective namespaceName)).isSome) (holder : String) :
    (Command.runAll (generators.map fun generator =>
        .setScore (generatorHolder generator.id) (generatorsObjective namespaceName) 0)
      host).score? (generatorsObjective namespaceName) holder =
      if holder ∈ generators.map (fun generator => generatorHolder generator.id) then some 0
      else host.score? (generatorsObjective namespaceName) holder := by
  induction generators generalizing host with
  | nil => simp
  | cons first generators inductionHypothesis =>
    rw [List.map_cons, Command.runAll_cons, inductionHypothesis]
    · simp only [Command.run, List.map_cons, List.mem_cons,
        Host.score?_setScore _ _ present, true_and]
      by_cases later : holder ∈ generators.map fun generator => generatorHolder generator.id
      · simp [later]
      · by_cases own : holder = generatorHolder first.id <;> simp [later, own]
    · rw [Command.run, Host.isSome_setScore]
      exact present

/-- Beyond the scores nothing in a load touches the objectives. -/
theorem objectives_load (host : Host) :
    (Command.runAll (loadCommands namespaceName layout) host).objectives =
      (Command.runAll (layout.generators.map fun generator =>
          .setScore (generatorHolder generator.id) (generatorsObjective namespaceName) 0)
        ((host.addObjective (generatorsObjective namespaceName)).addObjective
          (currencyObjective namespaceName))).objectives := by
  unfold loadCommands
  rw [Command.runAll_append, Command.runAll_append, Command.runAll_keeps Host.objectives,
    objectives_summons, Command.runAll_append]
  · rfl
  · intro line member host
    obtain ⟨shop, -, rfl⟩ := List.mem_map.mp member
    rfl

theorem isSome_load (host : Host) :
    ((Command.runAll (loadCommands namespaceName layout) host).objectives
      (generatorsObjective namespaceName)).isSome := by
  rw [objectives_load, isSome_seeds, Host.isSome_addObjective, Host.isSome_addObjective]
  simp

theorem score?_load {generator : PlacedGenerator} (placed : generator ∈ layout.generators)
    (host : Host) :
    (Command.runAll (loadCommands namespaceName layout) host).score?
      (generatorsObjective namespaceName) (generatorHolder generator.id) = some 0 := by
  unfold Host.score?
  rw [objectives_load]
  change Host.score? _ _ _ = _
  rw [score?_seeds, if_pos (List.mem_map_of_mem placed)]
  rw [Host.isSome_addObjective, Host.isSome_addObjective]
  simp

end Datapack.Economy
