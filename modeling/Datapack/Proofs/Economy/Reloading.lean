import Datapack.Proofs.Economy.Ownership
import Datapack.Proofs.Economy.Shops

/-!
Loading more than once. A reload brings back what a first load gives, whatever happened in between;
a load on top of another one resets scores and stores, but summons every shopkeeper once more.
-/

namespace Datapack

def Host.bearing (host : Host) (tag : String) : List Entity :=
  host.entities.filter fun entity => entity.answersTo tag

namespace Economy

section Again

variable (namespaceName : Namespace) (layout : Layout) (host : Host)

theorem isSome_own_load {objective : String} (own : objective ∈ ownObjectives namespaceName) :
    ((Command.runAll (loadCommands namespaceName layout) host).objectives objective).isSome := by
  rw [objectives_load, isSome_seeds, Host.isSome_addObjective, Host.isSome_addObjective]
  simp only [ownObjectives, List.mem_cons, List.not_mem_nil, or_false] at own
  rcases own with rfl | rfl <;> simp

theorem runAll_seeds_of_zero {generators : List PlacedGenerator} {host : Host}
    (zero : ∀ generator ∈ generators,
      host.score? (generatorsObjective namespaceName) (generatorHolder generator.id) = some 0) :
    Command.runAll (generators.map fun generator =>
      .setScore (generatorHolder generator.id) (generatorsObjective namespaceName) 0) host =
      host := by
  induction generators with
  | nil => rfl
  | cons generator generators inductionHypothesis =>
    have same : host.setScore (generatorsObjective namespaceName) (generatorHolder generator.id) 0 =
        host := Host.setScore_of_score? _ _ (zero generator (.head _))
    rw [List.map_cons, Command.runAll_cons, Command.run]
    change Command.runAll _ (host.setScore _ _ 0) = host
    rw [same]
    exact inductionHypothesis fun other member => zero other (.tail _ member)

theorem objectives_load_again :
    (Command.runAll (loadCommands namespaceName layout)
        (Command.runAll (loadCommands namespaceName layout) host)).objectives =
      (Command.runAll (loadCommands namespaceName layout) host).objectives := by
  rw [objectives_load, Host.addObjective_of_isSome, Host.addObjective_of_isSome,
    runAll_seeds_of_zero]
  · intro generator placed
    exact score?_load namespaceName layout placed host
  · exact isSome_own_load namespaceName layout host (by simp [ownObjectives])
  · rw [Host.addObjective_of_isSome]
    · exact isSome_own_load namespaceName layout host (by simp [ownObjectives])
    · exact isSome_own_load namespaceName layout host (by simp [ownObjectives])

theorem leaves_load :
    Leaves namespaceName layout host (Command.runAll (loadCommands namespaceName layout) host) :=
  leaves_runAll (fun _ member => .inl (belongs_of_mem_loadCommands member)) host

/-- Loading settles all own stores, so only the others matter. -/
theorem storage_load_congr {first second : Host}
    (same : ∀ name path, (name, path) ∉ ownStores namespaceName layout →
      first.storage name path = second.storage name path) :
    (Command.runAll (loadCommands namespaceName layout) first).storage =
      (Command.runAll (loadCommands namespaceName layout) second).storage := by
  funext name path
  by_cases own : (name, path) ∈ ownStores namespaceName layout
  · obtain ⟨shop, placed, here⟩ := List.mem_map.mp own
    obtain ⟨rfl, rfl⟩ := Prod.mk.inj here
    rw [storage_load namespaceName layout placed, storage_load namespaceName layout placed]
  · rw [(leaves_load namespaceName layout first).storage name path own,
      (leaves_load namespaceName layout second).storage name path own, same name path own]

theorem bearing_load :
    (Command.runAll (loadCommands namespaceName layout) host).bearing namespaceName.text =
      host.bearing namespaceName.text ++ layout.shopkeepers.flatMap (arrivals namespaceName layout)
      := by
  unfold Host.bearing
  rw [entities_load, List.filter_append]
  congr 1
  apply List.filter_eq_self.mpr
  intro entity member
  obtain ⟨keeper, -, arrived⟩ := List.mem_flatMap.mp member
  have alive : (arrivals namespaceName layout keeper).all Entity.alive = true := rfl
  have tagged : namespaceName.text ∈ entity.tags := text_mem_tags_of_mem_arrivals arrived
  simp [Entity.answersTo, List.all_eq_true.mp alive entity arrived, tagged]

end Again

section Reload

variable (namespaceName : Namespace) (layout : Layout)

def called? (line : String) : Option Event :=
  Event.all.find? fun event => line == "function " ++ namespaceName.resource event.name

def runCalls (lines : List String) (host : Host) : Host :=
  (lines.filterMap (called? namespaceName)).foldl
    (fun host event =>
      Command.runAll ((scripts namespaceName layout).instructions event) host) host

def reload (host : Host) : Host :=
  runCalls namespaceName layout (reloadLines namespaceName) host

@[simp]
theorem called?_function (event : Event) :
    called? namespaceName ("function " ++ namespaceName.resource event.name) = some event := by
  unfold called? Namespace.resource
  cases event <;>
    simp [Event.all, Event.name, String.append_right_inj]

theorem reload_eq (host : Host) :
    reload namespaceName layout host =
      Command.runAll (loadCommands namespaceName layout)
        (Command.runAll (unloadCommands namespaceName) host) := by
  unfold reload runCalls reloadLines
  simp only [List.map_cons, List.map_nil, List.filterMap_cons, called?_function, List.filterMap_nil,
    List.foldl_cons, List.foldl_nil, instructions_unload, instructions_load]

theorem runAll_unload (host : Host) :
    Command.runAll (unloadCommands namespaceName) host =
      { objectives := Function.update
          (Function.update host.objectives (generatorsObjective namespaceName) none)
          (currencyObjective namespaceName) none
        entities := host.entities.map fun entity =>
          if entity.answersTo namespaceName.text then entity.die else entity
        storage := host.storage } := by
  unfold unloadCommands
  rw [Command.runAll_cons, Command.runAll_cons, Command.runAll_cons, Command.runAll_nil,
    Command.run_kill]
  rfl

/-- What can happen to a host that has a package. A purchase counts what the player holds. -/
inductive Happening where
  | script (event : Event)
  | reload
  | purchase (player : String) (held : Nat)

def Happening.run : Happening → Host → Host
  | .script event => Command.runAll ((scripts namespaceName layout).instructions event)
  | .reload => Economy.reload namespaceName layout
  | .purchase player held => fun host =>
    host.setScore (currencyObjective namespaceName) player held

def runHistory (history : List Happening) (host : Host) : Host :=
  history.foldl (fun host happening => happening.run namespaceName layout host) host

section Clean

variable {layout} (clean : ∀ offer ∈ layout.offers, IsLine offer.itemId)

include clean

theorem leaves_happening (happening : Happening) (host : Host) :
    Leaves namespaceName layout host (happening.run namespaceName layout host) := by
  cases happening with
  | script event => exact leaves_script clean event host
  | reload =>
    have unloaded := @leaves_script namespaceName layout clean .unload host
    rw [instructions_unload] at unloaded
    rw [Happening.run, reload_eq]
    exact unloaded.trans (leaves_load namespaceName layout _)
  | purchase player held => exact .setScore host (by simp [ownObjectives]) player held

theorem leaves_history (history : List Happening) (host : Host) :
    Leaves namespaceName layout host (runHistory namespaceName layout history host) :=
  .foldl history
    (fun host happening => leaves_happening namespaceName clean happening host) host

end Clean

/-- Nothing of the package's is there, except perhaps stores. -/
structure IsFree (host : Host) : Prop where
  objectives : ∀ objective ∈ ownObjectives namespaceName, host.objectives objective = none
  entities : host.bearing namespaceName.text = []

theorem bearing_unload (host : Host) :
    (Command.runAll (unloadCommands namespaceName) host).bearing namespaceName.text = [] := by
  rw [runAll_unload]
  apply List.filter_eq_nil_iff.mpr
  intro entity member
  obtain ⟨former, -, rfl⟩ := List.mem_map.mp member
  split
  · simp [Entity.answersTo, Entity.die]
  · assumption

section Left

variable {namespaceName layout} {start reached : Host}

theorem Leaves.objectives_unload (leaves : Leaves namespaceName layout start reached)
    (free : IsFree namespaceName start) :
    (Command.runAll (unloadCommands namespaceName) reached).objectives = start.objectives := by
  rw [runAll_unload]
  funext objective
  by_cases own : objective ∈ ownObjectives namespaceName
  · rw [free.objectives objective own]
    simp only [ownObjectives, List.mem_cons, List.not_mem_nil, or_false] at own
    rcases own with rfl | rfl
    · by_cases same : generatorsObjective namespaceName = currencyObjective namespaceName <;>
        simp [same]
    · simp
  · rw [← leaves.objectives objective own]
    simp only [ownObjectives, List.mem_cons, List.not_mem_nil, or_false, not_or] at own
    simp [own.1, own.2]

/-- Whoever came with the package dies when it is unloaded. -/
theorem Leaves.dead_of_unload (leaves : Leaves namespaceName layout start reached) {place : Nat}
    {entity : Entity} (behind : start.entities[place]? = none)
    (found : (Command.runAll (unloadCommands namespaceName) reached).entities[place]? =
      some entity) : entity.alive = false := by
  rw [runAll_unload, List.getElem?_map] at found
  obtain ⟨former, stood, rfl⟩ := Option.map_eq_some_iff.mp found
  have tagged := leaves.newcomer place former behind stood
  split
  · rfl
  · next silent =>
    simpa [Entity.answersTo, tagged] using silent

end Left

theorem objectives_load_congr {first second : Host} (same : first.objectives = second.objectives) :
    (Command.runAll (loadCommands namespaceName layout) first).objectives =
      (Command.runAll (loadCommands namespaceName layout) second).objectives := by
  have seeded : ∀ (generators : List PlacedGenerator) (first second : Host),
      first.objectives = second.objectives →
      (Command.runAll (generators.map fun generator =>
          .setScore (generatorHolder generator.id) (generatorsObjective namespaceName) 0)
        first).objectives =
      (Command.runAll (generators.map fun generator =>
          .setScore (generatorHolder generator.id) (generatorsObjective namespaceName) 0)
        second).objectives := by
    intro generators
    induction generators with
    | nil => exact fun _ _ same => same
    | cons generator generators inductionHypothesis =>
      intro first second same
      exact inductionHypothesis _ _ (Host.objectives_setScore_congr same _ _ _)
  rw [objectives_load, objectives_load]
  apply seeded
  apply Host.objectives_addObjective_congr
  exact Host.objectives_addObjective_congr same _

/-- Whatever happened on a host that had nothing of a package's before, a reload brings back the
objectives, scores, entities and stores of a first load, and nobody who came before the reload
lives on. All scripts are read from their rendered text; the items of offers must not have line
feeds in their ids, or the tick script has instructions that nobody wrote. -/
theorem reload_restores_first_load (clean : ∀ offer ∈ layout.offers, IsLine offer.itemId)
    {start : Host} (free : IsFree namespaceName start) (history : List Happening) :
    let reached := runHistory namespaceName layout history start
    let reloaded := reload namespaceName layout reached
    let loaded := Command.runAll ((scripts namespaceName layout).instructions .load) start
    reloaded.objectives = loaded.objectives ∧
      reloaded.bearing namespaceName.text = loaded.bearing namespaceName.text ∧
      reloaded.storage = loaded.storage ∧
      ∀ (place : Nat) (entity : Entity), start.entities.length ≤ place →
        place < reached.entities.length → reloaded.entities[place]? = some entity →
          entity.alive = false := by
  rw [instructions_load]
  intro reached reloaded loaded
  have leaves : Leaves namespaceName layout start reached :=
    leaves_history namespaceName clean history start
  have unloaded : reloaded = Command.runAll (loadCommands namespaceName layout)
      (Command.runAll (unloadCommands namespaceName) reached) :=
    reload_eq namespaceName layout reached
  rw [unloaded]
  refine ⟨?_, ?_, ?_, ?_⟩
  · exact objectives_load_congr namespaceName layout (leaves.objectives_unload free)
  · rw [bearing_load, bearing_load, bearing_unload, free.entities]
  · apply storage_load_congr
    intro name path foreign
    rw [runAll_unload]
    exact leaves.storage name path foreign
  · intro place entity behind before found
    have inside : place <
        (Command.runAll (unloadCommands namespaceName) reached).entities.length := by
      rw [runAll_unload, List.length_map]
      exact before
    rw [entities_load, List.getElem?_append_left inside] at found
    exact leaves.dead_of_unload (List.getElem?_eq_none behind) found

end Reload

/-- A market with a reload, a purchase, and a tick behind an unload in its history. -/
theorem market_is_restored_by_reload :
    let namespaceName : Namespace := ⟨"bw", by decide, List.all_eq_true.mp (by decide)⟩
    let start : Host := { objectives := fun _ => none, entities := [], storage := fun _ _ => none }
    let history : List Happening := [.script .load, .script .tick, .reload, .purchase "player" 3,
      .script .load, .script .unload, .script .tick]
    let reached := runHistory namespaceName marketLayout history start
    let reloaded := reload namespaceName marketLayout reached
    let loaded := Command.runAll ((scripts namespaceName marketLayout).instructions .load) start
    IsFree namespaceName start ∧ reached.entities.length = 36 ∧
      reloaded.objectives = loaded.objectives ∧
      reloaded.bearing "bw" = loaded.bearing "bw" ∧ (loaded.bearing "bw").length = 12 ∧
      reloaded.storage = loaded.storage := by
  intro namespaceName start history
  have free : IsFree namespaceName start := ⟨fun _ _ => rfl, rfl⟩
  have named : ∀ offer ∈ marketLayout.offers, IsItemName offer.itemId := by
    have bread : IsItemName bread.id := ⟨by decide, by decide, by decide⟩
    have torch : IsItemName torch.id := ⟨by decide, by decide, by decide⟩
    intro offer sold
    simp only [marketLayout, List.mem_cons, List.not_mem_nil, or_false] at sold
    rcases sold with rfl | rfl | rfl | rfl <;> assumption
  have clean : ∀ offer ∈ marketLayout.offers, IsLine offer.itemId :=
    fun offer sold => (named offer sold).line
  obtain ⟨objectives, entities, storage, -⟩ :=
    reload_restores_first_load namespaceName marketLayout clean free history
  refine ⟨free, ?_, objectives, entities, ?_, storage⟩
  · simp only [runHistory, history, List.foldl_cons, List.foldl_nil, Happening.run,
      reload_eq, instructions_eq_commands named]
    decide +kernel
  · rw [instructions_load, bearing_load]
    rfl

/-- With a line feed in the id of an item, a tick summons whom no reload removes. -/
theorem smuggled_pig_outlives_reload :
    let namespaceName : Namespace := ⟨"bw", by decide, List.all_eq_true.mp (by decide)⟩
    let start : Host := { objectives := fun _ => none, entities := [], storage := fun _ _ => none }
    let line := "summon pig 0 0 0 \x7bTags:[\"other\"]\x7d"
    let layout := smugglersLayout line
    let ticked := Command.runAll ((scripts namespaceName layout).instructions .tick) start
    resolve (smugglers line) = .ok layout ∧ IsFree namespaceName start ∧
      ∃ entity ∈ (reload namespaceName layout ticked).entities,
        entity.kind = "pig" ∧ entity.alive = true := by
  intro namespaceName start line layout
  let pig : Command :=
    .summon "pig" ⟨.zero, .zero, .zero⟩ (.compound [("Tags", .tags ["other"])])
  have written : line = pig.text := by decide +kernel
  have single : IsLine pig.text := by
    rw [← written]
    decide
  have ticked := @runAll_smugglers namespaceName pig (by decide : IsWord "pig") single start
  rw [← written] at ticked
  refine ⟨resolve_smugglers line, ⟨fun _ _ => rfl, rfl⟩, ?_⟩
  rw [reload_eq, ticked]
  decide +kernel

/-- A second load changes neither objectives nor scores nor stores, and all entities of the first
one are joined by as many new ones; so it changes nothing only where no shop has a shopkeeper. -/
theorem second_load_doubles_shopkeepers (namespaceName : Namespace) {config : Config}
    {layout : Layout} (resolved : resolve config = .ok layout) (host : Host) :
    let load := (scripts namespaceName layout).instructions .load
    let once := Command.runAll load host
    let twice := Command.runAll load once
    twice.objectives = once.objectives ∧ twice.storage = once.storage ∧
      twice.bearing namespaceName.text = once.bearing namespaceName.text ++
        layout.shopkeepers.flatMap (arrivals namespaceName layout) ∧
      ((twice.bearing namespaceName.text).Perm (once.bearing namespaceName.text) ↔
        ∀ shop ∈ config.shops, shop.shopkeepers = []) := by
  rw [instructions_load]
  intro load once twice
  have bearing : twice.bearing namespaceName.text = once.bearing namespaceName.text ++
      layout.shopkeepers.flatMap (arrivals namespaceName layout) :=
    bearing_load namespaceName layout once
  refine ⟨objectives_load_again namespaceName layout host, ?_, bearing, ?_⟩
  · exact storage_load_congr namespaceName layout (leaves_load namespaceName layout host).storage
  · obtain ⟨-, -, keepers, -⟩ := resolve_eq_ok resolved
    have listed : layout.shopkeepers = [] ↔ ∀ shop ∈ config.shops, shop.shopkeepers = [] := by
      rw [← List.length_eq_zero_iff, keepers, length_placeShopkeepers, List.length_eq_zero_iff,
        List.flatMap_eq_nil_iff]
    rw [bearing, ← listed]
    constructor
    · intro same
      have lengths := same.length_eq
      rw [List.length_append, Nat.add_eq_left, List.length_eq_zero_iff,
        List.flatMap_eq_nil_iff] at lengths
      apply List.eq_nil_iff_forall_not_mem.mpr
      intro keeper placed
      obtain ⟨shopkeeper, display, marker, arrived, -⟩ := arrivals_eq namespaceName layout keeper
      rw [lengths keeper placed] at arrived
      exact List.cons_ne_nil _ _ arrived.symm
    · intro none
      rw [none, List.flatMap_nil, List.append_nil]

theorem market_is_not_loaded_twice_alike :
    let namespaceName : Namespace := ⟨"bw", by decide, List.all_eq_true.mp (by decide)⟩
    let host : Host := { objectives := fun _ => none, entities := [], storage := fun _ _ => none }
    let load := (scripts namespaceName marketLayout).instructions .load
    let once := Command.runAll load host
    let twice := Command.runAll load once
    resolve market = .ok marketLayout ∧ ¬(twice.bearing "bw").Perm (once.bearing "bw") := by
  intro namespaceName host load once twice
  have resolved : resolve market = .ok marketLayout := rfl
  refine ⟨resolved, ?_⟩
  intro same
  have silent := (second_load_doubles_shopkeepers namespaceName resolved host).2.2.2.mp same
  exact List.cons_ne_nil _ _ (silent _ (.head _))

end Economy

end Datapack
