import Datapack.Proofs.Economy.Loading
import Datapack.Proofs.Economy.Rendering

/-!
What belongs to a package: its two objectives, the stores of its shops, and the entities that carry
its namespace as a tag. No line of its scripts touches more of a host than that, except that it may
fill or kill entities that stood there before.
-/

namespace Datapack

namespace Economy

def ownObjectives (namespaceName : Namespace) : List String :=
  [generatorsObjective namespaceName, currencyObjective namespaceName]

/-- Where the contents of shops are stored, each place with its path. -/
def ownStores (namespaceName : Namespace) (layout : Layout) : List (String × String) :=
  layout.shops.map fun shop => (shopStorage namespaceName, shopStoragePath shop.id)

/-- That an instruction keeps to what belongs to a package. -/
def Belongs (namespaceName : Namespace) (layout : Layout) : Command → Prop
  | .addObjective objective => objective ∈ ownObjectives namespaceName
  | .removeObjective objective => objective ∈ ownObjectives namespaceName
  | .setScore _ objective _ => objective ∈ ownObjectives namespaceName
  | .addScore _ objective _ => objective ∈ ownObjectives namespaceName
  | .summon kind position data =>
    ∀ entity ∈ Entity.withRiders kind position data, namespaceName.text ∈ entity.tags
  | .store name path _ => (name, path) ∈ ownStores namespaceName layout
  | .execute _ command => Belongs namespaceName layout command
  | _ => True

/-- What a package leaves of a host. Entities keep their places and their tags, the dead stay dead,
and all that comes behind them carries the namespace as a tag. -/
structure Leaves (namespaceName : Namespace) (layout : Layout) (before after : Host) : Prop where
  objectives : ∀ objective, objective ∉ ownObjectives namespaceName →
    after.objectives objective = before.objectives objective
  storage : ∀ name path, (name, path) ∉ ownStores namespaceName layout →
    after.storage name path = before.storage name path
  earlier : ∀ (place : Nat) (entity : Entity), before.entities[place]? = some entity →
    ∃ later : Entity, after.entities[place]? = some later ∧ later.tags = entity.tags ∧
      (later.alive = true → entity.alive = true)
  newcomer : ∀ (place : Nat) (entity : Entity), before.entities[place]? = none →
    after.entities[place]? = some entity → namespaceName.text ∈ entity.tags

namespace Leaves

variable {namespaceName : Namespace} {layout : Layout} {first second third : Host}

theorem refl (host : Host) : Leaves namespaceName layout host host where
  objectives _ _ := rfl
  storage _ _ _ := rfl
  earlier _ entity found := ⟨entity, found, rfl, id⟩
  newcomer _ _ free found := by
    rw [free] at found
    contradiction

theorem trans (before : Leaves namespaceName layout first second)
    (after : Leaves namespaceName layout second third) :
    Leaves namespaceName layout first third where
  objectives objective other :=
    (after.objectives objective other).trans (before.objectives objective other)
  storage name path other := (after.storage name path other).trans (before.storage name path other)
  earlier place entity found := by
    obtain ⟨middle, stood, tags, alive⟩ := before.earlier place entity found
    obtain ⟨later, stands, same, living⟩ := after.earlier place middle stood
    exact ⟨later, stands, same.trans tags, alive ∘ living⟩
  newcomer place entity free found := by
    cases stood : second.entities[place]? with
    | none => exact after.newcomer place entity stood found
    | some middle =>
      obtain ⟨later, stands, same, -⟩ := after.earlier place middle stood
      obtain rfl := Option.some.inj (found.symm.trans stands)
      rw [same]
      exact before.newcomer place middle free stood

theorem of_entities (objectives : ∀ objective, objective ∉ ownObjectives namespaceName →
      second.objectives objective = first.objectives objective)
    (storage : ∀ name path, (name, path) ∉ ownStores namespaceName layout →
      second.storage name path = first.storage name path)
    (same : second.entities = first.entities) : Leaves namespaceName layout first second where
  objectives := objectives
  storage := storage
  earlier _ entity found := ⟨entity, by rw [same, found], rfl, id⟩
  newcomer _ _ free found := by
    rw [same, free] at found
    contradiction

theorem addObjective (host : Host) {objective : String}
    (own : objective ∈ ownObjectives namespaceName) :
    Leaves namespaceName layout host (host.addObjective objective) := by
  unfold Host.addObjective
  split
  · exact refl host
  · refine of_entities ?_ (fun _ _ _ => rfl) rfl
    intro other foreign
    exact Function.update_of_ne (by rintro rfl; exact foreign own) _ _

theorem removeObjective (host : Host) {objective : String}
    (own : objective ∈ ownObjectives namespaceName) :
    Leaves namespaceName layout host (host.removeObjective objective) := by
  refine of_entities ?_ (fun _ _ _ => rfl) rfl
  intro other foreign
  exact Function.update_of_ne (by rintro rfl; exact foreign own) _ _

theorem setScore (host : Host) {objective : String} (own : objective ∈ ownObjectives namespaceName)
    (holder : String) (value : Int) :
    Leaves namespaceName layout host (host.setScore objective holder value) := by
  unfold Host.setScore
  split
  · refine of_entities ?_ (fun _ _ _ => rfl) rfl
    intro other foreign
    exact Function.update_of_ne (by rintro rfl; exact foreign own) _ _
  · exact refl host

theorem store (host : Host) {name path : String}
    (own : (name, path) ∈ ownStores namespaceName layout) (value : Snbt) :
    Leaves namespaceName layout host (host.store name path value) := by
  refine of_entities (fun _ _ => rfl) ?_ rfl
  intro otherName otherPath foreign
  unfold Host.store
  by_cases same : otherName = name
  · subst same
    have different : otherPath ≠ path := by
      rintro rfl
      exact foreign own
    simp [different]
  · simp [same]

theorem summon (host : Host) {entities : List Entity}
    (tagged : ∀ entity ∈ entities, namespaceName.text ∈ entity.tags) :
    Leaves namespaceName layout host { host with entities := host.entities ++ entities } where
  objectives _ _ := rfl
  storage _ _ _ := rfl
  earlier place entity found := by
    have inside := (List.getElem?_eq_some_iff.mp found).1
    exact ⟨entity, by rw [List.getElem?_append_left inside, found], rfl, id⟩
  newcomer place entity free found := by
    rw [List.getElem?_append_right (List.getElem?_eq_none_iff.mp free)] at found
    exact tagged entity (List.mem_of_getElem? found)

theorem changeAt (host : Host) (place : Nat) {change : Entity → Entity}
    (tags : ∀ entity, (change entity).tags = entity.tags)
    (alive : ∀ entity, (change entity).alive = true → entity.alive = true) :
    Leaves namespaceName layout host (host.changeAt place change) where
  objectives _ _ := rfl
  storage _ _ _ := rfl
  earlier other entity found := by
    unfold Host.changeAt
    rw [List.getElem?_modify, found]
    by_cases here : place = other
    · exact ⟨change entity, by simp [here], tags entity, alive entity⟩
    · exact ⟨entity, by simp [here], rfl, id⟩
  newcomer other entity free found := by
    unfold Host.changeAt at found
    rw [List.getElem?_modify, free] at found
    contradiction

theorem foldl {Item : Type} {step : Host → Item → Host} (items : List Item)
    (each : ∀ host item, Leaves namespaceName layout host (step host item)) (host : Host) :
    Leaves namespaceName layout host (items.foldl step host) := by
  induction items generalizing host with
  | nil => exact refl host
  | cons item items inductionHypothesis => exact (each host item).trans (inductionHypothesis _)

end Leaves

section Lines

variable {namespaceName : Namespace} {layout : Layout}

/-- What an instruction does for a package that it belongs to, whoever carries it out. -/
theorem leaves_run {command : Command} (belongs : Belongs namespaceName layout command)
    (actor : Option Nat) (host : Host) :
    Leaves namespaceName layout host (command.run actor host) := by
  induction command generalizing actor host with
  | addObjective objective => exact .addObjective host belongs
  | removeObjective objective => exact .removeObjective host belongs
  | setScore holder objective value => exact .setScore host belongs holder value
  | addScore holder objective value => exact .setScore host belongs holder _
  | summon kind position data => exact .summon host belongs
  | store name path value => exact .store host belongs value
  | kill selector =>
    have dead : ∀ entity : Entity, entity.die.alive = true → entity.alive = true := by
      intro entity alive
      contradiction
    have tags : ∀ entity : Entity, entity.die.tags = entity.tags := fun _ => rfl
    exact .foldl _ (fun host place => .changeAt host place tags dead) host
  | fillItems name path =>
    cases actor with
    | none => exact .refl host
    | some place =>
      rw [Command.run]
      split
      · exact .changeAt host place (fun entity => entity.tags_fill _) fun _ => id
      · exact .refl host
  | execute clauses command inductionHypothesis =>
    exact .foldl _ (fun host actor => inductionHypothesis belongs actor host) host
  | comment remark => exact .refl host
  | facePlayer => exact .refl host
  | clear test => exact .refl host
  | call function arguments => exact .refl host

theorem leaves_runAll {lines : List Command}
    (belong : ∀ line ∈ lines, Belongs namespaceName layout line ∨ line.isForPlayers = true)
    (host : Host) : Leaves namespaceName layout host (Command.runAll lines host) := by
  apply Command.runAll_preserves (fun reached => Leaves namespaceName layout host reached)
  · intro line member reached leaves
    rcases belong line member with belongs | players
    · exact leaves.trans (leaves_run belongs none reached)
    · rwa [Command.run_of_isForPlayers players]
  · exact .refl host

theorem text_mem_tags_of_mem_arrivals {keeper : PlacedShopkeeper} {entity : Entity}
    (member : entity ∈ arrivals namespaceName layout keeper) :
    namespaceName.text ∈ entity.tags := by
  obtain ⟨shopkeeper, display, marker, listed, tags, displayTags, containerTags, markerTags, -⟩ :=
    arrivals_eq namespaceName layout keeper
  rw [listed] at member
  simp only [List.mem_cons, List.not_mem_nil, or_false] at member
  rcases member with rfl | rfl | rfl | rfl
  · simp [tags]
  · simp [displayTags]
  · simp [containerTags]
  · simp [markerTags]

theorem belongs_of_mem_loadCommands {line : Command}
    (member : line ∈ loadCommands namespaceName layout) : Belongs namespaceName layout line := by
  rcases mem_loadCommands.mp member with rfl | rfl | ⟨generator, -, rfl⟩ | ⟨keeper, -, rfl | rfl⟩ |
    ⟨shop, placed, rfl⟩
  · simp [Belongs, ownObjectives]
  · simp [Belongs, ownObjectives]
  · simp [Belongs, ownObjectives]
  · intro entity summoned
    have arrived : entity ∈ arrivals namespaceName layout keeper :=
      List.mem_append_left _ summoned
    exact text_mem_tags_of_mem_arrivals arrived
  · intro entity summoned
    have arrived : entity ∈ arrivals namespaceName layout keeper :=
      List.mem_append_right _ summoned
    exact text_mem_tags_of_mem_arrivals arrived
  · exact List.mem_map_of_mem placed

theorem belongs_of_mem_generatorCommands {generator : PlacedGenerator} {line : Command}
    (member : line ∈ generatorCommands namespaceName generator) :
    Belongs namespaceName layout line := by
  simp only [generatorCommands, List.mem_cons, List.not_mem_nil, or_false] at member
  rcases member with rfl | rfl | rfl
  · simp [Belongs, ownObjectives]
  · intro entity dropped
    obtain rfl := List.mem_singleton.mp dropped
    rw [Entity.tags_eq_of_entry rfl]
    exact .head _
  · simp [Belongs, ownObjectives]

/-- Every line of every script keeps to what belongs to the package. -/
theorem belongs_of_mem_commands {event : Event} {line : Command}
    (member : line ∈ commands namespaceName layout event) : Belongs namespaceName layout line := by
  cases event with
  | load => exact belongs_of_mem_loadCommands member
  | unload =>
    rcases mem_unloadCommands.mp member with rfl | rfl | rfl
    · simp [Belongs, ownObjectives]
    · simp [Belongs, ownObjectives]
    · trivial
  | tick =>
    rcases mem_tickCommands.mp member with ⟨heading, -, rfl⟩ | ⟨generator, -, own⟩ | rfl |
      ⟨keeper, -, rfl⟩ | ⟨offer, -, checks⟩ | rfl
    -- Only generators summon and count; the other lines touch no more than entities that are there.
    case inr.inl => exact belongs_of_mem_generatorCommands own
    case inr.inr.inr.inr.inl =>
      obtain ⟨slots, -, rfl⟩ := List.mem_map.mp checks
      trivial
    all_goals trivial

/-- Where no item has a line feed, a rendered script keeps to what belongs to the package. -/
theorem leaves_script (clean : ∀ offer ∈ layout.offers, IsLine offer.itemId) (event : Event)
    (host : Host) :
    Leaves namespaceName layout host
      (Command.runAll ((scripts namespaceName layout).instructions event) host) := by
  apply leaves_runAll
  intro line member
  exact (mem_commands_of_mem_instructions clean member).imp_left belongs_of_mem_commands

end Lines

end Economy

end Datapack
