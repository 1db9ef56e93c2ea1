import Datapack.Proofs.Economy.Generators
import Datapack.Proofs.Economy.Ownership
import Datapack.Proofs.Economy.Shops

/-!
Packages side by side among the entities of one host. A package finds entities by tags, so it meets
the entities of another one exactly where they carry a tag that it looks for. This happens where the
namespace of one package is a tag that the other derives from its own, and nowhere else.
-/

namespace Datapack

def Selector.soughtTags : Selector → List String
  | .tagged tag => [tag]
  | .everyPlayer => []

def Clause.soughtTags : Clause → List String
  | .as selector => selector.soughtTags
  | _ => []

namespace Command

def soughtTags : Command → List String
  | .kill selector => selector.soughtTags
  | .execute clauses command => clauses.flatMap Clause.soughtTags ++ command.soughtTags
  | _ => []

/-- The places of the entities that an instruction kills, turns or refills. -/
def targets (host : Host) : Command → Option Nat → List Nat
  | .kill selector, _ => host.selected selector
  | .facePlayer, actor => actor.toList
  | .fillItems _ _, actor => actor.toList
  | .execute clauses command, actor =>
    (host.actors clauses actor).flatMap (command.targets host)
  | _, _ => []

/-- All that an instruction summons, riders included. -/
def offspring (host : Host) : Command → Option Nat → List Entity
  | .summon kind position data, _ => Entity.withRiders kind position data
  | .execute clauses command, actor =>
    (host.actors clauses actor).flatMap (command.offspring host)
  | _, _ => []

variable {command : Command}

theorem targets_of_isForPlayers (players : command.isForPlayers = true) (host : Host)
    (actor : Option Nat) : command.targets host actor = [] := by
  obtain ⟨clauses, inner, rfl⟩ := eq_execute_of_isForPlayers players
  rw [targets, Host.actors_everyPlayer, List.flatMap_nil]

theorem offspring_of_isForPlayers (players : command.isForPlayers = true) (host : Host)
    (actor : Option Nat) : command.offspring host actor = [] := by
  obtain ⟨clauses, inner, rfl⟩ := eq_execute_of_isForPlayers players
  rw [offspring, Host.actors_everyPlayer, List.flatMap_nil]

end Command

def Entity.Lacks (entity : Entity) (tags : List String) : Prop :=
  ∀ tag ∈ tags, tag ∉ entity.tags

namespace Entity.Lacks

variable {entity : Entity} {host : Host} {place : Nat}

theorem of_subset {tags others : List String} (lacks : entity.Lacks others)
    (fewer : tags ⊆ others) : entity.Lacks tags :=
  fun tag member => lacks tag (fewer member)

theorem not_mem_selected {selector : Selector} (lacks : entity.Lacks selector.soughtTags)
    (found : host.entities[place]? = some entity) : place ∉ host.selected selector := by
  cases selector with
  | tagged tag =>
    have missing : tag ∉ entity.tags := lacks tag (.head _)
    rw [Host.selected, Host.mem_carriers found, answersTo]
    simp [missing]
  | everyPlayer => exact List.not_mem_nil

theorem not_mem_advance {clause : Clause} (lacks : entity.Lacks clause.soughtTags)
    (found : host.entities[place]? = some entity) {actor : Option Nat}
    (another : actor ≠ some place) : some place ∉ host.advance actor clause := by
  rcases clause with selector | - | ⟨holder, objective, least⟩ | ⟨slots, test⟩
  · simpa [Host.advance] using lacks.not_mem_selected found
  · simpa [Host.advance] using another.symm
  · unfold Host.advance
    dsimp only
    split
    · simpa using another.symm
    · exact List.not_mem_nil
  · exact List.not_mem_nil

theorem not_mem_actors {clauses : List Clause}
    (lacks : entity.Lacks (clauses.flatMap Clause.soughtTags))
    (found : host.entities[place]? = some entity) {actor : Option Nat}
    (another : actor ≠ some place) : some place ∉ host.actors clauses actor := by
  have absent : ∀ reached ∈ [actor], reached ≠ some place := by simpa using another
  unfold Host.actors
  revert absent
  generalize [actor] = actors
  induction clauses generalizing actors with
  | nil =>
    intro absent handed
    exact absent _ handed rfl
  | cons clause clauses inductionHypothesis =>
    intro absent
    rw [List.flatMap_cons] at lacks
    have first := lacks.of_subset (List.subset_append_left _ _)
    apply inductionHypothesis (lacks.of_subset (List.subset_append_right _ _))
    intro reached handed
    obtain ⟨former, member, advanced⟩ := List.mem_flatMap.mp handed
    rintro rfl
    exact first.not_mem_advance found (absent former member) advanced

/-- An instruction leaves an entity as it is that carries none of the tags it looks for. -/
theorem getElem?_run {command : Command} (lacks : entity.Lacks command.soughtTags)
    (found : host.entities[place]? = some entity) {actor : Option Nat}
    (another : actor ≠ some place) :
    (command.run actor host).entities[place]? = some entity := by
  induction command generalizing actor host with
  | addObjective objective =>
    rw [Command.run, Host.entities_addObjective]
    exact found
  | removeObjective objective => exact found
  | setScore holder objective value =>
    rw [Command.run, Host.entities_setScore]
    exact found
  | addScore holder objective value =>
    rw [Command.run, Host.addScore, Host.entities_setScore]
    exact found
  | summon kind position data =>
    have inside := (List.getElem?_eq_some_iff.mp found).1
    exact (List.getElem?_append_left inside).trans found
  | store name path value => exact found
  | kill selector =>
    cases selector with
    | tagged tag =>
      have missing : tag ∉ entity.tags := lacks tag (.head _)
      rw [Command.run_kill, List.getElem?_map, found]
      simp [answersTo, missing]
    | everyPlayer => exact found
  | fillItems name path =>
    cases actor with
    | none => exact found
    | some actor =>
      have elsewhere : actor ≠ place := fun same => another (congrArg some same)
      simp only [Command.run]
      split
      · exact (List.getElem?_modify_ne _ _ elsewhere).trans found
      · exact found
  | execute clauses command inductionHypothesis =>
    have inner := lacks.of_subset (List.subset_append_right _ _)
    have outer := lacks.of_subset (List.subset_append_left _ _)
    have others : ∀ reached ∈ host.actors clauses actor, reached ≠ some place := by
      rintro reached handed rfl
      exact outer.not_mem_actors found another handed
    rw [Command.run]
    generalize host.actors clauses actor = actors at others
    induction actors generalizing host with
    | nil => exact found
    | cons first actors later =>
      apply later
      · exact inductionHypothesis inner found (others first (.head _))
      · intro reached member
        exact others reached (.tail _ member)
  | comment remark => exact found
  | facePlayer => exact found
  | clear test => exact found
  | call function arguments => exact found

theorem not_mem_targets {command : Command} (lacks : entity.Lacks command.soughtTags)
    (found : host.entities[place]? = some entity) {actor : Option Nat}
    (another : actor ≠ some place) : place ∉ command.targets host actor := by
  induction command generalizing actor with
  | kill selector => exact lacks.not_mem_selected found
  | facePlayer => simpa [Command.targets] using another
  | fillItems name path => simpa [Command.targets] using another
  | execute clauses command inductionHypothesis =>
    have inner := lacks.of_subset (List.subset_append_right _ _)
    have outer := lacks.of_subset (List.subset_append_left _ _)
    intro targeted
    obtain ⟨reached, handed, targeted⟩ := List.mem_flatMap.mp targeted
    apply inductionHypothesis inner _ targeted
    rintro rfl
    exact outer.not_mem_actors found another handed
  | addObjective objective => exact List.not_mem_nil
  | removeObjective objective => exact List.not_mem_nil
  | setScore holder objective value => exact List.not_mem_nil
  | addScore holder objective value => exact List.not_mem_nil
  | summon kind position data => exact List.not_mem_nil
  | store name path value => exact List.not_mem_nil
  | comment remark => exact List.not_mem_nil
  | clear test => exact List.not_mem_nil
  | call function arguments => exact List.not_mem_nil

theorem runAll {lines : List Command}
    (lacks : ∀ line ∈ lines, entity.Lacks line.soughtTags ∨ line.isForPlayers = true)
    (found : host.entities[place]? = some entity) :
    (Command.runAll lines host).entities[place]? = some entity ∧
      ∀ moment ∈ Command.moments lines host, place ∉ moment.2.targets moment.1 none := by
  have nobody : none ≠ some place := nofun
  have kept : ∀ line ∈ lines, ∀ reached : Host, reached.entities[place]? = some entity →
      (line.run none reached).entities[place]? = some entity := by
    intro line member reached found
    rcases lacks line member with lacks | players
    · exact lacks.getElem?_run found nobody
    · rwa [Command.run_of_isForPlayers players]
  constructor
  · exact Command.runAll_preserves
      (fun reached => reached.entities[place]? = some entity) kept found
  · intro moment member
    have stands := Command.moments_preserve
      (fun reached => reached.entities[place]? = some entity) kept found member
    rcases lacks moment.2 (Command.mem_of_mem_moments member) with lacks | players
    · exact lacks.not_mem_targets stands nobody
    · rw [Command.targets_of_isForPlayers players]
      exact List.not_mem_nil

end Entity.Lacks

namespace Economy

section Names

variable (namespaceName : Namespace) (layout : Layout)

/-- The tags by which a package finds its entities. -/
def IsSought (tag : String) : Prop :=
  tag = namespaceName.text ∨ tag = shopkeeperTag namespaceName ∨
    ∃ keeper : Id, tag = containerTag namespaceName keeper

/-- The entities that a package's rendered scripts summon at some moment of some run. -/
def family : Set Entity :=
  {entity | ∃ event ∈ [Event.load, .tick], ∃ host,
    ∃ moment ∈ Command.moments ((scripts namespaceName layout).instructions event) host,
      entity ∈ moment.2.offspring moment.1 none}

variable {namespaceName layout}

theorem isSought_of_mem_soughtTags {event : Event} {line : Command}
    (member : line ∈ commands namespaceName layout event) {tag : String}
    (sought : tag ∈ line.soughtTags) : IsSought namespaceName tag := by
  cases event with
  | load =>
    rcases mem_loadCommands.mp member with rfl | rfl | ⟨generator, -, rfl⟩ |
      ⟨keeper, -, rfl | rfl⟩ | ⟨shop, -, rfl⟩
    all_goals cases sought
  | unload =>
    rcases mem_unloadCommands.mp member with rfl | rfl | rfl
    · cases sought
    · cases sought
    · exact .inl (List.mem_singleton.mp sought)
  | tick =>
    rcases mem_tickCommands.mp member with ⟨heading, -, rfl⟩ | ⟨generator, -, own⟩ | rfl |
      ⟨keeper, -, rfl⟩ | ⟨offer, -, checks⟩ | rfl
    · cases sought
    · rw [generatorCommands_eq] at own
      simp only [List.mem_cons, List.not_mem_nil, or_false] at own
      rcases own with rfl | rfl | rfl
      all_goals cases sought
    · exact .inr (.inl (List.mem_singleton.mp sought))
    · exact .inr (.inr ⟨keeper.id, List.mem_singleton.mp sought⟩)
    · obtain ⟨slots, -, rfl⟩ := List.mem_map.mp checks
      cases sought
    · cases sought

theorem exists_arrivals_of_mem_load {line : Command}
    (member : line ∈ loadCommands namespaceName layout) {host : Host} {entity : Entity}
    (summoned : entity ∈ line.offspring host none) :
    ∃ keeper ∈ layout.shopkeepers, entity ∈ arrivals namespaceName layout keeper := by
  rcases mem_loadCommands.mp member with rfl | rfl | ⟨generator, -, rfl⟩ |
    ⟨keeper, placed, rfl | rfl⟩ | ⟨shop, -, rfl⟩
  · cases summoned
  · cases summoned
  · cases summoned
  · exact ⟨keeper, placed, List.mem_append_left _ summoned⟩
  · exact ⟨keeper, placed, List.mem_append_right _ summoned⟩
  · cases summoned

theorem exists_dropped_of_mem_tick {line : Command}
    (member : line ∈ tickCommands namespaceName layout) {host : Host} {entity : Entity}
    (summoned : entity ∈ line.offspring host none) :
    ∃ generator ∈ layout.generators,
      entity = droppedItem namespaceName generator.item generator.position := by
  rcases mem_tickCommands.mp member with ⟨heading, -, rfl⟩ | ⟨generator, placed, own⟩ | rfl |
    ⟨keeper, -, rfl⟩ | ⟨offer, -, checks⟩ | rfl
  · cases summoned
  · rw [generatorCommands_eq] at own
    simp only [List.mem_cons, List.not_mem_nil, or_false] at own
    rcases own with rfl | rfl | rfl
    · cases summoned
    · obtain ⟨reached, -, dropped⟩ := List.mem_flatMap.mp summoned
      exact ⟨generator, placed, List.mem_singleton.mp dropped⟩
    · obtain ⟨reached, -, ⟨⟩⟩ := List.mem_flatMap.mp summoned
  · obtain ⟨reached, -, ⟨⟩⟩ := List.mem_flatMap.mp summoned
  · obtain ⟨reached, -, ⟨⟩⟩ := List.mem_flatMap.mp summoned
  · obtain ⟨slots, -, rfl⟩ := List.mem_map.mp checks
    cases summoned
  · cases summoned

theorem tagged_arrivals_iff {keeper : PlacedShopkeeper} {tag : String} :
    (∃ entity ∈ arrivals namespaceName layout keeper, tag ∈ entity.tags) ↔
      tag = namespaceName.text ∨ tag = shopkeeperTag namespaceName ∨ tag = shopTag namespaceName ∨
        tag = containerTag namespaceName keeper.id := by
  obtain ⟨shopkeeper, display, marker, listed, tags, displayTags, containerTags, markerTags, -⟩ :=
    arrivals_eq namespaceName layout keeper
  simp only [listed, List.mem_cons, List.not_mem_nil, or_false, exists_eq_or_imp, exists_eq_left,
    tags, displayTags, containerTags, markerTags]
  grind

theorem mem_tags_droppedItem {item : String} {position : Position} {tag : String} :
    tag ∈ (droppedItem namespaceName item position).tags ↔ tag = namespaceName.text := by
  have tags : (droppedItem namespaceName item position).tags = [namespaceName.text] :=
    Entity.tags_eq_of_entry rfl
  rw [tags, List.mem_singleton]

theorem arrives_or_dropped_of_mem_family
    (clean : ∀ offer ∈ layout.offers, IsLine offer.itemId) {entity : Entity}
    (member : entity ∈ family namespaceName layout) :
    (∃ keeper ∈ layout.shopkeepers, entity ∈ arrivals namespaceName layout keeper) ∨
      ∃ generator ∈ layout.generators,
        entity = droppedItem namespaceName generator.item generator.position := by
  obtain ⟨event, listed, host, moment, scripted, summoned⟩ := member
  rcases mem_commands_of_mem_instructions clean (Command.mem_of_mem_moments scripted) with
    written | players
  · simp only [List.mem_cons, List.not_mem_nil, or_false] at listed
    rcases listed with rfl | rfl
    · exact .inl (exists_arrivals_of_mem_load written summoned)
    · exact .inr (exists_dropped_of_mem_tick written summoned)
  · rw [Command.offspring_of_isForPlayers players] at summoned
    cases summoned

theorem arrivals_subset_family {keeper : PlacedShopkeeper} (placed : keeper ∈ layout.shopkeepers)
    {entity : Entity} (arrived : entity ∈ arrivals namespaceName layout keeper) :
    entity ∈ family namespaceName layout := by
  let host : Host := { objectives := fun _ => none, entities := [], storage := fun _ _ => none }
  have summoned : ∃ line ∈ loadCommands namespaceName layout,
      ∀ host, entity ∈ line.offspring host none := by
    rcases List.mem_append.mp arrived with summoned | summoned
    · refine ⟨summonShopkeeper namespaceName keeper, ?_, fun _ => summoned⟩
      exact mem_loadCommands.mpr (.inr (.inr (.inr (.inl ⟨keeper, placed, .inl rfl⟩))))
    · refine ⟨summonContainer namespaceName keeper (layout.shownName keeper.shop), ?_,
        fun _ => summoned⟩
      exact mem_loadCommands.mpr (.inr (.inr (.inr (.inl ⟨keeper, placed, .inr rfl⟩))))
  obtain ⟨line, scripted, summoned⟩ := summoned
  obtain ⟨reached, moment⟩ := Command.exists_mem_moments scripted host
  refine ⟨.load, .head _, host, (reached, line), ?_, summoned reached⟩
  rwa [instructions_load]

theorem exists_dropped_mem_family (generators : layout.generators ≠ []) :
    ∃ item position, droppedItem namespaceName item position ∈ family namespaceName layout := by
  obtain ⟨generator, others, first⟩ := List.exists_cons_of_ne_nil generators
  let host : Host :=
    { objectives := fun _ => some fun _ => some generator.threshold
      entities := []
      storage := fun _ _ => none }
  have script : ∃ rest, (scripts namespaceName layout).instructions .tick =
      .comment "Generators" :: countLine namespaceName generator ::
        dropLine namespaceName generator :: rest :=
    ⟨_, by rw [instructions_tick, workSections, first]; rfl⟩
  obtain ⟨rest, script⟩ := script
  let counted := host.addScore (generatorsObjective namespaceName) (generatorHolder generator.id) 1
  have full : counted.score? (generatorsObjective namespaceName) (generatorHolder generator.id) =
      some (generator.threshold + 1) := by
    simp [counted, Host.addScore, Host.score?, Host.setScore, host]
  refine ⟨generator.item, generator.position, .tick, .tail _ (.head _), host,
    (counted, dropLine namespaceName generator), ?_, ?_⟩
  · rw [script]
    exact .tail _ (.tail _ (.head _))
  · have passes : counted.actors [.scoreAtLeast (generatorHolder generator.id)
        (generatorsObjective namespaceName) generator.threshold] none = [none] := by
      simp [Host.actors, Host.advance, full]
    rw [dropLine, whenFull, Command.offspring, passes]
    exact .head _

theorem tagged_family_iff (clean : ∀ offer ∈ layout.offers, IsLine offer.itemId) {tag : String} :
    (∃ entity ∈ family namespaceName layout, tag ∈ entity.tags) ↔
      (tag = namespaceName.text ∧ (layout.shopkeepers ≠ [] ∨ layout.generators ≠ [])) ∨
      ∃ keeper ∈ layout.shopkeepers, tag = shopkeeperTag namespaceName ∨
        tag = shopTag namespaceName ∨ tag = containerTag namespaceName keeper.id := by
  constructor
  · rintro ⟨entity, member, carried⟩
    rcases arrives_or_dropped_of_mem_family clean member with
      ⟨keeper, placed, arrived⟩ | ⟨generator, placed, rfl⟩
    · rcases tagged_arrivals_iff.mp ⟨entity, arrived, carried⟩ with bare | derived
      · exact .inl ⟨bare, .inl (List.ne_nil_of_mem placed)⟩
      · exact .inr ⟨keeper, placed, derived⟩
    · exact .inl ⟨mem_tags_droppedItem.mp carried, .inr (List.ne_nil_of_mem placed)⟩
  · have company : ∀ keeper ∈ layout.shopkeepers, (tag = namespaceName.text ∨
        tag = shopkeeperTag namespaceName ∨ tag = shopTag namespaceName ∨
          tag = containerTag namespaceName keeper.id) →
        ∃ entity ∈ family namespaceName layout, tag ∈ entity.tags := by
      intro keeper placed carried
      obtain ⟨entity, arrived, carried⟩ := tagged_arrivals_iff.mpr carried
      exact ⟨entity, arrivals_subset_family placed arrived, carried⟩
    rintro (⟨bare, keepers | generators⟩ | ⟨keeper, placed, derived⟩)
    · obtain ⟨keeper, placed⟩ := List.exists_mem_of_ne_nil _ keepers
      exact company keeper placed (.inl bare)
    · obtain ⟨item, position, dropped⟩ := exists_dropped_mem_family generators
      exact ⟨_, dropped, mem_tags_droppedItem.mpr bare⟩
    · exact company keeper placed (.inr derived)

end Names

section Clashes

/-- How the names of two packages may clash: the namespace of one of them is a tag that the other
one derives from its own, and that an entity of the first package carries. -/
inductive Clash (own : Namespace) (layout : Layout) (other : Namespace) : Prop
  | shopkeepers (someone : layout.shopkeepers ≠ []) (same : other.text = shopkeeperTag own)
  | containers (someone : layout.shopkeepers ≠ []) (same : other.text = shopTag own)
  | container (keeper : PlacedShopkeeper) (placed : keeper ∈ layout.shopkeepers)
      (same : other.text = containerTag own keeper.id)
  | turning (something : layout.shopkeepers ≠ [] ∨ layout.generators ≠ [])
      (same : own.text = shopkeeperTag other)
  | filling (something : layout.shopkeepers ≠ [] ∨ layout.generators ≠ []) (keeper : Id)
      (same : own.text = containerTag other keeper)

variable {own other : Namespace} {layout : Layout}
  (clean : ∀ offer ∈ layout.offers, IsLine offer.itemId)

include clean

theorem Clash.of_tagged (different : own ≠ other) {tag : String}
    (tagged : ∃ entity ∈ family own layout, tag ∈ entity.tags) (sought : IsSought other tag) :
    Clash own layout other := by
  rcases (tagged_family_iff clean).mp tagged with ⟨rfl, something⟩ |
    ⟨keeper, placed, rfl | rfl | rfl⟩
  · rcases sought with same | same | ⟨keeper, same⟩
    · exact absurd ((text_inj own other).mp same) different
    · exact .turning something same
    · exact .filling something keeper same
  · rcases sought with same | same | ⟨another, same⟩
    · exact .shopkeepers (List.ne_nil_of_mem placed) same.symm
    · exact absurd ((prefixed_left_inj own other).mp same) different
    · exact absurd same.symm (containerTag_ne_shopkeeperTag other own another)
  · rcases sought with same | same | ⟨another, same⟩
    · exact .containers (List.ne_nil_of_mem placed) same.symm
    · exact absurd same (shopTag_ne_shopkeeperTag own other)
    · exact absurd same.symm (containerTag_ne_shopTag other own another)
  · rcases sought with same | same | ⟨another, same⟩
    · exact .container keeper placed same.symm
    · exact absurd same (containerTag_ne_shopkeeperTag own other keeper.id)
    · exact absurd (eq_of_containerTag_eq own other same) different

theorem Clash.exists_tagged (clash : Clash own layout other) :
    ∃ tag, IsSought other tag ∧ ∃ entity ∈ family own layout, tag ∈ entity.tags := by
  have tagged {tag : String} := @tagged_family_iff own layout clean tag
  cases clash with
  | shopkeepers someone same =>
    obtain ⟨keeper, placed⟩ := List.exists_mem_of_ne_nil _ someone
    exact ⟨other.text, .inl rfl, tagged.mpr (.inr ⟨keeper, placed, .inl same⟩)⟩
  | containers someone same =>
    obtain ⟨keeper, placed⟩ := List.exists_mem_of_ne_nil _ someone
    exact ⟨other.text, .inl rfl, tagged.mpr (.inr ⟨keeper, placed, .inr (.inl same)⟩)⟩
  | container keeper placed same =>
    exact ⟨other.text, .inl rfl, tagged.mpr (.inr ⟨keeper, placed, .inr (.inr same)⟩)⟩
  | turning something same =>
    exact ⟨own.text, .inr (.inl same), tagged.mpr (.inl ⟨rfl, something⟩)⟩
  | filling something keeper same =>
    exact ⟨own.text, .inr (.inr ⟨keeper, same⟩), tagged.mpr (.inl ⟨rfl, something⟩)⟩

end Clashes

/-- The entities of a package, riders included, carry a tag that another package looks for exactly
where the names of the two clash. Where they do not, no script of the other package kills, turns,
refills or changes in any way an entity with the tags of one that the first package summons. All
scripts are read from their rendered text; no item may have a line feed in its id. -/
theorem entities_of_packages_stay_apart_iff {own other : Namespace} (different : own ≠ other)
    {layout otherLayout : Layout} (clean : ∀ offer ∈ layout.offers, IsLine offer.itemId)
    (otherClean : ∀ offer ∈ otherLayout.offers, IsLine offer.itemId) :
    ((∀ entity ∈ family own layout, ∀ tag, IsSought other tag → tag ∉ entity.tags) ↔
        ¬Clash own layout other) ∧
      (¬Clash own layout other → ∀ (event : Event) (host : Host) (place : Nat) (entity : Entity),
        host.entities[place]? = some entity →
        (∃ member ∈ family own layout, entity.tags = member.tags) →
        let script := (scripts other otherLayout).instructions event
        (Command.runAll script host).entities[place]? = some entity ∧
          ∀ moment ∈ Command.moments script host, place ∉ moment.2.targets moment.1 none) := by
  constructor
  · constructor
    · intro apart clash
      obtain ⟨tag, sought, entity, member, carried⟩ := clash.exists_tagged clean
      exact apart entity member tag sought carried
    · intro peaceful entity member tag sought carried
      exact peaceful (.of_tagged clean different ⟨entity, member, carried⟩ sought)
  · rintro peaceful event host place entity found ⟨member, belongs, same⟩ script
    have lacks : ∀ line ∈ script, entity.Lacks line.soughtTags ∨ line.isForPlayers = true := by
      intro line scripted
      refine (mem_commands_of_mem_instructions otherClean scripted).imp_left ?_
      intro written tag sought carried
      rw [same] at carried
      exact peaceful (.of_tagged clean different ⟨member, belongs, carried⟩
        (isSought_of_mem_soughtTags written sought))
    exact Entity.Lacks.runAll lacks found

/-- The containers of `bw` carry the namespace of `bw_shop`, and die when it is unloaded. -/
theorem unloading_bw_shop_kills_containers_of_bw :
    let own : Namespace := ⟨"bw", by decide, List.all_eq_true.mp (by decide)⟩
    let other : Namespace := ⟨"bw_shop", by decide, List.all_eq_true.mp (by decide)⟩
    let host : Host := { objectives := fun _ => none, entities := [], storage := fun _ _ => none }
    let loaded := Command.runAll ((scripts own marketLayout).instructions .load) host
    let unloaded := Command.runAll ((scripts other marketLayout).instructions .unload) loaded
    own ≠ other ∧
      (∃ entity ∈ family own marketLayout, ∃ tag, IsSought other tag ∧ tag ∈ entity.tags) ∧
      (loaded.entities.filter Entity.alive).length = 12 ∧
      (unloaded.entities.filter Entity.alive).length = 9 := by
  intro own other host
  have different : own ≠ other := by decide
  have clean : ∀ offer ∈ marketLayout.offers, IsLine offer.itemId := by decide
  have clash : Clash own marketLayout other := .containers (by decide) rfl
  rw [instructions_load, instructions_unload]
  refine ⟨different, ?_, by decide +kernel, by decide +kernel⟩
  by_contra apart
  refine (entities_of_packages_stay_apart_iff different clean clean).1.mp ?_ clash
  intro entity member tag sought carried
  exact apart ⟨entity, member, tag, sought, carried⟩

/-- With a line feed in the id of an item, a tick of `zz` kills all that `aa` has summoned, though
the names of the two do not clash. -/
theorem smuggled_kill_reaches_neighbours :
    let own : Namespace := ⟨"aa", by decide, List.all_eq_true.mp (by decide)⟩
    let other : Namespace := ⟨"zz", by decide, List.all_eq_true.mp (by decide)⟩
    let host : Host := { objectives := fun _ => none, entities := [], storage := fun _ _ => none }
    let loaded := Command.runAll ((scripts own marketLayout).instructions .load) host
    let layout := smugglersLayout "kill @e[tag=aa]"
    let script := (scripts other layout).instructions .tick
    resolve (smugglers "kill @e[tag=aa]") = .ok layout ∧ ¬Clash own marketLayout other ∧
      (loaded.entities.filter Entity.alive).length = 12 ∧
      ((Command.runAll script loaded).entities.filter Entity.alive).length = 0 := by
  intro own other host
  have written : "kill @e[tag=aa]" = Command.text (.kill (.tagged "aa")) := rfl
  rw [instructions_load, written]
  refine ⟨resolve_smugglers _, ?_, by decide +kernel, ?_⟩
  · have apart : ∀ rest, other.text ≠ own.prefixed rest ∧ own.text ≠ other.prefixed rest := by
      intro rest
      constructor <;> intro same <;>
        simpa [Namespace.prefixed, own, other] using congrArg (fun text => text.toList.head?) same
    rintro (⟨-, same⟩ | ⟨-, same⟩ | ⟨keeper, -, same⟩ | ⟨-, same⟩ | ⟨-, keeper, same⟩)
    · exact (apart _).1 same
    · exact (apart _).1 same
    · exact (apart _).1 same
    · exact (apart _).2 same
    · exact (apart _).2 same
  · have readable : (Command.kill (.tagged "aa")).IsReadable := (by decide : IsBare "aa")
    rw [runAll_smugglers readable (by decide)]
    decide +kernel

end Economy

end Datapack
