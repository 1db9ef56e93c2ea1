import Datapack.Economy.Scripts
import Datapack.Proofs.Host.Sections

/-!
Which instructions the scripts of an economy are made of, and in which sections the tick script
keeps them.
-/

namespace Datapack.Economy

variable {namespaceName : Namespace} {layout : Layout} {line : Command}

theorem mem_loadCommands :
    line ∈ loadCommands namespaceName layout ↔
      line = .addObjective (generatorsObjective namespaceName) ∨
      line = .addObjective (currencyObjective namespaceName) ∨
      (∃ generator ∈ layout.generators, line =
        .setScore (generatorHolder generator.id) (generatorsObjective namespaceName) 0) ∨
      (∃ keeper ∈ layout.shopkeepers, line = summonShopkeeper namespaceName keeper ∨
        line = summonContainer namespaceName keeper (layout.shownName keeper.shop)) ∨
      ∃ shop ∈ layout.shops, line = .store (shopStorage namespaceName) (shopStoragePath shop.id)
        (shopContents namespaceName layout shop.id) := by
  simp only [loadCommands, List.mem_append, List.mem_cons, List.not_mem_nil, or_false,
    List.mem_map, List.mem_flatMap, or_assoc, eq_comm (a := line)]

theorem mem_unloadCommands :
    line ∈ unloadCommands namespaceName ↔
      line = .removeObjective (generatorsObjective namespaceName) ∨
      line = .removeObjective (currencyObjective namespaceName) ∨
      line = .kill (.tagged namespaceName.text) := by
  simp only [unloadCommands, List.mem_cons, List.not_mem_nil, or_false]

def headings : List String :=
  ["Generators", "Shopkeepers", "Shops", "Purchases", "Cleanup"]

theorem mem_tickCommands :
    line ∈ tickCommands namespaceName layout ↔
      (∃ heading ∈ headings, line = .comment heading) ∨
      (∃ generator ∈ layout.generators, line ∈ generatorCommands namespaceName generator) ∨
      line = turnShopkeepers namespaceName ∨
      (∃ keeper ∈ layout.shopkeepers, line = refillCommand namespaceName keeper) ∨
      (∃ offer ∈ layout.offers, line ∈ purchaseCommands namespaceName offer) ∨
      line = cleanupCommand namespaceName := by
  simp only [tickCommands, headings, List.cons_append, List.append_assoc, List.nil_append,
    List.mem_cons, List.mem_append, List.not_mem_nil, or_false, List.mem_map, List.mem_flatMap,
    eq_comm (a := line), exists_eq_or_imp, exists_eq_left]
  grind

/-- The sections of the tick script that have nothing to do with players. -/
def workSections (namespaceName : Namespace) (layout : Layout) : List (String × List Command) :=
  [("Generators", layout.generators.flatMap (generatorCommands namespaceName)),
    ("Shopkeepers", [turnShopkeepers namespaceName]),
    ("Shops", layout.shopkeepers.map (refillCommand namespaceName))]

def tickSections (namespaceName : Namespace) (layout : Layout) : List (String × List Command) :=
  workSections namespaceName layout ++
    [("Purchases", layout.offers.flatMap (purchaseCommands namespaceName)),
      ("Cleanup", [cleanupCommand namespaceName])]

theorem mem_headed_workSections :
    line ∈ Command.headed (workSections namespaceName layout) ↔
      (∃ heading ∈ ["Generators", "Shopkeepers", "Shops"], line = .comment heading) ∨
      (∃ generator ∈ layout.generators, line ∈ generatorCommands namespaceName generator) ∨
      line = turnShopkeepers namespaceName ∨
      ∃ keeper ∈ layout.shopkeepers, line = refillCommand namespaceName keeper := by
  simp only [Command.headed, workSections, List.flatMap_cons, List.flatMap_nil, List.append_nil,
    List.cons_append, List.nil_append, List.mem_cons, List.mem_append, List.not_mem_nil, or_false,
    List.mem_map, List.mem_flatMap, eq_comm (a := line), exists_eq_or_imp, exists_eq_left]
  grind

theorem tickCommands_eq (namespaceName : Namespace) (layout : Layout) :
    tickCommands namespaceName layout = Command.headed (tickSections namespaceName layout) := by
  simp [tickCommands, tickSections, workSections, Command.headed]

/-- Remarks are made for headings only. -/
theorem isRemark_of_mem_tickSections {part : String × List Command}
    (listed : part ∈ tickSections namespaceName layout) (member : line ∈ part.2) :
    line.isRemark = false := by
  simp only [tickSections, workSections, List.mem_append, List.mem_cons, List.not_mem_nil,
    or_false, or_assoc] at listed
  rcases listed with rfl | rfl | rfl | rfl | rfl
  · obtain ⟨generator, -, member⟩ := List.mem_flatMap.mp member
    simp only [generatorCommands, List.mem_cons, List.not_mem_nil, or_false] at member
    rcases member with rfl | rfl | rfl <;> rfl
  · rw [List.mem_singleton.mp member]
    rfl
  · obtain ⟨keeper, -, rfl⟩ := List.mem_map.mp member
    rfl
  · obtain ⟨offer, -, member⟩ := List.mem_flatMap.mp member
    obtain ⟨slots, -, rfl⟩ := List.mem_map.mp member
    rfl
  · rw [List.mem_singleton.mp member]
    rfl

theorem under_tickCommands {heading : String} {lines : List Command}
    (listed : (tickSections namespaceName layout).lookup heading = some lines) :
    Command.under heading (tickCommands namespaceName layout) = lines := by
  rw [tickCommands_eq, ← List.append_nil (Command.headed _)]
  exact Command.under_headed
    (fun _ part _ member => isRemark_of_mem_tickSections part member) nofun listed

end Datapack.Economy
