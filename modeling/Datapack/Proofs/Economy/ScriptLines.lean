import Datapack.Plugin.Basic
import Datapack.Proofs.Economy.Instructions
import Datapack.Proofs.Economy.Resolution
import Datapack.Proofs.Text.Lines

/-!
One instruction to a line. Of the texts of a configuration only the items of offers are written into
the tick script as they are: a line feed in one of them starts a line that is no instruction of the
economy. Everything else is escaped or derived from the namespace.
-/

namespace Datapack

namespace Economy

@[simp]
theorem Id.isLine_text (id : Id) : IsLine id.text :=
  isLine_toString id.toNat

section Names

variable (namespaceName : Namespace)

@[simp]
theorem isLine_generatorsObjective : IsLine (generatorsObjective namespaceName) :=
  (namespaceName.isLine_prefixed).mpr (by decide)

@[simp]
theorem isLine_currencyObjective : IsLine (currencyObjective namespaceName) :=
  (namespaceName.isLine_prefixed).mpr (by decide)

@[simp]
theorem isLine_shopkeeperTag : IsLine (shopkeeperTag namespaceName) :=
  (namespaceName.isLine_prefixed).mpr (by decide)

@[simp]
theorem isLine_containerTag (keeper : Id) : IsLine (containerTag namespaceName keeper) :=
  (namespaceName.isLine_prefixed).mpr (isLine_append.mpr ⟨by decide, keeper.isLine_text⟩)

@[simp]
theorem isLine_shopStorage : IsLine (shopStorage namespaceName) :=
  (namespaceName.isLine_resource).mpr (by decide)

end Names

variable {namespaceName : Namespace} {layout : Layout}

theorem isLine_of_mem_loadCommands {line : Command}
    (member : line ∈ loadCommands namespaceName layout) : IsLine line.text := by
  have villager : IsLine "villager" := by decide
  have display : IsLine "item_display" := by decide
  rw [Command.isLine_text_iff]
  rcases mem_loadCommands.mp member with rfl | rfl | ⟨generator, -, rfl⟩ |
    ⟨keeper, -, rfl | rfl⟩ | ⟨shop, -, rfl⟩
  · simp [Command.plainTexts]
  · simp [Command.plainTexts]
  · simp [Command.plainTexts, generatorHolder]
  · simpa [Command.plainTexts, summonShopkeeper] using villager
  · simpa [Command.plainTexts, summonContainer] using display
  · simp [Command.plainTexts, shopStoragePath]

theorem isLine_of_mem_unloadCommands {line : Command}
    (member : line ∈ unloadCommands namespaceName) : IsLine line.text := by
  rw [Command.isLine_text_iff]
  rcases mem_unloadCommands.mp member with rfl | rfl | rfl <;>
    simp [Command.plainTexts, Selector.plainTexts]

theorem isLine_of_mem_generatorCommands {generator : PlacedGenerator} {line : Command}
    (member : line ∈ generatorCommands namespaceName generator) : IsLine line.text := by
  have item : IsLine "item" := by decide
  rw [Command.isLine_text_iff]
  simp only [generatorCommands, List.mem_cons, List.not_mem_nil, or_false] at member
  rcases member with rfl | rfl | rfl <;>
    simp [Command.plainTexts, Clause.plainTexts, generatorHolder, item]

theorem isLine_of_mem_headings {heading : String} (listed : heading ∈ headings) :
    IsLine (Command.text (.comment heading)) := by
  rw [Command.isLine_text_iff]
  simp only [Command.plainTexts, List.mem_singleton, forall_eq]
  exact (show ∀ heading ∈ headings, IsLine heading by decide) heading listed

theorem isLine_turnShopkeepers : IsLine (turnShopkeepers namespaceName).text := by
  rw [Command.isLine_text_iff]
  simp [turnShopkeepers, Command.plainTexts, Clause.plainTexts, Selector.plainTexts]

theorem isLine_refillCommand (keeper : PlacedShopkeeper) :
    IsLine (refillCommand namespaceName keeper).text := by
  rw [Command.isLine_text_iff]
  simp [refillCommand, shopStoragePath, Command.plainTexts, Clause.plainTexts, Selector.plainTexts]

theorem isLine_cleanupCommand : IsLine (cleanupCommand namespaceName).text := by
  rw [Command.isLine_text_iff]
  simp [cleanupCommand, anyStock, Command.plainTexts, Clause.plainTexts, Selector.plainTexts,
    StackTest.plainTexts]

variable (namespaceName) in
/-- A purchase is written on one line exactly if its item is. -/
theorem isLine_purchaseCommands_iff {offer : Offer} :
    (∀ line ∈ purchaseCommands namespaceName offer, IsLine line.text) ↔ IsLine offer.itemId := by
  have function : IsLine purchaseFunctionName := by decide
  simp only [Command.isLine_text_iff]
  simp [purchaseCommands, purchaseCall, Command.plainTexts, Clause.plainTexts, Selector.plainTexts,
    StackTest.plainTexts, Offer.stockTest, function]

variable (namespaceName) in
theorem isLine_tickCommands_iff :
    (∀ line ∈ tickCommands namespaceName layout, IsLine line.text) ↔
      ∀ offer ∈ layout.offers, IsLine offer.itemId := by
  constructor
  · intro single offer listed
    apply (isLine_purchaseCommands_iff namespaceName).mp
    intro line member
    apply single line
    exact mem_tickCommands.mpr (.inr (.inr (.inr (.inr (.inl ⟨offer, listed, member⟩)))))
  · intro single line member
    rcases mem_tickCommands.mp member with ⟨heading, listed, rfl⟩ | ⟨generator, -, member⟩ | rfl |
      ⟨keeper, -, rfl⟩ | ⟨offer, listed, member⟩ | rfl
    · exact isLine_of_mem_headings listed
    · exact isLine_of_mem_generatorCommands member
    · exact isLine_turnShopkeepers
    · exact isLine_refillCommand keeper
    · exact (isLine_purchaseCommands_iff namespaceName).mpr (single offer listed) line member
    · exact isLine_cleanupCommand

theorem forall_offers_iff {config : Config} (resolved : resolve config = .ok layout)
    (allowed : String → Prop) :
    (∀ offer ∈ layout.offers, allowed offer.itemId) ↔
      ∀ shop ∈ config.shops, ∀ item ∈ shop.items, allowed item.id := by
  obtain ⟨-, -, -, offers⟩ := resolve_eq_ok resolved
  rw [offers]
  simp only [List.forall_mem_flatMap, List.forall_mem_map, ShopItem.offer]
  exact forall_mem_zipIdx fun shop : Shop => ∀ item ∈ shop.items, allowed item.id

end Economy

theorem EconomyPlugin.configure_eq_ok {plugin configured : EconomyPlugin} {config : Economy.Config}
    (accepted : plugin.configure config = .ok configured) :
    ∃ layout, Economy.resolve config = .ok layout ∧
      configured = { plugin with layout? := some layout } := by
  unfold EconomyPlugin.configure at accepted
  split at accepted
  · cases accepted
  · obtain ⟨layout, resolved, made⟩ := bind_eq_ok_iff.mp accepted
    exact ⟨layout, resolved, (Except.ok.inj made).symm⟩

/-- The tick script of an accepted configuration splits into its lines, whatever the configured
texts are, exactly if no item of a shop has a line feed in its id. -/
theorem linesOf_tick_script_iff {plugin configured : EconomyPlugin} {config : Economy.Config}
    (accepted : plugin.configure config = .ok configured) :
    linesOf (Scripts.render configured.scripts .tick) = configured.scripts .tick ↔
      ∀ shop ∈ config.shops, ∀ item ∈ shop.items, IsLine item.id := by
  obtain ⟨layout, resolved, rfl⟩ := EconomyPlugin.configure_eq_ok accepted
  rw [← Economy.forall_offers_iff resolved,
    ← Economy.isLine_tickCommands_iff plugin.namespaceName]
  have nonempty : (Economy.tickCommands plugin.namespaceName layout).map Command.text ≠ [] := by
    simp [Economy.tickCommands]
  exact (linesOf_intercalate_iff nonempty).trans List.forall_mem_map

/-- An item with an instruction in its id, and behind it the start of a comment. -/
def smuggledItem : Economy.ShopItem where
  id := "stick\nop @a\n#"
  count := 1
  name := "Stick"
  slot := 0
  price := { id := "emerald", count := 2 }

theorem smuggled_instruction_splits_its_line :
    let plugin : EconomyPlugin :=
      { namespaceName := ⟨"bw", by decide, List.all_eq_true.mp (by decide)⟩ }
    let config : Economy.Config := { shops := [{ items := [smuggledItem] }] }
    ∃ configured, plugin.configure config = .ok configured ∧
      linesOf (Scripts.render configured.scripts .tick) ≠ configured.scripts .tick := by
  intro plugin config
  let layout : Economy.Layout :=
    { shops := Economy.placeShops config.shops
      offers := [smuggledItem.offer [] 0] }
  have accepted : plugin.configure config = .ok { plugin with layout? := some layout } := rfl
  refine ⟨_, accepted, ?_⟩
  intro same
  have clean := (linesOf_tick_script_iff accepted).mp same
  exact absurd (clean _ List.mem_cons_self _ List.mem_cons_self) (by decide)

end Datapack
