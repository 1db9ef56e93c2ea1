import Datapack.Proofs.Economy.ScriptLines
import Datapack.Proofs.Host.Lemmas
import Datapack.Proofs.Host.Reader

/-!
What a host reads from the rendered scripts of an economy. Load and unload are read as the
instructions they were made of, and so is tick down to the purchases. There the items of offers are
written as they are; as long as they have no line feeds, all that a host can read from the lines of
purchases are instructions for players.
-/

namespace Datapack

@[simp]
theorem isBare_append {first second : String} :
    IsBare (first ++ second) ↔ IsBare first ∧ IsBare second := by
  simp only [IsBare, String.toList_append, List.forall_mem_append]

@[simp]
theorem isBare_toString (number : Nat) : IsBare (toString number) := by
  intro character member
  have digit := isDigit_of_mem_toString member
  simp [Snbt.isBareKeyCharacter, Char.isAlphanum, digit]

namespace Namespace

variable (namespaceName : Namespace)

theorem isBare_text : IsBare namespaceName.text := by
  intro character member
  have allowed := namespaceName.allowed character member
  simp only [isNamespaceCharacter, Bool.or_eq_true, Bool.and_eq_true, decide_eq_true_eq,
    beq_iff_eq] at allowed
  simp only [Snbt.isBareKeyCharacter, Char.isAlphanum, Char.isDigit]
  delta Char.isAlpha Char.isLower
  simp only [Bool.or_eq_true, Bool.and_eq_true, decide_eq_true_eq, beq_iff_eq]
  grind [Char.le_def]

theorem isBare_prefixed {suffix : String} (bare : IsBare suffix) :
    IsBare (namespaceName.prefixed suffix) :=
  isBare_append.mpr ⟨isBare_append.mpr ⟨namespaceName.isBare_text, by decide⟩, bare⟩

theorem isWord_resource {name : String} (word : IsWord name) :
    IsWord (namespaceName.resource name) := by
  rw [Namespace.resource, isWord_append, isWord_append]
  exact ⟨⟨namespaceName.isBare_text.isWord, by decide⟩, word⟩

end Namespace

namespace Economy

section Names

variable (namespaceName : Namespace)

theorem isBare_generatorsObjective : IsBare (generatorsObjective namespaceName) :=
  namespaceName.isBare_prefixed (by decide)

theorem isBare_currencyObjective : IsBare (currencyObjective namespaceName) :=
  namespaceName.isBare_prefixed (by decide)

theorem isBare_shopkeeperTag : IsBare (shopkeeperTag namespaceName) :=
  namespaceName.isBare_prefixed (by decide)

theorem isBare_containerTag (keeper : Id) : IsBare (containerTag namespaceName keeper) :=
  namespaceName.isBare_prefixed (isBare_append.mpr ⟨by decide, isBare_toString keeper.toNat⟩)

theorem isWord_shopStorage : IsWord (shopStorage namespaceName) :=
  namespaceName.isWord_resource (by decide)

theorem Id.isWord_text (id : Id) : IsWord id.text :=
  isWord_toString id.toNat

end Names

variable {namespaceName : Namespace} {layout : Layout} {line : Command}

theorem isReadable_of_mem_loadCommands (member : line ∈ loadCommands namespaceName layout) :
    line.IsReadable := by
  have generators := (isBare_generatorsObjective namespaceName).isWord
  have currency := (isBare_currencyObjective namespaceName).isWord
  rcases mem_loadCommands.mp member with rfl | rfl | ⟨generator, -, rfl⟩ | ⟨keeper, -, rfl | rfl⟩ |
    ⟨shop, -, rfl⟩
  · exact generators
  · exact currency
  · exact ⟨generator.id.isWord_text, generators⟩
  · exact (by decide : IsWord "villager")
  · exact (by decide : IsWord "item_display")
  · exact ⟨isWord_shopStorage namespaceName, shop.id.isWord_text⟩

theorem isReadable_of_mem_unloadCommands (member : line ∈ unloadCommands namespaceName) :
    line.IsReadable := by
  rcases mem_unloadCommands.mp member with rfl | rfl | rfl
  · exact (isBare_generatorsObjective namespaceName).isWord
  · exact (isBare_currencyObjective namespaceName).isWord
  · exact namespaceName.isBare_text

theorem isReadable_of_mem_generatorCommands {generator : PlacedGenerator}
    (member : line ∈ generatorCommands namespaceName generator) : line.IsReadable := by
  have holder : IsWord (generatorHolder generator.id) := generator.id.isWord_text
  have objective := (isBare_generatorsObjective namespaceName).isWord
  have ready : ∀ clause ∈ [Clause.scoreAtLeast (generatorHolder generator.id)
      (generatorsObjective namespaceName) generator.threshold], clause.IsReadable :=
    List.forall_mem_singleton.mpr ⟨holder, objective⟩
  simp only [generatorCommands, List.mem_cons, List.not_mem_nil, or_false] at member
  rcases member with rfl | rfl | rfl
  · exact ⟨holder, objective⟩
  · exact ⟨List.cons_ne_nil _ _, ready, rfl, (by decide : IsWord "item")⟩
  · exact ⟨List.cons_ne_nil _ _, ready, rfl, holder, objective⟩

theorem isReadable_turnShopkeepers : (turnShopkeepers namespaceName).IsReadable := by
  refine ⟨List.cons_ne_nil _ _, ?_, rfl, trivial⟩
  simpa [Clause.IsReadable, Selector.IsReadable] using isBare_shopkeeperTag namespaceName

theorem isReadable_refillCommand (keeper : PlacedShopkeeper) :
    (refillCommand namespaceName keeper).IsReadable := by
  refine ⟨List.cons_ne_nil _ _, ?_, rfl, isWord_shopStorage namespaceName, keeper.shop.isWord_text⟩
  simpa [Clause.IsReadable, Selector.IsReadable] using isBare_containerTag namespaceName keeper.id

theorem isReadable_cleanupCommand : (cleanupCommand namespaceName).IsReadable := by
  refine ⟨List.cons_ne_nil _ _, ?_, rfl, nofun⟩
  exact List.forall_mem_singleton.mpr trivial

section Scripts

variable (namespaceName layout)

@[simp]
theorem instructions_load :
    (scripts namespaceName layout).instructions .load = loadCommands namespaceName layout := by
  rw [Scripts.instructions_eq rfl (by simp [commands, loadCommands])]
  exact Command.flatMap_reread (fun _ => isReadable_of_mem_loadCommands)
    fun _ => isLine_of_mem_loadCommands

@[simp]
theorem instructions_unload :
    (scripts namespaceName layout).instructions .unload = unloadCommands namespaceName := by
  rw [Scripts.instructions_eq rfl (by simp [commands, unloadCommands])]
  exact Command.flatMap_reread (fun _ => isReadable_of_mem_unloadCommands)
    fun _ => isLine_of_mem_unloadCommands

theorem flatMap_reread_work :
    (Command.headed (workSections namespaceName layout)).flatMap Command.reread =
      Command.headed (workSections namespaceName layout) := by
  apply Command.flatMap_reread
  · intro line member
    rcases mem_headed_workSections.mp member with ⟨heading, -, rfl⟩ | ⟨generator, -, own⟩ | rfl |
      ⟨keeper, -, rfl⟩
    · trivial
    · exact isReadable_of_mem_generatorCommands own
    · exact isReadable_turnShopkeepers
    · exact isReadable_refillCommand keeper
  · intro line member
    rcases mem_headed_workSections.mp member with ⟨heading, listed, rfl⟩ | ⟨generator, -, own⟩ |
      rfl | ⟨keeper, -, rfl⟩
    · exact isLine_of_mem_headings
        ((by decide : ["Generators", "Shopkeepers", "Shops"] ⊆ headings) listed)
    · exact isLine_of_mem_generatorCommands own
    · exact isLine_turnShopkeepers
    · exact isLine_refillCommand keeper

/-- Apart from the purchases a host reads what was written. -/
theorem instructions_tick :
    (scripts namespaceName layout).instructions .tick =
      Command.headed (workSections namespaceName layout) ++ .comment "Purchases" ::
        ((layout.offers.flatMap (purchaseCommands namespaceName)).flatMap Command.reread ++
          [.comment "Cleanup", cleanupCommand namespaceName]) := by
  have purchases : Command.reread (.comment "Purchases") = [.comment "Purchases"] :=
    Command.reread_eq_self trivial (isLine_of_mem_headings (by decide))
  have cleanup : Command.reread (.comment "Cleanup") = [.comment "Cleanup"] :=
    Command.reread_eq_self trivial (isLine_of_mem_headings (by decide))
  have cleared : (cleanupCommand namespaceName).reread = [cleanupCommand namespaceName] :=
    Command.reread_eq_self isReadable_cleanupCommand isLine_cleanupCommand
  rw [Scripts.instructions_eq rfl (by simp [commands, tickCommands]), commands, tickCommands_eq,
    tickSections, Command.headed_append, List.flatMap_append, flatMap_reread_work]
  simp [Command.headed, purchases, cleanup, cleared]

variable {namespaceName layout}

/-- The sections before the purchases are found in the rendered script, whatever the items of
offers are. -/
theorem under_instructions_tick {heading : String} {lines : List Command}
    (listed : (workSections namespaceName layout).lookup heading = some lines) :
    Command.under heading ((scripts namespaceName layout).instructions .tick) = lines := by
  rw [instructions_tick]
  refine Command.under_headed ?_ ?_ listed
  · intro part member line
    exact isRemark_of_mem_tickSections (List.mem_append_left _ member)
  · rintro _ ⟨⟩
    rfl

/-- Where no item of an offer has a line feed, a host reads nothing but what the package wrote and
instructions for players. -/
theorem mem_commands_of_mem_instructions {event : Event}
    (clean : ∀ offer ∈ layout.offers, IsLine offer.itemId)
    (member : line ∈ (scripts namespaceName layout).instructions event) :
    line ∈ commands namespaceName layout event ∨ line.isForPlayers = true := by
  cases event with
  | load => exact .inl (by rwa [instructions_load] at member)
  | unload => exact .inl (by rwa [instructions_unload] at member)
  | tick =>
    rw [instructions_tick, List.mem_append, List.mem_cons, List.mem_append] at member
    rcases member with work | rfl | bought | cleared
    · left
      rw [commands, tickCommands_eq, tickSections, Command.headed_append]
      exact List.mem_append_left _ work
    · exact .inl (mem_tickCommands.mpr (.inl ⟨"Purchases", by decide, rfl⟩))
    · right
      obtain ⟨written, listed, read⟩ := List.mem_flatMap.mp bought
      obtain ⟨offer, sold, purchase⟩ := List.mem_flatMap.mp listed
      have single := (isLine_purchaseCommands_iff namespaceName).mpr (clean offer sold) _ purchase
      obtain ⟨slots, -, rfl⟩ := List.mem_map.mp purchase
      exact Command.isForPlayers_of_mem_reread rfl single read
    · left
      rw [commands, tickCommands]
      exact List.mem_append_right _ cleared

end Scripts

section Purchases

/-- The line that looks for a stack of stock in some slots of every player, and passes on an order
for it. -/
def checkLine (namespaceName : Namespace) (slots item : String) (count : Nat) (order : String) :
    String :=
  "execute as @a if items entity @s " ++ slots ++ " " ++ item ++ "[count=" ++ toString count ++
    ",custom_data=\x7b" ++ namespaceName.text ++ "_shop_item:1b\x7d] run function " ++
    namespaceName.text ++ ":purchase " ++ order

/-- The line that takes all stock from every player. -/
def clearLine (namespaceName : Namespace) : String :=
  "execute as @a run clear @s *[custom_data=\x7b" ++ namespaceName.text ++ "_shop_item:1b\x7d]"

variable (namespaceName : Namespace)

theorem text_stockData :
    (stockData namespaceName).text = "\x7b" ++ namespaceName.text ++ "_shop_item:1b\x7d" := by
  have bare : IsBare (stockMarker namespaceName) := namespaceName.isBare_prefixed (by decide)
  have nonempty : stockMarker namespaceName ≠ "" := by
    simp [stockMarker, Namespace.prefixed]
  have key : Snbt.keyCharacters (stockMarker namespaceName) =
      (stockMarker namespaceName).toList :=
    if_pos ⟨nonempty, List.all_eq_true.mpr bare⟩
  have one : Snbt.intCharacters 1 = ['1'] := rfl
  apply String.toList_inj.mp
  rw [Snbt.text, String.toList_ofList, stockData, Snbt.characters, Snbt.entryCharacters, key,
    Snbt.characters, one]
  simp [stockMarker, Namespace.prefixed]

theorem text_purchase (offer : Offer) (slots : Slots) :
    Command.text (.execute [.as .everyPlayer, .holds slots (offer.stockTest namespaceName)]
        (purchaseCall namespaceName offer)) =
      checkLine namespaceName slots.text offer.itemId offer.count
        (purchaseArguments offer).text := by
  have players : Clause.text (.as .everyPlayer) = "as @a" := rfl
  have call : (purchaseCall namespaceName offer).text =
      "function " ++ namespaceName.text ++ ":purchase " ++ (purchaseArguments offer).text := by
    unfold purchaseCall Command.text Namespace.resource purchaseFunctionName
    apply String.toList_inj.mp
    simp
  have test : Clause.text (.holds slots (offer.stockTest namespaceName)) =
      "if items entity @s " ++ slots.text ++ " " ++ (offer.itemId ++ "[count=" ++
        toString offer.count ++ ",custom_data=" ++ (stockData namespaceName).text ++ "]") := rfl
  unfold Command.text checkLine
  rw [List.map_cons, List.map_singleton, players, test, call, text_stockData,
    String.intercalate_cons_cons]
  apply String.toList_inj.mp
  simp

theorem text_cleanup : (cleanupCommand namespaceName).text = clearLine namespaceName := by
  have players : Clause.text (.as .everyPlayer) = "as @a" := rfl
  have clear : Command.text (.clear (anyStock namespaceName)) =
      "clear @s " ++ ("*[custom_data=" ++ (stockData namespaceName).text ++ "]") := rfl
  unfold cleanupCommand Command.text clearLine
  rw [List.map_singleton, players, clear, text_stockData]
  apply String.toList_inj.mp
  simp

/-- An item that a test can name. -/
structure IsItemName (item : String) : Prop where
  line : IsLine item
  word : IsWord item
  ends : '[' ∉ item.toList

variable {namespaceName} {layout : Layout}

theorem isReadable_of_mem_purchaseCommands {offer : Offer} {line : Command}
    (name : IsItemName offer.itemId) (member : line ∈ purchaseCommands namespaceName offer) :
    line.IsReadable := by
  obtain ⟨slots, -, rfl⟩ := List.mem_map.mp member
  have readable : (offer.stockTest namespaceName).IsReadable := by
    rintro _ ⟨⟩
    exact name.ends
  have word : IsWord (offer.stockTest namespaceName).text := by
    simp only [StackTest.text, Offer.stockTest, text_stockData, isWord_append, isWord_toString,
      name.word, namespaceName.isBare_text.isWord]
    decide
  refine ⟨List.cons_ne_nil _ _, ?_, rfl, namespaceName.isWord_resource (by decide)⟩
  exact List.forall_mem_cons.mpr
    ⟨trivial, List.forall_mem_singleton.mpr ⟨readable, word⟩⟩

/-- Where the items of offers can be named, every script is read as it was written. -/
theorem instructions_eq_commands (named : ∀ offer ∈ layout.offers, IsItemName offer.itemId)
    (event : Event) :
    (scripts namespaceName layout).instructions event = commands namespaceName layout event := by
  cases event with
  | load => exact instructions_load namespaceName layout
  | unload => exact instructions_unload namespaceName layout
  | tick =>
    have bought : (layout.offers.flatMap (purchaseCommands namespaceName)).flatMap Command.reread =
        layout.offers.flatMap (purchaseCommands namespaceName) := by
      apply Command.flatMap_reread
      · intro line member
        obtain ⟨offer, sold, member⟩ := List.mem_flatMap.mp member
        exact isReadable_of_mem_purchaseCommands (named offer sold) member
      · intro line member
        obtain ⟨offer, sold, member⟩ := List.mem_flatMap.mp member
        exact (isLine_purchaseCommands_iff namespaceName).mpr (named offer sold).line line member
    rw [instructions_tick, bought, commands, tickCommands_eq, tickSections, Command.headed_append]
    simp [Command.headed]

end Purchases

section Smuggling

/-- The id of an item that has a line of its own in it, and behind it the start of a remark. -/
def smuggling (line : String) : String :=
  "stick\n" ++ line ++ "\n#"

variable {namespaceName : Namespace} {layout : Layout} {offer : Offer} {command : Command}

theorem reread_smuggling (hidden : offer.itemId = smuggling command.text)
    (readable : command.IsReadable) (single : IsLine command.text) (slots : Slots) :
    ∃ before : List Command, (∀ line ∈ before, line.isForPlayers = true) ∧
      Command.reread (.execute [.as .everyPlayer, .holds slots (offer.stockTest namespaceName)]
        (purchaseCall namespaceName offer)) = before ++ [command] := by
  let front := "execute as @a " ++ ("if items entity @s " ++ slots.text ++ " stick")
  let back := "#[count=" ++ toString offer.count ++ ",custom_data=\x7b" ++ namespaceName.text ++
    "_shop_item:1b\x7d] run function " ++ namespaceName.text ++ ":purchase " ++
    (purchaseArguments offer).text
  have shape : checkLine namespaceName slots.text offer.itemId offer.count
      (purchaseArguments offer).text = "\n".intercalate [front, command.text, back] := by
    rw [hidden]
    unfold checkLine smuggling
    apply String.toList_inj.mp
    rw [String.toList_intercalate]
    simp [front, back]
  have first : IsLine front := by
    simp only [front, isLine_append]
    cases slots <;> decide
  have last : IsLine back := by
    simp only [back, isLine_append, isLine_toString, Namespace.isLine_text, Snbt.isLine_text]
    decide
  have remark : Command.read? back = none := by
    have behind : Reader.between? "# " "" back = none := by
      simp [Reader.between?, back, List.isPrefixOf?]
    rw [Command.read?, behind]
    simp [back]
  refine ⟨(Command.read? front).toList, ?_, ?_⟩
  · intro line member
    exact Command.isForPlayers_of_read? (Option.mem_toList.mp member)
  · rw [Command.reread, text_purchase, shape,
      (linesOf_intercalate_iff (List.cons_ne_nil _ _)).mpr
        (by simpa using ⟨first, single, last⟩)]
    cases found : Command.read? front <;>
      simp [found, Command.read?_text readable, remark]

def contraband (line : String) : ShopItem where
  id := smuggling line
  count := 1
  name := "Stick"
  slot := 0
  price := { id := "iron", count := 2 }

/-- An economy that is accepted, with a line of anybody's choice in the id of its only item. -/
def smugglers (line : String) : Config where
  shops := [{ items := [contraband line] }]

def smugglersLayout (line : String) : Layout where
  shops := placeShops (smugglers line).shops
  offers := [(contraband line).offer [] 0]

theorem resolve_smugglers (line : String) :
    resolve (smugglers line) = .ok (smugglersLayout line) := rfl

/-- The smuggled instruction is carried out once for each line that looks for the stock. -/
theorem runAll_smugglers (readable : command.IsReadable) (single : IsLine command.text)
    (host : Host) :
    Command.runAll ((scripts namespaceName (smugglersLayout command.text)).instructions .tick)
        host =
      Command.runAll [command, command] ((turnShopkeepers namespaceName).run none host) := by
  obtain ⟨front, players, cursor⟩ := @reread_smuggling namespaceName
    ((contraband command.text).offer [] 0) _ rfl readable single .cursor
  obtain ⟨others, morePlayers, container⟩ := @reread_smuggling namespaceName
    ((contraband command.text).offer [] 0) _ rfl readable single .container
  have bought : ((smugglersLayout command.text).offers.flatMap
      (purchaseCommands namespaceName)).flatMap Command.reread =
      (front ++ [command]) ++ (others ++ [command]) := by
    rw [smugglersLayout, List.flatMap_singleton, purchaseCommands, List.flatMap_map]
    simp [cursor, container]
  have work : Command.headed (workSections namespaceName (smugglersLayout command.text)) =
      [.comment "Generators", .comment "Shopkeepers", turnShopkeepers namespaceName,
        .comment "Shops"] := rfl
  have cleared : (cleanupCommand namespaceName).isForPlayers = true := rfl
  have remark : ∀ (heading : String) (host : Host),
      Command.run (.comment heading) none host = host := fun _ _ => rfl
  rw [instructions_tick, bought, work]
  simp only [Command.runAll_append, Command.runAll_cons, Command.runAll_nil, remark,
    Command.runAll_of_isForPlayers players, Command.runAll_of_isForPlayers morePlayers,
    Command.run_of_isForPlayers cleared]

end Smuggling

end Economy

end Datapack
