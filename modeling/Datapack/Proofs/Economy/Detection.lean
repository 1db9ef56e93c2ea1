import Datapack.Proofs.Economy.Shops

/-!
Stock and the lines that look for it. A shop's stacks are picked out of the list of all offers by
the shop's number; the tick script goes through the whole list, two lines to an offer. The two
agree: every item on show has two lines of its own that look for just this stack and sell it at the
price it shows.
-/

namespace Datapack

def Snbt.at? : Snbt → List String → Option Snbt
  | value, [] => some value
  | value, key :: keys => do
    let inner ← entry? value.entries key
    inner.at? keys

namespace Economy

variable (namespaceName : Namespace)

/-- What a stack has to say about an item: which it is and how many, that it is stock, and how much
of which currency it costs. -/
structure Displays (stack : Snbt) (item : ShopItem) (currency : String) : Prop where
  id : stack.at? ["id"] = some (.string item.id)
  count : stack.at? ["count"] = some (.int item.count.toNat)
  marked : stack.at? ["components", "custom_data", stockMarker namespaceName] = some (.byte 1)
  priced : ∃ lore, stack.at? ["components", "lore"] = some (.list [lore]) ∧
    lore.at? ["text"] = some (.string (toString item.price.count.toNat ++ " " ++ currency))

def ShopItem.order (currency : String) (item : ShopItem) : Snbt :=
  .compound [
    ("reward_id", .string item.id),
    ("reward_count", .int item.count.toNat),
    ("reward_name", .string item.name),
    ("price_id", .string item.price.id),
    ("price_count", .int item.price.count.toNat),
    ("price_name", .string currency)]

theorem stockMarker_ne_tags : stockMarker namespaceName ≠ "Tags" := by
  intro same
  have lengths := congrArg String.length same
  unfold stockMarker Namespace.prefixed at lengths
  rw [String.length_append, String.length_append] at lengths
  have suffix : "shop_item".length = 9 := rfl
  have short : "Tags".length = 4 := rfl
  omega

theorem displays_stack (currencies : List Currency) (shop : Id) (item : ShopItem) :
    Displays namespaceName ((item.offer currencies shop).stack namespaceName) item
      (label currencies item.price.id).name where
  id := rfl
  count := rfl
  marked := by
    have key := stockMarker_ne_tags namespaceName
    change Snbt.at? (.compound [(stockMarker namespaceName, .byte 1), ("Tags", _)]) [_] = _
    simp [Snbt.at?, Snbt.entries, Snbt.entry?, List.lookup_cons, beq_false_of_ne key]
  priced := ⟨_, rfl, rfl⟩

theorem text_purchaseCommands (currencies : List Currency) (shop : Id) (item : ShopItem) :
    (purchaseCommands namespaceName (item.offer currencies shop)).map Command.text =
      ["player.cursor", "container.*"].map fun slots =>
        checkLine namespaceName slots item.id item.count.toNat
          (item.order (label currencies item.price.id).name).text := by
  rw [purchaseCommands, List.map_map, List.map_cons, List.map_cons, List.map_nil,
    Function.comp_apply, Function.comp_apply, text_purchase, text_purchase]
  rfl

theorem length_purchaseCommands (offers : List Offer) :
    (offers.flatMap (purchaseCommands namespaceName)).length = 2 * offers.length := by
  induction offers with
  | nil => rfl
  | cons offer offers inductionHypothesis =>
    rw [List.flatMap_cons, List.length_append, inductionHypothesis, List.length_cons]
    have two : (purchaseCommands namespaceName offer).length = 2 := rfl
    omega

theorem getElem?_purchaseCommands {offers : List Offer} {number : Nat} {offer : Offer}
    (present : offers[number]? = some offer) {line : Nat} (own : line < 2) :
    (offers.flatMap (purchaseCommands namespaceName))[2 * number + line]? =
      (purchaseCommands namespaceName offer)[line]? := by
  have inside := (List.getElem?_eq_some_iff.mp present).1
  have before : ((offers.take number).flatMap (purchaseCommands namespaceName)).length =
      2 * number := by
    rw [length_purchaseCommands, List.length_take, Nat.min_eq_left (Nat.le_of_lt inside)]
  rw [← before]
  exact getElem?_flatMap present own

theorem linesUnder_tick {namespaceName : Namespace} {layout : Layout} {heading : String}
    {lines : List Command}
    (listed : (tickSections namespaceName layout).lookup heading = some lines) :
    Command.linesUnder heading (scripts namespaceName layout .tick) = lines.map Command.text := by
  rw [scripts, commands, Command.linesUnder_text, under_tickCommands listed]

/-- Everything in stock is detected, at its own price. An item is on show in its shop as a stack
that is marked as stock and says what it costs. In the tick script there are two lines to each item
of each shop, in order, that look for this stack, mark included, in a player's hand and inventory,
and pass an order from which the item and the price are read, with the currency's name as shown.
What is left with that mark is cleared at the end. -/
theorem stock_is_sold_at_its_own_price {config : Config} {layout : Layout}
    (resolved : resolve config = .ok layout) (few : config.shops.length < 2 ^ 32) :
    let tick := scripts namespaceName layout .tick
    let checks := Command.linesUnder "Purchases" tick
    checks.length = 2 * (config.shops.flatMap Shop.items).length ∧
      (∀ (shopIndex itemIndex : Nat) (shop : Shop) (item : ShopItem),
        config.shops[shopIndex]? = some shop → shop.items[itemIndex]? = some item →
        let number := itemNumber config.shops shopIndex itemIndex
        let currency := (label config.currencies item.price.id).name
        (config.shops.flatMap Shop.items)[number]? = some item ∧
          (∃ onShow stack,
            shopContents namespaceName layout (.ofNat shopIndex) = .list onShow ∧
              onShow.length = shop.items.length ∧ onShow[itemIndex]? = some stack ∧
              Displays namespaceName stack item currency) ∧
          ∃ order, Snbt.decode? order = some (item.order currency) ∧
            checks[2 * number]? =
              some (checkLine namespaceName "player.cursor" item.id item.count.toNat order) ∧
            checks[2 * number + 1]? =
              some (checkLine namespaceName "container.*" item.id item.count.toNat order)) ∧
      Command.linesUnder "Cleanup" tick = [clearLine namespaceName] := by
  intro tick checks
  have detected : checks =
      (layout.offers.flatMap (purchaseCommands namespaceName)).map Command.text :=
    linesUnder_tick rfl
  have cleared : Command.linesUnder "Cleanup" tick =
      [cleanupCommand namespaceName].map Command.text := linesUnder_tick rfl
  refine ⟨?_, ?_, ?_⟩
  · rw [detected, List.length_map, length_purchaseCommands, length_offers resolved]
  · intro shopIndex itemIndex shop item present listed number currency
    have inside := (List.getElem?_eq_some_iff.mp listed).1
    have offered := getElem?_offers resolved present listed
    have sold : ∀ (line : Nat) (slots : String),
        ["player.cursor", "container.*"][line]? = some slots →
        checks[2 * number + line]? = some (checkLine namespaceName slots item.id item.count.toNat
          (item.order currency).text) := by
      intro line slots chosen
      have own : line < 2 := (List.getElem?_eq_some_iff.mp chosen).1
      rw [detected, List.getElem?_map, getElem?_purchaseCommands namespaceName offered own,
        ← List.getElem?_map, text_purchaseCommands, List.getElem?_map, chosen]
      rfl
    have shown := displays_stack namespaceName config.currencies (.ofNat shopIndex) item
    refine ⟨(getElem?_flatMap present inside).trans listed, ⟨_, _, rfl, ?_, ?_, shown⟩,
      (item.order currency).text, Snbt.decode?_text _, sold 0 _ rfl, sold 1 _ rfl⟩
    · rw [offersOf_eq resolved few present, List.length_map, List.length_map]
    · rw [offersOf_eq resolved few present, List.getElem?_map, List.getElem?_map, listed]
      rfl
  · rw [cleared, List.map_singleton, text_cleanup]

/-- Torches are sold in two shops, for a currency that nobody has described. -/
theorem torches_of_the_third_shop_cost_gold :
    let namespaceName : Namespace := ⟨"bw", by decide, List.all_eq_true.mp (by decide)⟩
    let checks := Command.linesUnder "Purchases" (scripts namespaceName marketLayout .tick)
    resolve market = .ok marketLayout ∧ market.shops.length < 2 ^ 32 ∧ checks.length = 8 ∧
      (∃ onShow stack, shopContents namespaceName marketLayout 2 = .list onShow ∧
        onShow.length = 2 ∧ onShow[0]? = some stack ∧ Displays namespaceName stack torch "gold") ∧
      ∃ order, Snbt.decode? order = some (torch.order "gold") ∧
        checks[4]? = some ("execute as @a if items entity @s player.cursor torch[count=8," ++
          "custom_data=\x7bbw_shop_item:1b\x7d] run function bw:purchase " ++ order) ∧
        checks[5]? = some ("execute as @a if items entity @s container.* torch[count=8," ++
          "custom_data=\x7bbw_shop_item:1b\x7d] run function bw:purchase " ++ order) := by
  intro namespaceName checks
  have resolved : resolve market = .ok marketLayout := rfl
  have few : market.shops.length < 2 ^ 32 := by decide
  obtain ⟨total, each, -⟩ := stock_is_sold_at_its_own_price namespaceName resolved few
  obtain ⟨-, shown, order, decoded, hand, inventory⟩ := each 2 0 _ torch rfl rfl
  exact ⟨resolved, few, total, shown, order, decoded, hand, inventory⟩

end Economy

end Datapack
