import Datapack.Proofs.Economy.Detection
import Datapack.Proofs.Economy.Identifiers
import Datapack.Proofs.Economy.ScriptLines

/-!
What the load script stores, read back from its text. Shops are named and items described in any
words, with quotes, braces and line feeds in them: all of it is escaped, so the text falls into the
lines it was made of, and the value at the end of a line that stores a shop decodes into the shop's
items.
-/

namespace Datapack.Economy

def storeLine (namespaceName : Namespace) (index : Nat) (value : String) : String :=
  "data modify storage " ++ namespaceName.text ++ ":shops " ++ toString index ++ " set value " ++
    value

/-- What a stack says about an item, with its name and with the colour of the price as well. -/
structure Describes (namespaceName : Namespace) (currencies : List Currency) (item : ShopItem)
    (stack : Snbt) : Prop
    extends Displays namespaceName stack item (label currencies item.price.id).name where
  compound : ∃ entries, stack = .compound entries
  name : stack.at? ["components", "item_name", "text"] = some (.string item.name)
  colored : ∃ lore, stack.at? ["components", "lore"] = some (.list [lore]) ∧
    lore.at? ["color"] = some (.string (label currencies item.price.id).color)

theorem describes_stack (namespaceName : Namespace) (currencies : List Currency) (shop : Id)
    (item : ShopItem) :
    Describes namespaceName currencies item ((item.offer currencies shop).stack namespaceName) where
  toDisplays := displays_stack namespaceName currencies shop item
  compound := ⟨_, rfl⟩
  name := rfl
  colored := ⟨_, rfl, rfl⟩

variable {namespaceName : Namespace} {layout : Layout}

theorem text_store (shop : Id) (value : Snbt) :
    Command.text (.store (shopStorage namespaceName) (shopStoragePath shop) value) =
      storeLine namespaceName shop.toNat value.text := by
  unfold Command.text storeLine shopStorage shopStoragePath Namespace.resource Id.text
  simp only [String.append_assoc]
  rfl

theorem storeLine_inj {index other : Nat} {value otherValue : String}
    (same : storeLine namespaceName index value = storeLine namespaceName other otherValue) :
    index = other ∧ value = otherValue := by
  have whole : ∀ number : Nat, ' ' ∉ (toString number).toList := by
    intro number member
    rw [Nat.toString_eq_repr, Nat.toList_repr] at member
    exact absurd (Snbt.isDigit_of_mem_toDigits member) (by decide)
  unfold storeLine at same
  simp only [String.append_assoc, String.append_right_inj] at same
  have characters := congrArg String.toList same
  simp only [String.toList_append] at characters
  obtain ⟨numbers, values⟩ := append_first_separator_inj (whole index) (whole other) characters
  constructor
  · exact toString_inj.mp (String.toList_inj.mp numbers)
  · apply String.toList_inj.mp
    exact List.append_cancel_left (List.cons.inj values).2

theorem exists_store_of_text_eq {line : Command} {index : Nat} {value : String}
    (same : line.text = storeLine namespaceName index value) :
    ∃ storage path data, line = .store storage path data := by
  have characters := congrArg String.toList same
  cases line with
  | store storage path data => exact ⟨storage, path, data, rfl⟩
  | _ =>
    unfold Command.text storeLine at characters
    simp at characters

/-- Nothing but the contents of shops is stored, each under its shop's number. -/
theorem storeLine_mem_load_iff {index : Nat} {value : String} :
    storeLine namespaceName index value ∈ scripts namespaceName layout .load ↔
      ∃ shop ∈ layout.shops, shop.id.toNat = index ∧
        (shopContents namespaceName layout shop.id).text = value := by
  unfold scripts commands
  rw [List.mem_map]
  constructor
  · rintro ⟨line, member, same⟩
    obtain ⟨storage, path, data, rfl⟩ := exists_store_of_text_eq same
    -- Objectives, scores and entities are no stores, which leaves the contents of shops.
    obtain ⟨⟨⟩⟩ | ⟨⟨⟩⟩ | ⟨generator, -, ⟨⟩⟩ | ⟨keeper, -, ⟨⟨⟩⟩ | ⟨⟨⟩⟩⟩ | ⟨shop, placed, stored⟩ :=
      mem_loadCommands.mp member
    rw [stored, text_store] at same
    exact ⟨shop, placed, storeLine_inj same⟩
  · rintro ⟨shop, placed, rfl, rfl⟩
    refine ⟨_, ?_, text_store shop.id _⟩
    exact mem_loadCommands.mpr (.inr (.inr (.inr (.inr ⟨shop, placed, rfl⟩))))

theorem mem_placeShops {shops : List Shop} {placed : PlacedShop} :
    placed ∈ placeShops shops ↔
      ∃ (index : Nat) (shop : Shop), shops[index]? = some shop ∧
        placed = { id := .ofNat index, name := shop.name } := by
  unfold placeShops
  constructor
  · intro member
    obtain ⟨⟨shop, index⟩, listed, rfl⟩ := List.mem_map.mp member
    exact ⟨index, shop, List.mem_zipIdx_iff_getElem?.mp listed, rfl⟩
  · rintro ⟨index, shop, present, rfl⟩
    exact List.mem_map.mpr ⟨(shop, index), List.mem_zipIdx_iff_getElem?.mpr present, rfl⟩

theorem decode?_shopContents {config : Config} (resolved : resolve config = .ok layout)
    (few : config.shops.length < 2 ^ 32) {index : Nat} {shop : Shop}
    (present : config.shops[index]? = some shop) :
    ∃ onShow, Snbt.decode? (shopContents namespaceName layout (.ofNat index)).text =
        some (.list onShow) ∧
      List.Forall₂ (Describes namespaceName config.currencies) shop.items onShow := by
  refine ⟨_, Snbt.decode?_text _, ?_⟩
  rw [offersOf_eq resolved few present, List.forall₂_map_right_iff, List.forall₂_map_right_iff,
    List.forall₂_same]
  intro item _
  exact describes_stack namespaceName config.currencies (.ofNat index) item

/-- Whatever the texts of a configuration are, its load script splits at line feeds into the lines
it was made of. Each shop has a line among them that stores its contents, and from any line that
stores contents under a number the stacks of the shop with that number are read back, one for each
item and in order, with the item's id, count and name, and its price as lore. -/
theorem load_script_survives_any_text (namespaceName : Namespace) {config : Config}
    {layout : Layout} (resolved : resolve config = .ok layout)
    (few : config.shops.length < 2 ^ 32) :
    let lines := linesOf (Scripts.render (scripts namespaceName layout) .load)
    lines = scripts namespaceName layout .load ∧
      (∀ (index : Nat) (shop : Shop), config.shops[index]? = some shop →
        ∃ value, storeLine namespaceName index value ∈ lines) ∧
      ∀ (index : Nat) (value : String), storeLine namespaceName index value ∈ lines →
        ∃ (shop : Shop) (onShow : List Snbt), config.shops[index]? = some shop ∧
          Snbt.decode? value = some (.list onShow) ∧
          List.Forall₂ (Describes namespaceName config.currencies) shop.items onShow := by
  intro lines
  obtain ⟨-, shops, -⟩ := resolve_eq_ok resolved
  have whole : lines = scripts namespaceName layout .load := by
    have nonempty : scripts namespaceName layout .load ≠ [] := by
      simp [scripts, commands, loadCommands]
    apply (linesOf_intercalate_iff nonempty).mpr
    exact List.forall_mem_map.mpr fun _ => isLine_of_mem_loadCommands
  refine ⟨whole, ?_, ?_⟩
  · intro index shop present
    have inside := (List.getElem?_eq_some_iff.mp present).1
    have placed := mem_placeShops.mpr ⟨index, shop, present, rfl⟩
    rw [whole]
    refine ⟨_, storeLine_mem_load_iff.mpr ⟨_, shops ▸ placed, ?_, rfl⟩⟩
    exact Id.toNat_ofNat (by omega)
  · intro index value stored
    rw [whole] at stored
    obtain ⟨placed, listed, rfl, rfl⟩ := storeLine_mem_load_iff.mp stored
    obtain ⟨index, shop, present, rfl⟩ := mem_placeShops.mp (shops ▸ listed)
    have inside := (List.getElem?_eq_some_iff.mp present).1
    obtain ⟨onShow, decoded, described⟩ := decode?_shopContents resolved few present
    refine ⟨shop, onShow, ?_, decoded, described⟩
    rw [Id.toNat_ofNat (by omega)]
    exact present

/-- An item whose texts would end the string, the stack and the line they are in. -/
def unrulyItem : ShopItem where
  id := "stick\"\x7d]\nop @a"
  count := 1
  name := "\\\"\x7d,\x7bid:\"diamond\nkill @a"
  slot := 0
  price := { id := "coin", count := 2 }

def unrulyConfig : Config where
  currencies := [{ id := "coin", name := "\n]", color := "\"red\"" }]
  shops := [{ name := "\"\x7d\n", items := [unrulyItem], shopkeepers := [⟨.zero, .zero, .zero⟩] }]

theorem unruly_item_is_read_back :
    let namespaceName : Namespace := ⟨"bw", by decide, List.all_eq_true.mp (by decide)⟩
    ∃ layout value stack, resolve unrulyConfig = .ok layout ∧
      storeLine namespaceName 0 value ∈
        linesOf (Scripts.render (scripts namespaceName layout) .load) ∧
      Snbt.decode? value = some (.list [stack]) ∧
      stack.at? ["id"] = some (.string "stick\"\x7d]\nop @a") ∧
      stack.at? ["components", "item_name", "text"] =
        some (.string "\\\"\x7d,\x7bid:\"diamond\nkill @a") ∧
      ∃ lore, stack.at? ["components", "lore"] = some (.list [lore]) ∧
        lore.at? ["text"] = some (.string "2 \n]") := by
  intro namespaceName
  let layout : Layout :=
    { shops := placeShops unrulyConfig.shops
      shopkeepers := placeShopkeepers unrulyConfig.shops
      offers := [unrulyItem.offer unrulyConfig.currencies 0] }
  have resolved : resolve unrulyConfig = .ok layout := rfl
  obtain ⟨-, stored, readBack⟩ :=
    load_script_survives_any_text namespaceName resolved (by decide)
  obtain ⟨value, line⟩ := stored 0 _ rfl
  obtain ⟨shop, onShow, present, decoded, described⟩ := readBack 0 value line
  obtain rfl := Option.some.inj present
  rcases described with - | ⟨describes, - | -⟩
  exact ⟨layout, value, _, resolved, line, decoded, describes.id, describes.name, describes.priced⟩

end Datapack.Economy
