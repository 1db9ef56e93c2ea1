import Datapack.Definition.Load
import Datapack.Proofs.Document.Reading

/-!
A configuration is read back from its JSON form. Each part of it is found again in the document made
of it, once the parts that it is made of are, and the text of that document is read as the document.
-/

namespace Datapack.Position

open Json (IsJson)

def IsFinite (position : Position) : Prop :=
  position.x.IsFinite ∧ position.y.IsFinite ∧ position.z.IsFinite

instance : DecidablePred IsFinite :=
  fun _ => inferInstanceAs (Decidable (_ ∧ _ ∧ _))

theorem ofDocument?_document {dialect : Dialect} (reads : dialect.ReadsJson)
    {position : Position} (finite : position.IsFinite) :
    ofDocument? dialect position.document = some position := by
  obtain ⟨x, y, z⟩ := finite
  unfold ofDocument? document
  rw [members?_object dialect (by decide) rfl]
  simp [Members.required?, List.lookup_cons, real?_real reads x, real?_real reads y,
    real?_real reads z]

theorem isJson_document (position : Position) : IsJson position.document := by
  apply IsJson.object
  simp [IsJson.real]

end Datapack.Position

namespace Datapack.Economy

open Number

def Generator.IsFinite (generator : Generator) : Prop :=
  generator.position.IsFinite ∧ generator.delaySeconds.IsFinite

instance : DecidablePred Generator.IsFinite :=
  fun _ => inferInstanceAs (Decidable (_ ∧ _))

section Reading

variable {dialect : Dialect} (reads : dialect.ReadsJson)

include reads

theorem count?_natural (count : UInt32) :
    count? dialect (.natural count.toNat) = some count := by
  rw [count?, natural?_natural reads count.toNat_lt, Option.map_some, UInt32.ofNat_toNat]

theorem slot?_natural (slot : UInt8) : slot? dialect (.natural slot.toNat) = some slot := by
  rw [slot?, natural?_natural reads slot.toNat_lt, Option.map_some, UInt8.ofNat_toNat]

theorem Generator.ofDocument?_document {generator : Generator} (finite : generator.IsFinite) :
    Generator.ofDocument? dialect generator.document = some generator := by
  unfold Generator.ofDocument? Generator.document
  rw [members?_object dialect (by decide) rfl]
  simp [Members.required?, List.lookup_cons, Document.text?,
    Position.ofDocument?_document reads finite.1, real?_real reads finite.2]

omit reads in
theorem Currency.ofDocument?_document (dialect : Dialect) (currency : Currency) :
    Currency.ofDocument? dialect currency.document = some currency := by
  unfold Currency.ofDocument? Currency.document
  rw [members?_object dialect (by decide) rfl]
  simp [Members.required?, List.lookup_cons, Document.text?]

theorem Price.ofDocument?_document (price : Price) :
    Price.ofDocument? dialect price.document = some price := by
  unfold Price.ofDocument? Price.document
  rw [members?_object dialect (by decide) rfl]
  simp [Members.required?, List.lookup_cons, Document.text?, count?_natural reads]

theorem ShopItem.ofDocument?_document (item : ShopItem) :
    ShopItem.ofDocument? dialect item.document = some item := by
  unfold ShopItem.ofDocument? ShopItem.document
  rw [members?_object dialect (by decide) rfl]
  simp [Members.required?, Members.withDefault?, List.lookup_cons, Document.text?,
    count?_natural reads, slot?_natural reads, Price.ofDocument?_document reads]

theorem shopkeeper?_document {position : Position} (finite : position.IsFinite) :
    shopkeeper? dialect (shopkeeperDocument position) = some position := by
  unfold shopkeeper? shopkeeperDocument
  rw [members?_object dialect (by decide) rfl]
  simp [Members.required?, Position.ofDocument?_document reads finite]

theorem Shop.ofDocument?_document {shop : Shop}
    (finite : ∀ position ∈ shop.shopkeepers, position.IsFinite) :
    Shop.ofDocument? dialect shop.document = some shop := by
  have items := listOf?_map fun item (_ : item ∈ shop.items) =>
    ShopItem.ofDocument?_document reads item
  have shopkeepers := listOf?_map fun position member =>
    shopkeeper?_document reads (finite position member)
  unfold Shop.ofDocument? Shop.document
  rw [members?_object dialect (by decide) rfl]
  simp [Members.withDefault?, List.lookup_cons, Document.text?, items, shopkeepers]

end Reading

/-- Every number in the configuration is finite. -/
def Config.IsFinite (config : Config) : Prop :=
  (∀ generator ∈ config.generators, generator.IsFinite) ∧
    ∀ shop ∈ config.shops, ∀ position ∈ shop.shopkeepers, position.IsFinite

instance : DecidablePred Config.IsFinite :=
  fun _ => inferInstanceAs (Decidable (_ ∧ _))

theorem Config.ofDocument?_document {dialect : Dialect} (reads : dialect.ReadsJson)
    {config : Config} (finite : config.IsFinite) :
    Config.ofDocument? dialect config.document = some config := by
  have generators := listOf?_map fun generator member =>
    Generator.ofDocument?_document reads (finite.1 generator member)
  have currencies := listOf?_map fun currency (_ : currency ∈ config.currencies) =>
    Currency.ofDocument?_document dialect currency
  have shops := listOf?_map fun shop member =>
    Shop.ofDocument?_document reads (finite.2 shop member)
  unfold Config.ofDocument? Config.document
  rw [members?_object dialect (by decide) rfl]
  simp [Members.withDefault?, List.lookup_cons, generators, currencies, shops]

section Writing

open Json (IsJson)

theorem Generator.isJson_document (generator : Generator) : IsJson generator.document := by
  apply IsJson.object
  simp [IsJson.text, generator.position.isJson_document, IsJson.real]

theorem Currency.isJson_document (currency : Currency) : IsJson currency.document := by
  apply IsJson.object
  simp [IsJson.text]

theorem ShopItem.isJson_document (item : ShopItem) : IsJson item.document := by
  have price : IsJson item.price.document := by
    apply IsJson.object
    simp [IsJson.text, IsJson.natural]
  apply IsJson.object
  simp [IsJson.text, IsJson.natural, price]

theorem isJson_shopkeeperDocument (position : Position) : IsJson (shopkeeperDocument position) := by
  apply IsJson.object
  simp [position.isJson_document]

theorem Shop.isJson_document (shop : Shop) : IsJson shop.document := by
  apply IsJson.object
  simp [IsJson.text, IsJson.map ShopItem.isJson_document, IsJson.map isJson_shopkeeperDocument]

theorem Config.isJson_document (config : Config) : IsJson config.document := by
  apply IsJson.object
  simp [IsJson.map Generator.isJson_document, IsJson.map Currency.isJson_document,
    IsJson.map Shop.isJson_document]

end Writing

/-- Whatever its texts are, a configuration with finite numbers is read back from its JSON form:
every field, every list in its order, empty lists and empty names, and zeros with their sign. -/
theorem json_form_reads_back_unchanged {config : Config} (finite : config.IsFinite) :
    Parsers.standard.economy .json config.json = .ok config := by
  have read : Format.json.read? config.json = some config.document :=
    Json.read?_compact config.isJson_document
  have made : Config.ofDocument? Format.json.dialect config.document = some config :=
    Config.ofDocument?_document Json.readsJson_dialect finite
  simp only [Parsers.standard, Format.parse, read, Option.bind_some, made]

/-- The smallest number above zero. -/
def leastMagnitude : Magnitude :=
  ⟨1, by decide +kernel⟩

/-- Texts that need escapes or are empty, numbers at the ends of their ranges, and a shop without
a name or anything in it. -/
def bazaar : Config :=
  { generators := [
      { item := "a\"b\\c\n\x00\x1f\u2028"
        position := ⟨.finite true .zero, .finite false leastMagnitude, .finite false .zero⟩
        delaySeconds := .finite true leastMagnitude }]
    currencies := [⟨"", "", ""⟩, ⟨"", "\t", "\x7f"⟩]
    shops := [
      { name := "", items := [], shopkeepers := [] },
      { name := "Shop"
        items := [⟨"/", 4294967295, "", 255, ⟨"\x08\x0c\r", 0⟩⟩]
        shopkeepers := [⟨.zero, .zero, .finite true .zero⟩] }] }

theorem bazaar_is_read_back :
    bazaar.IsFinite ∧ Parsers.standard.economy .json bazaar.json = .ok bazaar := by
  have finite : bazaar.IsFinite := by decide
  exact ⟨finite, json_form_reads_back_unchanged finite⟩

end Datapack.Economy
