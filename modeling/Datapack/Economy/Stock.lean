import Datapack.Command.Basic
import Datapack.Economy.Identifiers

/-!
The stacks a shop shows, and the test that recognises one of them.
-/

namespace Datapack.Economy

/-- The signed byte with the same bits. -/
def signedByte (value : UInt8) : Int :=
  Int.bmod value.toNat 256

/-- The lore's line: how much of which currency the stack costs. -/
def Offer.priceText (offer : Offer) : String :=
  toString offer.priceCount ++ " " ++ offer.label.name

/-- The stack that shows an offer, marked as stock and with its price as lore. -/
def Offer.stack (namespaceName : Namespace) (offer : Offer) : Snbt :=
  .compound [
    ("id", .string offer.itemId),
    ("count", .int offer.count),
    ("Slot", .byte (signedByte offer.slot)),
    ("components", .compound [
      ("custom_data", .compound [
        (stockMarker namespaceName, .byte 1),
        ("Tags", .tags [namespaceName.text])]),
      ("item_name", .compound [
        ("bold", .bool true),
        ("text", .string offer.name)]),
      ("lore", .list [
        .compound [
          ("text", .string offer.priceText),
          ("italic", .bool false),
          ("color", .string offer.label.color)]])])]

def shopContents (namespaceName : Namespace) (layout : Layout) (shop : Id) : Snbt :=
  .list ((layout.offersOf shop).map (Offer.stack namespaceName))

def stockData (namespaceName : Namespace) : Snbt :=
  .compound [(stockMarker namespaceName, .byte 1)]

def anyStock (namespaceName : Namespace) : StackTest :=
  { item := none, customData := stockData namespaceName }

def Offer.stockTest (namespaceName : Namespace) (offer : Offer) : StackTest :=
  { item := some (offer.itemId, offer.count), customData := stockData namespaceName }

end Datapack.Economy
