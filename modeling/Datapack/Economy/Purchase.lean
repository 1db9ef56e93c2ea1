import Datapack.Command.Basic
import Datapack.Economy.Identifiers

/-!
The purchase procedure: a function with parameters that takes the price and gives the reward, or
says that the price is too high.
-/

namespace Datapack.Economy

inductive Parameter where
  | rewardId
  | rewardCount
  | rewardName
  | priceId
  | priceCount
  | priceName
  deriving DecidableEq, Repr

namespace Parameter

def key : Parameter → String
  | .rewardId => "reward_id"
  | .rewardCount => "reward_count"
  | .rewardName => "reward_name"
  | .priceId => "price_id"
  | .priceCount => "price_count"
  | .priceName => "price_name"

def all : List Parameter :=
  [.rewardId, .rewardCount, .rewardName, .priceId, .priceCount, .priceName]

def argument (offer : Offer) : Parameter → Snbt
  | .rewardId => .string offer.itemId
  | .rewardCount => .int offer.count
  | .rewardName => .string offer.name
  | .priceId => .string offer.priceId
  | .priceCount => .int offer.priceCount
  | .priceName => .string offer.label.name

end Parameter

/-- A part of a line: fixed text, or a place that the caller fills. -/
inductive Piece where
  | fixed (text : String)
  | hole (parameter : Parameter)

def Piece.text : Piece → String
  | .fixed text => text
  | .hole parameter => "$(" ++ parameter.key ++ ")"

abbrev Template := List Piece

def Template.text (template : Template) : String :=
  String.join (template.map Piece.text)

/-- The steps of a purchase. The player's score of price items decides between the last four. -/
inductive Step where
  | countPrice
  | giveReward
  | reportPurchase
  | reportShortage
  | takePrice
  deriving DecidableEq, Repr

def purchaseSteps : List Step :=
  [.countPrice, .giveReward, .reportPurchase, .reportShortage, .takePrice]

/-- Runs what follows if the counted items pay the price, or unless they do. -/
def affordable (namespaceName : Namespace) (word : String) : Template :=
  [.fixed ("$execute " ++ word ++ " score @s " ++ currencyObjective namespaceName ++ " matches "),
    .hole .priceCount,
    .fixed ".. run "]

def tellraw (color : String) (message : Template) : Template :=
  .fixed "tellraw @s \x7b\"text\":\"" :: message ++
    [.fixed ("\",\"color\":\"" ++ color ++ "\"\x7d")]

def Step.template (namespaceName : Namespace) : Step → Template
  | .countPrice =>
    [.fixed ("$execute store result score @s " ++ currencyObjective namespaceName ++
        " if items entity @s container.* "),
      .hole .priceId]
  | .giveReward =>
    affordable namespaceName "if" ++
      [.fixed "give @s ", .hole .rewardId, .fixed " ", .hole .rewardCount]
  | .reportPurchase =>
    affordable namespaceName "if" ++
      tellraw "green"
        [.fixed "Purchased ", .hole .rewardCount, .fixed " ", .hole .rewardName, .fixed "!"]
  | .reportShortage =>
    affordable namespaceName "unless" ++
      tellraw "red" [.fixed "Not enough ", .hole .priceName, .fixed "!"]
  | .takePrice =>
    affordable namespaceName "if" ++
      [.fixed "clear @s ", .hole .priceId, .fixed " ", .hole .priceCount]

def purchaseFunctionName : String := "purchase"

def purchaseLines (namespaceName : Namespace) : List String :=
  purchaseSteps.map fun step => (step.template namespaceName).text

def purchaseArguments (offer : Offer) : Snbt :=
  .compound (Parameter.all.map fun parameter => (parameter.key, parameter.argument offer))

def purchaseCall (namespaceName : Namespace) (offer : Offer) : Command :=
  .call (namespaceName.resource purchaseFunctionName) (purchaseArguments offer)

end Datapack.Economy
