import Datapack.Position
import Datapack.Snbt.Basic

/-!
The host's instructions, as far as generated scripts use them, and the line each is written as.
-/

namespace Datapack

inductive Selector where
  | tagged (tag : String)
  | everyPlayer

namespace Selector

def text : Selector → String
  | .tagged tag => "@e[tag=" ++ tag ++ "]"
  | .everyPlayer => "@a"

end Selector

/-- Which item stacks a test accepts: those with the custom data, of any item unless one is named
together with its count. -/
structure StackTest where
  item : Option (String × Nat)
  customData : Snbt

namespace StackTest

def text (test : StackTest) : String :=
  match test.item with
  | some (item, count) =>
    item ++ "[count=" ++ toString count ++ ",custom_data=" ++ test.customData.text ++ "]"
  | none => "*[custom_data=" ++ test.customData.text ++ "]"

end StackTest

/-- The slots of an entity that a test looks at. -/
inductive Slots where
  | cursor
  | container

namespace Slots

def text : Slots → String
  | .cursor => "player.cursor"
  | .container => "container.*"

end Slots

/-- What `execute` changes or checks before it runs an instruction. -/
inductive Clause where
  | as (selector : Selector)
  | atSelf
  | scoreAtLeast (holder objective : String) (least : Nat)
  | holds (slots : Slots) (test : StackTest)

namespace Clause

def text : Clause → String
  | .as selector => "as " ++ selector.text
  | .atSelf => "at @s"
  | .scoreAtLeast holder objective least =>
    "if score " ++ holder ++ " " ++ objective ++ " matches " ++ toString least ++ ".."
  | .holds slots test => "if items entity @s " ++ slots.text ++ " " ++ test.text

end Clause

inductive Command where
  | comment (remark : String)
  | addObjective (objective : String)
  | removeObjective (objective : String)
  | setScore (holder objective : String) (value : Nat)
  | addScore (holder objective : String) (value : Nat)
  | summon (entity : String) (position : Position) (data : Snbt)
  | store (storage path : String) (value : Snbt)
  | kill (selector : Selector)
  | facePlayer
  | fillItems (storage path : String)
  | clear (test : StackTest)
  | call (function : String) (arguments : Snbt)
  | execute (clauses : List Clause) (command : Command)

namespace Command

def text : Command → String
  | .comment remark => "# " ++ remark
  | .addObjective objective => "scoreboard objectives add " ++ objective ++ " dummy"
  | .removeObjective objective => "scoreboard objectives remove " ++ objective
  | .setScore holder objective value =>
    "scoreboard players set " ++ holder ++ " " ++ objective ++ " " ++ toString value
  | .addScore holder objective value =>
    "scoreboard players add " ++ holder ++ " " ++ objective ++ " " ++ toString value
  | .summon entity position data =>
    "summon " ++ entity ++ " " ++ position.text ++ " " ++ data.text
  | .store storage path value =>
    "data modify storage " ++ storage ++ " " ++ path ++ " set value " ++ value.text
  | .kill selector => "kill " ++ selector.text
  | .facePlayer => "tp @s ~ ~ ~ facing entity @p"
  | .fillItems storage path =>
    "data modify entity @s Items set from storage " ++ storage ++ " " ++ path
  | .clear test => "clear @s " ++ test.text
  | .call function arguments => "function " ++ function ++ " " ++ arguments.text
  | .execute clauses command =>
    "execute " ++ " ".intercalate (clauses.map Clause.text) ++ " run " ++ command.text

end Command

end Datapack
