import Datapack.Economy.Config

/-!
How a price's currency is shown.
-/

namespace Datapack.Economy

structure Label where
  name : String
  color : String
  deriving DecidableEq, Repr

def fallbackColor : String := "white"

/-- Puts a currency in the place of one with the same id. -/
def enter (table : List (String × Currency)) (currency : Currency) : List (String × Currency) :=
  (currency.id, currency) :: table.filter fun entry => entry.1 != currency.id

/-- Currencies under their ids, a later one in place of an earlier one. -/
def tabulate (currencies : List Currency) : List (String × Currency) :=
  currencies.foldl enter []

def currency? (currencies : List Currency) (id : String) : Option Currency :=
  (tabulate currencies).lookup id

def orElseIfEmpty (text fallback : String) : String :=
  if text = "" then fallback else text

/-- An unknown currency, or one with an empty name or colour, is shown by its id or in white. -/
def label (currencies : List Currency) (id : String) : Label :=
  match currency? currencies id with
  | some currency =>
    { name := orElseIfEmpty currency.name id
      color := orElseIfEmpty currency.color fallbackColor }
  | none => { name := id, color := fallbackColor }

end Datapack.Economy
