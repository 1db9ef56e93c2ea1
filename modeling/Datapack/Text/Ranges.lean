/-!
Sets of characters given by ranges of code points.
-/

namespace Datapack.Text

/-- Ranges of code points, both ends included. -/
abbrev Ranges := List (Nat × Nat)

def Ranges.contains (ranges : Ranges) (character : Char) : Bool :=
  ranges.any fun (first, last) => first ≤ character.toNat && character.toNat ≤ last

end Datapack.Text
