import Datapack.Number.Format

/-!
Places in the world.
-/

namespace Datapack

open Number

structure Position where
  x : Binary64
  y : Binary64
  z : Binary64
  deriving DecidableEq

namespace Position

def text (position : Position) : String :=
  position.x.render .plain ++ " " ++ position.y.render .plain ++ " " ++ position.z.render .plain

def above (position : Position) (height : Binary64) : Position :=
  { position with y := position.y + height }

end Position

end Datapack
