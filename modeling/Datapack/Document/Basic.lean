/-!
Structured values, as data files hold them before anything is known about what they should be.
-/

namespace Datapack

inductive Document where
  | flag (value : Bool)
  /-- A number as it is spelled; what it counts as depends on the format. -/
  | number (literal : String)
  | text (value : String)
  | list (items : List Document)
  /-- Fields in order, perhaps repeated, perhaps under a type's name. -/
  | record (name : Option String) (fields : List (String × Document))
  /-- A well-formed value that nothing can be made of, such as a missing one. -/
  | other

namespace Document

def object (fields : List (String × Document)) : Document :=
  .record none fields

def texts (values : List String) : Document :=
  .list (values.map .text)

def natural (value : Nat) : Document :=
  .number (toString value)

end Document

end Datapack
