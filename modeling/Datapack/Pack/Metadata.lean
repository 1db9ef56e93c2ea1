import Datapack.Json.Writer

/-!
The JSON files of a package.
-/

namespace Datapack

def packFormat : Nat := 81

/-- Tells the host what the package is called and which format it has. -/
def metadataDocument (displayName : String) : Document :=
  .object [
    ("pack", .object [
      ("description", .text displayName),
      ("pack_format", .natural packFormat)])]

def metadataText (displayName : String) : String :=
  Json.indented (metadataDocument displayName)

def tagDocument (function : String) : Document :=
  .object [("values", .texts [function])]

def tagText (function : String) : String :=
  Json.compact (tagDocument function)

end Datapack
