import Datapack.Event
import Datapack.Path

/-!
Where the files of a package stand.
-/

namespace Datapack

structure PackLayout where
  directory : Path
  namespaceName : Namespace

namespace PackLayout

/-- The package's directory bears its namespace's name. -/
def within (outputRoot : Path) (namespaceName : Namespace) : PackLayout :=
  { directory := outputRoot.child namespaceName.text, namespaceName }

def metadataPath (layout : PackLayout) : Path :=
  layout.directory.child "pack.mcmeta"

def tagDirectory (layout : PackLayout) : Path :=
  (((layout.directory.child "data").child "minecraft").child "tags").child "function"

def functionDirectory (layout : PackLayout) : Path :=
  ((layout.directory.child "data").child layout.namespaceName.text).child "function"

def functionPath (layout : PackLayout) (name : String) : Path :=
  layout.functionDirectory.child (name ++ ".mcfunction")

def tagPath (layout : PackLayout) (name : String) : Path :=
  layout.tagDirectory.child (name ++ ".json")

end PackLayout

end Datapack
