import Datapack.Json.Reader
import Datapack.Path
import Datapack.Ron.Reader
import Datapack.Toml.Reader

/-!
The formats of data files.
-/

namespace Datapack

inductive Format where
  | ron
  | toml
  | json
  deriving DecidableEq, Repr

namespace Format

/-- Every format, in the order in which files are looked for. -/
def all : List Format :=
  [.ron, .toml, .json]

def extension : Format → String
  | .ron => "ron"
  | .toml => "toml"
  | .json => "json"

def ofExtension? (extension : String) : Option Format :=
  all.find? fun format => format.extension == extension

def ofPath? (path : Path) : Option Format :=
  path.extension?.bind ofExtension?

def read? : Format → String → Option Document
  | .ron => Ron.read?
  | .toml => Toml.read?
  | .json => Json.read?

def dialect : Format → Dialect
  | .ron => Ron.dialect
  | .toml => Toml.dialect
  | .json => Json.dialect

end Format

end Datapack
