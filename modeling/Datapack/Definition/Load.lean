import Datapack.Definition.Basic
import Datapack.Disk.Operations

/-!
Loading a definition from a directory.
-/

namespace Datapack

/-- Makes values of texts in each format, or says what is wrong with a text. -/
abbrev Parser (Value : Type) :=
  Format → String → Except String Value

structure Parsers where
  manifest : Parser Manifest
  economy : Parser Economy.Config

/-- Reads a text as a document, and that as a value by the rules of the format. -/
def Format.parse {Value : Type} (read? : Dialect → Document → Option Value) : Parser Value :=
  fun format text =>
    match (format.read? text).bind (read? format.dialect) with
    | some value => .ok value
    | none => .error "unexpected content"

def Parsers.standard : Parsers :=
  { manifest := Format.parse Manifest.ofDocument?
    economy := Format.parse Economy.Config.ofDocument? }

namespace Disk

def candidates (directory : Path) (name : String) : List Path :=
  Format.all.map fun format => directory.child (name ++ "." ++ format.extension)

/-- The data file of a name, if there is one. There must not be two. -/
def find (disk : Disk) (directory : Path) (name : String) : Except LoadError (Option Path) :=
  match (candidates directory name).filter disk.exists? with
  | [] => .ok none
  | [file] => .ok (some file)
  | first :: second :: _ => .error (.conflictingFormats first second)

def require (disk : Disk) (directory : Path) (name : String) : Except LoadError Path := do
  match ← disk.find directory name with
  | some file => return file
  | none => .error (.missingRequired name directory)

def decode {Value : Type} (disk : Disk) (file : Path) (parse : Parser Value) :
    Except LoadError Value := do
  match Format.ofPath? file with
  | none => .error (.unsupportedFormat file)
  | some format =>
    match disk.readText file with
    | .error cause => .error (.unreadable cause)
    | .ok text =>
      match parse format text with
      | .ok value => return value
      | .error detail => .error (.unparsable file detail)

def loadEconomy (disk : Disk) (directory : Path) (parsers : Parsers := .standard) :
    Except LoadError (Option (Path × Economy.Config)) := do
  match ← disk.find directory "economy" with
  | none => return none
  | some file => return some (file, ← disk.decode file parsers.economy)

def loadDefinition (disk : Disk) (directory : Path) (parsers : Parsers := .standard) :
    Except LoadError Definition := do
  let file ← disk.require directory "pack"
  let manifest ← disk.decode file parsers.manifest
  let economy ← disk.loadEconomy directory parsers
  return { manifest, economy }

def loadPackage (disk : Disk) (directory : Path) (parsers : Parsers := .standard) :
    Except LoadError Package := do
  let definition ← disk.loadDefinition directory parsers
  definition.package

end Disk

end Datapack
