import Datapack.Path

/-!
A file tree as a value, and how paths are followed in it.
-/

namespace Datapack

/-- The names from the root down to a place in a file tree. -/
abbrev Location := List String

inductive Entry where
  | file (content : ByteArray)
  | directory

/-- Contents are compared byte by byte. -/
instance Entry.decideEq : DecidableEq Entry
  | .file first, .file second =>
    @decidable_of_decidable_of_iff (first = second) _ (ByteArray.instDecidableEq first second)
      ⟨congrArg Entry.file, Entry.file.inj⟩
  | .file _, .directory => isFalse fun same => Entry.noConfusion same
  | .directory, .file _ => isFalse fun same => Entry.noConfusion same
  | .directory, .directory => isTrue rfl

/-- A file tree. The root is always a directory; every other entry is listed. -/
structure Disk where
  entries : List (Location × Entry)
  workingDirectory : Location

inductive DiskError where
  | notFound
  | notADirectory
  | isADirectory
  | alreadyExists
  | invalidFilename
  | invalidInput
  | invalidData
  deriving DecidableEq, Repr

def DiskError.message : DiskError → String
  | .notFound => "No such file or directory (os error 2)"
  | .notADirectory => "Not a directory (os error 20)"
  | .isADirectory => "Is a directory (os error 21)"
  | .alreadyExists => "File exists (os error 17)"
  | .invalidFilename => "File name too long (os error 36)"
  | .invalidInput => "file name contained an unexpected NUL byte"
  | .invalidData => "stream did not contain valid UTF-8"

namespace Disk

def empty : Disk :=
  { entries := [], workingDirectory := [] }

def get? (disk : Disk) (location : Location) : Option Entry :=
  if location = [] then some .directory else disk.entries.lookup location

def isDirectory (disk : Disk) (location : Location) : Bool :=
  disk.get? location == some .directory

def erase (disk : Disk) (location : Location) : Disk :=
  { disk with entries := disk.entries.filter fun other => other.1 != location }

def set (disk : Disk) (location : Location) (entry : Entry) : Disk :=
  { disk with entries := (location, entry) :: (disk.erase location).entries }

/-- Removes what lies below a place. -/
def clear (disk : Disk) (location : Location) : Disk :=
  { disk with
    entries := disk.entries.filter fun other =>
      !location.isPrefixOf other.1 || other.1 == location }

/-- Names of more than 255 bytes are refused. -/
def nameLimit : Nat := 255

/-- Paths of 4096 bytes or more are refused. -/
def pathLimit : Nat := 4096

def origin (disk : Disk) (path : Path) : Location :=
  if path.isAbsolute then [] else disk.workingDirectory

/-- Follows the pieces of a path. Whatever another piece follows must be a directory, also if that
piece is silent. -/
def walk (disk : Disk) : Location → List String → Except DiskError Location
  | current, [] => .ok current
  | current, segment :: rest =>
    if !disk.isDirectory current then .error .notADirectory
    else if Path.isSilent segment then walk disk current rest
    else if segment = ".." then walk disk current.dropLast rest
    else if nameLimit < segment.utf8ByteSize then .error .invalidFilename
    else
      match disk.get? (current ++ [segment]) with
      | some _ => walk disk (current ++ [segment]) rest
      | none => .error .notFound

/-- What is wrong with a path before anything is looked up. -/
def checkText (path : Path) : Except DiskError Unit :=
  if path.segments.any fun segment => segment.toList.contains '\x00' then .error .invalidInput
  else if path.isEmpty then .error .notFound
  else if pathLimit ≤ path.text.utf8ByteSize then .error .invalidFilename
  else .ok ()

/-- The place that a path names, where something must be. -/
def locate (disk : Disk) (path : Path) : Except DiskError Location := do
  checkText path
  disk.walk (disk.origin path) path.segments

def exists? (disk : Disk) (path : Path) : Bool :=
  match disk.locate path with
  | .ok _ => true
  | .error _ => false

def isDirectoryPath (disk : Disk) (path : Path) : Bool :=
  match disk.locate path with
  | .ok location => disk.isDirectory location
  | .error _ => false

def checkName (name : String) : Except DiskError Unit :=
  if nameLimit < name.utf8ByteSize then .error .invalidFilename else .ok ()

/-- How a path ends that is about to be created. -/
inductive Target where
  /-- A name in a directory. -/
  | name (directory : Location) (text : String)
  /-- The root, or a place named by dots. -/
  | place

/-- Follows all pieces but the last one that is not empty. -/
def target (disk : Disk) (path : Path) : Except DiskError Target := do
  checkText path
  match path.segments.reverse.dropWhile (· == "") with
  | [] => return .place
  | last :: front => do
    let directory ← disk.walk (disk.origin path) front.reverse
    if !disk.isDirectory directory then .error .notADirectory
    else if last = "." ∨ last = ".." then return .place
    else return .name directory last

end Disk

end Datapack
