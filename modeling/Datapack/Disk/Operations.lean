import Datapack.Disk.Basic

/-!
Reading, writing and removing by path.
-/

namespace Datapack.Disk

def makeDirectory (disk : Disk) (path : Path) : Except DiskError Disk := do
  match ← disk.target path with
  | .place => .error .alreadyExists
  | .name directory name => do
    checkName name
    match disk.get? (directory ++ [name]) with
    | some _ => .error .alreadyExists
    | none => return disk.set (directory ++ [name]) .directory

/-- Makes a directory, taking one that is there already. -/
def ensureDirectory (disk : Disk) (path : Path) : Except DiskError Disk :=
  match disk.makeDirectory path with
  | .ok disk => .ok disk
  | .error cause => if disk.isDirectoryPath path then .ok disk else .error cause

/-- Makes a directory after those of its ancestors that are missing. The paths are its own and its
ancestors', innermost first. -/
def ensureChain (disk : Disk) : List Path → Except DiskError Unit × Disk
  | [] => (.ok (), disk)
  | path :: ancestors =>
    match disk.ensureDirectory path with
    | .ok disk => (.ok (), disk)
    | .error .notFound =>
      match ensureChain disk ancestors with
      | (.ok (), disk) =>
        match disk.ensureDirectory path with
        | .ok disk => (.ok (), disk)
        | .error cause => (.error cause, disk)
      | failed => failed
    | .error cause => (.error cause, disk)

/-- The paths that end at one of the pieces, which are given backwards. -/
def chain : List String → List Path
  | [] => []
  | segment :: outer =>
    if Path.isSilent segment then chain outer
    else { segments := (segment :: outer).reverse } :: chain outer

/-- Makes every directory on a path. Those that were made before a failure stay. -/
def ensureDirectories (disk : Disk) (path : Path) : Except DiskError Unit × Disk :=
  disk.ensureChain (chain path.segments.reverse)

/-- Makes the directories that lead to a path. A failure names the parent. -/
def ensureParent (disk : Disk) (path : Path) : Except (Path × DiskError) Unit × Disk :=
  match path.parent? with
  | none => (.ok (), disk)
  | some parent =>
    match disk.ensureDirectories parent with
    | (.ok (), disk) => (.ok (), disk)
    | (.error cause, disk) => (.error (parent, cause), disk)

def write (disk : Disk) (path : Path) (content : ByteArray) : Except DiskError Disk := do
  match ← disk.target path with
  | .place => .error .isADirectory
  | .name directory name => do
    if path.endsWithSlash then .error .isADirectory
    checkName name
    if disk.isDirectory (directory ++ [name]) then .error .isADirectory
    return disk.set (directory ++ [name]) (.file content)

def read (disk : Disk) (path : Path) : Except DiskError ByteArray := do
  let location ← disk.locate path
  match disk.get? location with
  | some (.file content) => return content
  | some .directory => .error .isADirectory
  | none => .error .notFound

def readText (disk : Disk) (path : Path) : Except DiskError String := do
  let content ← disk.read path
  match String.fromUTF8? content with
  | some text => return text
  | none => .error .invalidData

/-- Removes the empty directory that a path names. A directory named by dots stays. -/
def removeEmpty (disk : Disk) (path : Path) : Disk :=
  match disk.target path with
  | .ok (.name directory name) => disk.erase (directory ++ [name])
  | _ => disk

/-- Removes a directory and all below it; a file stays. The directory itself goes last, and stays
if its path led through what is gone by then. -/
def removeTree (disk : Disk) (path : Path) : Disk :=
  match disk.locate path with
  | .ok location =>
    if disk.isDirectory location then (disk.clear location).removeEmpty path else disk
  | .error _ => disk

def locationText (location : Location) : String :=
  "/".intercalate location

/-- The files below a place with their contents, and its empty directories with a slash behind,
sorted by their bytes. -/
def listing (disk : Disk) (place : Location) : List (String × Option ByteArray) :=
  let below := disk.entries.filter fun (location, _) =>
    place.isPrefixOf location && location != place
  let lines := below.filterMap fun (location, entry) =>
    let text := locationText (location.drop place.length)
    match entry with
    | .file content => some (text, some content)
    | .directory =>
      if below.any fun (other, _) => location.isPrefixOf other && other != location then none
      else some (text ++ "/", none)
  lines.mergeSort fun first second => first.1 ≤ second.1

end Datapack.Disk
