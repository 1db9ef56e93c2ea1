import Datapack.Cli.Run

/-!
The program: takes a picture of the working directory, works on the picture, and then makes the
directory agree with it.
-/

namespace Datapack.Cli

/-- Adds a file, or a directory and all below it, to the picture. -/
partial def addToPicture (place : Location) (disk : Disk) (entry : IO.FS.DirEntry) : IO Disk := do
  let location := place ++ [entry.fileName]
  if ← entry.path.isDir then
    let mut picture := disk.set location .directory
    for inner in ← entry.path.readDir do
      picture ← addToPicture location picture inner
    return picture
  else return disk.set location (.file (← IO.FS.readBinFile entry.path))

def takePicture : IO Disk := do
  let directory ← IO.currentDir
  let place := directory.components.filter (· != "")
  let ancestors := (List.range place.length).map fun count => place.take (count + 1)
  let start : Disk :=
    { entries := ancestors.map fun location => (location, .directory), workingDirectory := place }
  (← directory.readDir).foldlM (addToPicture place) start

def realPath (location : Location) : String :=
  "/" ++ Disk.locationText location

def removeMissing (before after : Disk) : IO Unit :=
  for (location, entry) in before.entries do
    if (after.get? location).isNone then
      match entry with
      | .file _ => try IO.FS.removeFile (realPath location) catch _ => pure ()
      | .directory => try IO.FS.removeDirAll (realPath location) catch _ => pure ()

def addChanged (before after : Disk) : IO Unit :=
  for (location, entry) in after.entries do
    if before.get? location != some entry then
      match entry with
      | .file content =>
        IO.FS.createDirAll (realPath location.dropLast)
        IO.FS.writeBinFile (realPath location) content
      | .directory => IO.FS.createDirAll (realPath location)

end Datapack.Cli

def main (arguments : List String) : IO UInt32 := do
  let invocation := Datapack.Cli.Invocation.ofArguments arguments
  let before ← if invocation.usesFiles then Datapack.Cli.takePicture else pure .empty
  let outcome := invocation.run before
  Datapack.Cli.removeMissing before outcome.disk
  Datapack.Cli.addChanged before outcome.disk
  IO.print outcome.output
  unless outcome.complaint.isEmpty do IO.eprintln outcome.complaint
  return outcome.code
