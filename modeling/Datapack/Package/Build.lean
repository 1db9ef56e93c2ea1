import Datapack.Pack.Metadata
import Datapack.Package.Basic

/-!
Writing a package. Its own files come first, then every plugin runs; after a failure the whole
directory is removed.
-/

namespace Datapack

inductive BuildError where
  | unwritable (path : Path) (cause : DiskError)
  | pluginsFailed (names : List String)
  deriving DecidableEq, Repr

def pluginsFailedMessage (names : List String) : String :=
  "plugins failed to build: " ++ ", ".intercalate names

def BuildError.message : BuildError → String
  | .unwritable path cause => writeFailure path cause.message
  | .pluginsFailed names => pluginsFailedMessage names

structure BuildReport where
  directory : Path
  files : List Path
  plugins : List String
  deriving DecidableEq, Repr

/-- A build's result, the file tree it leaves, and what each plugin that ran tried to write. -/
structure Build where
  result : Except BuildError BuildReport
  disk : Disk
  attempts : List (List Attempt)

def reloadFunctionName : String := "reload"

namespace Package

/-- The files of one event: a tag for the host if it is tagged, and its script. -/
def eventFiles (package : Package) (layout : PackLayout) (event : Event) :
    List (Path × String) :=
  let tag := (layout.tagPath event.name, tagText (package.namespaceName.resource event.name))
  let script := (layout.functionPath event.name, package.scripts.render event)
  if event.isTagged then [tag, script] else [script]

/-- The package's own files in the order in which they are written. -/
def files (package : Package) (layout : PackLayout) : List (Path × String) :=
  (layout.metadataPath, metadataText package.displayName) ::
    Event.all.flatMap (package.eventFiles layout) ++
    [(layout.functionPath reloadFunctionName, functionText (reloadLines package.namespaceName))]

end Package

namespace Work

def makeDirectories : List Path → Work → Except BuildError Unit × Work
  | [], work => (.ok (), work)
  | path :: paths, work =>
    match work.disk.ensureDirectories path with
    | (.ok (), disk) => makeDirectories paths { work with disk }
    | (.error cause, disk) => (.error (.unwritable path cause), { work with disk })

def writeFiles : List (Path × String) → Work → Except BuildError Unit × Work
  | [], work => (.ok (), work)
  | (path, text) :: files, work =>
    match work.write path text with
    | .ok work => writeFiles files work
    | .error cause => (.error (.unwritable path cause), work)

def writePackage (package : Package) (layout : PackLayout) (work : Work) :
    Except BuildError Unit × Work :=
  match work.makeDirectories [layout.tagDirectory, layout.functionDirectory] with
  | (.ok (), work) => work.writeFiles (package.files layout)
  | failed => failed

/-- Runs every plugin, also after one has failed. -/
def runPlugins (layout : PackLayout) : List Plugin → Work → List String × List (List Attempt) × Work
  | [], work => ([], [], work)
  | plugin :: plugins, work =>
    let run := (plugin.program layout).run layout.directory work
    let (failed, attempts, work) := runPlugins layout plugins run.work
    match run.outcome with
    | .ok () => (failed, run.attempts :: attempts, work)
    | .error _ => (plugin.name :: failed, run.attempts :: attempts, work)

end Work

def rollBack (layout : PackLayout) (disk : Disk) : Disk :=
  if disk.exists? layout.directory then disk.removeTree layout.directory else disk

def Package.build (package : Package) (outputRoot : Path) (disk : Disk) : Build :=
  let layout := PackLayout.within outputRoot package.namespaceName
  match Work.writePackage package layout { disk, written := [] } with
  | (.error cause, work) =>
    { result := .error cause, disk := rollBack layout work.disk, attempts := [] }
  | (.ok (), work) =>
    let (failed, attempts, work) := work.runPlugins layout package.plugins
    if failed = [] then
      { result := .ok {
          directory := layout.directory
          files := work.written
          plugins := package.pluginNames }
        disk := work.disk
        attempts }
    else { result := .error (.pluginsFailed failed), disk := rollBack layout work.disk, attempts }

end Datapack
