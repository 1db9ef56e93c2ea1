import Datapack.Disk.Operations
import Datapack.Pack.Layout

/-!
What a plugin does while its package is built. It can write below the package's directory and ask
whether a path exists.
-/

namespace Datapack

def writeFailure (path : Path) (cause : String) : String :=
  "failed to write " ++ path.text ++ ": " ++ cause

inductive PluginError where
  | unwritable (path : Path) (cause : DiskError)
  | outsidePackage (path : Path)
  | rejected (reason : String)
  deriving DecidableEq, Repr

def PluginError.message : PluginError → String
  | .unwritable path cause => writeFailure path cause.message
  | .outsidePackage path =>
    "refusing to write " ++ path.text ++ ": outside the package directory"
  | .rejected reason => "plugin rejected build: " ++ reason

/-- The file tree during a build, and the files written so far. -/
structure Work where
  disk : Disk
  written : List Path

namespace Work

def write (work : Work) (path : Path) (text : String) : Except DiskError Work := do
  let disk ← work.disk.write path text.toUTF8
  return { disk, written := work.written ++ [path] }

/-- Whether a path may be written for the package in a directory: it lies there and never goes
up. -/
def isInside (directory path : Path) : Bool :=
  !path.components.contains .up && path.startsWith directory

/-- Writes a file for a plugin, making missing directories first. -/
def writeInside (work : Work) (directory path : Path) (text : String) :
    Except PluginError Unit × Work :=
  if isInside directory path then
    match work.disk.ensureParent path with
    | (.error (parent, cause), disk) => (.error (.unwritable parent cause), { work with disk })
    | (.ok (), disk) =>
      match { work with disk }.write path text with
      | .ok work => (.ok (), work)
      | .error cause => (.error (.unwritable path cause), { work with disk })
  else (.error (.outsidePackage path), work)

end Work

/-- A plugin's actions. What comes next may depend on how an action went. -/
inductive Program where
  | finish (outcome : Except PluginError Unit)
  | write (path : Path) (text : String) (next : Except PluginError Unit → Program)
  | inspect (path : Path) (next : Bool → Program)

structure Attempt where
  path : Path
  text : String
  outcome : Except PluginError Unit

structure Run where
  outcome : Except PluginError Unit
  attempts : List Attempt
  work : Work

namespace Program

def run (directory : Path) : Program → Work → Run
  | .finish outcome, work => { outcome, attempts := [], work }
  | .write path text next, work =>
    let (outcome, work) := work.writeInside directory path text
    let rest := run directory (next outcome) work
    { rest with attempts := { path, text, outcome } :: rest.attempts }
  | .inspect path next, work => run directory (next (work.disk.exists? path)) work

def done : Program :=
  .finish (.ok ())

def reject (reason : String) : Program :=
  .finish (.error (.rejected reason))

def writeThen (path : Path) (text : String) (next : Program) : Program :=
  .write path text fun
    | .ok () => next
    | .error cause => .finish (.error cause)

end Program

/-- The text of a function: its lines with a line feed between them. -/
def functionText (lines : List String) : String :=
  "\n".intercalate lines

end Datapack
