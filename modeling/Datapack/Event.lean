import Datapack.Namespace

/-!
The moments at which the host runs a package, and the script for each.
-/

namespace Datapack

inductive Event where
  | load
  | unload
  | tick
  deriving DecidableEq, Repr

namespace Event

/-- Every event, in the order in which their files are written. -/
def all : List Event :=
  [.load, .unload, .tick]

def name : Event → String
  | .load => "load"
  | .unload => "unload"
  | .tick => "tick"

def ofName? (text : String) : Option Event :=
  all.find? fun event => event.name == text

/-- The host finds tagged events by itself; unloading is always asked for. -/
def isTagged : Event → Bool
  | .load => true
  | .unload => false
  | .tick => true

def unknownMessage (text : String) : String :=
  "unknown lifecycle event '" ++ text ++ "' (expected load, unload or tick)"

end Event

/-- The lines to run at each event. -/
abbrev Scripts := Event → List String

namespace Scripts

def empty : Scripts :=
  fun _ => []

def append (scripts : Scripts) (event : Event) (lines : List String) : Scripts :=
  fun other => if other = event then scripts other ++ lines else scripts other

/-- The script's text: its lines with a line feed between them. -/
def render (scripts : Scripts) (event : Event) : String :=
  "\n".intercalate (scripts event)

end Scripts

def reloadLines (namespaceName : Namespace) : List String :=
  [Event.unload, Event.load].map fun event => "function " ++ namespaceName.resource event.name

end Datapack
