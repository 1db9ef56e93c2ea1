import Datapack.Event
import Datapack.Path

/-!
The command line's arguments and what they ask for.
-/

namespace Datapack.Cli

inductive Invocation where
  | build (packDirectory outputRoot : Path)
  | render (packDirectory : Path) (event : Event)
  | version
  | help
  /-- The arguments make no sense. -/
  | misuse
  deriving DecidableEq, Repr

def Invocation.usesFiles : Invocation → Bool
  | .build .. => true
  | .render .. => true
  | _ => false

inductive Verb where
  | build
  | render
  deriving DecidableEq, Repr

def Verb.ofName? (name : String) : Option Verb :=
  if name = "build" then some .build
  else if name = "render" then some .render
  else none

def Verb.valueCount : Verb → Nat
  | .build => 1
  | .render => 2

structure Arguments where
  verb : Option Verb := none
  values : List String := []
  output : Option String := none
  /-- The option for the output waits for its value. -/
  awaitsOutput : Bool := false
  /-- All further arguments are values. -/
  valuesOnly : Bool := false
  /-- What help was asked about, if it was. -/
  topics : Option (List String) := none

/-- Reading goes on, or the answer is settled. -/
inductive Reading where
  | going (arguments : Arguments)
  | settled (invocation : Invocation)

namespace Reading

def misuse : Reading :=
  .settled .misuse

def setOutput (arguments : Arguments) (value : String) : Reading :=
  if value = "" ∨ arguments.output.isSome then misuse
  else .going { arguments with output := some value, awaitsOutput := false }

/-- Takes a value that stands by itself: the verb first, then what the verb needs. -/
def value (arguments : Arguments) (text : String) : Reading :=
  match arguments.verb with
  | none =>
    if arguments.valuesOnly then misuse
    else if text = "help" then .going { arguments with topics := some [] }
    else
      match Verb.ofName? text with
      | some verb => .going { arguments with verb := some verb }
      | none => misuse
  | some verb =>
    if verb.valueCount ≤ arguments.values.length then misuse
    else if text = "" then misuse
    else if arguments.values.length = 1 ∧ Event.ofName? text = none then misuse
    else .going { arguments with values := arguments.values ++ [text] }

def versionFlag (arguments : Arguments) : Reading :=
  if arguments.verb = none then .settled .version else misuse

/-- An option for the output is known only to the verb that writes. -/
def outputFlag (arguments : Arguments) : Reading :=
  if arguments.verb = some .build then
    if arguments.output.isSome then misuse
    else .going { arguments with awaitsOutput := true }
  else misuse

/-- Takes short options that share one dash. What follows the option for the output is its
value. -/
def shortFlags (arguments : Arguments) : List Char → Reading
  | [] => .going arguments
  | 'd' :: flags => shortFlags arguments flags
  | 'h' :: _ => .settled .help
  | 'V' :: _ => versionFlag arguments
  | 'o' :: rest =>
    match outputFlag arguments, rest with
    | .going arguments, [] => .going arguments
    | .going arguments, '=' :: text => setOutput arguments (String.ofList text)
    | .going arguments, text => setOutput arguments (String.ofList text)
    | refused, _ => refused
  | _ => misuse

/-- Takes an option spelled out, perhaps with a value behind an equals sign. -/
def longFlag (arguments : Arguments) (text : List Char) : Reading :=
  let name := String.ofList (text.takeWhile (· != '='))
  match name, text.dropWhile (· != '=') with
  | "debug", [] => .going arguments
  | "help", [] => .settled .help
  | "version", [] => versionFlag arguments
  | "out", [] => outputFlag arguments
  | "out", _ :: text =>
    match outputFlag arguments with
    | .going arguments => setOutput arguments (String.ofList text)
    | refused => refused
  | _, _ => misuse

def next (reading : Reading) (text : String) : Reading :=
  match reading with
  | .settled invocation => .settled invocation
  | .going arguments =>
    match arguments.topics with
    | some topics => .going { arguments with topics := some (topics ++ [text]) }
    | none =>
      match arguments.awaitsOutput, arguments.valuesOnly, text.toList with
      | true, _, '-' :: _ :: _ => misuse
      | true, _, _ => setOutput arguments text
      | false, true, _ => value arguments text
      | false, false, ['-', '-'] => .going { arguments with valuesOnly := true }
      | false, false, '-' :: '-' :: name => longFlag arguments name
      | false, false, '-' :: flag :: flags => shortFlags arguments (flag :: flags)
      | false, false, _ => value arguments text

end Reading

def defaultOutput : String := "build"

/-- Help is there for the whole, for a verb, and for itself. -/
def helpAbout : List String → Invocation
  | [] => .help
  | [topic] => if topic = "help" ∨ (Verb.ofName? topic).isSome then .help else .misuse
  | _ => .misuse

def Arguments.invocation (arguments : Arguments) : Invocation :=
  if arguments.awaitsOutput then .misuse
  else if let some topics := arguments.topics then helpAbout topics
  else
    match arguments.verb, arguments.values with
    | some .build, [directory] =>
      .build (Path.ofString directory) (Path.ofString (arguments.output.getD defaultOutput))
    | some .render, [directory, name] =>
      match Event.ofName? name with
      | some event => .render (Path.ofString directory) event
      | none => .misuse
    | _, _ => .misuse

def Invocation.ofArguments (arguments : List String) : Invocation :=
  match arguments.foldl Reading.next (.going {}) with
  | .settled invocation => invocation
  | .going arguments => arguments.invocation

end Datapack.Cli
