import Mathlib.Logic.Function.Iterate
import Datapack.Command.Basic

/-!
What a host does with instructions: the scores it keeps, the entities it holds and the data it
stores.

No players are present. The player selector finds nobody, and the instructions that act on a
player's screen or inventory change nothing.
-/

namespace Datapack

namespace Snbt

/-- The value under a key of a compound; of a repeated key, the last one counts. -/
def entry? (entries : List (String × Snbt)) (key : String) : Option Snbt :=
  entries.reverse.lookup key

def setEntry (entries : List (String × Snbt)) (key : String) (value : Snbt) :
    List (String × Snbt) :=
  entries.filter (fun entry => entry.1 != key) ++ [(key, value)]

def entries : Snbt → List (String × Snbt)
  | .compound entries => entries
  | _ => []

def string? : Snbt → Option String
  | .string value => some value
  | _ => none

end Snbt

structure Entity where
  kind : String
  position : Position
  entries : List (String × Snbt)
  alive : Bool := true

namespace Entity

def tags (entity : Entity) : List String :=
  match Snbt.entry? entity.entries "Tags" with
  | some (.list names) => names.filterMap Snbt.string?
  | _ => []

/-- Selectors find only the living. -/
def answersTo (entity : Entity) (tag : String) : Bool :=
  entity.alive && entity.tags.contains tag

def fill (value : Snbt) (entity : Entity) : Entity :=
  { entity with entries := Snbt.setEntry entity.entries "Items" value }

def die (entity : Entity) : Entity :=
  { entity with alive := false }

mutual

/-- The entity that a compound describes, and everything that rides on it. -/
def withRiders (kind : String) (position : Position) : Snbt → List Entity
  | .compound entries => { kind, position, entries } :: riders position entries
  | _ => []

def riders (position : Position) : List (String × Snbt) → List Entity
  | [] => []
  | (key, value) :: entries =>
    if key = "Passengers" ∧ Snbt.entry? entries "Passengers" = none then seated position value
    else riders position entries

def seated (position : Position) : Snbt → List Entity
  | .list passengers => seatedOneByOne position passengers
  | _ => []

/-- A passenger names its own kind. -/
def seatedOneByOne (position : Position) : List Snbt → List Entity
  | [] => []
  | passenger :: passengers =>
    match passenger with
    | .compound entries =>
      match Snbt.entry? entries "id" with
      | some (.string kind) =>
        withRiders kind position passenger ++ seatedOneByOne position passengers
      | _ => seatedOneByOne position passengers
    | _ => seatedOneByOne position passengers

end

end Entity

structure Drop where
  holder : String
  count : Int
  entities : List Entity

/-- Objectives with the scores in them, stored data, and every entity that was ever summoned: an
entity keeps its place in the list when others die. -/
structure Host where
  objectives : String → Option (String → Option Int)
  entities : List Entity
  storage : String → String → Option Snbt

namespace Host

def score? (host : Host) (objective holder : String) : Option Int :=
  (host.objectives objective).bind fun scores => scores holder

def addObjective (host : Host) (objective : String) : Host :=
  match host.objectives objective with
  | some _ => host
  | none =>
    { host with objectives := Function.update host.objectives objective (some fun _ => none) }

def removeObjective (host : Host) (objective : String) : Host :=
  { host with objectives := Function.update host.objectives objective none }

/-- Without the objective nothing happens. -/
def setScore (host : Host) (objective holder : String) (value : Int) : Host :=
  match host.objectives objective with
  | some scores =>
    { host with
      objectives := Function.update host.objectives objective
        (some (Function.update scores holder (some value))) }
  | none => host

/-- A holder without a score counts from zero. -/
def addScore (host : Host) (objective holder : String) (value : Int) : Host :=
  host.setScore objective holder ((host.score? objective holder).getD 0 + value)

def store (host : Host) (name path : String) (value : Snbt) : Host :=
  { host with
    storage := Function.update host.storage name
      (Function.update (host.storage name) path (some value)) }

def changeAt (host : Host) (place : Nat) (change : Entity → Entity) : Host :=
  { host with entities := host.entities.modify place change }

def carriers (host : Host) (tag : String) : List Nat :=
  (List.range host.entities.length).filter fun place =>
    host.entities[place]?.any fun entity => entity.answersTo tag

def selected (host : Host) : Selector → List Nat
  | .tagged tag => host.carriers tag
  | .everyPlayer => []

/-- For whom an instruction goes on behind a clause. An actor is an entity's place, or nobody. -/
def advance (host : Host) (actor : Option Nat) : Clause → List (Option Nat)
  | .as selector => (host.selected selector).map some
  | .atSelf => [actor]
  | .scoreAtLeast holder objective least =>
    if (host.score? objective holder).any fun score => (least : Int) ≤ score then [actor] else []
  | .holds _ _ => []

def actors (host : Host) (clauses : List Clause) (actor : Option Nat) : List (Option Nat) :=
  clauses.foldl (fun reached clause => reached.flatMap fun actor => host.advance actor clause)
    [actor]

end Host

namespace Command

def summoned : Command → List Entity
  | .summon kind position data => Entity.withRiders kind position data
  | _ => []

def run : Command → Option Nat → Host → Host
  | .addObjective objective, _, host => host.addObjective objective
  | .removeObjective objective, _, host => host.removeObjective objective
  | .setScore holder objective value, _, host => host.setScore objective holder value
  | .addScore holder objective value, _, host => host.addScore objective holder value
  | .summon kind position data, _, host =>
    { host with entities := host.entities ++ Entity.withRiders kind position data }
  | .store name path value, _, host => host.store name path value
  | .kill selector, _, host =>
    (host.selected selector).foldl (fun host place => host.changeAt place Entity.die) host
  | .fillItems name path, some place, host =>
    match host.storage name path with
    | some value => host.changeAt place (Entity.fill value)
    | none => host
  | .execute clauses command, actor, host =>
    (host.actors clauses actor).foldl (fun host actor => command.run actor host) host
  | _, _, host => host

/-- A script: one instruction after the other, run by nobody in particular. -/
def runAll (lines : List Command) (host : Host) : Host :=
  lines.foldl (fun host line => line.run none host) host

/-- Every line together with the host that it is run on. -/
def moments : List Command → Host → List (Host × Command)
  | [], _ => []
  | line :: lines, host => (host, line) :: moments lines (line.run none host)

def drop? : Host × Command → Option Drop
  | (host, .execute [.scoreAtLeast holder objective least] (.summon kind position data)) =>
    (host.score? objective holder).bind fun count =>
      if (least : Int) ≤ count then
        some { holder, count, entities := Entity.withRiders kind position data }
      else none
  | _ => none

/-- The drops of a script that is run over and over, each with the number of its run. -/
def drops (lines : List Command) (host : Host) : Nat → List (Nat × Drop)
  | 0 => []
  | runs + 1 =>
    drops lines host runs ++
      ((moments lines ((runAll lines)^[runs] host)).filterMap drop?).map fun drop =>
        (runs + 1, drop)

def isRemark : Command → Bool
  | .comment _ => true
  | _ => false

def isHeading (heading : String) : Command → Bool
  | .comment remark => remark == heading
  | _ => false

def under (heading : String) (lines : List Command) : List Command :=
  ((lines.dropWhile fun line => !line.isHeading heading).drop 1).takeWhile fun line =>
    !line.isRemark

end Command

end Datapack
