import Datapack.Economy.Layout
import Datapack.Proofs.Host.Basic
import Mathlib.Algebra.Group.Nat.Defs

/-!
Functions with places to fill, as a player runs them. A line is read first and filled afterwards, so
whatever a caller passes stays in its place. Of the player only three things count here: what is
held, the scores, and the messages received.
-/

namespace Datapack

/-- How a value is put into a line: strings without their quotes. -/
def Snbt.inserted : Snbt → String
  | .string value => value
  | value => value.text

namespace Macro

inductive Mark where
  | plain (character : Char)
  | hole (key : String)
  deriving DecidableEq

/-- Finds the places `$(key)` in a line. The characters of a key that is being read are kept, the
last one first. -/
def scan : Option (List Char) → List Char → List Mark
  | none, '$' :: '(' :: rest => scan (some []) rest
  | none, character :: rest => .plain character :: scan none rest
  | some key, ')' :: rest => .hole (String.ofList key.reverse) :: scan none rest
  | some key, character :: rest => scan (some (character :: key)) rest
  | _, [] => []

def after? : List Char → List Mark → Option (List Mark)
  | [], line => some line
  | expected :: text, .plain character :: line =>
    if character = expected then after? text line else none
  | _ :: _, _ => none

def word (line : List Mark) : List Mark × List Mark :=
  (line.takeWhile (· != .plain ' '), line.dropWhile (· != .plain ' '))

inductive Deed where
  | give (item count : List Mark)
  | clear (item count : List Mark)
  | tell (message : List Mark)
  deriving DecidableEq

inductive Line where
  | count (objective item : List Mark)
  /-- Acts if a score lies in a range, or unless it does. -/
  | guarded (inside : Bool) (objective range : List Mark) (deed : Deed)
  deriving DecidableEq

def readStack? (line : List Mark) : Option (List Mark × List Mark) := do
  let (item, line) := word line
  let count ← after? [' '] line
  return (item, count)

def readDeed? (line : List Mark) : Option Deed :=
  match after? "give @s ".toList line with
  | some line => do
    let (item, count) ← readStack? line
    return .give item count
  | none =>
    match after? "clear @s ".toList line with
    | some line => do
      let (item, count) ← readStack? line
      return .clear item count
    | none => (after? "tellraw @s ".toList line).map .tell

/-- The range that a score is compared with, and the deed behind it. -/
def readGuarded? (inside : Bool) (line : List Mark) : Option Line := do
  let (objective, line) := word line
  let line ← after? " matches ".toList line
  let (range, line) := word line
  let line ← after? " run ".toList line
  let deed ← readDeed? line
  return .guarded inside objective range deed

def readCount? (line : List Mark) : Option Line := do
  let (objective, line) := word line
  let item ← after? " if items entity @s container.* ".toList line
  return .count objective item

def readCommand? (line : List Mark) : Option Line := do
  let line ← after? "execute ".toList line
  match after? "store result score @s ".toList line with
  | some line => readCount? line
  | none =>
    match after? "if score @s ".toList line with
    | some line => readGuarded? true line
    | none => do
      let line ← after? "unless score @s ".toList line
      readGuarded? false line

/-- A line with places to fill starts with a dollar sign. -/
def read? (line : String) : Option Line :=
  match line.toList with
  | '$' :: characters => readCommand? (scan none characters)
  | _ => none

section Filling

variable (arguments : List (String × Snbt))

/-- The text of a line with its places filled. A place without an argument cannot be filled. -/
def filled? : List Mark → Option String
  | [] => some ""
  | .plain character :: line => do
    let rest ← filled? line
    return String.singleton character ++ rest
  | .hole key :: line => do
    let value ← Snbt.entry? arguments key
    let rest ← filled? line
    return value.inserted ++ rest

/-- A line with its places filled. Only a line that starts with a dollar sign has places. -/
def expand? (line : String) : Option String :=
  match line.toList with
  | '$' :: characters => filled? arguments (scan none characters)
  | _ => some line

def number? : List Mark → Option Nat
  | [.hole key] =>
    match Snbt.entry? arguments key with
    | some (.int value) =>
      if 0 ≤ value ∧ value ≤ Economy.largestScore then some value.toNat else none
    | _ => none
  | _ => none

def least? : List Mark → Option Nat
  | [least, .plain '.', .plain '.'] => number? arguments [least]
  | _ => none

end Filling

end Macro

structure Player where
  holdings : String → Nat
  scores : String → Option Int
  messages : List String

namespace Player

/-- Scores are numbers of 32 bits. -/
def setScore (player : Player) (objective : String) (value : Nat) : Player :=
  { player with
    scores := Function.update player.scores objective (some (Int.bmod value 4294967296)) }

def reaches (player : Player) (objective : String) (least : Nat) : Bool :=
  (player.scores objective).any fun score => (least : Int) ≤ score

def give (player : Player) (item : String) (count : Nat) : Player :=
  { player with
    holdings := Function.update player.holdings item (player.holdings item + count) }

/-- Takes as many items as asked for, or all there are. -/
def clear (player : Player) (item : String) (count : Nat) : Player :=
  { player with
    holdings := Function.update player.holdings item
      (player.holdings item - min count (player.holdings item)) }

def tell (player : Player) (message : String) : Player :=
  { player with messages := player.messages ++ [message] }

@[simp]
theorem reaches_give (player : Player) (item : String) (count : Nat) :
    (player.give item count).reaches = player.reaches := rfl

@[simp]
theorem reaches_tell (player : Player) (message : String) :
    (player.tell message).reaches = player.reaches := rfl

theorem reaches_setScore (player : Player) (objective : String) {count : Nat}
    (small : count < 2 ^ 31) (least : Nat) :
    (player.setScore objective count).reaches objective least = decide (least ≤ count) := by
  have kept : Int.bmod count 4294967296 = count := Int.bmod_eq_of_le (by omega) (by omega)
  simp [setScore, reaches, kept]

end Player

namespace Macro

variable (arguments : List (String × Snbt))

def Deed.run? (player : Player) : Deed → Option Player
  | .give item count => do
    let item ← filled? arguments item
    let count ← number? arguments count
    return player.give item count
  | .clear item count => do
    let item ← filled? arguments item
    let count ← number? arguments count
    return player.clear item count
  | .tell message => do
    let message ← filled? arguments message
    return player.tell message

/-- What a line leaves of a player. All its places are filled first, also if it then does
nothing. -/
def Line.run? (player : Player) : Line → Option Player
  | .count objective item => do
    let objective ← filled? arguments objective
    let item ← filled? arguments item
    return player.setScore objective (player.holdings item)
  | .guarded inside objective range deed => do
    let objective ← filled? arguments objective
    let least ← least? arguments range
    let changed ← deed.run? arguments player
    return if player.reaches objective least = inside then changed else player

/-- Runs a function, line by line. Nothing comes of one with a line that cannot be read or
filled. -/
def call? (lines : List String) (arguments : Snbt) (player : Player) : Option Player :=
  lines.foldlM (fun player line => do
    let line ← read? line
    line.run? arguments.entries player) player

section Reading

def literal (text : String) : List Mark :=
  text.toList.map .plain

@[simp]
theorem literal_append (first second : String) :
    literal (first ++ second) = literal first ++ literal second := by
  simp [literal]

theorem scan_fixed {text : List Char} (fixed : '$' ∉ text) (rest : List Char) :
    scan none (text ++ rest) = text.map .plain ++ scan none rest := by
  induction text with
  | nil => rfl
  | cons character text inductionHypothesis =>
    rw [List.mem_cons, not_or] at fixed
    have next := inductionHypothesis fixed.2
    rw [List.cons_append, scan]
    · rw [next]
      rfl
    · intro further same
      exact absurd same.symm fixed.1

theorem after?_append (text : List Char) (rest : List Mark) :
    after? text (text.map .plain ++ rest) = some rest := by
  induction text with
  | nil => rfl
  | cons character text inductionHypothesis =>
    rw [List.map_cons, List.cons_append, after?, if_pos rfl]
    exact inductionHypothesis

@[simp]
theorem after?_literal (text : String) (rest : List Mark) :
    after? text.toList (literal text ++ rest) = some rest :=
  after?_append text.toList rest

theorem word_append (front rest : List Mark) (whole : .plain ' ' ∉ front)
    (blank : rest.head? = some (.plain ' ')) : word (front ++ rest) = (front, rest) := by
  have inner : ∀ mark ∈ front, (mark != .plain ' ') = true := by
    intro mark member
    rw [bne_iff_ne]
    rintro rfl
    exact whole member
  cases rest with
  | nil => cases blank
  | cons mark rest =>
    obtain rfl := Option.some.inj blank
    rw [word, List.takeWhile_append_of_pos inner, List.dropWhile_append_of_pos inner]
    simp

@[simp]
theorem filled?_literal (arguments : List (String × Snbt)) (text : String) (rest : List Mark) :
    filled? arguments (literal text ++ rest) = (filled? arguments rest).map (text ++ ·) := by
  have characters : ∀ characters : List Char,
      filled? arguments (characters.map .plain ++ rest) =
        (filled? arguments rest).map (String.ofList characters ++ ·) := by
    intro characters
    induction characters with
    | nil => simp
    | cons character characters inductionHypothesis =>
      rw [List.map_cons, List.cons_append, filled?, inductionHypothesis]
      cases filled? arguments rest with
      | none => rfl
      | some text => simp [← String.append_assoc, String.ofList_cons]
  rw [literal, characters, String.ofList_toList]

@[simp]
theorem filled?_text (arguments : List (String × Snbt)) (text : String) :
    filled? arguments (literal text) = some text := by
  have filled := filled?_literal arguments text []
  rwa [List.append_nil, filled?, Option.map_some, String.append_empty] at filled

end Reading

end Macro

end Datapack
