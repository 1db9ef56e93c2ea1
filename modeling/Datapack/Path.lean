/-!
Paths as they are written. A path's text is kept as given; what it names is read off its
components.
-/

namespace Datapack

/-- The pieces between the slashes. A slash in front or behind leaves an empty piece there. -/
structure Path where
  segments : List String
  deriving DecidableEq, Repr

inductive Component where
  | root
  /-- A single dot in front of a relative path. -/
  | here
  | up
  | name (text : String)
  deriving DecidableEq, Repr

namespace Path

def splitSlashes : List Char → List (List Char)
  | [] => [[]]
  | '/' :: rest => [] :: splitSlashes rest
  | character :: rest =>
    match splitSlashes rest with
    | [] => [[character]]
    | first :: others => (character :: first) :: others

def ofString (text : String) : Path :=
  { segments := (splitSlashes text.toList).map String.ofList }

def text (path : Path) : String :=
  "/".intercalate path.segments

def empty : Path :=
  { segments := [""] }

def isEmpty (path : Path) : Bool :=
  path.segments == [""] || path.segments == []

def isAbsolute (path : Path) : Bool :=
  path.segments.head? == some "" && 1 < path.segments.length

def endsWithSlash (path : Path) : Bool :=
  path.segments.getLast? == some "" && 1 < path.segments.length

/-- The second path seen from the first one. An absolute path stays as it is. -/
def join (base path : Path) : Path :=
  if path.isAbsolute || base.isEmpty then path
  else if base.endsWithSlash then { segments := base.segments.dropLast ++ path.segments }
  else { segments := base.segments ++ path.segments }

def child (base : Path) (name : String) : Path :=
  base.join (ofString name)

/-- Empty pieces and single dots say nothing. -/
def isSilent (segment : String) : Bool :=
  segment == "" || segment == "."

def component? (segment : String) : Option Component :=
  if isSilent segment then none
  else if segment = ".." then some .up
  else some (.name segment)

/-- A single dot counts only in front. -/
def components (path : Path) : List Component :=
  match path.segments with
  | "" :: rest =>
    if rest = [] then [] else .root :: rest.filterMap component?
  | "." :: rest => .here :: rest.filterMap component?
  | segments => segments.filterMap component?

/-- Whether a path lies at or below another one, going by components alone. -/
def startsWith (path base : Path) : Bool :=
  base.components.isPrefixOf path.components

def trimEnd (segments : List String) : List String :=
  (segments.reverse.dropWhile isSilent).reverse

/-- Removes the last component and what is silent before and behind it. -/
def dropComponent? (segments : List String) : Option (List String) :=
  match trimEnd segments with
  | [] => none
  | segments => some (trimEnd segments.dropLast)

/-- The path without its last component. The root and the empty path have no parent. -/
def parent? (path : Path) : Option Path :=
  match path.segments with
  | "" :: rest =>
    (dropComponent? rest).map fun rest => { segments := "" :: (if rest = [] then [""] else rest) }
  | "." :: rest =>
    match dropComponent? rest with
    | some rest => some { segments := "." :: rest }
    | none => some empty
  | segments =>
    (dropComponent? segments).map fun rest => if rest = [] then empty else { segments := rest }

def fileName? (path : Path) : Option String :=
  match path.components.getLast? with
  | some (.name text) => some text
  | _ => none

/-- What follows the last dot of a name, unless that dot starts it. -/
def extensionOfName? (name : String) : Option String :=
  let backwards := name.toList.reverse
  let extension := backwards.takeWhile (· != '.')
  match backwards.dropWhile (· != '.') with
  | _ :: _ :: _ => some (String.ofList extension.reverse)
  | _ => none

def extension? (path : Path) : Option String :=
  path.fileName?.bind extensionOfName?

end Path

end Datapack
