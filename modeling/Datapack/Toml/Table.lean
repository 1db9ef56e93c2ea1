import Datapack.Document.Basic

/-!
Tables under construction, with what decides whether more may be added to them.
-/

namespace Datapack.Toml

/-- How a table came to be. -/
inductive Origin where
  /-- By a header of its own, or as an element of an array of tables. -/
  | header
  /-- As part of the path in a header of another table. -/
  | implied
  /-- By a key with dots. -/
  | dotted
  deriving DecidableEq, Repr

inductive Node where
  | value (document : Document)
  | table (origin : Origin) (entries : List (String × Node))
  /-- An array of tables, the newest first. -/
  | tables (elements : List (List (String × Node)))

abbrev Entries := List (String × Node)

namespace Entries

def replace (entries : Entries) (key : String) (node : Node) : Entries :=
  entries.map fun (other, current) => if other == key then (other, node) else (other, current)

def insert? (entries : Entries) (key : String) (node : Node) : Option Entries :=
  match entries.lookup key with
  | some _ => none
  | none => some (entries ++ [(key, node)])

/-- Changes the table at the end of a path, adding the tables that are missing on the way. Arrays
of tables are entered at their newest element. Keys with dots do not enter tables that have a
header. -/
def change? (isDotted : Bool) (action : Origin → Entries → Option Entries) :
    List String → Origin → Entries → Option Entries
  | [], origin, entries => action origin entries
  | key :: path, _, entries =>
    match entries.lookup key with
    | none => do
      let origin := if isDotted then .dotted else .implied
      let inner ← change? isDotted action path origin []
      return entries ++ [(key, .table origin inner)]
    | some (.table origin inner) =>
      if isDotted ∧ origin = .header then none
      else do
        let inner ← change? isDotted action path origin inner
        return entries.replace key (.table origin inner)
    | some (.tables (newest :: older)) => do
      let newest ← change? isDotted action path .header newest
      return entries.replace key (.tables (newest :: older))
    | some _ => none

/-- Adds a value under a key with dots. The last table on the way must not have been made in
another way. -/
def add? (path : List String) (key : String) (value : Document) (entries : Entries) :
    Option Entries :=
  change? true
    (fun origin entries =>
      if origin = .dotted ∨ path = [] then entries.insert? key (.value value) else none)
    path .header entries

/-- Opens the table of a header. It may be implied by an earlier header but not be there
otherwise. -/
def openTable? (path : List String) (key : String) (entries : Entries) : Option Entries :=
  change? false
    (fun _ entries =>
      match entries.lookup key with
      | none => some (entries ++ [(key, .table .header [])])
      | some (.table .implied inner) => some (entries.replace key (.table .header inner))
      | some _ => none)
    path .header entries

def openElement? (path : List String) (key : String) (entries : Entries) : Option Entries :=
  change? false
    (fun _ entries =>
      match entries.lookup key with
      | none => some (entries ++ [(key, .tables [[]])])
      | some (.tables elements) => some (entries.replace key (.tables ([] :: elements)))
      | some _ => none)
    path .header entries

end Entries

mutual

def nodeDocument : Node → Document
  | .value document => document
  | .table _ entries => .record none (entryDocuments entries)
  | .tables elements => .list (elementDocuments elements).reverse

def entryDocuments : List (String × Node) → List (String × Document)
  | [] => []
  | (key, node) :: entries => (key, nodeDocument node) :: entryDocuments entries

def elementDocuments : List (List (String × Node)) → List Document
  | [] => []
  | entries :: elements => .record none (entryDocuments entries) :: elementDocuments elements

end

end Datapack.Toml
