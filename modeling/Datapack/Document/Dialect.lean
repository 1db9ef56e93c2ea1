import Datapack.Document.Basic
import Datapack.Number.Binary64

/-!
Reading documents as typed values, by the rules of the format they came from.
-/

namespace Datapack

open Number

/-- When a list may stand for a record, its items being the fields in order. -/
inductive ListForm where
  | refused
  /-- Further items are an error. -/
  | exact
  /-- Further items are ignored. -/
  | leading
  deriving DecidableEq, Repr

/-- What a format's values count as. -/
structure Dialect where
  natural? : String → Option Nat
  real? : String → Option Binary64
  listForm : ListForm

structure Field where
  name : String
  alternative : Option String := none

def Field.answersTo (field : Field) (key : String) : Bool :=
  key == field.name || some key == field.alternative

/-- A record type: its name and its fields in order. -/
structure Shape where
  name : String
  fields : List Field

/-- The values of a record's known fields, under the names of the shape. -/
abbrev Members := List (String × Document)

namespace Document

/-- A field's value. A field given twice, also once in each spelling, is an error. -/
def member? (fields : List (String × Document)) (field : Field) : Option Members :=
  match fields.filter fun (key, _) => field.answersTo key with
  | [] => some []
  | [(_, value)] => some [(field.name, value)]
  | _ => none

/-- The members of a record of a shape. A type's name, if given, must be the shape's; unknown
fields are ignored. -/
def members? (dialect : Dialect) (shape : Shape) : Document → Option Members
  | .record name fields =>
    if name = none ∨ name = some shape.name then
      (shape.fields.mapM (member? fields)).map List.flatten
    else none
  | .list items =>
    match dialect.listForm with
    | .refused => none
    | .exact =>
      if items.length ≤ shape.fields.length then some ((shape.fields.map Field.name).zip items)
      else none
    | .leading => some ((shape.fields.map Field.name).zip items)
  | _ => none

def text? : Document → Option String
  | .text value => some value
  | _ => none

def natural? (dialect : Dialect) (limit : Nat) : Document → Option Nat
  | .number literal => (dialect.natural? literal).filter (· < limit)
  | _ => none

def real? (dialect : Dialect) : Document → Option Binary64
  | .number literal => dialect.real? literal
  | _ => none

def listOf? {α : Type} (item? : Document → Option α) : Document → Option (List α)
  | .list items => items.mapM item?
  | _ => none

end Document

namespace Members

def required? {α : Type} (members : Members) (name : String) (read? : Document → Option α) :
    Option α :=
  (members.lookup name).bind read?

def withDefault? {α : Type} (members : Members) (name : String) (default : α)
    (read? : Document → Option α) : Option α :=
  match members.lookup name with
  | some document => read? document
  | none => some default

end Members

end Datapack
