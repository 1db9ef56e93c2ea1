import Datapack.Document.Dialect
import Datapack.Json.Token

/-!
Reading JSON. Open lists and records are kept on a stack, so values may nest to any depth.
-/

namespace Datapack.Json

open Number

/-- An open list or record; what it holds so far is kept backwards. -/
inductive Frame where
  | list (items : List Document)
  | record (fields : List (Option String × Document)) (key : Option String)

inductive Expected where
  | value
  | firstItem
  | key
  | firstKey
  | colon
  /-- The end of the text, or what follows a value in the innermost frame. -/
  | afterValue (value : Document)

structure Progress where
  frames : List Frame
  expected : Expected

/-- The record of these fields. If a key has no content no record can be made of them. -/
def recordOf (fields : List (Option String × Document)) : Document :=
  match fields.mapM fun (key, value) => key.map fun key => (key, value) with
  | some fields => .object fields
  | none => .other

def value? (frames : List Frame) : Token → Option Progress
  | .openList => some ⟨.list [] :: frames, .firstItem⟩
  | .openRecord => some ⟨.record [] none :: frames, .firstKey⟩
  | .null => some ⟨frames, .afterValue .other⟩
  | .flag value => some ⟨frames, .afterValue (.flag value)⟩
  | .number literal => some ⟨frames, .afterValue (.number literal)⟩
  | .text (some content) => some ⟨frames, .afterValue (.text content)⟩
  | .text none => some ⟨frames, .afterValue .other⟩
  | _ => none

def key? (frames : List Frame) : Token → Option Progress
  | .text key =>
    match frames with
    | .record fields _ :: outer => some ⟨.record fields key :: outer, .colon⟩
    | _ => none
  | _ => none

def continue? (frames : List Frame) (value : Document) (token : Token) : Option Progress :=
  match frames, token with
  | .list items :: outer, .comma => some ⟨.list (value :: items) :: outer, .value⟩
  | .list items :: outer, .closeList =>
    some ⟨outer, .afterValue (.list (value :: items).reverse)⟩
  | .record fields key :: outer, .comma =>
    some ⟨.record ((key, value) :: fields) none :: outer, .key⟩
  | .record fields key :: outer, .closeRecord =>
    some ⟨outer, .afterValue (recordOf ((key, value) :: fields).reverse)⟩
  | _, _ => none

def Progress.step? (progress : Progress) (token : Token) : Option Progress :=
  match progress.expected with
  | .value => value? progress.frames token
  | .firstItem =>
    match progress.frames, token with
    | .list _ :: outer, .closeList => some ⟨outer, .afterValue (.list [])⟩
    | frames, token => value? frames token
  | .key => key? progress.frames token
  | .firstKey =>
    match progress.frames, token with
    | .record .. :: outer, .closeRecord => some ⟨outer, .afterValue (.object [])⟩
    | frames, token => key? frames token
  | .colon => if token = .colon then some ⟨progress.frames, .value⟩ else none
  | .afterValue value => continue? progress.frames value token

def Progress.finish? : Progress → Option Document
  | ⟨[], .afterValue value⟩ => some value
  | _ => none

def documentOfTokens? (tokens : List Token) : Option Document :=
  (tokens.foldlM Progress.step? ⟨[], .value⟩).bind Progress.finish?

def read? (text : String) : Option Document :=
  (tokens? text.toList).bind documentOfTokens?

def natural? (literal : String) : Option Nat := do
  let literal ← literal? literal.toList
  if literal.sign.isNone && literal.isWhole then some (naturalOfDigits literal.whole) else none

/-- A number too large for the type is an error. -/
def real? (literal : String) : Option Binary64 := do
  let literal ← literal? literal.toList
  match literal.value with
  | .finite negative magnitude => some (.finite negative magnitude)
  | _ => none

def dialect : Dialect :=
  { natural?, real?, listForm := .exact }

end Datapack.Json
