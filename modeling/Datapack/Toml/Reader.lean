import Datapack.Toml.Scalar
import Datapack.Toml.Table
import Datapack.Toml.Token

/-!
Reading TOML: lines with headers and keys, and values that may span lines.
-/

namespace Datapack.Toml

/-- A key being read: its parts backwards, and whether the last one still lacks a dot behind. -/
structure Key where
  parts : List String
  isComplete : Bool
  deriving DecidableEq, Repr

namespace Key

def empty : Key :=
  { parts := [], isComplete := false }

def part? (key : Key) (part : String) : Option Key :=
  if key.isComplete then none else some { parts := part :: key.parts, isComplete := true }

def dot? (key : Key) : Option Key :=
  if key.isComplete then some { key with isComplete := false } else none

def isBare (part : String) : Bool :=
  part.toList.all fun character => character.isAlphanum || character == '_' || character == '-'

def pieces? (key : Key) : List String → Option Key
  | [] => some key
  | piece :: pieces => do
    let key ← if piece = "" then some key else key.part? piece
    match pieces with
    | [] => some key
    | pieces => (← key.dot?).pieces? pieces

/-- Takes a run of bare parts and dots. -/
def word? (key : Key) (spelling : String) : Option Key :=
  let pieces := spelling.splitOn "."
  if pieces.all isBare then key.pieces? pieces else none

def partLimit : Nat := 80

/-- The path in front of the last part, and the last part. -/
def finish? (key : Key) : Option (List String × String) :=
  match key.parts with
  | last :: front =>
    if key.isComplete && key.parts.length < partLimit then some (front.reverse, last) else none
  | [] => none

/-- Takes a token of a key; blanks may stand around its parts and dots. -/
def token? (key : Key) : Token → Option Key
  | .blank _ => some key
  | .word spelling => key.word? spelling
  | .text false content => key.part? content
  | _ => none

end Key

/-- An open list or inline table; items are kept backwards. -/
inductive Frame where
  | list (items : List Document)
  | inline (entries : Entries) (path : List String) (key : String)

inductive Expected where
  | expression
  /-- After one bracket at the start of a line. -/
  | headerStart
  | tableHeader (key : Key)
  | elementHeader (key : Key)
  /-- After the first of the two brackets that close an element's header. -/
  | elementHeaderEnd (key : Key)
  | lineEnd
  | key (key : Key)
  | value
  | itemOrClose
  | inlineStart
  | inlineKey (key : Key)
  | afterValue (value : Document)
  /-- After a date, which a blank and a time may follow. -/
  | afterDate (spelling : String)
  | afterDateBlank (spelling : String)

structure Progress where
  root : Entries
  header : List String
  path : List String
  last : String
  frames : List Frame
  expected : Expected

def nestingLimit : Nat := 80

namespace Progress

def start : Progress :=
  { root := [], header := [], path := [], last := "", frames := [], expected := .expression }

/-- Stores the value of the key on this line. -/
def store? (progress : Progress) (value : Document) : Option Progress := do
  let root ← progress.root.change? false
    (fun _ entries => entries.add? progress.path progress.last value)
    progress.header .header
  return { progress with root, expected := .expression }

def open? (progress : Progress) (frame : Frame) (expected : Expected) : Option Progress :=
  if progress.frames.length + 1 < nestingLimit then
    some { progress with frames := frame :: progress.frames, expected }
  else none

def value? (progress : Progress) : Token → Option Progress
  | .openBracket => progress.open? (.list []) .itemOrClose
  | .openBrace => progress.open? (.inline [] [] "") .inlineStart
  | .text _ content => some { progress with expected := .afterValue (.text content) }
  | .word spelling =>
    if isDate spelling.toList then some { progress with expected := .afterDate spelling }
    else (scalar? spelling).map fun value => { progress with expected := .afterValue value }
  | _ => none

def close (progress : Progress) (outer : List Frame) (value : Document) : Progress :=
  { progress with frames := outer, expected := .afterValue value }

def continue? (progress : Progress) (value : Document) (token : Token) : Option Progress :=
  match token, progress.frames with
  | .blank _, _ => some { progress with expected := .afterValue value }
  | .lineEnd, [] => progress.store? value
  | .lineEnd, .list _ :: _ => some { progress with expected := .afterValue value }
  | .comma, .list items :: outer =>
    some { progress with frames := .list (value :: items) :: outer, expected := .itemOrClose }
  | .closeBracket, .list items :: outer =>
    some (progress.close outer (.list (value :: items).reverse))
  | .comma, .inline entries path key :: outer => do
    let entries ← entries.add? path key value
    return { progress with
      frames := .inline entries [] "" :: outer
      expected := .inlineKey .empty }
  | .closeBrace, .inline entries path key :: outer => do
    let entries ← entries.add? path key value
    return progress.close outer (.record none (entryDocuments entries))
  | _, _ => none

def itemOrClose? (progress : Progress) (token : Token) : Option Progress :=
  match token, progress.frames with
  | .blank _, _ => some progress
  | .lineEnd, _ => some progress
  | .closeBracket, .list items :: outer => some (progress.close outer (.list items.reverse))
  | token, _ => progress.value? token

def key? (progress : Progress) (key : Key) (token : Token) : Option Progress :=
  match token with
  | .equals => do
    let (path, last) ← key.finish?
    return { progress with path, last, expected := .value }
  | token => do
    let key ← key.token? token
    return { progress with expected := .key key }

def inlineKey? (progress : Progress) (key : Key) (token : Token) : Option Progress :=
  match token, progress.frames with
  | .equals, .inline entries _ _ :: outer => do
    let (path, last) ← key.finish?
    return { progress with frames := .inline entries path last :: outer, expected := .value }
  | token, _ => do
    let key ← key.token? token
    return { progress with expected := .inlineKey key }

def inlineStart? (progress : Progress) (token : Token) : Option Progress :=
  match token, progress.frames with
  | .blank _, _ => some progress
  | .closeBrace, .inline .. :: outer => some (progress.close outer (.object []))
  | token, _ => progress.inlineKey? .empty token

def tableHeader? (progress : Progress) (key : Key) (token : Token) : Option Progress :=
  match token with
  | .closeBracket => do
    let (path, last) ← key.finish?
    let root ← progress.root.openTable? path last
    return { progress with root, header := path ++ [last], expected := .lineEnd }
  | token => do
    let key ← key.token? token
    return { progress with expected := .tableHeader key }

def elementHeader? (progress : Progress) (key : Key) (token : Token) : Option Progress :=
  match token with
  | .closeBracket => some { progress with expected := .elementHeaderEnd key }
  | token => do
    let key ← key.token? token
    return { progress with expected := .elementHeader key }

def elementHeaderEnd? (progress : Progress) (key : Key) (token : Token) : Option Progress :=
  match token with
  | .closeBracket => do
    let (path, last) ← key.finish?
    let root ← progress.root.openElement? path last
    return { progress with root, header := path ++ [last], expected := .lineEnd }
  | _ => none

def expression? (progress : Progress) (token : Token) : Option Progress :=
  match token with
  | .blank _ => some progress
  | .lineEnd => some progress
  | .openBracket => some { progress with expected := .headerStart }
  | token => progress.key? .empty token

def step? (progress : Progress) (token : Token) : Option Progress :=
  match progress.expected with
  | .expression => progress.expression? token
  | .headerStart =>
    if token = .openBracket then some { progress with expected := .elementHeader .empty }
    else progress.tableHeader? .empty token
  | .tableHeader key => progress.tableHeader? key token
  | .elementHeader key => progress.elementHeader? key token
  | .elementHeaderEnd key => progress.elementHeaderEnd? key token
  | .lineEnd =>
    match token with
    | .blank _ => some progress
    | .lineEnd => some { progress with expected := .expression }
    | _ => none
  | .key key => progress.key? key token
  | .value =>
    match token with
    | .blank _ => some progress
    | token => progress.value? token
  | .itemOrClose => progress.itemOrClose? token
  | .inlineStart => progress.inlineStart? token
  | .inlineKey key => progress.inlineKey? key token
  | .afterValue value => progress.continue? value token
  | .afterDate spelling =>
    if token = .blank true then some { progress with expected := .afterDateBlank spelling }
    else progress.continue? (.object []) token
  | .afterDateBlank spelling =>
    match token with
    | .word time =>
      if isDateTime (spelling ++ " " ++ time).toList then
        some { progress with expected := .afterValue (.object []) }
      else none
    | token => progress.continue? (.object []) token

/-- The document at the end of the text, which also ends a line. -/
def finish? (progress : Progress) : Option Document := do
  let progress ← progress.step? .lineEnd
  match progress.frames, progress.expected with
  | [], .expression => some (.record none (entryDocuments progress.root))
  | _, _ => none

end Progress

def documentOfTokens? (tokens : List Token) : Option Document :=
  (tokens.foldlM Progress.step? .start).bind Progress.finish?

def read? (text : String) : Option Document :=
  (tokens? text.toList).bind documentOfTokens?

end Datapack.Toml
