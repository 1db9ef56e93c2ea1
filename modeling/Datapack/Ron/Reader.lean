import Datapack.Ron.Token

/-!
Reading RON. Open values are kept on a stack of limited height.
-/

namespace Datapack.Ron

/-- A name where a value is expected. Only a plain name can be one of the reserved ones. -/
structure Word where
  name : String
  isRaw : Bool
  deriving DecidableEq, Repr

/-- An open value; what it holds so far is kept backwards where it is needed later. -/
inductive Frame where
  | list (items : List Document)
  | mapKey
  | mapValue
  /-- Parentheses that may still turn out to hold fields or items. -/
  | undecided (name : Option String)
  | record (name : Option String) (fields : List (String × Document)) (key : String)
  | tuple
  | optional
  /-- An optional value without parentheses. -/
  | bareOptional

def Frame.cost : Frame → Nat
  | .optional => 1
  | .bareOptional => 1
  | _ => 2

def depth (frames : List Frame) : Nat :=
  frames.foldr (fun frame total => frame.cost + total) 0

def depthLimit : Nat := 128

/-- The parts of a line that enables extensions. -/
inductive Header where
  | start
  | opening (expected : List Token)
  | extension
  | separator
  | extensionOrEnd
  | closing

inductive Expected where
  | header (part : Header)
  | value
  | itemOrClose
  | firstInParens
  | keyOrClose
  | colon
  /-- What a name means is settled by the next token. -/
  | afterWord (word : Word)
  | afterValue (value : Document)
  | optionalClose

structure Progress where
  /-- Whether optional values may go without parentheses. -/
  implicitSome : Bool
  frames : List Frame
  expected : Expected

def isIdentifier (name : String) : Bool :=
  match name.toList with
  | [] => false
  | first :: rest =>
    (first.isAlpha || first == '_') &&
      rest.all fun character => character.isAlphanum || character == '_'

def reserved? (word : Word) : Option Document :=
  if word.isRaw then none
  else if word.name = "true" then some (.flag true)
  else if word.name = "false" then some (.flag false)
  else if word.name = "None" then some .other
  else if word.name = "inf" ∨ word.name = "NaN" then some (.number word.name)
  else none

def Word.isSome (word : Word) : Bool :=
  !word.isRaw && word.name == "Some"

/-- Whether a spelling is an optional value's mark with the sign or the point of a number right
behind it. -/
def isMarkedNumber (spelling : String) : Bool :=
  match spelling.toList with
  | 'S' :: 'o' :: 'm' :: 'e' :: first :: rest =>
    (first == '+' || first == '-' || first == '.') && isNumber (String.ofList (first :: rest))
  | _ => false

def name? : Token → Option Word
  | .word spelling => if isIdentifier spelling then some ⟨spelling, false⟩ else none
  | .rawWord name => some ⟨name, true⟩
  | _ => none

/-- Parentheses whose first entry is no field hold items. -/
def settle : List Frame → List Frame
  | .undecided _ :: outer => .tuple :: outer
  | frames => frames

namespace Progress

/-- Completes a value, and with it every optional value that it ends. -/
def complete (progress : Progress) (frames : List Frame) (value : Document) : Progress :=
  match frames with
  | .bareOptional :: outer => complete progress outer .other
  | frames => { progress with frames, expected := .afterValue value }

def open? (progress : Progress) (frame : Frame) (outer : List Frame) (expected : Expected) :
    Option Progress :=
  if depth outer < depthLimit then some { progress with frames := frame :: outer, expected }
  else none

def value? (progress : Progress) (frames : List Frame) (token : Token) : Option Progress :=
  if depth frames ≤ depthLimit then
    match token with
    | .openList => progress.open? (.list []) frames .itemOrClose
    | .openMap => progress.open? .mapKey frames .itemOrClose
    | .openParen => progress.open? (.undecided none) frames .firstInParens
    | .unit => some (progress.complete frames (.record none []))
    | .text content => some (progress.complete frames (.text content))
    | .character => some (progress.complete frames .other)
    | .word spelling =>
      if isIdentifier spelling then
        some { progress with frames, expected := .afterWord ⟨spelling, false⟩ }
      else if isNumber spelling then some (progress.complete frames (.number spelling))
      else if progress.implicitSome && depth frames < depthLimit && isMarkedNumber spelling then
        some (progress.complete frames .other)
      else none
    | .rawWord name => some { progress with frames, expected := .afterWord ⟨name, true⟩ }
    | _ => none
  else none

def continue? (progress : Progress) (frames : List Frame) (value : Document) (token : Token) :
    Option Progress :=
  match frames, token with
  | .list items :: outer, .comma =>
    some { progress with frames := .list (value :: items) :: outer, expected := .itemOrClose }
  | .list items :: outer, .closeList =>
    some (progress.complete outer (.list (value :: items).reverse))
  | .tuple :: outer, .comma =>
    some { progress with frames := .tuple :: outer, expected := .itemOrClose }
  | .tuple :: outer, .closeParen => some (progress.complete outer .other)
  | .record name fields key :: outer, .comma =>
    some { progress with
      frames := .record name ((key, value) :: fields) "" :: outer
      expected := .keyOrClose }
  | .record name fields key :: outer, .closeParen =>
    some (progress.complete outer (.record name ((key, value) :: fields).reverse))
  | .mapKey :: outer, .colon =>
    some { progress with frames := .mapValue :: outer, expected := .value }
  | .mapValue :: outer, .comma =>
    some { progress with frames := .mapKey :: outer, expected := .itemOrClose }
  | .mapValue :: outer, .closeMap => some (progress.complete outer .other)
  | .optional :: outer, .comma =>
    some { progress with frames := .optional :: outer, expected := .optionalClose }
  | .optional :: outer, .closeParen => some (progress.complete outer .other)
  | _, _ => none

def proceed? (progress : Progress) (token : Token) : Option Progress :=
  match progress.expected with
  | .afterValue value => progress.continue? progress.frames value token
  | _ => none

def itemOrClose? (progress : Progress) (token : Token) : Option Progress :=
  match progress.frames, token with
  | .list items :: outer, .closeList => some (progress.complete outer (.list items.reverse))
  | .tuple :: outer, .closeParen => some (progress.complete outer .other)
  | .mapKey :: outer, .closeMap => some (progress.complete outer .other)
  | frames, token => progress.value? frames token

def firstInParens? (progress : Progress) (token : Token) : Option Progress :=
  match progress.frames, token with
  | .undecided name :: outer, .closeParen =>
    some (progress.complete outer (.record name []))
  | frames, token =>
    match name? token with
    | some _ => progress.value? frames token
    | none => progress.value? (settle frames) token

def keyOrClose? (progress : Progress) (token : Token) : Option Progress :=
  match progress.frames with
  | .record name fields _ :: outer =>
    match token with
    | .closeParen => some (progress.complete outer (.record name fields.reverse))
    | token => do
      let word ← name? token
      return { progress with
        frames := .record name fields word.name :: outer
        expected := .colon }
  | _ => none

/-- A name is an optional value's mark, a value of its own, the name before parentheses, or a
value without content. -/
def nameAsValue? (progress : Progress) (word : Word) (token : Token) : Option Progress :=
  let frames := settle progress.frames
  if word.isSome then
    match token with
    | .openParen => some { progress with frames := .optional :: frames, expected := .value }
    | .unit => none
    | token =>
      if progress.implicitSome then progress.value? (.bareOptional :: frames) token else none
  else
    match reserved? word, token with
    | some value, token => (progress.complete frames value).proceed? token
    | none, .openParen => progress.open? (.undecided (some word.name)) frames .firstInParens
    | none, .unit =>
      if depth frames < depthLimit then some (progress.complete frames (.record word.name []))
      else none
    | none, token => (progress.complete frames .other).proceed? token

/-- A colon makes a name at the start of parentheses the first field's name. -/
def afterWord? (progress : Progress) (word : Word) (token : Token) : Option Progress :=
  match progress.frames, token with
  | .undecided name :: outer, .colon =>
    some { progress with frames := .record name [] word.name :: outer, expected := .value }
  | _, token => progress.nameAsValue? word token

def extension? (progress : Progress) (token : Token) : Option Progress := do
  let word ← name? token
  if word.name = "implicit_some" then
    some { progress with implicitSome := true, expected := .header .separator }
  else if word.name = "unwrap_newtypes" ∨ word.name = "unwrap_variant_newtypes" then
    some { progress with expected := .header .separator }
  else none

def header? (progress : Progress) (part : Header) (token : Token) : Option Progress :=
  match part with
  | .start =>
    if token = .hash then
      some { progress with
        expected := .header (.opening [.bang, .openList, .word "enable", .openParen]) }
    else progress.value? [] token
  | .opening (piece :: pieces) =>
    if token = piece then
      some { progress with
        expected := .header (if pieces = [] then .extension else .opening pieces) }
    else none
  | .opening [] => none
  | .extension => progress.extension? token
  | .separator =>
    if token = .comma then some { progress with expected := .header .extensionOrEnd }
    else if token = .closeParen then some { progress with expected := .header .closing }
    else none
  | .extensionOrEnd =>
    if token = .closeParen then some { progress with expected := .header .closing }
    else progress.extension? token
  | .closing =>
    if token = .closeList then some { progress with expected := .header .start } else none

def step? (progress : Progress) (token : Token) : Option Progress :=
  match progress.expected with
  | .header part => progress.header? part token
  | .value => progress.value? progress.frames token
  | .itemOrClose => progress.itemOrClose? token
  | .firstInParens => progress.firstInParens? token
  | .keyOrClose => progress.keyOrClose? token
  | .colon => if token = .colon then some { progress with expected := .value } else none
  | .afterWord word => progress.afterWord? word token
  | .afterValue _ => progress.proceed? token
  | .optionalClose =>
    match progress.frames, token with
    | .optional :: outer, .closeParen => some (progress.complete outer .other)
    | _, _ => none

def finish? (progress : Progress) : Option Document :=
  match progress.frames, progress.expected with
  | [], .afterValue value => some value
  | _, _ => none

end Progress

def documentOfTokens? (tokens : List Token) : Option Document :=
  (tokens.foldlM Progress.step? ⟨false, [], .header .start⟩).bind Progress.finish?

def read? (text : String) : Option Document :=
  (tokens? text.toList).bind documentOfTokens?

end Datapack.Ron
