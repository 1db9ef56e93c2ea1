import Datapack.Number.Literal

/-!
The tokens of TOML text. Blanks and line ends are tokens too, since some places forbid them.
-/

namespace Datapack.Toml

open Number

inductive Token where
  | openBracket
  | closeBracket
  | openBrace
  | closeBrace
  | comma
  | equals
  /-- Blanks and tabs; a single blank may stand within a date and time. -/
  | blank (isSingle : Bool)
  | lineEnd
  /-- A run of the characters of bare keys, numbers and dates. -/
  | word (spelling : String)
  | text (isMultiline : Bool) (content : String)
  deriving DecidableEq, Repr

/-- The two kinds of quotes; only between double quotes a backslash has a meaning. -/
inductive Quote where
  | double
  | single
  deriving DecidableEq, Repr

def Quote.character : Quote → Char
  | .double => '"'
  | .single => '\''

/-- Where reading stands within the text. What was read of a token is kept backwards. -/
inductive Mode where
  | between
  | blanks (isSingle : Bool)
  /-- After a carriage return that has to belong to a line end. -/
  | carriage
  | comment
  | word (letters : List Char)
  /-- After one or two quotes that may open a string on several lines. -/
  | opening (quote : Quote) (isPair : Bool)
  | string (quote : Quote) (content : List Char)
  /-- At the start of a string on several lines, where a line end is dropped. -/
  | multilineStart (quote : Quote)
  /-- In a string on several lines, after some quotes that may close it. -/
  | multiline (quote : Quote) (content : List Char) (quotes : Nat)
  | multilineCarriage (quote : Quote) (content : List Char) (atStart : Bool)
  | escape (isMultiline : Bool) (content : List Char)
  | unicode (isMultiline : Bool) (content : List Char) (remaining value : Nat)
  /-- After a backslash at the end of a line, before the line end. -/
  | lineSplice (content : List Char)
  /-- After such a line end, where all blanks and line ends are dropped. -/
  | spliced (content : List Char)
  /-- After a carriage return in either of these places. -/
  | spliceCarriage (content : List Char)
  deriving DecidableEq, Repr

structure Scan where
  mode : Mode
  tokens : List Token
  deriving DecidableEq, Repr

def isBlank (character : Char) : Bool :=
  character == ' ' || character == '\t'

def isWordCharacter (character : Char) : Bool :=
  character.isAlphanum || character == '_' || character == '-' || character == '.' ||
    character == '+' || character == ':'

/-- Characters that may stand in comments and, unless they have a meaning there, in strings. -/
def isPlain (character : Char) : Bool :=
  character == '\t' || (0x20 ≤ character.toNat && character.toNat != 0x7F)

def punctuation? : Char → Option Token
  | '[' => some .openBracket
  | ']' => some .closeBracket
  | '{' => some .openBrace
  | '}' => some .closeBrace
  | ',' => some .comma
  | '=' => some .equals
  | '\n' => some .lineEnd
  | _ => none

def begin? (tokens : List Token) (character : Char) : Option Scan :=
  if isBlank character then some ⟨.blanks (character == ' '), tokens⟩
  else if isWordCharacter character then some ⟨.word [character], tokens⟩
  else
    match character with
    | '\r' => some ⟨.carriage, tokens⟩
    | '#' => some ⟨.comment, tokens⟩
    | '"' => some ⟨.opening .double false, tokens⟩
    | '\'' => some ⟨.opening .single false, tokens⟩
    | character => (punctuation? character).map fun token => ⟨.between, token :: tokens⟩

def textToken (isMultiline : Bool) (content : List Char) : Token :=
  .text isMultiline (String.ofList content.reverse)

def string? (quote : Quote) (content : List Char) (tokens : List Token) (character : Char) :
    Option Scan :=
  if character = quote.character then some ⟨.between, textToken false content :: tokens⟩
  else if character = '\\' ∧ quote = .double then some ⟨.escape false content, tokens⟩
  else if isPlain character then some ⟨.string quote (character :: content), tokens⟩
  else none

def multiline? (quote : Quote) (content : List Char) (character : Char) : Option Mode :=
  if character = '\\' ∧ quote = .double then some (.escape true content)
  else if character = '\r' then some (.multilineCarriage quote content false)
  else if isPlain character ∨ character = '\n' then
    some (.multiline quote (character :: content) 0)
  else none

/-- A string on several lines ends with three quotes; up to two more in front of them belong to
it. -/
def multilineOrClose? (quote : Quote) (content : List Char) (quotes : Nat) (tokens : List Token)
    (character : Char) : Option Scan :=
  if character = quote.character then
    if quotes = 4 then
      some ⟨.between, textToken true (List.replicate 2 character ++ content) :: tokens⟩
    else some ⟨.multiline quote content (quotes + 1), tokens⟩
  else if 3 ≤ quotes then
    let content := List.replicate (quotes - 3) quote.character ++ content
    begin? (textToken true content :: tokens) character
  else
    (multiline? quote (List.replicate quotes quote.character ++ content) character).map
      fun mode => ⟨mode, tokens⟩

def afterEscape (isMultiline : Bool) (content : List Char) : Mode :=
  if isMultiline then .multiline .double content 0 else .string .double content

def shortEscape? : Char → Option Char
  | 'b' => some '\x08'
  | 't' => some '\t'
  | 'n' => some '\n'
  | 'f' => some '\x0c'
  | 'r' => some '\r'
  | '"' => some '"'
  | '\\' => some '\\'
  | _ => none

def escape? (isMultiline : Bool) (content : List Char) (character : Char) : Option Mode :=
  if character = 'u' then some (.unicode isMultiline content 4 0)
  else if character = 'U' then some (.unicode isMultiline content 8 0)
  else if isMultiline ∧ isBlank character then some (.lineSplice content)
  else if isMultiline ∧ character = '\n' then some (.spliced content)
  else if isMultiline ∧ character = '\r' then some (.spliceCarriage content)
  else (shortEscape? character).map fun value => afterEscape isMultiline (value :: content)

def unicode? (isMultiline : Bool) (content : List Char) (remaining value : Nat)
    (character : Char) : Option Mode := do
  let digit ← hexDigit? character
  let value := 16 * value + digit
  if 1 < remaining then some (.unicode isMultiline content (remaining - 1) value)
  else if value.isValidChar then some (afterEscape isMultiline (Char.ofNat value :: content))
  else none

def Scan.step? (scan : Scan) (character : Char) : Option Scan :=
  let tokens := scan.tokens
  match scan.mode with
  | .between => begin? tokens character
  | .blanks isSingle =>
    if isBlank character then some ⟨.blanks false, tokens⟩
    else begin? (.blank isSingle :: tokens) character
  | .carriage => if character = '\n' then some ⟨.between, .lineEnd :: tokens⟩ else none
  | .comment =>
    if character = '\n' then some ⟨.between, .lineEnd :: tokens⟩
    else if character = '\r' then some ⟨.carriage, tokens⟩
    else if isPlain character then some scan
    else none
  | .word letters =>
    if isWordCharacter character then some ⟨.word (character :: letters), tokens⟩
    else begin? (.word (String.ofList letters.reverse) :: tokens) character
  | .opening quote false =>
    if character = quote.character then some ⟨.opening quote true, tokens⟩
    else string? quote [] tokens character
  | .opening quote true =>
    if character = quote.character then some ⟨.multilineStart quote, tokens⟩
    else begin? (textToken false [] :: tokens) character
  | .string quote content => string? quote content tokens character
  | .multilineStart quote =>
    if character = '\n' then some ⟨.multiline quote [] 0, tokens⟩
    else if character = '\r' then some ⟨.multilineCarriage quote [] true, tokens⟩
    else multilineOrClose? quote [] 0 tokens character
  | .multiline quote content quotes => multilineOrClose? quote content quotes tokens character
  | .multilineCarriage quote content atStart =>
    if character = '\n' then
      some ⟨.multiline quote (if atStart then content else '\n' :: content) 0, tokens⟩
    else none
  | .escape isMultiline content => (escape? isMultiline content character).map (⟨·, tokens⟩)
  | .unicode isMultiline content remaining value =>
    (unicode? isMultiline content remaining value character).map (⟨·, tokens⟩)
  | .lineSplice content =>
    if isBlank character then some scan
    else if character = '\n' then some ⟨.spliced content, tokens⟩
    else if character = '\r' then some ⟨.spliceCarriage content, tokens⟩
    else none
  | .spliced content =>
    if isBlank character ∨ character = '\n' then some scan
    else if character = '\r' then some ⟨.spliceCarriage content, tokens⟩
    else multilineOrClose? .double content 0 tokens character
  | .spliceCarriage content =>
    if character = '\n' then some ⟨.spliced content, tokens⟩ else none

def Scan.finish? (scan : Scan) : Option (List Token) :=
  match scan.mode with
  | .between => some scan.tokens.reverse
  | .comment => some scan.tokens.reverse
  | .blanks isSingle => some (.blank isSingle :: scan.tokens).reverse
  | .word letters => some (.word (String.ofList letters.reverse) :: scan.tokens).reverse
  | .opening _ true => some (textToken false [] :: scan.tokens).reverse
  | .multiline quote content quotes =>
    if 3 ≤ quotes then
      let content := List.replicate (quotes - 3) quote.character ++ content
      some (textToken true content :: scan.tokens).reverse
    else none
  | _ => none

/-- A byte order mark in front is skipped. -/
def withoutMark : List Char → List Char
  | '\ufeff' :: characters => characters
  | characters => characters

def tokens? (characters : List Char) : Option (List Token) :=
  ((withoutMark characters).foldlM Scan.step? ⟨.between, []⟩).bind Scan.finish?

end Datapack.Toml
