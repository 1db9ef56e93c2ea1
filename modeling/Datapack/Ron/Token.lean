import Datapack.Ron.Literal

/-!
The tokens of RON text.
-/

namespace Datapack.Ron

open Number

inductive Token where
  | openParen
  | closeParen
  | unit
  | openList
  | closeList
  | openMap
  | closeMap
  | comma
  | colon
  | hash
  | bang
  /-- A run of letters, digits and the signs of numbers. -/
  | word (spelling : String)
  /-- A name written after `r#`. -/
  | rawWord (name : String)
  | text (content : String)
  | character
  deriving DecidableEq, Repr

/-- What an escape is part of. A string's characters are kept backwards. -/
inductive Target where
  | string (content : List Char)
  | character
  deriving DecidableEq, Repr

/-- Where reading stands within the text. What was read of a token is kept backwards. -/
inductive Mode where
  | between
  /-- Right after an opening parenthesis. -/
  | opened
  | slash
  | lineComment
  /-- Within nested comments, perhaps after the first half of a mark. -/
  | blockComment (level : Nat) (half : Option Char)
  | word (letters : List Char)
  | rawStart (hashes : Nat)
  | rawWord (letters : List Char)
  | string (content : List Char)
  /-- Within a raw string, perhaps after a quote and some of its hashes. -/
  | rawString (hashes : Nat) (content : List Char) (closing : Option Nat)
  | character
  | characterEnd
  | escape (target : Target)
  | hexEscape (target : Target) (first : Option Nat)
  | unicodeStart (target : Target)
  | unicode (target : Target) (digits value : Nat)
  deriving DecidableEq, Repr

structure Scan where
  mode : Mode
  tokens : List Token
  deriving DecidableEq, Repr

def isBlank (character : Char) : Bool :=
  character == ' ' || character == '\t' || character == '\n' || character == '\r'

def isWordCharacter (character : Char) : Bool :=
  character.isAlphanum || character == '_' || character == '.' || character == '+' ||
    character == '-'

def punctuation? : Char → Option Token
  | ')' => some .closeParen
  | '[' => some .openList
  | ']' => some .closeList
  | '{' => some .openMap
  | '}' => some .closeMap
  | ',' => some .comma
  | ':' => some .colon
  | '#' => some .hash
  | '!' => some .bang
  | _ => none

def begin? (tokens : List Token) (character : Char) : Option Scan :=
  if isBlank character then some ⟨.between, tokens⟩
  else if isWordCharacter character then some ⟨.word [character], tokens⟩
  else
    match character with
    | '(' => some ⟨.opened, tokens⟩
    | '/' => some ⟨.slash, tokens⟩
    | '"' => some ⟨.string [], tokens⟩
    | '\'' => some ⟨.character, tokens⟩
    | character => (punctuation? character).map fun token => ⟨.between, token :: tokens⟩

def blockComment (tokens : List Token) (level : Nat) (half : Option Char) (character : Char) :
    Scan :=
  if half = some '/' ∧ character = '*' then ⟨.blockComment (level + 1) none, tokens⟩
  else if half = some '*' ∧ character = '/' then
    if level ≤ 1 then ⟨.between, tokens⟩ else ⟨.blockComment (level - 1) none, tokens⟩
  else if character = '/' ∨ character = '*' then ⟨.blockComment level (some character), tokens⟩
  else ⟨.blockComment level none, tokens⟩

def shortEscape? : Char → Option Char
  | '\'' => some '\''
  | '"' => some '"'
  | '\\' => some '\\'
  | 'n' => some '\n'
  | 'r' => some '\r'
  | 't' => some '\t'
  | '0' => some '\x00'
  | _ => none

def Target.mode (target : Target) (character : Char) : Mode :=
  match target with
  | .string content => .string (character :: content)
  | .character => .characterEnd

def characterOfNumber? (number : Nat) : Option Char :=
  if number.isValidChar then some (Char.ofNat number) else none

def escape? (target : Target) (character : Char) : Option Mode :=
  if character = 'x' then some (.hexEscape target none)
  else if character = 'u' then some (.unicodeStart target)
  else (shortEscape? character).map target.mode

def hexEscape? (target : Target) (first : Option Nat) (character : Char) : Option Mode := do
  let digit ← hexDigit? character
  match first with
  | none => return .hexEscape target (some digit)
  | some first => return target.mode (Char.ofNat (16 * first + digit))

def unicode? (target : Target) (digits value : Nat) (character : Char) : Option Mode :=
  if character = '}' then
    if digits = 0 then none else (characterOfNumber? value).map target.mode
  else if digits < 6 then
    (hexDigit? character).map fun digit => .unicode target (digits + 1) (16 * value + digit)
  else none

/-- After the `r` and some hashes: a raw string, or a raw name after exactly one hash. -/
def rawStart? (hashes : Nat) (character : Char) : Option Mode :=
  if character = '#' then some (.rawStart (hashes + 1))
  else if character = '"' then some (.rawString hashes [] none)
  else if hashes = 1 ∧ isWordCharacter character then some (.rawWord [character])
  else none

/-- A raw string ends at the first quote with as many hashes as stand before it. -/
def rawString (tokens : List Token) (hashes : Nat) (content : List Char) (closing : Option Nat)
    (character : Char) : Scan :=
  let flushed :=
    match closing with
    | some seen => List.replicate seen '#' ++ '"' :: content
    | none => content
  if character = '"' then
    if hashes = 0 then ⟨.between, .text (String.ofList content.reverse) :: tokens⟩
    else ⟨.rawString hashes flushed (some 0), tokens⟩
  else
    match closing with
    | some seen =>
      if character = '#' then
        if seen + 1 = hashes then ⟨.between, .text (String.ofList content.reverse) :: tokens⟩
        else ⟨.rawString hashes content (some (seen + 1)), tokens⟩
      else ⟨.rawString hashes (character :: flushed) none, tokens⟩
    | none => ⟨.rawString hashes (character :: content) none, tokens⟩

def Scan.step? (scan : Scan) (character : Char) : Option Scan :=
  let tokens := scan.tokens
  match scan.mode with
  | .between => begin? tokens character
  | .opened =>
    if character = ')' then some ⟨.between, .unit :: tokens⟩
    else begin? (.openParen :: tokens) character
  | .slash =>
    if character = '/' then some ⟨.lineComment, tokens⟩
    else if character = '*' then some ⟨.blockComment 1 none, tokens⟩
    else none
  | .lineComment => some (if character = '\n' then ⟨.between, tokens⟩ else scan)
  | .blockComment level half => some (blockComment tokens level half character)
  | .word letters =>
    if isWordCharacter character then some ⟨.word (character :: letters), tokens⟩
    else if letters = ['r'] ∧ (character = '#' ∨ character = '"') then
      (rawStart? 0 character).map fun mode => ⟨mode, tokens⟩
    else begin? (.word (String.ofList letters.reverse) :: tokens) character
  | .rawStart hashes => (rawStart? hashes character).map fun mode => ⟨mode, tokens⟩
  | .rawWord letters =>
    if isWordCharacter character then some ⟨.rawWord (character :: letters), tokens⟩
    else begin? (.rawWord (String.ofList letters.reverse) :: tokens) character
  | .string content =>
    if character = '"' then some ⟨.between, .text (String.ofList content.reverse) :: tokens⟩
    else if character = '\\' then some ⟨.escape (.string content), tokens⟩
    else some ⟨.string (character :: content), tokens⟩
  | .rawString hashes content closing => some (rawString tokens hashes content closing character)
  | .character =>
    if character = '\\' then some ⟨.escape .character, tokens⟩
    else if character = '\'' then none
    else some ⟨.characterEnd, tokens⟩
  | .characterEnd => if character = '\'' then some ⟨.between, .character :: tokens⟩ else none
  | .escape target => (escape? target character).map fun mode => ⟨mode, tokens⟩
  | .hexEscape target first => (hexEscape? target first character).map fun mode => ⟨mode, tokens⟩
  | .unicodeStart target => if character = '{' then some ⟨.unicode target 0 0, tokens⟩ else none
  | .unicode target digits value =>
    (unicode? target digits value character).map fun mode => ⟨mode, tokens⟩

def Scan.finish? (scan : Scan) : Option (List Token) :=
  match scan.mode with
  | .between => some scan.tokens.reverse
  | .lineComment => some scan.tokens.reverse
  | .word letters => some (.word (String.ofList letters.reverse) :: scan.tokens).reverse
  | .rawWord letters => some (.rawWord (String.ofList letters.reverse) :: scan.tokens).reverse
  | _ => none

def tokens? (characters : List Char) : Option (List Token) :=
  (characters.foldlM Scan.step? ⟨.between, []⟩).bind Scan.finish?

end Datapack.Ron
