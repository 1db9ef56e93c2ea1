import Datapack.Number.Literal

/-!
The tokens of JSON text.
-/

namespace Datapack.Json

open Number

inductive Token where
  | openList
  | closeList
  | openRecord
  | closeRecord
  | comma
  | colon
  | null
  | flag (value : Bool)
  | number (literal : String)
  /-- A string; without content if its escapes spell half of a surrogate pair. -/
  | text (content : Option String)
  deriving DecidableEq, Repr

/-- A part of a string: a character, or the number in a `\u` escape. -/
inductive Piece where
  | character (value : Char)
  | unit (value : Nat)
  deriving DecidableEq, Repr

def isLeadingSurrogate (unit : Nat) : Bool :=
  0xD800 ≤ unit && unit < 0xDC00

def isTrailingSurrogate (unit : Nat) : Bool :=
  0xDC00 ≤ unit && unit < 0xE000

/-- The characters of a string. Two escapes that form a surrogate pair are one character; half of
a pair is none. -/
def charactersOfPieces? : List Piece → Option (List Char)
  | [] => some []
  | .character value :: rest => (charactersOfPieces? rest).map (value :: ·)
  | .unit leading :: .unit trailing :: rest =>
    if isLeadingSurrogate leading then
      if isTrailingSurrogate trailing then
        (charactersOfPieces? rest).map
          (Char.ofNat (0x10000 + (leading - 0xD800) * 0x400 + (trailing - 0xDC00)) :: ·)
      else none
    else if isTrailingSurrogate leading then none
    else (charactersOfPieces? (.unit trailing :: rest)).map (Char.ofNat leading :: ·)
  | .unit value :: rest =>
    if isLeadingSurrogate value || isTrailingSurrogate value then none
    else (charactersOfPieces? rest).map (Char.ofNat value :: ·)

def shortEscape? : Char → Option Char
  | '"' => some '"'
  | '\\' => some '\\'
  | '/' => some '/'
  | 'b' => some '\x08'
  | 'f' => some '\x0c'
  | 'n' => some '\n'
  | 'r' => some '\r'
  | 't' => some '\t'
  | _ => none

/-- Where reading stands within the text. What was read of a token is kept backwards. -/
inductive Mode where
  | between
  | word (letters : List Char)
  | number (characters : List Char)
  | string (pieces : List Piece)
  | escape (pieces : List Piece)
  | unicode (pieces : List Piece) (digits value : Nat)
  deriving DecidableEq, Repr

structure Scan where
  mode : Mode
  tokens : List Token
  deriving DecidableEq, Repr

def isBlank (character : Char) : Bool :=
  character == ' ' || character == '\t' || character == '\n' || character == '\r'

def isNumberCharacter (character : Char) : Bool :=
  character.isDigit || character == '-' || character == '+' || character == '.' ||
    character == 'e' || character == 'E'

def literal? (characters : List Char) : Option Literal :=
  (Literal.read? characters).filter fun literal =>
    literal.sign != some '+' && literal.isCanonical && literal.fraction != some []

def wordToken? (letters : List Char) : Option Token :=
  if letters = "true".toList then some (.flag true)
  else if letters = "false".toList then some (.flag false)
  else if letters = "null".toList then some .null
  else none

def numberToken? (characters : List Char) : Option Token :=
  (literal? characters).map fun _ => .number (String.ofList characters)

def textToken (pieces : List Piece) : Token :=
  .text ((charactersOfPieces? pieces).map String.ofList)

def punctuation? : Char → Option Token
  | '[' => some .openList
  | ']' => some .closeList
  | '{' => some .openRecord
  | '}' => some .closeRecord
  | ',' => some .comma
  | ':' => some .colon
  | _ => none

def begin? (tokens : List Token) (character : Char) : Option Scan :=
  if isBlank character then some ⟨.between, tokens⟩
  else if character = '"' then some ⟨.string [], tokens⟩
  else if character.isDigit ∨ character = '-' then some ⟨.number [character], tokens⟩
  else if character.isLower then some ⟨.word [character], tokens⟩
  else (punctuation? character).map fun token => ⟨.between, token :: tokens⟩

def Scan.step? (scan : Scan) (character : Char) : Option Scan :=
  match scan.mode with
  | .between => begin? scan.tokens character
  | .word letters =>
    if character.isLower then some ⟨.word (character :: letters), scan.tokens⟩
    else do
      let token ← wordToken? letters.reverse
      begin? (token :: scan.tokens) character
  | .number characters =>
    if isNumberCharacter character then some ⟨.number (character :: characters), scan.tokens⟩
    else do
      let token ← numberToken? characters.reverse
      begin? (token :: scan.tokens) character
  | .string pieces =>
    if character = '"' then some ⟨.between, textToken pieces.reverse :: scan.tokens⟩
    else if character = '\\' then some ⟨.escape pieces, scan.tokens⟩
    else if character.toNat < 0x20 then none
    else some ⟨.string (.character character :: pieces), scan.tokens⟩
  | .escape pieces =>
    if character = 'u' then some ⟨.unicode pieces 0 0, scan.tokens⟩
    else do
      let value ← shortEscape? character
      return ⟨.string (.character value :: pieces), scan.tokens⟩
  | .unicode pieces digits value => do
    let digit ← hexDigit? character
    let value := 16 * value + digit
    return if digits = 3 then ⟨.string (.unit value :: pieces), scan.tokens⟩
      else ⟨.unicode pieces (digits + 1) value, scan.tokens⟩

/-- The tokens at the end of the text, unless a string is still open. -/
def Scan.finish? (scan : Scan) : Option (List Token) :=
  match scan.mode with
  | .between => some scan.tokens.reverse
  | .word letters => (wordToken? letters.reverse).map fun token => (token :: scan.tokens).reverse
  | .number characters =>
    (numberToken? characters.reverse).map fun token => (token :: scan.tokens).reverse
  | _ => none

def tokens? (characters : List Char) : Option (List Token) :=
  (characters.foldlM Scan.step? ⟨.between, []⟩).bind Scan.finish?

end Datapack.Json
