import Datapack.Document.Basic
import Datapack.Json.Token
import Datapack.Number.Format

/-!
Writing JSON, on one line or indented.
-/

namespace Datapack.Json

open Number

mutual

def tokens : Document → List Token
  | .flag value => [.flag value]
  | .number literal => [.number literal]
  | .text value => [.text (some value)]
  | .list items => .openList :: (itemTokens items ++ [.closeList])
  | .record _ fields => .openRecord :: (fieldTokens fields ++ [.closeRecord])
  | .other => [.null]

def itemTokens : List Document → List Token
  | [] => []
  | [item] => tokens item
  | item :: next :: items => tokens item ++ .comma :: itemTokens (next :: items)

def fieldTokens : List (String × Document) → List Token
  | [] => []
  | [(key, value)] => .text (some key) :: .colon :: tokens value
  | (key, value) :: next :: fields =>
    .text (some key) :: .colon :: (tokens value ++ .comma :: fieldTokens (next :: fields))

end

/-- Quotes, backslashes and control characters are escaped, with a short form where there is one;
all else stands as it is. -/
def escape (character : Char) : List Char :=
  match character with
  | '"' => ['\\', '"']
  | '\\' => ['\\', '\\']
  | '\x08' => ['\\', 'b']
  | '\x0c' => ['\\', 'f']
  | '\n' => ['\\', 'n']
  | '\r' => ['\\', 'r']
  | '\t' => ['\\', 't']
  | character =>
    if character.toNat < 0x20 then
      ['\\', 'u', '0', '0', Nat.digitChar (character.toNat / 16),
        Nat.digitChar (character.toNat % 16)]
    else [character]

def quoted (text : String) : List Char :=
  '"' :: (text.toList.flatMap escape ++ ['"'])

def Token.characters : Token → List Char
  | .openList => ['[']
  | .closeList => [']']
  | .openRecord => ['{']
  | .closeRecord => ['}']
  | .comma => [',']
  | .colon => [':']
  | .null => "null".toList
  | .flag value => if value then "true".toList else "false".toList
  | .number literal => literal.toList
  | .text content => quoted (content.getD "")

def compact (document : Document) : String :=
  String.ofList ((tokens document).flatMap Token.characters)

def newLine (depth : Nat) : List Char :=
  '\n' :: List.replicate (2 * depth) ' '

/-- One entry to a line, each level indented by two blanks. -/
def indentedCharacters (depth : Nat) : List Token → List Char
  | [] => []
  | .openList :: .closeList :: rest => '[' :: ']' :: indentedCharacters depth rest
  | .openRecord :: .closeRecord :: rest => '{' :: '}' :: indentedCharacters depth rest
  | .openList :: rest => '[' :: (newLine (depth + 1) ++ indentedCharacters (depth + 1) rest)
  | .openRecord :: rest => '{' :: (newLine (depth + 1) ++ indentedCharacters (depth + 1) rest)
  | .closeList :: rest => newLine (depth - 1) ++ ']' :: indentedCharacters (depth - 1) rest
  | .closeRecord :: rest => newLine (depth - 1) ++ '}' :: indentedCharacters (depth - 1) rest
  | .comma :: rest => ',' :: (newLine depth ++ indentedCharacters depth rest)
  | .colon :: rest => ':' :: ' ' :: indentedCharacters depth rest
  | token :: rest => token.characters ++ indentedCharacters depth rest

def indented (document : Document) : String :=
  String.ofList (indentedCharacters 0 (tokens document))

/-- Digits are written out from `10 ^ -5` up to `10 ^ 16`, a whole number ends in `.0`, and of two
equally near decimals the even one is taken. -/
def numberFormat : NumberFormat :=
  { half := .toEven
    positional := fun exponent => -5 ≤ exponent ∧ exponent < 16
    wholeSuffix := ".0"
    undefinedText := "null"
    infiniteText := "null" }

/-- A number, or the missing value for what JSON cannot write. -/
def real : Binary64 → Document
  | .finite negative magnitude =>
    .number ((Binary64.finite negative magnitude).render numberFormat)
  | _ => .other

end Datapack.Json
