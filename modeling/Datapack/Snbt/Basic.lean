/-!
The host's notation for structured data.
-/

namespace Datapack

/-- Structured data. A compound keeps the order of its entries and may repeat a key. -/
inductive Snbt where
  | byte (value : Int)
  | int (value : Int)
  | bool (value : Bool)
  | string (value : String)
  | list (items : List Snbt)
  | compound (entries : List (String × Snbt))

namespace Snbt

/-- A list of strings, as entities carry their tags. -/
def tags (names : List String) : Snbt :=
  .list (names.map .string)

def isBareKeyCharacter (character : Char) : Bool :=
  character.isAlphanum || character == '_' || character == '.' || character == '+' ||
    character == '-'

def escape : Char → List Char
  | '"' => ['\\', '"']
  | '\\' => ['\\', '\\']
  | '\n' => ['\\', 'n']
  | character => [character]

def quoted (text : List Char) : List Char :=
  '"' :: (text.flatMap escape ++ ['"'])

/-- A key stands bare if its characters allow it. -/
def keyCharacters (key : String) : List Char :=
  if key ≠ "" ∧ key.toList.all isBareKeyCharacter then key.toList else quoted key.toList

def intCharacters (value : Int) : List Char :=
  if value < 0 then '-' :: Nat.toDigits 10 value.natAbs else Nat.toDigits 10 value.natAbs

mutual

/-- The written form, character by character. -/
def characters : Snbt → List Char
  | .byte value => intCharacters value ++ ['b']
  | .int value => intCharacters value
  | .bool value => if value then ['t', 'r', 'u', 'e'] else ['f', 'a', 'l', 's', 'e']
  | .string value => quoted value.toList
  | .list items => '[' :: (itemCharacters items ++ [']'])
  | .compound entries => '{' :: (entryCharacters entries ++ ['}'])

def itemCharacters : List Snbt → List Char
  | [] => []
  | [item] => characters item
  | item :: next :: items => characters item ++ ',' :: itemCharacters (next :: items)

def entryCharacters : List (String × Snbt) → List Char
  | [] => []
  | [(key, value)] => keyCharacters key ++ ':' :: characters value
  | (key, value) :: next :: entries =>
    keyCharacters key ++ ':' :: (characters value ++ ',' :: entryCharacters (next :: entries))

end

def text (value : Snbt) : String :=
  String.ofList value.characters

end Snbt

end Datapack
