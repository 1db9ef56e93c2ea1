import Datapack.Text.Combining
import Datapack.Text.Invisible

/-!
A single character shown between apostrophes.
-/

namespace Datapack.Text

def hexadecimal (value : Nat) : String :=
  String.ofList (Nat.toDigits 16 value)

/-- What cannot be seen standing alone is shown by its code point. -/
def quotedBody (character : Char) : String :=
  match character with
  | '\x00' => "\\0"
  | '\t' => "\\t"
  | '\r' => "\\r"
  | '\n' => "\\n"
  | '\'' => "\\'"
  | '\\' => "\\\\"
  | _ =>
    if isCombining character || isInvisible character then
      "\\u\x7b" ++ hexadecimal character.toNat ++ "\x7d"
    else String.singleton character

def quotedCharacter (character : Char) : String :=
  "'" ++ quotedBody character ++ "'"

end Datapack.Text
