import Datapack.Text.Quoted

/-!
Namespaces: the identifiers under which a package keeps everything it names.
-/

namespace Datapack

def isNamespaceCharacter (character : Char) : Bool :=
  ('a' ≤ character && character ≤ 'z') || ('0' ≤ character && character ≤ '9') ||
    character == '_' || character == '.' || character == '-'

structure Namespace where
  text : String
  nonempty : text ≠ ""
  allowed : ∀ character ∈ text.toList, isNamespaceCharacter character = true
  deriving DecidableEq

inductive NamespaceError where
  | empty
  | invalidCharacter (character : Char) (text : String)
  deriving DecidableEq, Repr

def NamespaceError.message : NamespaceError → String
  | .empty => "namespace must not be empty"
  | .invalidCharacter character text =>
    "invalid character " ++ Text.quotedCharacter character ++ " in namespace '" ++ text ++ "'"

namespace Namespace

/-- Refuses the empty text and names the first character that is not allowed. -/
def ofString (text : String) : Except NamespaceError Namespace :=
  if empty : text = "" then .error .empty
  else
    match search : text.toList.find? (fun character => !isNamespaceCharacter character) with
    | some character => .error (.invalidCharacter character text)
    | none => .ok ⟨text, empty, fun character member => by
        simpa using List.find?_eq_none.mp search character member⟩

/-- `<namespace>_<suffix>`, for tags and objectives. -/
def prefixed (namespaceName : Namespace) (suffix : String) : String :=
  namespaceName.text ++ "_" ++ suffix

/-- `<namespace>:<name>`, for functions and storage. -/
def resource (namespaceName : Namespace) (name : String) : String :=
  namespaceName.text ++ ":" ++ name

end Namespace

end Datapack
