import Datapack.Namespace
import Datapack.Pack.Metadata
import Datapack.Proofs.Document.Reading

/-!
The JSON files of a package say what they were made from, whatever the texts in them are.
-/

namespace Datapack

open Json (IsJson)

theorem isJson_metadataDocument (displayName : String) :
    IsJson (metadataDocument displayName) := by
  have pack : IsJson (.object [
      ("description", .text displayName), ("pack_format", .natural packFormat)]) := by
    apply IsJson.object
    simp [IsJson.text, IsJson.natural]
  apply IsJson.object
  simp [pack]

theorem isJson_tagDocument (function : String) : IsJson (tagDocument function) := by
  have values : IsJson (.texts [function]) := IsJson.map IsJson.text [function]
  apply IsJson.object
  simp [values]

/-- The metadata is one document with the display name and the number of the format. A tag is one
line that holds the one function it was made for, with its namespace. -/
theorem metadata_and_tags_say_what_was_given :
    (∀ displayName, ∃ format,
      Json.read? (metadataText displayName) =
        some (.object [("pack", .object [
          ("description", .text displayName), ("pack_format", format)])]) ∧
      format.natural? Json.dialect UInt32.size = some 81) ∧
    ∀ (namespaceName : Namespace) (name : String),
      IsLine (tagText (namespaceName.resource name)) ∧
      Json.read? (tagText (namespaceName.resource name)) =
        some (.object [("values", .list [.text (namespaceName.text ++ ":" ++ name)])]) := by
  constructor
  · intro displayName
    refine ⟨.natural packFormat, Json.read?_indented (isJson_metadataDocument displayName), ?_⟩
    exact natural?_natural Json.readsJson_dialect (by decide)
  · intro namespaceName name
    have json := isJson_tagDocument (namespaceName.resource name)
    exact ⟨Json.isLine_compact json, Json.read?_compact json⟩

end Datapack
