import Datapack.Json.Reader
import Datapack.Proofs.Json.Layout
import Datapack.Proofs.Lists
import Datapack.Proofs.Text.Lines

/-!
Documents are read back from their JSON text, whether it stands on one line or is indented. Reading
the tokens of a document inside of any open lists and records ends right behind that document, and
its tokens are those of a layout.
-/

namespace Datapack.Json

open Number

/-- The documents that JSON can write: numbers are spelled in its way, and records bear no type's
name. -/
inductive IsJson : Document → Prop
  | flag (value : Bool) : IsJson (.flag value)
  | number {literal : String} (spelled : (literal? literal.toList).isSome) :
      IsJson (.number literal)
  | text (value : String) : IsJson (.text value)
  | list {items : List Document} (each : ∀ item ∈ items, IsJson item) : IsJson (.list items)
  | object {fields : List (String × Document)} (each : ∀ field ∈ fields, IsJson field.2) :
      IsJson (.object fields)
  | other : IsJson .other

theorem IsJson.map {Value : Type} {write : Value → Document} (each : ∀ value, IsJson (write value))
    (values : List Value) : IsJson (.list (values.map write)) :=
  .list (List.forall_mem_map.mpr fun value _ => each value)

section Tokens

/-- Where a value is expected the tokens are read as the document, and nothing else changes. -/
def IsReadBack (document : Document) : Prop :=
  ∀ frames, (tokens document).foldlM Progress.step? ⟨frames, .value⟩ =
    some ⟨frames, .afterValue document⟩

theorem isReadBack_of_token {document : Document} {token : Token}
    (single : tokens document = [token])
    (begun : ∀ frames, value? frames token = some ⟨frames, .afterValue document⟩) :
    IsReadBack document := by
  intro frames
  have step : Progress.step? ⟨frames, .value⟩ token = some ⟨frames, .afterValue document⟩ :=
    begun frames
  rw [single, List.foldlM_cons, step]
  rfl

theorem exists_tokens_eq (document : Document) :
    ∃ first rest, tokens document = first :: rest ∧ first ≠ .closeList := by
  cases document <;> exact ⟨_, _, rfl, nofun⟩

theorem exists_itemTokens_eq (item : Document) (items : List Document) :
    ∃ first rest, itemTokens (item :: items) = first :: rest ∧ first ≠ .closeList := by
  obtain ⟨first, rest, same, opens⟩ := exists_tokens_eq item
  cases items with
  | nil => exact ⟨first, rest, same, opens⟩
  | cons next items =>
    rw [itemTokens, same]
    exact ⟨first, _, rfl, opens⟩

/-- The first item of a list is read like the others. -/
theorem foldlM_step?_firstItem {first : Token} (opens : first ≠ .closeList) (rest : List Token)
    (frames : List Frame) :
    (first :: rest).foldlM Progress.step? ⟨frames, .firstItem⟩ =
      (first :: rest).foldlM Progress.step? ⟨frames, .value⟩ := by
  have same : Progress.step? ⟨frames, .firstItem⟩ first =
      Progress.step? ⟨frames, .value⟩ first := by
    simp only [Progress.step?]
    split
    · contradiction
    · rfl
  rw [List.foldlM_cons, List.foldlM_cons, same]

/-- The items that are still to come are read behind those that are done. -/
theorem foldlM_step?_items {item : Document} {items : List Document}
    (each : ∀ entry ∈ item :: items, IsReadBack entry) (done : List Document)
    (frames : List Frame) :
    (itemTokens (item :: items) ++ [Token.closeList]).foldlM Progress.step?
        ⟨.list done :: frames, .value⟩ =
      some ⟨frames, .afterValue (.list (done.reverse ++ item :: items))⟩ := by
  induction items generalizing item done with
  | nil =>
    rw [itemTokens, List.foldlM_append, each item List.mem_cons_self]
    simp [Progress.step?, continue?]
  | cons next items inductionHypothesis =>
    obtain ⟨own, others⟩ := List.forall_mem_cons.mp each
    have comma : Progress.step? ⟨.list done :: frames, .afterValue item⟩ .comma =
        some ⟨.list (item :: done) :: frames, .value⟩ := rfl
    rw [itemTokens, List.append_assoc, List.cons_append, List.foldlM_append, own,
      Option.bind_eq_bind, Option.bind_some, List.foldlM_cons, comma, Option.bind_eq_bind,
      Option.bind_some, inductionHypothesis others]
    simp

theorem isReadBack_list {items : List Document} (each : ∀ item ∈ items, IsReadBack item) :
    IsReadBack (.list items) := by
  intro frames
  have opened : Progress.step? ⟨frames, .value⟩ .openList =
      some ⟨.list [] :: frames, .firstItem⟩ := rfl
  rw [tokens, List.foldlM_cons, opened, Option.bind_eq_bind, Option.bind_some]
  cases items with
  | nil => rfl
  | cons item items =>
    obtain ⟨first, rest, same, opens⟩ := exists_itemTokens_eq item items
    have read := foldlM_step?_items each [] frames
    rw [same, List.cons_append] at read ⊢
    rw [foldlM_step?_firstItem opens, read]
    rfl

/-- Fields as an open record keeps them. -/
def named (fields : List (String × Document)) : List (Option String × Document) :=
  fields.map fun field => (some field.1, field.2)

theorem recordOf_named (fields : List (String × Document)) :
    recordOf (named fields) = .object fields := by
  have all : ((named fields).mapM fun entry => entry.1.map fun key => (key, entry.2)) =
      some fields := mapM_map_eq_some fun _ _ => rfl
  unfold recordOf
  simp only [all]

theorem foldlM_step?_fields {field : String × Document} {fields : List (String × Document)}
    (each : ∀ entry ∈ field :: fields, IsReadBack entry.2)
    (done : List (Option String × Document)) (frames : List Frame) :
    (fieldTokens (field :: fields) ++ [Token.closeRecord]).foldlM Progress.step?
        ⟨.record done none :: frames, .key⟩ =
      some ⟨frames, .afterValue (recordOf (done.reverse ++ named (field :: fields)))⟩ := by
  have key (key : String) (done : List (Option String × Document)) (rest : List Token) :
      (.text (some key) :: .colon :: rest).foldlM Progress.step?
          ⟨.record done none :: frames, .key⟩ =
        rest.foldlM Progress.step? ⟨.record done (some key) :: frames, .value⟩ := rfl
  induction fields generalizing field done with
  | nil =>
    rw [fieldTokens, List.cons_append, List.cons_append, key, List.foldlM_append,
      each field List.mem_cons_self]
    simp [Progress.step?, continue?, named]
  | cons next fields inductionHypothesis =>
    obtain ⟨own, others⟩ := List.forall_mem_cons.mp each
    have comma : Progress.step? ⟨.record done (some field.1) :: frames, .afterValue field.2⟩
        .comma = some ⟨.record ((some field.1, field.2) :: done) none :: frames, .key⟩ := rfl
    rw [fieldTokens, List.cons_append, List.cons_append, key, List.append_assoc, List.cons_append,
      List.foldlM_append, own, Option.bind_eq_bind, Option.bind_some, List.foldlM_cons, comma,
      Option.bind_eq_bind, Option.bind_some, inductionHypothesis others]
    simp [named]

theorem isReadBack_object {fields : List (String × Document)}
    (each : ∀ field ∈ fields, IsReadBack field.2) : IsReadBack (.object fields) := by
  intro frames
  have opened : Progress.step? ⟨frames, .value⟩ .openRecord =
      some ⟨.record [] none :: frames, .firstKey⟩ := rfl
  rw [Document.object, tokens, List.foldlM_cons, opened, Option.bind_eq_bind, Option.bind_some]
  cases fields with
  | nil => rfl
  | cons field fields =>
    -- A text is read as a key also where the record could end.
    have first : (fieldTokens (field :: fields) ++ [Token.closeRecord]).foldlM Progress.step?
        ⟨.record [] none :: frames, .firstKey⟩ =
        (fieldTokens (field :: fields) ++ [Token.closeRecord]).foldlM Progress.step?
        ⟨.record [] none :: frames, .key⟩ := by
      cases fields <;> rfl
    rw [first, foldlM_step?_fields each, List.reverse_nil, List.nil_append, recordOf_named]
    rfl

theorem IsJson.isReadBack {document : Document} (json : IsJson document) :
    IsReadBack document := by
  induction json with
  | flag value => exact isReadBack_of_token rfl fun _ => rfl
  | number spelled => exact isReadBack_of_token rfl fun _ => rfl
  | text value => exact isReadBack_of_token rfl fun _ => rfl
  | list _ inductionHypothesis => exact isReadBack_list inductionHypothesis
  | object _ inductionHypothesis => exact isReadBack_object inductionHypothesis
  | other => exact isReadBack_of_token rfl fun _ => rfl

theorem documentOfTokens?_tokens {document : Document} (json : IsJson document) :
    documentOfTokens? (tokens document) = some document := by
  rw [documentOfTokens?, json.isReadBack]
  rfl

end Tokens

section Layouts

theorem areReadable_nil : AreReadable [] :=
  ⟨List.forall_mem_nil _, .nil⟩

theorem areReadable_itemTokens {items : List Document}
    (each : ∀ item ∈ items, AreReadable (tokens item)) : AreReadable (itemTokens items) := by
  induction items with
  | nil => exact areReadable_nil
  | cons item items inductionHypothesis =>
    obtain ⟨own, others⟩ := List.forall_mem_cons.mp each
    cases items with
    | nil => exact own
    | cons next items => exact own.append ⟨',', rfl⟩ (inductionHypothesis others)

theorem areReadable_fieldTokens {fields : List (String × Document)}
    (each : ∀ field ∈ fields, AreReadable (tokens field.2)) : AreReadable (fieldTokens fields) := by
  have key (key : String) : AreReadable [.text (some key)] := areReadable_singleton rfl
  induction fields with
  | nil => exact areReadable_nil
  | cons field fields inductionHypothesis =>
    obtain ⟨own, others⟩ := List.forall_mem_cons.mp each
    cases fields with
    | nil => exact (key field.1).append ⟨':', rfl⟩ own
    | cons next fields =>
      exact (key field.1).append ⟨':', rfl⟩ (own.append ⟨',', rfl⟩ (inductionHypothesis others))

/-- Brackets around readable tokens. -/
theorem AreReadable.enclosed {inner : List Token} {opening closing : Token}
    (readable : AreReadable inner) (opens : opening.IsMark) (closes : closing.IsMark) :
    AreReadable (opening :: (inner ++ [closing])) :=
  areReadable_nil.append opens (readable.append closes areReadable_nil)

theorem IsJson.areReadable {document : Document} (json : IsJson document) :
    AreReadable (tokens document) := by
  induction json with
  | flag value => exact areReadable_singleton trivial
  | number spelled => exact areReadable_singleton spelled
  | text value => exact areReadable_singleton rfl
  | list _ inductionHypothesis =>
    exact (areReadable_itemTokens inductionHypothesis).enclosed ⟨'[', rfl⟩ ⟨']', rfl⟩
  | object _ inductionHypothesis =>
    exact (areReadable_fieldTokens inductionHypothesis).enclosed ⟨'{', rfl⟩ ⟨'}', rfl⟩
  | other => exact areReadable_singleton trivial

variable {document : Document} (json : IsJson document)

include json

theorem read?_of_isLayout {text : String} (layout : IsLayout (tokens document) text.toList) :
    read? text = some document := by
  rw [read?, tokens?_of_isLayout layout json.areReadable, Option.bind_some,
    documentOfTokens?_tokens json]

theorem read?_compact : read? (compact document) = some document := by
  apply read?_of_isLayout json
  rw [compact, String.toList_ofList]
  exact isLayout_flatMap (tokens document)

theorem read?_indented : read? (indented document) = some document := by
  apply read?_of_isLayout json
  rw [indented, String.toList_ofList]
  exact isLayout_indentedCharacters 0 (tokens document)

theorem isLine_compact : IsLine (compact document) := by
  rw [IsLine, compact, String.toList_ofList]
  intro member
  obtain ⟨token, listed, inside⟩ := List.mem_flatMap.mp member
  exact lineFeed_not_mem_characters (json.areReadable.writable token listed) inside

end Layouts

end Datapack.Json
