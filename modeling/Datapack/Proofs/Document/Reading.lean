import Datapack.Document.Dialect
import Datapack.Proofs.Json.Numbers

/-!
What documents hold is found in them again. A record whose fields bear the names of a shape is taken
apart into just these fields. A number that JSON writes is read by every dialect that reads numbers
the way JSON does.
-/

namespace Datapack

open Number

section Shapes

def Shape.IsUnambiguous (shape : Shape) : Prop :=
  shape.fields.Pairwise fun first second =>
    first.answersTo second.name = false ∧ second.answersTo first.name = false

instance (shape : Shape) : Decidable shape.IsUnambiguous :=
  inferInstanceAs (Decidable (List.Pairwise _ _))

theorem filter_answersTo_eq_nil {field : Field} {others : List Field}
    {entries : List (String × Document)} (names : entries.map Prod.fst = others.map Field.name)
    (silent : ∀ other ∈ others, field.answersTo other.name = false) :
    entries.filter (fun entry => field.answersTo entry.1) = [] := by
  rw [List.filter_eq_nil_iff]
  intro entry member
  have named : entry.1 ∈ others.map Field.name := by
    rw [← names]
    exact List.mem_map_of_mem member
  obtain ⟨other, listed, same⟩ := List.mem_map.mp named
  rw [← same, silent other listed]
  exact Bool.false_ne_true

/-- Of the entries a field answers to one only, the one in its own place. -/
theorem mapM_member? {done rest : List Field} {before after : List (String × Document)}
    (unambiguous : (done ++ rest).Pairwise fun first second =>
      first.answersTo second.name = false ∧ second.answersTo first.name = false)
    (earlier : before.map Prod.fst = done.map Field.name)
    (later : after.map Prod.fst = rest.map Field.name) :
    rest.mapM (Document.member? (before ++ after)) = some (after.map fun entry => [entry]) := by
  induction rest generalizing done before after with
  | nil =>
    obtain rfl := List.map_eq_nil_iff.mp later
    rfl
  | cons field rest inductionHypothesis =>
    obtain ⟨entry, entries, rfl, name, names⟩ := List.map_eq_cons_iff.mp later
    obtain ⟨key, value⟩ := entry
    obtain rfl : key = field.name := name
    obtain ⟨-, behind, apart⟩ := List.pairwise_append.mp unambiguous
    have silentBefore := filter_answersTo_eq_nil earlier
      fun other member => (apart other member field List.mem_cons_self).2
    have silentBehind := filter_answersTo_eq_nil names
      fun other member => ((List.pairwise_cons.mp behind).1 other member).1
    have own : field.answersTo field.name = true := by simp [Field.answersTo]
    have only : (before ++ (field.name, value) :: entries).filter
        (fun entry => field.answersTo entry.1) = [(field.name, value)] := by
      rw [List.filter_append, silentBefore, List.nil_append, List.filter_cons_of_pos (by exact own),
        silentBehind]
    have first : Document.member? (before ++ (field.name, value) :: entries) field =
        some [(field.name, value)] := by
      unfold Document.member?
      simp only [only]
    have others := @inductionHypothesis (done ++ [field]) (before ++ [(field.name, value)]) entries
      (by simpa using unambiguous) (by simp [earlier]) names
    rw [List.append_assoc, List.singleton_append] at others
    rw [List.mapM_cons, first, others]
    rfl

/-- A record with the fields of a shape, each one once, has just these members. -/
theorem members?_object (dialect : Dialect) {shape : Shape} {fields : List (String × Document)}
    (unambiguous : shape.IsUnambiguous)
    (names : fields.map Prod.fst = shape.fields.map Field.name) :
    (Document.object fields).members? dialect shape = some fields := by
  have found := @mapM_member? [] shape.fields [] fields unambiguous rfl names
  rw [List.nil_append] at found
  have joined : (fields.map fun entry => [entry]).flatten = fields := by
    rw [← List.flatMap_def, List.flatMap_singleton']
  rw [Document.object, Document.members?, if_pos (.inl rfl), found, Option.map_some, joined]

end Shapes

theorem listOf?_map {Value : Type} {write : Value → Document} {read? : Document → Option Value}
    {values : List Value} (each : ∀ value ∈ values, read? (write value) = some value) :
    Document.listOf? read? (.list (values.map write)) = some values :=
  mapM_map_eq_some each

def Number.Binary64.IsFinite : Binary64 → Prop
  | .finite _ _ => True
  | .infinite _ => False
  | .undefined => False

instance : DecidablePred Binary64.IsFinite
  | .finite _ _ => .isTrue trivial
  | .infinite _ => .isFalse id
  | .undefined => .isFalse id

/-- The dialect reads numbers as JSON writes them. -/
structure Dialect.ReadsJson (dialect : Dialect) : Prop where
  naturals : ∀ value, dialect.natural? (toString value) = some value
  reals : ∀ negative magnitude,
    dialect.real? ((Binary64.finite negative magnitude).render Json.numberFormat) =
      some (.finite negative magnitude)

theorem Json.readsJson_dialect : Json.dialect.ReadsJson :=
  ⟨Json.natural?_toString, Json.real?_render⟩

section Numbers

variable {dialect : Dialect} (reads : dialect.ReadsJson)

include reads

theorem natural?_natural {value limit : Nat} (small : value < limit) :
    (Document.natural value).natural? dialect limit = some value := by
  rw [Document.natural, Document.natural?, reads.naturals, Option.filter_some_pos]
  exact decide_eq_true small

theorem real?_real {number : Binary64} (finite : number.IsFinite) :
    (Json.real number).real? dialect = some number := by
  cases number with
  | finite negative magnitude => exact reads.reals negative magnitude
  | infinite negative => exact finite.elim
  | undefined => exact finite.elim

end Numbers

end Datapack
