import Datapack.Command.Basic
import Datapack.Namespace
import Datapack.Proofs.Snbt.Decoding
import Datapack.Proofs.Text.Parts

/-!
Texts on one line. Numbers and namespaces never have a line feed in them, and structured data does
not either, since its strings are escaped. So an instruction stands on one line exactly if the texts
do that are written into it as they are.
-/

namespace Datapack

section Parts

theorem isLine_intercalate {separator : String} (single : IsLine separator)
    {texts : List String} :
    IsLine (separator.intercalate texts) ↔ ∀ text ∈ texts, IsLine text := by
  unfold IsLine at *
  rw [String.toList_intercalate]
  induction texts with
  | nil => simp
  | cons text texts inductionHypothesis =>
    cases texts with
    | nil => simp
    | cons next texts =>
      simp only [List.map_cons, List.intercalate_cons_cons, List.mem_append, not_or] at *
      simp [inductionHypothesis, single]

theorem isDigit_of_mem_toString {number : Nat} {character : Char}
    (member : character ∈ (toString number).toList) : character.isDigit = true := by
  rw [Nat.toString_eq_repr, Nat.toList_repr] at member
  exact Snbt.isDigit_of_mem_toDigits member

@[simp]
theorem isLine_toString (number : Nat) : IsLine (toString number) :=
  fun member => absurd (isDigit_of_mem_toString member) (by decide)

end Parts

namespace Number

/-- The text has only characters of numbers that are written with every digit in its place. -/
def IsNumeral (text : String) : Prop :=
  ∀ character ∈ text.toList,
    character.isDigit = true ∨ character ∈ ['.', '-', 'N', 'a', 'i', 'n', 'f']

instance (text : String) : Decidable (IsNumeral text) :=
  List.decidableBAll _ _

theorem IsNumeral.append {first second : String} (front : IsNumeral first)
    (back : IsNumeral second) : IsNumeral (first ++ second) := by
  rw [IsNumeral, String.toList_append, List.forall_mem_append]
  exact ⟨front, back⟩

theorem isNumeral_of_digits {digits : List Char}
    (decimal : ∀ character ∈ digits, character.isDigit = true) :
    IsNumeral (String.ofList digits) := by
  rw [IsNumeral, String.toList_ofList]
  exact fun character member => .inl (decimal character member)

theorem isNumeral_zeros (count : Nat) : IsNumeral (zeros count) := by
  apply isNumeral_of_digits
  intro character member
  rw [List.eq_of_mem_replicate member]
  rfl

theorem isNumeral_positional (decimal : Decimal) : IsNumeral (decimal.positional "") := by
  have part : ∀ digits ⊆ Nat.toDigits 10 decimal.digits, IsNumeral (String.ofList digits) :=
    fun digits subset => isNumeral_of_digits fun _ member =>
      Snbt.isDigit_of_mem_toDigits (subset member)
  unfold Decimal.positional
  dsimp only
  split
  · exact ((part _ (List.Subset.refl _)).append (isNumeral_zeros _)).append (by decide)
  · split
    · exact ((part _ (List.take_subset _ _)).append (by decide)).append
        (part _ (List.drop_subset _ _))
    · exact (IsNumeral.append (by decide) (isNumeral_zeros _)).append
        (part _ (List.Subset.refl _))

theorem isNumeral_render (number : Binary64) : IsNumeral (number.render .plain) := by
  have sign : ∀ negative : Bool, IsNumeral (if negative then "-" else "") := by decide
  cases number with
  | undefined => decide
  | infinite negative => exact (sign negative).append (by decide)
  | finite negative magnitude =>
    refine (sign negative).append ?_
    unfold Magnitude.render
    split
    · decide
    · exact isNumeral_positional _

theorem isLine_render (number : Binary64) : IsLine (number.render .plain) :=
  fun member => absurd (isNumeral_render number _ member) (by decide)

end Number

@[simp]
theorem Position.isLine_text (position : Position) : IsLine position.text := by
  unfold Position.text
  simp only [isLine_append, Number.isLine_render, true_and, and_true]
  decide

namespace Namespace

variable (namespaceName : Namespace)

@[simp]
theorem isLine_text : IsLine namespaceName.text := by
  intro member
  exact absurd (namespaceName.allowed _ member) (by decide)

@[simp]
theorem isLine_prefixed {suffix : String} :
    IsLine (namespaceName.prefixed suffix) ↔ IsLine suffix := by
  have separator : IsLine "_" := by decide
  simp [Namespace.prefixed, separator]

@[simp]
theorem isLine_resource {name : String} :
    IsLine (namespaceName.resource name) ↔ IsLine name := by
  have separator : IsLine ":" := by decide
  simp [Namespace.resource, separator]

end Namespace

namespace Snbt

theorem lineFeed_not_mem_quoted (text : List Char) : '\n' ∉ quoted text := by
  have escaped : ∀ character, '\n' ∉ escape character := by
    intro character
    unfold escape
    split
    · decide
    · decide
    · decide
    · next other =>
      rw [List.mem_singleton]
      exact Ne.symm other
  simp [quoted, escaped]

theorem lineFeed_not_mem_keyCharacters (key : String) : '\n' ∉ keyCharacters key := by
  unfold keyCharacters
  split
  · next bare =>
    intro member
    exact absurd (List.all_eq_true.mp bare.2 _ member) (by decide)
  · exact lineFeed_not_mem_quoted _

theorem lineFeed_not_mem_intCharacters (value : Int) : '\n' ∉ intCharacters value := by
  have digits : '\n' ∉ Nat.toDigits 10 value.natAbs :=
    fun member => absurd (isDigit_of_mem_toDigits member) (by decide)
  unfold intCharacters
  split
  · simpa using digits
  · exact digits

theorem lineFeed_not_mem_itemCharacters {items : List Snbt}
    (single : ∀ item ∈ items, '\n' ∉ item.characters) : '\n' ∉ itemCharacters items := by
  induction items with
  | nil => simp [itemCharacters]
  | cons item items inductionHypothesis =>
    rw [List.forall_mem_cons] at single
    have later := inductionHypothesis single.2
    cases items with
    | nil => simpa [itemCharacters] using single.1
    | cons next items => simp [itemCharacters, single.1, later]

theorem lineFeed_not_mem_entryCharacters {entries : List (String × Snbt)}
    (single : ∀ entry ∈ entries, '\n' ∉ entry.2.characters) : '\n' ∉ entryCharacters entries := by
  induction entries with
  | nil => simp [entryCharacters]
  | cons entry entries inductionHypothesis =>
    rw [List.forall_mem_cons] at single
    have later := inductionHypothesis single.2
    have own := lineFeed_not_mem_keyCharacters entry.1
    cases entries with
    | nil => simp [entryCharacters, own, single.1]
    | cons next entries => simp [entryCharacters, own, single.1, later]

theorem lineFeed_not_mem_characters (value : Snbt) : '\n' ∉ value.characters := by
  induction value using induct with
  | byte value => simp [characters, lineFeed_not_mem_intCharacters]
  | int value => simp [characters, lineFeed_not_mem_intCharacters]
  | bool value => cases value <;> decide
  | string value =>
    rw [characters]
    exact lineFeed_not_mem_quoted _
  | list items inductionHypothesis =>
    simp [characters, lineFeed_not_mem_itemCharacters inductionHypothesis]
  | compound entries inductionHypothesis =>
    simp [characters, lineFeed_not_mem_entryCharacters inductionHypothesis]

/-- Whatever strings the data holds, it is written on one line. -/
@[simp]
theorem isLine_text (value : Snbt) : IsLine value.text := by
  rw [IsLine, text, String.toList_ofList]
  exact lineFeed_not_mem_characters value

end Snbt

def Selector.plainTexts : Selector → List String
  | .tagged tag => [tag]
  | .everyPlayer => []

def StackTest.plainTexts (test : StackTest) : List String :=
  (test.item.map Prod.fst).toList

def Clause.plainTexts : Clause → List String
  | .as selector => selector.plainTexts
  | .atSelf => []
  | .scoreAtLeast holder objective _ => [holder, objective]
  | .holds _ test => test.plainTexts

/-- The texts that are written into an instruction without being escaped. -/
def Command.plainTexts : Command → List String
  | .comment remark => [remark]
  | .addObjective objective => [objective]
  | .removeObjective objective => [objective]
  | .setScore holder objective _ => [holder, objective]
  | .addScore holder objective _ => [holder, objective]
  | .summon entity _ _ => [entity]
  | .store storage path _ => [storage, path]
  | .kill selector => selector.plainTexts
  | .facePlayer => []
  | .fillItems storage path => [storage, path]
  | .clear test => test.plainTexts
  | .call function _ => [function]
  | .execute clauses command => clauses.flatMap Clause.plainTexts ++ command.plainTexts

-- A text falls into its parts first; what is left are the fixed ones, which `simp` reads through.
theorem Selector.isLine_text_iff (selector : Selector) :
    IsLine selector.text ↔ ∀ plain ∈ selector.plainTexts, IsLine plain := by
  cases selector <;> simp [IsLine, Selector.text, Selector.plainTexts]

theorem StackTest.isLine_text_iff (test : StackTest) :
    IsLine test.text ↔ ∀ plain ∈ test.plainTexts, IsLine plain := by
  unfold StackTest.text StackTest.plainTexts
  cases test.item with
  | none =>
    simp only [isLine_append, Snbt.isLine_text]
    simp [IsLine]
  | some item =>
    simp only [isLine_append, Snbt.isLine_text, isLine_toString]
    simp [IsLine]

theorem Clause.isLine_text_iff (clause : Clause) :
    IsLine clause.text ↔ ∀ plain ∈ clause.plainTexts, IsLine plain := by
  unfold Clause.text Clause.plainTexts
  rcases clause with selector | - | ⟨holder, objective, least⟩ | ⟨slots, test⟩
  · simp only [isLine_append, Selector.isLine_text_iff]
    simp [IsLine]
  · simp [IsLine]
  · simp only [isLine_append, isLine_toString]
    simp [IsLine]
  · simp only [isLine_append, StackTest.isLine_text_iff]
    cases slots <;> simp [IsLine, Slots.text]

/-- An instruction is written on one line exactly if its plain texts are. -/
theorem Command.isLine_text_iff (command : Command) :
    IsLine command.text ↔ ∀ plain ∈ command.plainTexts, IsLine plain := by
  induction command with
  | execute clauses command inductionHypothesis =>
    unfold Command.text Command.plainTexts
    have separator : IsLine " " := by decide
    simp only [isLine_append, isLine_intercalate separator, inductionHypothesis,
      List.forall_mem_map, Clause.isLine_text_iff, List.forall_mem_append, List.forall_mem_flatMap]
    simp [IsLine]
  | kill selector =>
    unfold Command.text Command.plainTexts
    simp only [isLine_append, Selector.isLine_text_iff]
    simp [IsLine]
  | clear test =>
    unfold Command.text Command.plainTexts
    simp only [isLine_append, StackTest.isLine_text_iff]
    simp [IsLine]
  | facePlayer =>
    unfold Command.text Command.plainTexts
    simp [IsLine]
  | _ =>
    unfold Command.text Command.plainTexts
    simp only [isLine_append, isLine_toString, Position.isLine_text, Snbt.isLine_text]
    simp [IsLine]

end Datapack
