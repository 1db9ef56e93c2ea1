/-!
Texts in parts: the lines of a text, and the words of a line. Texts that are joined by a separator
have the parts of all of them, so they can be told apart again exactly if none of them has the
separator in it.
-/

namespace Datapack

/-- The parts of a text between the places where a character stands. -/
def partsOf (separator : Char) (text : String) : List String :=
  (text.toList.splitOn separator).map String.ofList

/-- The text has no line feed in it. -/
def IsLine (text : String) : Prop :=
  '\n' ∉ text.toList

instance (text : String) : Decidable (IsLine text) :=
  inferInstanceAs (Decidable ('\n' ∉ text.toList))

def linesOf (text : String) : List String :=
  partsOf '\n' text

def IsWord (text : String) : Prop :=
  ' ' ∉ text.toList

instance (text : String) : Decidable (IsWord text) :=
  inferInstanceAs (Decidable (' ' ∉ text.toList))

section Separators

variable {separator : Char} {joint : String}

theorem partsOf_ne_nil (separator : Char) (text : String) : partsOf separator text ≠ [] := by
  simp [partsOf, List.splitOn_eq_splitOnP, List.splitOnP_ne_nil]

theorem intercalate_partsOf (single : joint.toList = [separator]) (text : String) :
    joint.intercalate (partsOf separator text) = text := by
  apply String.toList_inj.mp
  rw [String.toList_intercalate, partsOf, List.map_map, single]
  simp only [Function.comp_def, String.toList_ofList, List.map_id']
  exact List.intercalate_splitOn separator

theorem not_mem_of_mem_splitOn {text part : List Char}
    (member : part ∈ text.splitOn separator) : separator ∉ part := by
  rw [List.splitOn_eq_splitOnP] at member
  induction text generalizing part with
  | nil => simp_all
  | cons character text inductionHypothesis =>
    rw [List.splitOnP_cons_eq_if_modifyHead] at member
    split at member
    · rcases List.mem_cons.mp member with rfl | member
      · exact List.not_mem_nil
      · exact inductionHypothesis member
    · next different =>
      obtain ⟨first, others, parts⟩ := List.exists_cons_of_ne_nil
        (List.splitOnP_ne_nil (fun other => other == separator) text)
      rw [parts, List.modifyHead_cons] at member
      rw [parts] at inductionHypothesis
      rcases List.mem_cons.mp member with rfl | member
      · rw [List.mem_cons, not_or]
        exact ⟨fun same => different (beq_iff_eq.mpr same.symm),
          inductionHypothesis List.mem_cons_self⟩
      · exact inductionHypothesis (List.mem_cons_of_mem _ member)

theorem not_mem_of_mem_partsOf {text part : String} (member : part ∈ partsOf separator text) :
    separator ∉ part.toList := by
  obtain ⟨characters, split, rfl⟩ := List.mem_map.mp member
  rw [String.toList_ofList]
  exact not_mem_of_mem_splitOn split

/-- Parts that were joined are found again. -/
theorem partsOf_intercalate_of_not_mem (single : joint.toList = [separator])
    {parts : List String} (nonempty : parts ≠ [])
    (free : ∀ part ∈ parts, separator ∉ part.toList) :
    partsOf separator (joint.intercalate parts) = parts := by
  have apart : ∀ part ∈ parts.map String.toList, separator ∉ part := List.forall_mem_map.mpr free
  rw [partsOf, String.toList_intercalate, single,
    List.splitOn_intercalate _ apart (by simpa using nonempty), List.map_map]
  simp [Function.comp_def]

theorem partsOf_of_not_mem {text : String} (free : separator ∉ text.toList) :
    partsOf separator text = [text] := by
  have found := partsOf_intercalate_of_not_mem (String.toList_singleton separator)
    (List.cons_ne_nil text []) (by simpa using free)
  rwa [String.intercalate_singleton] at found

theorem intercalate_flatMap {Item : Type} {parts : Item → List String}
    {joined : Item → String} (nonempty : ∀ item, parts item ≠ [])
    (same : ∀ item, joint.intercalate (parts item) = joined item) (items : List Item) :
    joint.intercalate (items.flatMap parts) = joint.intercalate (items.map joined) := by
  induction items with
  | nil => rfl
  | cons item items inductionHypothesis =>
    cases items with
    | nil => rw [List.flatMap_singleton, same, List.map_singleton, String.intercalate_singleton]
    | cons next items =>
      have more : (next :: items).flatMap parts ≠ [] := by
        rw [List.flatMap_cons]
        exact List.append_ne_nil_of_left_ne_nil (nonempty next) _
      rw [List.flatMap_cons, String.intercalate_append_of_ne_nil (nonempty item) more,
        inductionHypothesis, same]
      exact (String.intercalate_cons_of_ne_nil (by simp)).symm

/-- Texts that are joined have the parts of all of them. -/
theorem partsOf_intercalate (single : joint.toList = [separator]) {texts : List String}
    (nonempty : texts ≠ []) :
    partsOf separator (joint.intercalate texts) = texts.flatMap (partsOf separator) := by
  have joined := intercalate_flatMap (partsOf_ne_nil separator) (intercalate_partsOf single) texts
  rw [List.map_id'] at joined
  rw [← joined]
  apply partsOf_intercalate_of_not_mem single
  · obtain ⟨text, others, rfl⟩ := List.exists_cons_of_ne_nil nonempty
    rw [List.flatMap_cons]
    exact List.append_ne_nil_of_left_ne_nil (partsOf_ne_nil separator text) _
  · intro part member
    obtain ⟨text, -, member⟩ := List.mem_flatMap.mp member
    exact not_mem_of_mem_partsOf member

theorem flatMap_partsOf {texts : List String} (free : ∀ text ∈ texts, separator ∉ text.toList) :
    texts.flatMap (partsOf separator) = texts := by
  induction texts with
  | nil => rfl
  | cons text texts inductionHypothesis =>
    rw [List.forall_mem_cons] at free
    rw [List.flatMap_cons, partsOf_of_not_mem free.1, inductionHypothesis free.2,
      List.singleton_append]

end Separators

/-- Joined lines split into the lines again exactly if each of them is one line. -/
theorem linesOf_intercalate_iff {lines : List String} (nonempty : lines ≠ []) :
    linesOf ("\n".intercalate lines) = lines ↔ ∀ line ∈ lines, IsLine line := by
  constructor
  · intro same line member
    rw [← same] at member
    exact not_mem_of_mem_partsOf member
  · exact partsOf_intercalate_of_not_mem rfl nonempty

section Append

variable {first second : String}

@[simp]
theorem isLine_append : IsLine (first ++ second) ↔ IsLine first ∧ IsLine second := by
  simp only [IsLine, String.toList_append, List.mem_append, not_or]

@[simp]
theorem isWord_append : IsWord (first ++ second) ↔ IsWord first ∧ IsWord second := by
  simp only [IsWord, String.toList_append, List.mem_append, not_or]

end Append

theorem words_cons {text : String} (word : IsWord text) (texts : List String) :
    (text :: texts).flatMap (partsOf ' ') = text :: texts.flatMap (partsOf ' ') := by
  rw [List.flatMap_cons, partsOf_of_not_mem word, List.singleton_append]

end Datapack
