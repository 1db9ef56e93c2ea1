import Datapack.Economy.Identifiers

/-!
Names tell apart what they name: decimal texts of numbers, and the tags and objectives of packages.
No two packages derive the same tag or the same objective from their namespaces; what one of them
derives may be the namespace of the other, though.
-/

namespace Datapack.Economy

theorem Id.toList_text (id : Id) : id.text.toList = Nat.toDigits 10 id.toNat := by
  rw [Id.text, Nat.toString_eq_repr, Nat.toList_repr]

theorem toString_inj {first second : Nat} : toString first = toString second ↔ first = second := by
  constructor
  · intro same
    have digits := congrArg String.toList same
    rw [Nat.toString_eq_repr, Nat.toString_eq_repr, Nat.toList_repr, Nat.toList_repr] at digits
    have value := congrArg (fun text => Nat.ofDigitChars 10 text 0) digits
    simpa only [Nat.ofDigitChars_ten_toDigits] using value
  · intro same
    rw [same]

@[simp]
theorem Id.text_inj {first second : Id} : first.text = second.text ↔ first = second := by
  rw [Id.text, Id.text, toString_inj, UInt32.toNat_inj]

variable (namespaceName : Namespace)

section Two

variable (first second : Namespace)

@[simp]
theorem text_inj : first.text = second.text ↔ first = second := by
  constructor
  · intro same
    cases first
    cases second
    cases same
    rfl
  · rintro rfl
    rfl

@[simp]
theorem prefixed_left_inj {suffix : String} :
    first.prefixed suffix = second.prefixed suffix ↔ first = second := by
  unfold Namespace.prefixed
  rw [String.append_left_inj, String.append_left_inj, text_inj]

theorem getLast?_prefixed {suffix : String} {last : Char}
    (ends : suffix.toList.getLast? = some last) :
    (first.prefixed suffix).toList.getLast? = some last := by
  unfold Namespace.prefixed
  rw [String.toList_append, List.getLast?_append, ends]
  rfl

/-- Suffixes that end differently make different names, whatever stands in front of them. -/
theorem prefixed_ne_prefixed {suffix other : String} (last otherLast : Char)
    (ends : suffix.toList.getLast? = some last)
    (otherEnds : other.toList.getLast? = some otherLast) (different : last ≠ otherLast) :
    first.prefixed suffix ≠ second.prefixed other := by
  intro same
  have lasts := congrArg (fun name => name.toList.getLast?) same
  simp only [getLast?_prefixed first ends, getLast?_prefixed second otherEnds] at lasts
  exact different (Option.some.inj lasts)

@[simp]
theorem generatorsObjective_ne_currencyObjective :
    generatorsObjective first ≠ currencyObjective second :=
  prefixed_ne_prefixed first second 's' 'y' rfl rfl (by decide)

@[simp]
theorem shopTag_ne_shopkeeperTag : shopTag first ≠ shopkeeperTag second :=
  prefixed_ne_prefixed first second 'p' 'r' rfl rfl (by decide)

theorem Id.isDigit_of_mem_text {id : Id} {character : Char} (member : character ∈ id.text.toList) :
    character.isDigit = true := by
  rw [Id.toList_text] at member
  exact Nat.isDigit_of_mem_toDigits (by decide) (by decide) member

/-- The tag of a container ends with a digit. -/
theorem containerTag_ends (keeper : Id) :
    ∃ digit, digit.isDigit = true ∧ ("shop_" ++ keeper.text).toList.getLast? = some digit := by
  have nonempty : keeper.text.toList ≠ [] := by
    rw [Id.toList_text]
    exact Nat.toDigits_ne_nil
  refine ⟨keeper.text.toList.getLast nonempty, ?_, ?_⟩
  · exact Id.isDigit_of_mem_text (List.getLast_mem nonempty)
  · rw [String.toList_append, List.getLast?_append, List.getLast?_eq_some_getLast nonempty]
    rfl

@[simp]
theorem containerTag_ne_shopTag (keeper : Id) : containerTag first keeper ≠ shopTag second := by
  obtain ⟨digit, isDigit, ends⟩ := containerTag_ends keeper
  apply prefixed_ne_prefixed first second digit 'p' ends rfl
  rintro rfl
  contradiction

@[simp]
theorem containerTag_ne_shopkeeperTag (keeper : Id) :
    containerTag first keeper ≠ shopkeeperTag second := by
  obtain ⟨digit, isDigit, ends⟩ := containerTag_ends keeper
  apply prefixed_ne_prefixed first second digit 'r' ends rfl
  rintro rfl
  contradiction

/-- Texts that are cut at their last separator are the same if both parts are. -/
theorem append_separator_inj {separator : Char} {front back otherFront otherBack : List Char}
    (whole : separator ∉ back) (otherWhole : separator ∉ otherBack)
    (same : front ++ separator :: back = otherFront ++ separator :: otherBack) :
    front = otherFront ∧ back = otherBack := by
  rcases List.append_eq_append_iff.mp same with ⟨middle, longer, rest⟩ | ⟨middle, longer, rest⟩
  · cases middle with
    | nil => simp_all
    | cons character middle =>
      obtain ⟨-, rfl⟩ := List.cons.inj rest
      simp at whole
  · cases middle with
    | nil => simp_all
    | cons character middle =>
      obtain ⟨-, rfl⟩ := List.cons.inj rest
      simp at otherWhole

/-- Texts that are cut at their first separator are the same if both parts are. -/
theorem append_first_separator_inj {separator : Char}
    {front back otherFront otherBack : List Char} (whole : separator ∉ front)
    (otherWhole : separator ∉ otherFront)
    (same : front ++ separator :: back = otherFront ++ separator :: otherBack) :
    front = otherFront ∧ back = otherBack := by
  have backwards := congrArg List.reverse same
  simp only [List.reverse_append, List.reverse_cons, List.append_assoc,
    List.singleton_append] at backwards
  obtain ⟨backs, fronts⟩ := append_separator_inj (mt List.mem_reverse.mp whole)
    (mt List.mem_reverse.mp otherWhole) backwards
  exact ⟨List.reverse_inj.mp fronts, List.reverse_inj.mp backs⟩

/-- A number has no separator in it, so the last one of a tag is the one in front of the number. -/
theorem eq_of_containerTag_eq {keeper other : Id}
    (same : containerTag first keeper = containerTag second other) : first = second := by
  have shape : ∀ (owner : Namespace) (id : Id), (containerTag owner id).toList =
      (shopTag owner).toList ++ '_' :: id.text.toList := by
    intro owner id
    simp [containerTag, shopTag, Namespace.prefixed]
  have whole : ∀ id : Id, '_' ∉ id.text.toList := by
    intro id member
    have digit := Id.isDigit_of_mem_text member
    contradiction
  have characters := congrArg String.toList same
  rw [shape, shape] at characters
  have tags := (append_separator_inj (whole keeper) (whole other) characters).1
  exact (prefixed_left_inj first second).mp (String.toList_inj.mp tags)

end Two

end Datapack.Economy
