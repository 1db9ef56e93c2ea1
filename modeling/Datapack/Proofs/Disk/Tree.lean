import Datapack.Proofs.Disk.Place

/-!
File trees seen through what stands at each place, and what makes them trees: everything stands in
a directory.
-/

namespace Datapack.Disk

@[simp]
theorem get?_nil (disk : Disk) : disk.get? [] = some .directory := rfl

@[simp]
theorem get?_erase (disk : Disk) {location : Location} (nonempty : location ≠ [])
    (other : Location) :
    (disk.erase location).get? other = if other = location then none else disk.get? other := by
  unfold get? erase
  by_cases root : other = []
  · subst root
    simp [Ne.symm nonempty]
  · simp only [root, if_false]
    rw [lookup_filter_keys (fun key => key != location)]
    by_cases same : other = location <;> simp [same]

@[simp]
theorem get?_set (disk : Disk) {location : Location} (nonempty : location ≠ [])
    (entry : Entry) (other : Location) :
    (disk.set location entry).get? other =
      if other = location then some entry else disk.get? other := by
  have erased := get?_erase disk nonempty other
  unfold get? at erased ⊢
  by_cases root : other = []
  · subst root
    simp [Ne.symm nonempty]
  · simp only [root, if_false] at erased ⊢
    by_cases same : other = location
    · simp [set, same]
    · rw [set, lookup_of_ne same, erased, if_neg same, if_neg same]

@[simp]
theorem get?_clear (disk : Disk) (location other : Location) :
    (disk.clear location).get? other =
      if location <+: other ∧ other ≠ location then none else disk.get? other := by
  unfold get? clear
  by_cases root : other = []
  · subst root
    simp
  · simp only [root, if_false]
    rw [lookup_filter_keys (fun key => !location.isPrefixOf key || key == location)]
    by_cases begins : location <+: other
    · have found : location.isPrefixOf other = true := List.isPrefixOf_iff_prefix.mpr begins
      by_cases same : other = location <;> simp [begins, found, same]
    · have missed : location.isPrefixOf other = false := by
        simpa [← List.isPrefixOf_iff_prefix] using begins
      simp [begins, missed]

theorem isDirectory_iff {disk : Disk} {location : Location} :
    disk.isDirectory location = true ↔ disk.get? location = some .directory := by
  simp [isDirectory]

structure IsFileName (name : String) : Prop where
  named : Path.component? name = some (.name name)
  complete : '\x00' ∉ name.toList
  short : name.utf8ByteSize ≤ nameLimit

instance (name : String) : Decidable (IsFileName name) :=
  decidable_of_iff
    (Path.component? name = some (.name name) ∧ '\x00' ∉ name.toList ∧
      name.utf8ByteSize ≤ nameLimit)
    ⟨fun ⟨named, complete, short⟩ => ⟨named, complete, short⟩,
      fun valid => ⟨valid.named, valid.complete, valid.short⟩⟩

/-- Everything stands in a directory and bears a name that is allowed. -/
structure IsTree (disk : Disk) : Prop where
  parent : ∀ directory name, disk.get? (directory ++ [name]) ≠ none →
    disk.isDirectory directory = true
  named : ∀ directory name, disk.get? (directory ++ [name]) ≠ none → IsFileName name

/-- To be a tree is a matter of the entries that are listed. -/
theorem isTree_of_entries {disk : Disk}
    (sound : ∀ entry ∈ disk.entries, ∃ directory name, entry.1 = directory ++ [name] ∧
      disk.isDirectory directory = true ∧ IsFileName name) : disk.IsTree := by
  have listed : ∀ directory name, disk.get? (directory ++ [name]) ≠ none →
      disk.isDirectory directory = true ∧ IsFileName name := by
    intro directory name present
    have nonempty : directory ++ [name] ≠ [] := by simp
    rw [get?, if_neg nonempty] at present
    obtain ⟨entry, found⟩ := Option.ne_none_iff_exists'.mp present
    obtain ⟨before, _, split, _⟩ := List.lookup_eq_some_iff.mp found
    obtain ⟨above, last, same, rest⟩ := sound (directory ++ [name], entry) (by simp [split])
    obtain ⟨rfl, alike⟩ := List.append_inj' same rfl
    rw [List.singleton_inj.mp alike]
    exact rest
  exact ⟨fun directory name present => (listed directory name present).1,
    fun directory name present => (listed directory name present).2⟩

theorem isTree_empty : empty.IsTree :=
  isTree_of_entries fun _ member => absurd member List.not_mem_nil

/-- Whatever leads to an entry of a tree is a directory. -/
theorem IsTree.isDirectory_of_prefix {disk : Disk} (tree : disk.IsTree)
    {front location : Location} (begins : front <+: location) (proper : front ≠ location)
    (present : disk.get? location ≠ none) : disk.isDirectory front = true := by
  obtain ⟨rest, rfl⟩ := begins
  induction rest using List.reverseRecOn with
  | nil => simp at proper
  | append_singleton rest name inductionHypothesis =>
    rw [← List.append_assoc] at present
    have above := tree.parent _ _ present
    by_cases ended : rest = []
    · simpa [ended] using above
    · apply inductionHypothesis
      · simpa using ended
      · rw [isDirectory_iff.mp above]
        simp

theorem IsTree.get?_eq_none_of_begins {disk : Disk} (tree : disk.IsTree)
    {front location : Location} (begins : front <+: location) (free : disk.get? front = none) :
    disk.get? location = none := by
  by_cases same : front = location
  · rwa [← same]
  · by_contra present
    have standing := tree.isDirectory_of_prefix begins same present
    rw [isDirectory_iff, free] at standing
    contradiction

theorem IsTree.isDirectory_of_begins {disk : Disk} (tree : disk.IsTree)
    {front location : Location} (begins : front <+: location)
    (there : disk.isDirectory location = true) : disk.isDirectory front = true := by
  by_cases same : front = location
  · rw [same]
    exact there
  · apply tree.isDirectory_of_prefix begins same
    rw [isDirectory_iff.mp there]
    simp

theorem IsTree.isFileName_of_mem {disk : Disk} (tree : disk.IsTree) {location : Location}
    (present : disk.get? location ≠ none) {name : String} (member : name ∈ location) :
    IsFileName name := by
  induction location using List.reverseRecOn with
  | nil => simp at member
  | append_singleton front last inductionHypothesis =>
    rcases List.mem_append.mp member with within | ends
    · apply inductionHypothesis _ within
      rw [isDirectory_iff.mp (tree.parent _ _ present)]
      simp
    · rw [List.mem_singleton.mp ends]
      exact tree.named _ _ present

/-- An entry may be put into a directory. Only where no directory is may it be a file. -/
theorem IsTree.set {disk : Disk} (tree : disk.IsTree) {directory : Location} {name : String}
    {entry : Entry} (parent : disk.isDirectory directory = true) (valid : IsFileName name)
    (fits : entry = .directory ∨ disk.isDirectory (directory ++ [name]) = false) :
    (disk.set (directory ++ [name]) entry).IsTree := by
  have nonempty : directory ++ [name] ≠ [] := by simp
  constructor
  · intro above below present
    rw [isDirectory_iff, get?_set _ nonempty]
    rw [get?_set _ nonempty] at present
    by_cases same : above ++ [below] = directory ++ [name]
    · obtain ⟨rfl, _⟩ := List.append_inj' same rfl
      rw [if_neg (by simp)]
      exact isDirectory_iff.mp parent
    · rw [if_neg same] at present
      have standing := tree.parent _ _ present
      split
      next reached =>
        rcases fits with rfl | free
        · rfl
        · rw [reached, free] at standing
          contradiction
      next => exact isDirectory_iff.mp standing
  · intro above below present
    rw [get?_set _ nonempty] at present
    by_cases same : above ++ [below] = directory ++ [name]
    · obtain ⟨_, alike⟩ := List.append_inj' same rfl
      rw [List.singleton_inj.mp alike]
      exact valid
    · rw [if_neg same] at present
      exact tree.named _ _ present

end Datapack.Disk
