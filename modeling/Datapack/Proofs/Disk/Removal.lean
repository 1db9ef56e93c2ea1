import Datapack.Proofs.Disk.Tree

/-!
Removing a directory. Whatever stands in a tree can be reached by a path that never goes up, unless
the path is too long to be followed at all; so removing by such a path leaves nothing behind.
-/

namespace Datapack.Disk

theorem follow_begins {current : Location} {segments : List String} (level : ".." ∉ segments) :
    current <+: follow current segments := by
  apply foldl_step_begins
  intro component member
  obtain ⟨segment, found, read⟩ := List.mem_filterMap.mp member
  rcases Path.component?_cases read with ⟨rfl, _⟩ | named
  · exact absurd found level
  · exact ⟨segment, named⟩

/-- In a tree every way down to a directory can be walked. -/
theorem walk_of_isDirectory {disk : Disk} (tree : disk.IsTree) {current : Location}
    {segments : List String} (level : ".." ∉ segments)
    (there : disk.isDirectory (follow current segments) = true) :
    disk.walk current segments = .ok (follow current segments) := by
  induction segments generalizing current with
  | nil => rfl
  | cons segment rest inductionHypothesis =>
    rw [List.mem_cons, not_or] at level
    have start := tree.isDirectory_of_begins (follow_begins (by simp [level])) there
    unfold walk
    by_cases silent : Path.isSilent segment = true
    · rw [follow_of_silent silent] at there ⊢
      simp only [start, silent, Bool.not_true, Bool.false_eq_true, if_false, if_true]
      exact inductionHypothesis level.2 there
    · have named : Path.component? segment = some (.name segment) := by
        simp [Path.component?, silent, Ne.symm level.1]
      rw [follow_of_name named] at there ⊢
      have found := isDirectory_iff.mp (tree.isDirectory_of_begins (follow_begins level.2) there)
      have valid : IsFileName segment := tree.named current segment (by simp [found])
      simp only [start, silent, found, Ne.symm level.1, Nat.not_lt.mpr valid.short, Bool.not_true,
        Bool.false_eq_true, if_false]
      exact inductionHypothesis level.2 there

theorem walk_append (disk : Disk) (current : Location) (first second : List String) :
    disk.walk current (first ++ second) =
      disk.walk current first >>= fun reached => disk.walk reached second := by
  induction first generalizing current with
  | nil => rfl
  | cons segment rest inductionHypothesis =>
    rw [List.cons_append, walk, walk]
    split
    · rfl
    · split
      · exact inductionHypothesis current
      · split
        · exact inductionHypothesis current.dropLast
        · split
          · rfl
          · split
            · exact inductionHypothesis (current ++ [segment])
            · rfl

theorem mem_follow {current : Location} {segments : List String} {segment : String}
    (level : ".." ∉ segments) (member : segment ∈ segments)
    (heard : Path.isSilent segment = false) : segment ∈ follow current segments := by
  obtain ⟨front, rest, rfl⟩ := List.append_of_mem member
  simp only [List.mem_append, List.mem_cons, not_or] at level
  have named : Path.component? segment = some (.name segment) := by
    simp [Path.component?, heard, Ne.symm level.2.1]
  rw [follow_append, follow_of_name named]
  exact (follow_begins level.2.2).subset (by simp)

/-- A path that never goes up, ends in a name and is short enough to be followed. -/
structure IsDirect (path : Path) : Prop where
  level : .up ∉ path.components
  named : ∃ front name, path.segments = front ++ [name] ∧ Path.component? name = some (.name name)
  short : path.text.utf8ByteSize < pathLimit

section Present

variable {disk : Disk} {path : Path}

theorem checkText_of_present (tree : disk.IsTree) (direct : IsDirect path)
    (present : disk.get? (disk.place path) ≠ none) : checkText path = .ok () := by
  have level : ".." ∉ path.segments := mt (Path.up_mem_components_iff path).mpr direct.level
  have complete : ∀ segment ∈ path.segments, '\x00' ∉ segment.toList := by
    intro segment member
    by_cases silent : Path.isSilent segment = true
    · rcases (by simpa [Path.isSilent] using silent : segment = "" ∨ segment = ".") with rfl | rfl
      · simp
      · decide
    · rw [place_eq_follow] at present
      have passed : segment ∈ follow (disk.origin path) path.segments :=
        mem_follow level member (by simpa using silent)
      exact (tree.isFileName_of_mem present passed).complete
  obtain ⟨front, name, shape, read⟩ := direct.named
  have heard : name ≠ "" := by
    rintro rfl
    simp [Path.component?, Path.isSilent] at read
  exact checkText_of_clean complete (Path.isEmpty_eq_false_of_ends shape heard) direct.short

/-- The directory that holds what a direct path names can be walked to. -/
theorem walk_of_present (tree : disk.IsTree) {front : List String} {name : String}
    (level : .up ∉ path.components) (shape : path.segments = front ++ [name])
    (read : Path.component? name = some (.name name))
    (present : disk.get? (disk.place path) ≠ none) :
    disk.place path = follow (disk.origin path) front ++ [name] ∧
      disk.isDirectory (follow (disk.origin path) front) = true ∧
      disk.walk (disk.origin path) front = .ok (follow (disk.origin path) front) := by
  have steps : ".." ∉ path.segments := mt (Path.up_mem_components_iff path).mpr level
  rw [shape, List.mem_append, not_or] at steps
  have reached : disk.place path = follow (disk.origin path) front ++ [name] := by
    rw [place_eq_follow, shape, follow_append, follow_of_name read, follow_nil]
  rw [reached] at present
  have parent := tree.parent _ _ present
  exact ⟨reached, parent, walk_of_isDirectory tree steps.1 parent⟩

theorem target_of_present (tree : disk.IsTree) (direct : IsDirect path)
    (present : disk.get? (disk.place path) ≠ none) :
    ∃ directory name, disk.target path = .ok (.name directory name) := by
  have checked := checkText_of_present tree direct present
  obtain ⟨front, name, shape, read⟩ := direct.named
  obtain ⟨_, parent, walked⟩ := walk_of_present tree direct.level shape read present
  exact ⟨_, name, target_of_walk checked shape read walked parent⟩

theorem locate_of_present (tree : disk.IsTree) (direct : IsDirect path)
    (present : disk.get? (disk.place path) ≠ none) :
    disk.locate path = .ok (disk.place path) := by
  have checked := checkText_of_present tree direct present
  obtain ⟨front, name, shape, read⟩ := direct.named
  obtain ⟨reached, parent, walked⟩ := walk_of_present tree direct.level shape read present
  rw [reached] at present ⊢
  have valid := tree.named _ _ present
  obtain ⟨entry, found⟩ := Option.ne_none_iff_exists'.mp present
  have heard : Path.isSilent name = false ∧ name ≠ ".." := by
    refine ⟨?_, ?_⟩
    · by_contra silent
      simp [Path.component?, silent] at read
    · rintro rfl
      simp [Path.component?, Path.isSilent] at read
  rw [locate, checked, shape, walk_append]
  simp [walked, walk, parent, heard, Nat.not_lt.mpr valid.short, found, bind, Except.bind]

theorem removeEmpty_of_present (tree : disk.IsTree) (direct : IsDirect path)
    (present : disk.get? (disk.place path) ≠ none) :
    disk.removeEmpty path = disk.erase (disk.place path) := by
  obtain ⟨directory, name, found⟩ := target_of_present tree direct present
  rw [removeEmpty, found, (target_name found).2.1]

end Present

theorem IsTree.clear {disk : Disk} (tree : disk.IsTree) (location : Location) :
    (disk.clear location).IsTree := by
  have kept : ∀ other, (disk.clear location).get? other ≠ none →
      ¬(location <+: other ∧ other ≠ location) ∧ disk.get? other ≠ none := by
    intro other present
    rw [get?_clear] at present
    by_cases below : location <+: other ∧ other ≠ location
    · simp [below] at present
    · rw [if_neg below] at present
      exact ⟨below, present⟩
  constructor
  · intro directory name present
    obtain ⟨outside, present⟩ := kept _ present
    have standing := tree.parent _ _ present
    rw [isDirectory_iff, get?_clear]
    split
    next below =>
      exfalso
      apply outside
      refine ⟨below.1.trans (List.prefix_append _ _), ?_⟩
      rintro rfl
      have longer := below.1.length_le
      rw [List.length_append, List.length_singleton] at longer
      omega
    next => exact isDirectory_iff.mp standing
  · intro directory name present
    exact tree.named _ _ (kept _ present).2

/-- Removing a directory by a direct path leaves nothing at or below it and touches nothing
else. -/
theorem get?_removeTree {disk : Disk} {path : Path} (tree : disk.IsTree) (direct : IsDirect path)
    (there : disk.isDirectory (disk.place path) = true) (location : Location) :
    (disk.removeTree path).get? location =
      if disk.place path <+: location then none else disk.get? location := by
  have present : disk.get? (disk.place path) ≠ none := by simp [isDirectory_iff.mp there]
  have nonempty : disk.place path ≠ [] := by
    obtain ⟨front, name, shape, read⟩ := direct.named
    rw [(walk_of_present tree direct.level shape read present).1]
    simp
  have remains : (disk.clear (disk.place path)).get? (disk.place path) ≠ none := by
    rw [get?_clear, if_neg (by simp)]
    exact present
  have emptied : (disk.clear (disk.place path)).removeEmpty path =
      (disk.clear (disk.place path)).erase (disk.place path) :=
    removeEmpty_of_present (tree.clear _) direct remains
  rw [removeTree, locate_of_present tree direct present]
  simp only [there, if_true]
  rw [emptied, get?_erase _ nonempty, get?_clear]
  by_cases same : location = disk.place path
  · simp [same]
  · simp [same]

theorem get?_removeTree_of_outside (disk : Disk) {path : Path} {location : Location}
    (outside : ¬disk.place path <+: location) :
    (disk.removeTree path).get? location = disk.get? location := by
  have cleared : (disk.clear (disk.place path)).get? location = disk.get? location := by
    rw [get?_clear, if_neg (fun below => outside below.1)]
  unfold removeTree
  split
  next reached located =>
    obtain rfl := locate_ok located
    split
    · unfold removeEmpty
      split
      next directory name found =>
        have reached : disk.place path = directory ++ [name] := (target_name found).2.1
        rw [get?_erase _ (by simp), if_neg, cleared]
        rw [← reached]
        rintro rfl
        exact outside List.prefix_rfl
      next => exact cleared
    · rfl
  next => rfl

theorem removeTree_of_not_isDirectory (disk : Disk) {path : Path}
    (other : disk.isDirectory (disk.place path) = false) : disk.removeTree path = disk := by
  unfold removeTree
  split
  next reached located =>
    obtain rfl := locate_ok located
    simp [other]
  next => rfl

end Datapack.Disk
