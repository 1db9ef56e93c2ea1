import Datapack.Proofs.Disk.Tree

/-!
What making directories and writing files can do to a file tree. Both only ever add: a directory
where nothing was, or a file where no directory is. All that is said about a build rests on the
relation `Grows`, so the operations themselves are taken apart only here.
-/

namespace Datapack.Disk

/-- What making directories and writing files can do to a file tree, one entry at a time. -/
inductive Grows (mayMake mayWrite : Location → Prop) : Disk → Disk → Prop where
  | refl {disk} : Grows mayMake mayWrite disk disk
  | make {disk after directory name} :
      disk.isDirectory directory = true →
      IsFileName name →
      disk.get? (directory ++ [name]) = none →
      mayMake (directory ++ [name]) →
      Grows mayMake mayWrite (disk.set (directory ++ [name]) .directory) after →
      Grows mayMake mayWrite disk after
  | write {disk after directory name content} :
      disk.isDirectory directory = true →
      IsFileName name →
      disk.isDirectory (directory ++ [name]) = false →
      mayWrite (directory ++ [name]) →
      Grows mayMake mayWrite (disk.set (directory ++ [name]) (.file content)) after →
      Grows mayMake mayWrite disk after

namespace Grows

variable {mayMake mayWrite : Location → Prop} {first second third : Disk}

theorem trans (before : Grows mayMake mayWrite first second)
    (after : Grows mayMake mayWrite second third) : Grows mayMake mayWrite first third := by
  induction before with
  | refl => exact after
  | make parent name free allowed _ inductionHypothesis =>
    exact .make parent name free allowed (inductionHypothesis after)
  | write parent name free allowed _ inductionHypothesis =>
    exact .write parent name free allowed (inductionHypothesis after)

theorem mono {mayMake' mayWrite' : Location → Prop} (growth : Grows mayMake mayWrite first second)
    (makes : ∀ location, mayMake location → mayMake' location)
    (writes : ∀ location, mayWrite location → mayWrite' location) :
    Grows mayMake' mayWrite' first second := by
  induction growth with
  | refl => exact .refl
  | make parent name free allowed _ inductionHypothesis =>
    exact .make parent name free (makes _ allowed) inductionHypothesis
  | write parent name free allowed _ inductionHypothesis =>
    exact .write parent name free (writes _ allowed) inductionHypothesis

theorem workingDirectory_eq (growth : Grows mayMake mayWrite first second) :
    second.workingDirectory = first.workingDirectory := by
  induction growth with
  | refl => rfl
  | make _ _ _ _ _ inductionHypothesis => exact inductionHypothesis
  | write _ _ _ _ _ inductionHypothesis => exact inductionHypothesis

theorem place_eq (growth : Grows mayMake mayWrite first second) (path : Path) :
    second.place path = first.place path := by
  rw [place, place, growth.workingDirectory_eq]

theorem isDirectory (growth : Grows mayMake mayWrite first second) {location : Location}
    (before : first.isDirectory location = true) : second.isDirectory location = true := by
  induction growth with
  | refl => exact before
  | make _ _ free _ _ inductionHypothesis =>
    apply inductionHypothesis
    rw [isDirectory_iff] at before ⊢
    rw [get?_set _ (by simp), before]
    split <;> rfl
  | @write disk after directory name content _ _ free _ _ inductionHypothesis =>
    apply inductionHypothesis
    have different : location ≠ directory ++ [name] := by
      rintro rfl
      rw [before] at free
      contradiction
    rw [isDirectory_iff] at before ⊢
    rw [get?_set _ (by simp), if_neg different, before]

theorem present (growth : Grows mayMake mayWrite first second) {location : Location}
    (before : first.get? location ≠ none) : second.get? location ≠ none := by
  induction growth with
  | refl => exact before
  | make _ _ _ _ _ inductionHypothesis | write _ _ _ _ _ inductionHypothesis =>
    apply inductionHypothesis
    rw [get?_set _ (by simp)]
    split
    · simp
    · exact before

/-- Growth keeps every entry but those in places that may be written to, and adds only there and
where directories may be made. -/
theorem get?_cases (growth : Grows mayMake mayWrite first second) (location : Location) :
    second.get? location = first.get? location ∨
      (first.get? location = none ∧ second.get? location = some .directory ∧ mayMake location) ∨
      mayWrite location := by
  induction growth with
  | refl => exact .inl rfl
  | @make disk after directory name _ _ free allowed _ inductionHypothesis =>
    rw [get?_set _ (by simp)] at inductionHypothesis
    by_cases same : location = directory ++ [name]
    · subst same
      rw [if_pos rfl] at inductionHypothesis
      rcases inductionHypothesis with kept | ⟨missing, _⟩ | written
      · exact .inr (.inl ⟨free, kept, allowed⟩)
      · contradiction
      · exact .inr (.inr written)
    · rwa [if_neg same] at inductionHypothesis
  | @write disk after directory name content _ _ free allowed _ inductionHypothesis =>
    rw [get?_set _ (by simp)] at inductionHypothesis
    by_cases same : location = directory ++ [name]
    · exact .inr (.inr (same ▸ allowed))
    · rwa [if_neg same] at inductionHypothesis

theorem isTree (growth : Grows mayMake mayWrite first second) (tree : first.IsTree) :
    second.IsTree := by
  induction growth with
  | refl => exact tree
  | make parent name _ _ _ inductionHypothesis =>
    exact inductionHypothesis (tree.set parent name (.inl rfl))
  | write parent name free _ _ inductionHypothesis =>
    exact inductionHypothesis (tree.set parent name (.inr free))

end Grows

theorem checkName_ok {name : String} (passed : checkName name = .ok ()) :
    name.utf8ByteSize ≤ nameLimit := by
  unfold checkName at passed
  split at passed
  · contradiction
  · omega

theorem makeDirectory_ok {disk after : Disk} {path : Path}
    (made : disk.makeDirectory path = .ok after) :
    ∃ directory name, disk.place path = directory ++ [name] ∧
      disk.isDirectory directory = true ∧ IsFileName name ∧
      disk.get? (directory ++ [name]) = none ∧
      after = disk.set (directory ++ [name]) .directory := by
  obtain ⟨ending, found, made⟩ := bind_eq_ok_iff.mp made
  split at made
  · contradiction
  next directory name =>
    obtain ⟨_, short, made⟩ := bind_eq_ok_iff.mp made
    obtain ⟨parent, reached, named, complete⟩ := target_name found
    split at made
    · contradiction
    next free =>
      refine ⟨directory, name, reached, parent, ⟨named, complete, checkName_ok short⟩, free, ?_⟩
      exact (Except.ok.inj made).symm

/-- What a write that succeeds has found: the name that the path ends in, with no directory
there. -/
theorem write_target {disk after : Disk} {path : Path} {content : ByteArray}
    (written : disk.write path content = .ok after) :
    ∃ directory name, disk.target path = .ok (.name directory name) ∧
      path.endsWithSlash = false ∧ name.utf8ByteSize ≤ nameLimit ∧
      disk.isDirectory (directory ++ [name]) = false ∧
      after = disk.set (directory ++ [name]) (.file content) := by
  obtain ⟨ending, found, written⟩ := bind_eq_ok_iff.mp written
  split at written
  · contradiction
  next directory name =>
    by_cases finished : path.endsWithSlash = true
    · simp [finished, bind, Except.bind] at written
    · simp only [finished, Bool.false_eq_true, if_false] at written
      obtain ⟨_, short, written⟩ := bind_eq_ok_iff.mp written
      by_cases taken : disk.isDirectory (directory ++ [name]) = true
      · simp [taken, bind, Except.bind] at written
      · simp only [taken, Bool.false_eq_true, if_false] at written
        refine ⟨directory, name, found, by simpa using finished, checkName_ok short, ?_, ?_⟩
        · simpa using taken
        · exact (Except.ok.inj written).symm

theorem write_ok {disk after : Disk} {path : Path} {content : ByteArray}
    (written : disk.write path content = .ok after) :
    ∃ directory name, disk.place path = directory ++ [name] ∧
      disk.isDirectory directory = true ∧ IsFileName name ∧
      disk.isDirectory (directory ++ [name]) = false ∧
      after = disk.set (directory ++ [name]) (.file content) := by
  obtain ⟨directory, name, found, _, short, free, stored⟩ := write_target written
  obtain ⟨parent, reached, named, complete⟩ := target_name found
  exact ⟨directory, name, reached, parent, ⟨named, complete, short⟩, free, stored⟩

theorem isDirectory_of_isDirectoryPath {disk : Disk} {path : Path}
    (found : disk.isDirectoryPath path = true) : disk.isDirectory (disk.place path) = true := by
  unfold isDirectoryPath at found
  split at found
  next located =>
    rw [← locate_ok located]
    exact found
  next => contradiction

theorem ensureDirectory_ok {disk after : Disk} {path : Path}
    (ensured : disk.ensureDirectory path = .ok after) :
    disk.makeDirectory path = .ok after ∨
      (after = disk ∧ disk.isDirectory (disk.place path) = true) := by
  unfold ensureDirectory at ensured
  split at ensured
  next made =>
    obtain rfl := Except.ok.inj ensured
    exact .inl made
  next =>
    split at ensured
    next found => exact .inr ⟨(Except.ok.inj ensured).symm, isDirectory_of_isDirectoryPath found⟩
    next => contradiction

theorem isDirectory_of_ensureDirectory {disk after : Disk} {path : Path}
    (ensured : disk.ensureDirectory path = .ok after) :
    after.isDirectory (disk.place path) = true := by
  rcases ensureDirectory_ok ensured with made | ⟨rfl, there⟩
  · obtain ⟨directory, name, reached, _, _, _, rfl⟩ := makeDirectory_ok made
    rw [reached, isDirectory_iff, get?_set _ (by simp), if_pos rfl]
  · exact there

section Operations

variable {mayMake mayWrite : Location → Prop}

theorem ensureDirectory_grows {disk after : Disk} {path : Path}
    (ensured : disk.ensureDirectory path = .ok after) (allowed : mayMake (disk.place path)) :
    Grows mayMake mayWrite disk after := by
  rcases ensureDirectory_ok ensured with made | ⟨rfl, _⟩
  · obtain ⟨directory, name, reached, parent, valid, free, rfl⟩ := makeDirectory_ok made
    exact .make parent valid free (reached ▸ allowed) .refl
  · exact .refl

/-- Also the directories made before a failure are among those allowed. -/
theorem ensureChain_grows (disk : Disk) {paths : List Path}
    (allowed : ∀ path ∈ paths, mayMake (disk.place path)) :
    Grows mayMake mayWrite disk (disk.ensureChain paths).2 := by
  induction paths with
  | nil => exact .refl
  | cons path ancestors inductionHypothesis =>
    have own : mayMake (disk.place path) := allowed path (by simp)
    have outer := inductionHypothesis fun other member => allowed other (by simp [member])
    unfold ensureChain
    split
    next ensured => exact ensureDirectory_grows ensured own
    next =>
      split
      next middle made =>
        rw [made] at outer
        rw [← outer.place_eq path] at own
        split
        next ensured => exact outer.trans (ensureDirectory_grows ensured own)
        next => exact outer
      next => exact outer
    next => exact .refl

theorem isDirectory_of_ensureChain {disk after : Disk} {path : Path} {ancestors : List Path}
    (ensured : disk.ensureChain (path :: ancestors) = (.ok (), after)) :
    after.isDirectory (disk.place path) = true := by
  unfold ensureChain at ensured
  split at ensured
  next made =>
    obtain rfl := (Prod.mk.inj ensured).2
    exact isDirectory_of_ensureDirectory made
  next =>
    split at ensured
    next middle outer =>
      have grown : Grows (fun _ => True) (fun _ => False) disk (disk.ensureChain ancestors).2 :=
        ensureChain_grows disk fun _ _ => trivial
      rw [outer] at grown
      split at ensured
      next made =>
        obtain rfl := (Prod.mk.inj ensured).2
        rw [← grown.place_eq path]
        exact isDirectory_of_ensureDirectory made
      next => simp at ensured
    next failed => exact absurd ensured (failed after)
  next => simp at ensured

theorem ensureDirectories_grows (disk : Disk) {path : Path}
    (allowed : ∀ front : Path, front.Leads path → mayMake (disk.place front)) :
    Grows mayMake mayWrite disk (disk.ensureDirectories path).2 :=
  ensureChain_grows disk fun front member => allowed front (Path.leads_of_mem_chain member)

theorem ensureParent_grows (disk : Disk) {path : Path}
    (allowed : ∀ parent : Path, path.parent? = some parent → ∀ front : Path, front.Leads parent →
      mayMake (disk.place front)) :
    Grows mayMake mayWrite disk (disk.ensureParent path).2 := by
  unfold ensureParent
  split
  next => exact .refl
  next parent found =>
    have grown : Grows mayMake mayWrite disk (disk.ensureDirectories parent).2 :=
      ensureDirectories_grows disk (allowed parent found)
    split
    next made =>
      rw [made] at grown
      exact grown
    next made =>
      rw [made] at grown
      exact grown

theorem write_grows {disk after : Disk} {path : Path} {content : ByteArray}
    (written : disk.write path content = .ok after)
    (allowed : disk.isDirectory (disk.place path) = false → mayWrite (disk.place path)) :
    Grows mayMake mayWrite disk after := by
  obtain ⟨directory, name, reached, parent, valid, free, rfl⟩ := write_ok written
  rw [reached] at allowed
  exact .write parent valid free (allowed free) .refl

end Operations

end Datapack.Disk
