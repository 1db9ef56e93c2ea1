import Datapack.Proofs.Disk.Reading

/-!
What went through once goes through again. On a file tree that has only grown since, a directory
that was made is found, and a file that was written can be written over; neither adds an entry.
-/

namespace Datapack.Disk

section Growth

variable {mayMake mayWrite : Location → Prop} {first second : Disk}

theorem Grows.isFile (growth : Grows mayMake mayWrite first second) {location : Location}
    (before : ∃ content, first.get? location = some (.file content)) :
    ∃ content, second.get? location = some (.file content) := by
  induction growth with
  | refl => exact before
  | @make disk after directory name _ _ free _ _ inductionHypothesis =>
    apply inductionHypothesis
    obtain ⟨content, found⟩ := before
    refine ⟨content, ?_⟩
    rw [get?_set _ (by simp), if_neg, found]
    rintro rfl
    rw [found] at free
    contradiction
  | @write disk after directory name content _ _ _ _ _ inductionHypothesis =>
    apply inductionHypothesis
    rw [get?_set _ (by simp)]
    split
    · exact ⟨content, rfl⟩
    · exact before

theorem Grows.exists? (growth : Grows mayMake mayWrite first second) {path : Path}
    (before : first.exists? path = true) : second.exists? path = true := by
  unfold Disk.exists? at before ⊢
  cases located : first.locate path with
  | error cause => simp [located] at before
  | ok location => rw [growth.locate located]

theorem Grows.isDirectoryPath (growth : Grows mayMake mayWrite first second) {path : Path}
    (before : first.isDirectoryPath path = true) : second.isDirectoryPath path = true := by
  unfold Disk.isDirectoryPath at before ⊢
  cases located : first.locate path with
  | error cause => simp [located] at before
  | ok location =>
    rw [located] at before
    rw [growth.locate located]
    exact growth.isDirectory before

/-- A name that a path ends in is still found, in the same directory. -/
theorem Grows.target (growth : Grows mayMake mayWrite first second) {path : Path} {ending : Target}
    (found : first.target path = .ok ending) : second.target path = .ok ending := by
  obtain ⟨_, checked, found⟩ := bind_eq_ok_iff.mp found
  refine bind_eq_ok_iff.mpr ⟨(), checked, ?_⟩
  split at found
  next => exact found
  next last front backwards =>
    obtain ⟨directory, walked, found⟩ := bind_eq_ok_iff.mp found
    rw [← origin_congr growth.workingDirectory_eq] at walked
    refine bind_eq_ok_iff.mpr ⟨directory, growth.walk walked, ?_⟩
    cases there : first.isDirectory directory with
    | false => simp [there] at found
    | true =>
      rw [there] at found
      rw [growth.isDirectory there]
      exact found

end Growth

theorem isDirectoryPath_of_makeDirectory {disk after : Disk} {path : Path}
    (made : disk.makeDirectory path = .ok after) : after.isDirectoryPath path = true := by
  have growth : Grows (fun _ => True) (fun _ => True) disk after := by
    obtain ⟨directory, name, _, parent, valid, free, rfl⟩ := makeDirectory_ok made
    exact .make parent valid free trivial .refl
  obtain ⟨ending, found, made⟩ := bind_eq_ok_iff.mp made
  split at made
  next => contradiction
  next directory name =>
    obtain ⟨_, short, made⟩ := bind_eq_ok_iff.mp made
    split at made
    next => contradiction
    next =>
      obtain rfl := Except.ok.inj made
      have located := locate_of_set found (checkName_ok short) growth (.inl rfl)
      simp only [isDirectoryPath, located]
      rw [isDirectory_iff, get?_set _ (by simp), if_pos rfl]

theorem isDirectoryPath_of_ensureDirectory {disk after : Disk} {path : Path}
    (ensured : disk.ensureDirectory path = .ok after) : after.isDirectoryPath path = true := by
  unfold ensureDirectory at ensured
  split at ensured
  next made =>
    obtain rfl := Except.ok.inj ensured
    exact isDirectoryPath_of_makeDirectory made
  next =>
    split at ensured
    next found =>
      obtain rfl := Except.ok.inj ensured
      exact found
    next => contradiction

theorem ensureDirectory_of_isDirectoryPath {disk : Disk} {path : Path}
    (there : disk.isDirectoryPath path = true) : disk.ensureDirectory path = .ok disk := by
  have standing := isDirectory_iff.mp (isDirectory_of_isDirectoryPath there)
  cases made : disk.makeDirectory path with
  | ok after =>
    obtain ⟨directory, name, reached, _, _, free, _⟩ := makeDirectory_ok made
    rw [reached, free] at standing
    contradiction
  | error cause =>
    simp [ensureDirectory, made, there]

/-- Whether or not ancestors had to be made first, the path itself is ensured last. -/
theorem isDirectoryPath_of_ensureChain {disk after : Disk} {path : Path} {ancestors : List Path}
    (ensured : disk.ensureChain (path :: ancestors) = (.ok (), after)) :
    after.isDirectoryPath path = true := by
  unfold ensureChain at ensured
  split at ensured
  next made =>
    obtain rfl := (Prod.mk.inj ensured).2
    exact isDirectoryPath_of_ensureDirectory made
  next =>
    split at ensured
    next middle outer =>
      split at ensured
      next made =>
        obtain rfl := (Prod.mk.inj ensured).2
        exact isDirectoryPath_of_ensureDirectory made
      next => simp at ensured
    next failed => exact absurd ensured (failed after)
  next => simp at ensured

section Again

variable {mayMake mayWrite : Location → Prop} {disk after later : Disk} {path : Path}

theorem ensureChain_again {paths : List Path} (ensured : disk.ensureChain paths = (.ok (), after))
    (growth : Grows mayMake mayWrite after later) : later.ensureChain paths = (.ok (), later) := by
  cases paths with
  | nil => rfl
  | cons path ancestors =>
    have there := growth.isDirectoryPath (isDirectoryPath_of_ensureChain ensured)
    rw [ensureChain, ensureDirectory_of_isDirectoryPath there]

theorem ensureParent_again (ensured : disk.ensureParent path = (.ok (), after))
    (growth : Grows mayMake mayWrite after later) :
    later.ensureParent path = (.ok (), later) := by
  unfold ensureParent at ensured ⊢
  split at ensured
  next => rfl
  next parent found =>
    split at ensured
    next made =>
      obtain rfl := (Prod.mk.inj ensured).2
      have again : later.ensureDirectories parent = (.ok (), later) := ensureChain_again made growth
      simp [again]
    next => simp at ensured

/-- Writing over a file that was written before changes nothing but its content. -/
theorem write_again {content : ByteArray} (other : ByteArray)
    (written : disk.write path content = .ok after)
    (growth : Grows mayMake mayWrite after later) :
    ∃ location, (∃ old, later.get? location = some (.file old)) ∧
      later.write path other = .ok (later.set location (.file other)) := by
  obtain ⟨directory, name, found, unfinished, short, free, rfl⟩ := write_target written
  have own : Grows (fun _ => True) (fun _ => True) disk
      (disk.set (directory ++ [name]) (.file content)) :=
    write_grows written fun _ => trivial
  have standing : ∃ old, later.get? (directory ++ [name]) = some (.file old) := by
    apply growth.isFile
    exact ⟨content, by rw [get?_set _ (by simp), if_pos rfl]⟩
  refine ⟨directory ++ [name], standing, ?_⟩
  obtain ⟨old, still⟩ := standing
  have known := growth.target (own.target found)
  have file : later.isDirectory (directory ++ [name]) = false := by
    simp [isDirectory, still]
  have named : checkName name = .ok () := by
    simp [checkName, Nat.not_lt.mpr short]
  rw [write, known]
  simp [unfinished, named, file, bind, Except.bind, pure, Except.pure]

end Again

end Datapack.Disk
