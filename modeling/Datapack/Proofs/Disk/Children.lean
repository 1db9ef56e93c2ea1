import Datapack.Proofs.Disk.Repetition

/-!
What is in a directory that is there. A file can be written there under every name that stands for
itself, unless a directory has that name or the path gets too long, and a path to it is found
exactly if something has that name.
-/

namespace Datapack

namespace Path

theorem IsPlain.ne_dots {name : String} (plain : IsPlain name) :
    name ≠ "" ∧ name ≠ "." ∧ name ≠ ".." := by
  have named := plain.named
  refine ⟨?_, ?_, ?_⟩ <;> rintro rfl <;> simp [component?, isSilent] at named

theorem trimEnd_of_heard (front : List String) {last : String} (heard : isSilent last = false) :
    trimEnd (front ++ [last]) = front ++ [last] := by
  simp [trimEnd, heard]

theorem dropComponent?_of_heard (front : List String) {last name : String}
    (heard : isSilent last = false) (spoken : isSilent name = false) :
    dropComponent? (front ++ [last] ++ [name]) = some (front ++ [last]) := by
  unfold dropComponent?
  rw [trimEnd_of_heard _ spoken]
  split
  next none => simp at none
  next => rw [List.dropLast_concat, trimEnd_of_heard _ heard]

theorem parent?_of_heard (outer : List String) {last name : String}
    (heard : isSilent last = false) (spoken : isSilent name = false) :
    parent? ⟨outer ++ [last] ++ [name]⟩ = some ⟨outer ++ [last]⟩ := by
  unfold parent?
  split
  next rest whole =>
    cases outer with
    | nil => simp_all [isSilent]
    | cons first more =>
      obtain ⟨rfl, rfl⟩ : first = "" ∧ more ++ [last] ++ [name] = rest := by simpa using whole
      rw [dropComponent?_of_heard more heard spoken]
      simp
  next rest whole =>
    cases outer with
    | nil => simp_all [isSilent]
    | cons first more =>
      obtain ⟨rfl, rfl⟩ : first = "." ∧ more ++ [last] ++ [name] = rest := by simpa using whole
      rw [dropComponent?_of_heard more heard spoken]
      rfl
  next =>
    simp only [dropComponent?_of_heard outer heard spoken]
    simp

end Path

namespace Disk

theorem short_of_write {disk after : Disk} {path : Path} {content : ByteArray}
    (written : disk.write path content = .ok after) : path.text.utf8ByteSize < pathLimit := by
  obtain ⟨_, _, found, _⟩ := write_target written
  exact (checkText_ok (target_walk found).1).2.2

/-- A directory that is there, by a path that ends in a piece that is heard. -/
structure IsOpen (disk : Disk) (base : Path) : Prop where
  ends : ∃ outer last, base.segments = outer ++ [last] ∧ Path.isSilent last = false
  there : disk.isDirectoryPath base = true

namespace IsOpen

variable {disk : Disk} {base : Path} {name : String}

theorem grow {mayMake mayWrite : Location → Prop} {after : Disk} (opened : disk.IsOpen base)
    (growth : Grows mayMake mayWrite disk after) : after.IsOpen base where
  ends := opened.ends
  there := growth.isDirectoryPath opened.there

theorem segments_child (opened : disk.IsOpen base) (plain : Path.IsPlain name) :
    (base.child name).segments = base.segments ++ [name] := by
  obtain ⟨outer, last, ends, heard⟩ := opened.ends
  apply Path.segments_child ends _ plain
  rintro rfl
  contradiction

theorem walk (opened : disk.IsOpen base) :
    checkText base = .ok () ∧ disk.walk (disk.origin base) base.segments = .ok (disk.place base) ∧
      disk.isDirectory (disk.place base) = true := by
  have standing := isDirectory_of_isDirectoryPath opened.there
  have found := opened.there
  unfold isDirectoryPath at found
  cases located : disk.locate base with
  | error cause => simp [located] at found
  | ok location =>
    obtain ⟨_, checked, walked⟩ := bind_eq_ok_iff.mp located
    rw [locate_ok located] at walked
    exact ⟨checked, walked, standing⟩

theorem origin_child (opened : disk.IsOpen base) (plain : Path.IsPlain name) :
    disk.origin (base.child name) = disk.origin base := by
  obtain ⟨outer, last, ends, heard⟩ := opened.ends
  have begins : base.segments <+: (base.child name).segments := by
    rw [opened.segments_child plain]
    exact List.prefix_append _ _
  have named : last ≠ "" := by
    rintro rfl
    contradiction
  rw [origin, origin, Path.isAbsolute_of_begins begins ends named]

theorem checkText_child (opened : disk.IsOpen base) (plain : Path.IsPlain name)
    (complete : '\x00' ∉ name.toList)
    (short : (base.child name).text.utf8ByteSize < pathLimit) :
    checkText (base.child name) = .ok () := by
  obtain ⟨outer, last, ends, heard⟩ := opened.ends
  have named : last ≠ "" := by
    rintro rfl
    contradiction
  apply checkText_of_extends ends named (opened.segments_child plain) _ short opened.walk.1
  simpa using complete

theorem target_child (opened : disk.IsOpen base) (plain : Path.IsPlain name)
    (checked : checkText (base.child name) = .ok ()) :
    disk.target (base.child name) = .ok (.name (disk.place base) name) := by
  obtain ⟨_, walked, standing⟩ := opened.walk
  rw [← opened.origin_child plain] at walked
  exact target_of_walk checked (opened.segments_child plain) plain.named walked standing

theorem write_child (opened : disk.IsOpen base) (plain : Path.IsPlain name)
    (checked : checkText (base.child name) = .ok ()) (short : name.utf8ByteSize ≤ nameLimit)
    (free : disk.isDirectory (disk.place base ++ [name]) = false) (content : ByteArray) :
    disk.write (base.child name) content =
      .ok (disk.set (disk.place base ++ [name]) (.file content)) := by
  have unfinished : (base.child name).endsWithSlash = false := by
    simp [Path.endsWithSlash, opened.segments_child plain, plain.ne_dots]
  have named : checkName name = .ok () := by
    simp [checkName, Nat.not_lt.mpr short]
  rw [write, opened.target_child plain checked]
  simp [unfinished, named, free, bind, Except.bind, pure, Except.pure]

theorem exists?_child_iff (opened : disk.IsOpen base) (plain : Path.IsPlain name)
    (short : name.utf8ByteSize ≤ nameLimit) :
    disk.exists? (base.child name) = true ↔
      checkText (base.child name) = .ok () ∧ disk.get? (disk.place base ++ [name]) ≠ none := by
  obtain ⟨_, walked, standing⟩ := opened.walk
  have heard : Path.isSilent name = false ∧ name ≠ ".." := by
    simp [Path.isSilent, plain.ne_dots]
  have last : disk.walk (disk.origin (base.child name)) (base.child name).segments =
      disk.walk (disk.place base) [name] := by
    rw [opened.segments_child plain, opened.origin_child plain, walk_append, walked]
    rfl
  unfold exists? locate
  rw [last, Disk.walk]
  cases checkText (base.child name) with
  | error cause => simp [bind, Except.bind]
  | ok =>
    cases disk.get? (disk.place base ++ [name]) with
    | none => simp [standing, heard, Nat.not_lt.mpr short, bind, Except.bind]
    | some entry => simp [standing, heard, Nat.not_lt.mpr short, bind, Except.bind, Disk.walk]

theorem ensureParent_child (opened : disk.IsOpen base) (plain : Path.IsPlain name) :
    disk.ensureParent (base.child name) = (.ok (), disk) := by
  obtain ⟨outer, last, ends, heard⟩ := opened.ends
  have spoken : Path.isSilent name = false := by
    simp [Path.isSilent, plain.ne_dots]
  have parent : (base.child name).parent? = some base := by
    have whole : base.child name = ⟨outer ++ [last] ++ [name]⟩ := by
      rw [← ends, ← opened.segments_child plain]
    have above : base = ⟨outer ++ [last]⟩ := by rw [← ends]
    rw [whole, Path.parent?_of_heard outer heard spoken, ← above]
  have ensured : disk.ensureDirectories base = (.ok (), disk) := by
    rw [ensureDirectories, Path.chain_eq_cons ends heard, ensureChain,
      ensureDirectory_of_isDirectoryPath opened.there]
  rw [ensureParent, parent]
  simp [ensured]

end IsOpen

end Disk

end Datapack
