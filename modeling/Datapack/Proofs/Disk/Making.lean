import Datapack.Proofs.Disk.Children

/-!
When directories can be made. If no file is in the way to a place, every directory on the way there
can be made, and after that files can be put into it.
-/

namespace Datapack

namespace Disk

/-- No file is in the way to a place. -/
def Clear (disk : Disk) (place : Location) : Prop :=
  ∀ location, location <+: place → disk.get? location = none ∨ disk.isDirectory location = true

theorem Clear.begins {disk : Disk} {front place : Location} (clear : disk.Clear place)
    (begins : front <+: place) : disk.Clear front :=
  fun location leads => clear location (leads.trans begins)

theorem Clear.grow {mayMake : Location → Prop} {disk after : Disk} {place : Location}
    (clear : disk.Clear place) (growth : Grows mayMake (fun _ => False) disk after) :
    after.Clear place := by
  intro location leads
  rcases growth.get?_cases location with kept | ⟨_, made, _⟩ | never
  · rw [kept, isDirectory, kept]
    exact clear location leads
  · exact .inr (isDirectory_iff.mpr made)
  · exact never.elim

/-- A way that ends before its place is missing something, if nothing else stops it. -/
theorem walk_of_clear {disk : Disk} {current : Location} {segments : List String}
    (level : ".." ∉ segments) (short : ∀ segment ∈ segments, segment.utf8ByteSize ≤ nameLimit)
    (start : disk.isDirectory current = true) (clear : disk.Clear (follow current segments))
    (missing : disk.isDirectory (follow current segments) = false) :
    disk.walk current segments = .error .notFound := by
  induction segments generalizing current with
  | nil =>
    rw [follow_nil, start] at missing
    contradiction
  | cons segment rest inductionHypothesis =>
    rw [List.mem_cons, not_or] at level
    have others := fun other member => short other (.tail segment member)
    unfold walk
    by_cases silent : Path.isSilent segment = true
    · rw [follow_of_silent silent] at clear missing
      simp only [start, silent, Bool.not_true, Bool.false_eq_true, if_false, if_true]
      exact inductionHypothesis level.2 others start clear missing
    · have named : Path.component? segment = some (.name segment) := by
        simp [Path.component?, silent, Ne.symm level.1]
      have fits := short segment (.head rest)
      rw [follow_of_name named] at clear missing
      simp only [start, silent, Ne.symm level.1, Nat.not_lt.mpr fits, Bool.not_true,
        Bool.false_eq_true, if_false]
      rcases clear (current ++ [segment]) (follow_begins level.2) with free | there
      · rw [free]
      · rw [isDirectory_iff.mp there]
        exact inductionHypothesis level.2 others there clear missing

section Ensuring

variable {disk : Disk} {path : Path} {outer : List String} {last : String}

theorem isDirectoryPath_of_isDirectory (tree : disk.IsTree) (checked : checkText path = .ok ())
    (level : ".." ∉ path.segments) (there : disk.isDirectory (disk.place path) = true) :
    disk.isDirectoryPath path = true := by
  rw [place_eq_follow] at there
  have located : disk.locate path = .ok (follow (disk.origin path) path.segments) :=
    bind_eq_ok_iff.mpr ⟨(), checked, walk_of_isDirectory tree level there⟩
  simp [isDirectoryPath, located, there]

theorem place_of_ends (ends : path.segments = outer ++ [last])
    (named : Path.component? last = some (.name last)) :
    disk.place path = follow (disk.origin path) outer ++ [last] := by
  rw [place_eq_follow, ends, follow_append, follow_of_name named, follow_nil]

theorem ensureDirectory_of_parent (tree : disk.IsTree) (checked : checkText path = .ok ())
    (ends : path.segments = outer ++ [last]) (named : Path.component? last = some (.name last))
    (short : last.utf8ByteSize ≤ nameLimit) (level : ".." ∉ path.segments)
    (parent : disk.isDirectory (follow (disk.origin path) outer) = true)
    (clear : disk.Clear (disk.place path)) : ∃ after, disk.ensureDirectory path = .ok after := by
  rcases clear _ List.prefix_rfl with free | there
  · have steps : ".." ∉ outer := by
      rw [ends, List.mem_append, not_or] at level
      exact level.1
    have found := target_of_walk checked ends named (walk_of_isDirectory tree steps parent) parent
    have fits : checkName last = .ok () := by simp [checkName, Nat.not_lt.mpr short]
    refine ⟨disk.set (disk.place path) .directory, ?_⟩
    rw [place_of_ends ends named] at free ⊢
    simp [ensureDirectory, makeDirectory, found, fits, free, bind, Except.bind, pure, Except.pure]
  · exact ⟨disk, ensureDirectory_of_isDirectoryPath
      (isDirectoryPath_of_isDirectory tree checked level there)⟩

theorem ensureDirectory_of_missing_parent (checked : checkText path = .ok ())
    (ends : path.segments = outer ++ [last]) (named : Path.component? last = some (.name last))
    (short : ∀ segment ∈ outer, segment.utf8ByteSize ≤ nameLimit) (level : ".." ∉ outer)
    (start : disk.isDirectory (disk.origin path) = true)
    (missing : disk.isDirectory (follow (disk.origin path) outer) = false)
    (clear : disk.Clear (disk.place path)) : disk.ensureDirectory path = .error .notFound := by
  rw [place_of_ends ends named] at clear
  have walked := walk_of_clear level short start (clear.begins (List.prefix_append _ _)) missing
  have heard : last ≠ "" := by
    rintro rfl
    contradiction
  have unmade : disk.makeDirectory path = .error .notFound := by
    simp [makeDirectory, target, checked, ends, heard, walked, bind, Except.bind]
  have unfound : disk.isDirectoryPath path = false := by
    simp [isDirectoryPath, locate, checked, ends, walk_append, walked, bind, Except.bind]
  simp [ensureDirectory, unmade, unfound]

theorem ensureChain_cons_of_clear (tree : disk.IsTree) (checked : checkText path = .ok ())
    (ends : path.segments = outer ++ [last]) (named : Path.component? last = some (.name last))
    (short : ∀ segment ∈ path.segments, segment.utf8ByteSize ≤ nameLimit)
    (level : ".." ∉ path.segments) (start : disk.isDirectory (disk.origin path) = true)
    (clear : disk.Clear (disk.place path)) {ancestors : List Path}
    (went : (disk.ensureChain ancestors).1 = .ok ())
    (parent : (disk.ensureChain ancestors).2.isDirectory (follow (disk.origin path) outer) = true) :
    (disk.ensureChain (path :: ancestors)).1 = .ok () ∧
      (disk.ensureChain (path :: ancestors)).2.isDirectory (disk.place path) = true := by
  have fits : last.utf8ByteSize ≤ nameLimit := short last (by simp [ends])
  cases already : disk.isDirectory (follow (disk.origin path) outer) with
  | true =>
    obtain ⟨after, made⟩ :=
      ensureDirectory_of_parent tree checked ends named fits level already clear
    rw [ensureChain, made]
    exact ⟨rfl, isDirectory_of_ensureDirectory made⟩
  | false =>
    have steps : ".." ∉ outer := fun member => level (by simp [ends, member])
    have refused := ensureDirectory_of_missing_parent checked ends named
      (fun segment member => short segment (by simp [ends, member])) steps start already clear
    have growth : Grows (fun _ => True) (fun _ => False) disk (disk.ensureChain ancestors).2 :=
      ensureChain_grows disk fun _ _ => trivial
    rcases first : disk.ensureChain ancestors with ⟨outcome, middle⟩
    rw [first] at went parent growth
    obtain rfl : outcome = .ok () := went
    rw [← origin_congr growth.workingDirectory_eq path] at parent
    have unblocked := clear.grow growth
    rw [← growth.place_eq path] at unblocked ⊢
    obtain ⟨after, made⟩ :=
      ensureDirectory_of_parent (growth.isTree tree) checked ends named fits level parent unblocked
    rw [ensureChain, refused, first]
    simp only [made]
    exact ⟨trivial, isDirectory_of_ensureDirectory made⟩

/-- If no file is in the way, all directories on the way are made. -/
theorem ensureChain_of_clear (tree : disk.IsTree) {start : Location} {backwards : List String}
    (there : disk.isDirectory start = true) (level : ".." ∉ backwards)
    (short : ∀ segment ∈ backwards, segment.utf8ByteSize ≤ nameLimit)
    (clear : disk.Clear (follow start backwards.reverse))
    (known : ∀ path ∈ chain backwards, disk.origin path = start ∧ checkText path = .ok ()) :
    (disk.ensureChain (chain backwards)).1 = .ok () ∧
      (disk.ensureChain (chain backwards)).2.isDirectory (follow start backwards.reverse) =
        true := by
  induction backwards with
  | nil => exact ⟨rfl, there⟩
  | cons segment outer inductionHypothesis =>
    rw [List.mem_cons, not_or] at level
    have others := fun other member => short other (.tail segment member)
    rw [List.reverse_cons, follow_append] at clear ⊢
    by_cases silent : Path.isSilent segment = true
    · rw [follow_of_silent silent, follow_nil] at clear ⊢
      simp only [chain, silent, if_true] at known ⊢
      exact inductionHypothesis level.2 others clear known
    · have named : Path.component? segment = some (.name segment) := by
        simp [Path.component?, silent, Ne.symm level.1]
      obtain ⟨path, whole⟩ : ∃ path : Path, path = ⟨outer.reverse ++ [segment]⟩ := ⟨_, rfl⟩
      have listed : chain (segment :: outer) = path :: chain outer := by
        simp [chain, silent, whole]
      have ends : path.segments = outer.reverse ++ [segment] := by rw [whole]
      rw [listed] at known ⊢
      obtain ⟨rfl, checked⟩ := known path (.head _)
      obtain ⟨went, parent⟩ := inductionHypothesis level.2 others
        (clear.begins (follow_begins (by simp [level])))
        fun front member => known front (.tail _ member)
      have place :
          disk.place path = follow (follow (disk.origin path) outer.reverse) [segment] := by
        rw [place_eq_follow, ends, follow_append]
      rw [← place] at clear ⊢
      apply ensureChain_cons_of_clear tree checked ends named _ _ there clear went parent
      · intro other member
        exact short other (by simpa [ends, or_comm] using member)
      · simp [ends, level]

end Ensuring

/-- A path that never goes up, can be followed as far as its text goes and has no file in its
way. -/
structure IsPassable (disk : Disk) (path : Path) : Prop where
  checked : checkText path = .ok ()
  level : ".." ∉ path.segments
  short : ∀ segment ∈ path.segments, segment.utf8ByteSize ≤ nameLimit
  start : disk.isDirectory (disk.origin path) = true
  clear : disk.Clear (disk.place path)

namespace IsPassable

variable {disk : Disk} {path : Path}

theorem grow {mayMake : Location → Prop} {after : Disk} (passable : disk.IsPassable path)
    (growth : Grows mayMake (fun _ => False) disk after) : after.IsPassable path where
  checked := passable.checked
  level := passable.level
  short := passable.short
  start := by
    rw [origin_congr growth.workingDirectory_eq]
    exact growth.isDirectory passable.start
  clear := by
    rw [growth.place_eq]
    exact passable.clear.grow growth

theorem extend {base : Path} {outer rest : List String} {last : String}
    (passable : disk.IsPassable base) (ends : base.segments = outer ++ [last]) (heard : last ≠ "")
    (whole : path.segments = base.segments ++ rest) (valid : ∀ name ∈ rest, IsFileName name)
    (short : path.text.utf8ByteSize < pathLimit) (clear : disk.Clear (disk.place path)) :
    disk.IsPassable path where
  checked := checkText_of_extends ends heard whole (fun name member => (valid name member).complete)
    short passable.checked
  level := by
    rw [whole, List.mem_append, not_or]
    refine ⟨passable.level, ?_⟩
    intro member
    have named := (valid ".." member).named
    contradiction
  short := by
    intro segment member
    rw [whole, List.mem_append] at member
    rcases member with before | further
    · exact passable.short segment before
    · exact (valid segment further).short
  start := by
    have begins : base.segments <+: path.segments := by
      rw [whole]
      exact List.prefix_append _ _
    have same : disk.origin path = disk.origin base := by
      rw [origin, origin, Path.isAbsolute_of_begins begins ends heard]
    rw [same]
    exact passable.start
  clear := clear

theorem exists?_eq_false (passable : disk.IsPassable path)
    (free : disk.get? (disk.place path) = none) : disk.exists? path = false := by
  have clear := passable.clear
  have missing : disk.isDirectory (disk.place path) = false := by simp [isDirectory, free]
  rw [place_eq_follow] at clear missing
  have walked := walk_of_clear passable.level passable.short passable.start clear missing
  simp [exists?, locate, passable.checked, walked, bind, Except.bind]

theorem ensureDirectories (passable : disk.IsPassable path) (tree : disk.IsTree) :
    (disk.ensureDirectories path).1 = .ok () := by
  have known : ∀ front ∈ chain path.segments.reverse,
      disk.origin front = disk.origin path ∧ checkText front = .ok () := by
    intro front member
    obtain ⟨begins, outer, last, ends, heard⟩ := Path.mem_chain member
    have named : last ≠ "" := by
      rintro rfl
      contradiction
    rw [List.reverse_reverse] at begins
    rw [origin, origin, Path.isAbsolute_of_begins begins ends named]
    exact ⟨rfl, checkText_of_begins begins ends named passable.checked⟩
  have clear := passable.clear
  rw [place_eq_follow] at clear
  refine (ensureChain_of_clear tree passable.start ?_ ?_ ?_ known).1
  · simpa using passable.level
  · simpa using passable.short
  · rwa [List.reverse_reverse]

end IsPassable

theorem Clear.append {disk : Disk} (tree : disk.IsTree) {place : Location}
    (clear : disk.Clear place) (free : disk.get? place = none) (rest : Location) :
    disk.Clear (place ++ rest) := by
  intro location leads
  rcases List.prefix_or_prefix_of_prefix leads (List.prefix_append place rest) with above | below
  · exact clear location above
  · exact .inl (tree.get?_eq_none_of_begins below free)

/-- A path by which a file can be put into a directory that is there. -/
structure Takes (disk : Disk) (path : Path) : Prop where
  into : ∃ base name, path = base.child name ∧ disk.IsOpen base ∧ Path.IsPlain name ∧
    name.utf8ByteSize ≤ nameLimit
  checked : checkText path = .ok ()
  free : disk.isDirectory (disk.place path) = false

theorem IsOpen.takes {disk : Disk} {base : Path} {name : String} (opened : disk.IsOpen base)
    (plain : Path.IsPlain name) (valid : IsFileName name)
    (short : (base.child name).text.utf8ByteSize < pathLimit)
    (free : disk.isDirectory (disk.place (base.child name)) = false) :
    disk.Takes (base.child name) where
  into := ⟨base, name, rfl, opened, plain, valid.short⟩
  checked := opened.checkText_child plain valid.complete short
  free := free

namespace Takes

variable {disk : Disk} {path : Path}

theorem write (takes : disk.Takes path) (content : ByteArray) :
    disk.write path content = .ok (disk.set (disk.place path) (.file content)) := by
  obtain ⟨base, name, rfl, opened, plain, short⟩ := takes.into
  have free := takes.free
  rw [disk.place_child base plain] at free ⊢
  exact opened.write_child plain takes.checked short free content

theorem of_write (takes : disk.Takes path) {after : Disk} {other : Path} {content : ByteArray}
    (written : disk.write other content = .ok after) : after.Takes path := by
  have growth : Grows (fun _ => True) (fun _ => True) disk after :=
    write_grows written fun _ => trivial
  obtain ⟨base, name, whole, opened, plain, short⟩ := takes.into
  refine ⟨⟨base, name, whole, opened.grow growth, plain, short⟩, takes.checked, ?_⟩
  have free := takes.free
  obtain ⟨directory, file, _, _, _, _, rfl⟩ := write_ok written
  rw [growth.place_eq, isDirectory, get?_set _ (by simp)]
  split
  · rfl
  · exact free

end Takes

end Disk

end Datapack
