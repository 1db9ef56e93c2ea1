import Datapack.Proofs.Lists
import Datapack.Proofs.Path

/-!
The place that a path names can be read off its components. Following the path in a file tree
either fails or ends at that place.
-/

namespace Datapack

def Component.step (current : Location) : Component → Location
  | .root => []
  | .here => current
  | .up => current.dropLast
  | .name text => current ++ [text]

namespace Disk

/-- The place that a path names, whether or not something is there. -/
def place (disk : Disk) (path : Path) : Location :=
  path.components.foldl Component.step disk.workingDirectory

def follow (current : Location) (segments : List String) : Location :=
  (segments.filterMap Path.component?).foldl Component.step current

@[simp]
theorem follow_nil (current : Location) : follow current [] = current := rfl

@[simp]
theorem follow_append (current : Location) (first second : List String) :
    follow current (first ++ second) = follow (follow current first) second := by
  simp [follow, List.filterMap_append, List.foldl_append]

@[simp]
theorem follow_of_silent {current : Location} {segment : String} {rest : List String}
    (silent : Path.isSilent segment = true) :
    follow current (segment :: rest) = follow current rest := by
  simp [follow, Path.component?, silent]

@[simp]
theorem follow_of_up {current : Location} {rest : List String} :
    follow current (".." :: rest) = follow current.dropLast rest := by
  simp [follow, Path.component?, Path.isSilent, Component.step]

@[simp]
theorem follow_of_name {current : Location} {segment : String} {rest : List String}
    (named : Path.component? segment = some (.name segment)) :
    follow current (segment :: rest) = follow (current ++ [segment]) rest := by
  simp [follow, named, Component.step]

theorem place_eq_follow (disk : Disk) (path : Path) :
    disk.place path = follow (disk.origin path) path.segments := by
  obtain ⟨segments⟩ := path
  unfold place origin
  match segments with
  | [] => simp [Path.components, Path.isAbsolute]
  | first :: rest =>
    by_cases blank : first = ""
    · subst blank
      by_cases ended : rest = []
      · subst ended
        simp [Path.components, Path.isAbsolute, follow, Path.component?, Path.isSilent]
      · have longer : 0 < rest.length := List.length_pos_iff.mpr ended
        rw [follow_of_silent rfl]
        simp [Path.components, Path.isAbsolute, ended, longer, Component.step, follow]
    · by_cases dot : first = "."
      · subst dot
        rw [follow_of_silent rfl]
        simp [Path.components, Path.isAbsolute, Component.step, follow]
      · rw [Path.components_of_other blank dot]
        simp [Path.isAbsolute, blank, follow]

theorem walk_ok {disk : Disk} {current location : Location} {segments : List String}
    (walked : disk.walk current segments = .ok location) : location = follow current segments := by
  -- A walk takes the pieces one by one, so the place it starts from varies.
  induction segments generalizing current with
  | nil => exact (Except.ok.inj walked).symm
  | cons segment rest inductionHypothesis =>
    unfold walk at walked
    split at walked
    · contradiction
    · split at walked
      next silent =>
        rw [follow_of_silent silent]
        exact inductionHypothesis walked
      next heard =>
        split at walked
        next upwards =>
          subst upwards
          rw [follow_of_up]
          exact inductionHypothesis walked
        next level =>
          split at walked
          · contradiction
          · split at walked
            · rw [follow_of_name (by simp [Path.component?, heard, level])]
              exact inductionHypothesis walked
            · contradiction

theorem locate_ok {disk : Disk} {path : Path} {location : Location}
    (located : disk.locate path = .ok location) : location = disk.place path := by
  obtain ⟨_, _, walked⟩ := bind_eq_ok_iff.mp located
  rw [place_eq_follow, walk_ok walked]

@[simp]
theorem place_child (disk : Disk) (base : Path) {name : String} (plain : Path.IsPlain name) :
    disk.place (base.child name) = disk.place base ++ [name] := by
  simp [place, plain, Component.step]

@[simp]
theorem place_child_dot (disk : Disk) (base : Path) :
    disk.place (base.child ".") = disk.place base := by
  unfold place
  rw [Path.components_child_dot]
  split
  next empty =>
    rw [Path.components_of_isEmpty empty]
    rfl
  next => rfl

theorem foldl_step_begins (current : Location) {components : List Component}
    (names : ∀ component ∈ components, ∃ text, component = .name text) :
    current <+: components.foldl Component.step current := by
  induction components generalizing current with
  | nil => exact List.prefix_rfl
  | cons component rest inductionHypothesis =>
    obtain ⟨text, rfl⟩ := names component (by simp)
    have further := inductionHypothesis (current ++ [text]) fun other member =>
      names other (by simp [member])
    exact (List.prefix_append current [text]).trans further

/-- A path that never goes up leads through the places of the paths that lead to it. -/
theorem place_begins (disk : Disk) {front path : Path} (leads : front.Leads path)
    (level : .up ∉ path.components) : disk.place front <+: disk.place path := by
  obtain ⟨rest, whole⟩ := leads.begins
  obtain ⟨first, more, shape⟩ := List.exists_cons_of_ne_nil leads.some
  rw [place, place, ← whole, List.foldl_append]
  apply foldl_step_begins
  intro component member
  have split : path.components = first :: (more ++ rest) := by rw [← whole, shape, List.cons_append]
  rcases Path.up_or_name_of_mem_tail split (List.mem_append_right more member) with rfl | named
  · exact absurd (split ▸ List.mem_cons_of_mem first (List.mem_append_right more member)) level
  · exact named

/-- A path that never goes up ends one name below its parent. -/
theorem place_of_parent? (disk : Disk) {path parent : Path} (found : path.parent? = some parent)
    (named : parent.components ≠ []) (level : .up ∉ path.components) :
    ∃ name, disk.place path = disk.place parent ++ [name] := by
  obtain ⟨last, split⟩ := Path.components_of_parent? found
  obtain ⟨first, more, shape⟩ := List.exists_cons_of_ne_nil named
  have whole : path.components = first :: (more ++ [last]) := by
    rw [split, shape, List.cons_append]
  rcases Path.up_or_name_of_mem_tail whole (by simp : last ∈ more ++ [last]) with rfl | ⟨name, rfl⟩
  · exact absurd (by simp [split]) level
  · exact ⟨name, by simp [place, split, Component.step]⟩

theorem checkText_ok {path : Path} (passed : checkText path = .ok ()) :
    (∀ segment ∈ path.segments, '\x00' ∉ segment.toList) ∧ path.isEmpty = false ∧
      path.text.utf8ByteSize < pathLimit := by
  unfold checkText at passed
  split at passed
  · contradiction
  · split at passed
    · contradiction
    · split at passed
      · contradiction
      · simp_all

theorem checkText_of_clean {path : Path}
    (complete : ∀ segment ∈ path.segments, '\x00' ∉ segment.toList) (filled : path.isEmpty = false)
    (short : path.text.utf8ByteSize < pathLimit) : checkText path = .ok () := by
  have clean : path.segments.any (fun segment => segment.toList.contains '\x00') = false := by
    simpa using complete
  rw [checkText, clean, filled]
  simp [Nat.not_le.mpr short]

/-- A path that is cut short behind a piece that is not empty can be followed if the whole can. -/
theorem checkText_of_begins {front path : Path} {outer : List String} {last : String}
    (begins : front.segments <+: path.segments) (ends : front.segments = outer ++ [last])
    (heard : last ≠ "") (passed : checkText path = .ok ()) : checkText front = .ok () := by
  obtain ⟨complete, _, short⟩ := checkText_ok passed
  have nonempty : front.segments ≠ [] := by simp [ends]
  apply checkText_of_clean
  · intro segment member
    exact complete segment (begins.subset member)
  · exact Path.isEmpty_eq_false_of_ends ends heard
  · exact Nat.lt_of_le_of_lt (Path.text_size_le nonempty begins) short

/-- Further names behind a path can be followed too, as long as the text is short enough. -/
theorem checkText_of_extends {base path : Path} {outer rest : List String} {last : String}
    (ends : base.segments = outer ++ [last]) (heard : last ≠ "")
    (whole : path.segments = base.segments ++ rest)
    (complete : ∀ name ∈ rest, '\x00' ∉ name.toList)
    (short : path.text.utf8ByteSize < pathLimit) (passed : checkText base = .ok ()) :
    checkText path = .ok () := by
  have filled : path.isEmpty = false := by
    rw [Path.isEmpty_eq_false_iff, whole, ends]
    refine ⟨by simp, ?_⟩
    intro blank
    have alone : outer = [] ∧ last = "" ∧ rest = [] := by
      simpa [List.append_eq_singleton_iff] using blank
    exact heard alone.2.1
  apply checkText_of_clean _ filled short
  intro segment member
  rw [whole, List.mem_append] at member
  rcases member with before | further
  · exact (checkText_ok passed).1 segment before
  · exact complete segment further

theorem follow_of_blank {current : Location} {blanks : List String}
    (blank : ∀ segment ∈ blanks, segment = "") : follow current blanks = current := by
  have nothing : blanks.filterMap Path.component? = [] := by
    rw [List.filterMap_eq_nil_iff]
    intro segment member
    rw [blank segment member]
    rfl
  rw [follow, nothing, List.foldl_nil]

theorem segments_of_last {path : Path} {last : String} {front : List String}
    (backwards : path.segments.reverse.dropWhile (· == "") = last :: front) :
    last ≠ "" ∧ ∃ blanks, path.segments = front.reverse ++ last :: blanks ∧
      ∀ segment ∈ blanks, segment = "" := by
  have heard : last ≠ "" := by
    have first := List.head_dropWhile_not (· == "") (l := path.segments.reverse)
      (by simp [backwards])
    simpa [backwards] using first
  refine ⟨heard, (path.segments.reverse.takeWhile (· == "")).reverse, ?_, ?_⟩
  · have parts := List.takeWhile_append_dropWhile (p := (· == "")) (l := path.segments.reverse)
    rw [backwards] at parts
    have turned := congrArg List.reverse parts
    simpa using turned.symm
  · intro segment member
    simpa using List.mem_takeWhile_imp (List.mem_reverse.mp member)

/-- A path's target is a name in the directory to which the pieces before it lead. Behind it stand
at most empty pieces. -/
theorem target_walk {disk : Disk} {path : Path} {directory : Location} {text : String}
    (found : disk.target path = .ok (.name directory text)) :
    checkText path = .ok () ∧ disk.isDirectory directory = true ∧
      Path.component? text = some (.name text) ∧
      ∃ front blanks, path.segments = front ++ text :: blanks ∧
        (∀ segment ∈ blanks, segment = "") ∧
        disk.walk (disk.origin path) front = .ok directory := by
  obtain ⟨_, checked, found⟩ := bind_eq_ok_iff.mp found
  split at found
  · simp [pure, Except.pure] at found
  next last front backwards =>
    obtain ⟨reached, walked, found⟩ := bind_eq_ok_iff.mp found
    split at found
    · contradiction
    next ready =>
      split at found
      · simp [pure, Except.pure] at found
      next level =>
        obtain ⟨rfl, rfl⟩ : reached = directory ∧ last = text := by
          simpa [pure, Except.pure] using found
        obtain ⟨heard, blanks, whole, blank⟩ := segments_of_last backwards
        have named : Path.component? last = some (.name last) := by
          simp_all [Path.component?, Path.isSilent]
        exact ⟨checked, by simpa using ready, named, front.reverse, blanks, whole, blank, walked⟩

theorem target_name {disk : Disk} {path : Path} {directory : Location} {text : String}
    (found : disk.target path = .ok (.name directory text)) :
    disk.isDirectory directory = true ∧ disk.place path = directory ++ [text] ∧
      Path.component? text = some (.name text) ∧ '\x00' ∉ text.toList := by
  obtain ⟨checked, there, named, front, blanks, whole, blank, walked⟩ := target_walk found
  refine ⟨there, ?_, named, ?_⟩
  · rw [place_eq_follow, whole, follow_append, follow_of_name named, follow_of_blank blank,
      ← walk_ok walked]
  · exact (checkText_ok checked).1 text (by simp [whole])

/-- The name that a path ends in is its target, in the directory to which the rest leads. -/
theorem target_of_walk {disk : Disk} {path : Path} {directory : Location} {outer : List String}
    {last : String} (checked : checkText path = .ok ()) (ends : path.segments = outer ++ [last])
    (named : Path.component? last = some (.name last))
    (walked : disk.walk (disk.origin path) outer = .ok directory)
    (there : disk.isDirectory directory = true) :
    disk.target path = .ok (.name directory last) := by
  have heard : last ≠ "" ∧ last ≠ "." ∧ last ≠ ".." := by
    refine ⟨?_, ?_, ?_⟩ <;> rintro rfl <;> simp [Path.component?, Path.isSilent] at named
  unfold target
  simp [checked, ends, heard, walked, there, bind, Except.bind, pure, Except.pure]

end Disk

end Datapack
