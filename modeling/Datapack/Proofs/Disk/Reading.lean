import Datapack.Proofs.Disk.Growth
import Datapack.Proofs.Disk.Removal

/-!
A file that was written can be read by the path it was written to, however much the file tree grows
afterwards.
-/

namespace Datapack.Disk

theorem origin_congr {first second : Disk}
    (same : second.workingDirectory = first.workingDirectory) (path : Path) :
    second.origin path = first.origin path := by
  rw [origin, origin, same]

/-- A way that can be walked stays open while a file tree grows. -/
theorem Grows.walk {mayMake mayWrite : Location → Prop} {first second : Disk}
    (growth : Grows mayMake mayWrite first second) {current location : Location}
    {segments : List String} (walked : first.walk current segments = .ok location) :
    second.walk current segments = .ok location := by
  induction segments generalizing current with
  | nil => exact walked
  | cons segment rest inductionHypothesis =>
    unfold Disk.walk at walked ⊢
    cases there : first.isDirectory current with
    | false => simp [there] at walked
    | true =>
      simp only [there, growth.isDirectory there, Bool.not_true, Bool.false_eq_true, if_false]
        at walked ⊢
      by_cases silent : Path.isSilent segment = true
      · rw [if_pos silent] at walked ⊢
        exact inductionHypothesis walked
      · rw [if_neg silent] at walked ⊢
        by_cases upwards : segment = ".."
        · rw [if_pos upwards] at walked ⊢
          exact inductionHypothesis walked
        · rw [if_neg upwards] at walked ⊢
          by_cases long : nameLimit < segment.utf8ByteSize
          · rw [if_pos long] at walked
            contradiction
          · rw [if_neg long] at walked ⊢
            cases found : first.get? (current ++ [segment]) with
            | none => simp [found] at walked
            | some entry =>
              have before : first.get? (current ++ [segment]) ≠ none := by simp [found]
              obtain ⟨kept, still⟩ := Option.ne_none_iff_exists'.mp (growth.present before)
              simp only [found, still] at walked ⊢
              exact inductionHypothesis walked

theorem Grows.locate {mayMake mayWrite : Location → Prop} {first second : Disk}
    (growth : Grows mayMake mayWrite first second) {path : Path} {location : Location}
    (located : first.locate path = .ok location) : second.locate path = .ok location := by
  obtain ⟨_, checked, walked⟩ := bind_eq_ok_iff.mp located
  rw [← origin_congr growth.workingDirectory_eq] at walked
  exact bind_eq_ok_iff.mpr ⟨(), checked, growth.walk walked⟩

/-- Without a slash at the end no empty piece stands behind the last name. -/
theorem eq_nil_of_not_endsWithSlash {path : Path} {front blanks : List String} {name : String}
    (unfinished : path.endsWithSlash = false) (whole : path.segments = front ++ name :: blanks)
    (blank : ∀ segment ∈ blanks, segment = "") : blanks = [] := by
  by_contra some
  obtain ⟨others, last, rfl⟩ := List.eq_nil_or_concat blanks |>.resolve_left some
  have ends : path.segments = front ++ [name] ++ others ++ [""] := by
    rw [whole, blank last (by simp)]
    simp
  rw [Path.endsWithSlash, ends, List.getLast?_concat] at unfinished
  simp at unfinished
  omega

theorem walk_of_blank {disk : Disk} {current : Location} (there : disk.isDirectory current = true)
    {blanks : List String} (blank : ∀ segment ∈ blanks, segment = "") :
    disk.walk current blanks = .ok current := by
  induction blanks with
  | nil => rfl
  | cons segment rest inductionHypothesis =>
    obtain rfl := blank segment (.head _)
    have further := inductionHypothesis fun other member => blank other (.tail _ member)
    simpa [Disk.walk, there, Path.isSilent] using further

/-- An entry that was put where a path ends is found by that path. Only a directory is also found
behind a slash. -/
theorem locate_of_set {mayMake mayWrite : Location → Prop} {disk : Disk} {path : Path}
    {directory : Location} {name : String} {entry : Entry}
    (found : disk.target path = .ok (.name directory name)) (short : name.utf8ByteSize ≤ nameLimit)
    (growth : Grows mayMake mayWrite disk (disk.set (directory ++ [name]) entry))
    (fits : entry = .directory ∨ path.endsWithSlash = false) :
    (disk.set (directory ++ [name]) entry).locate path = .ok (directory ++ [name]) := by
  obtain ⟨checked, there, named, front, blanks, whole, blank, walked⟩ := target_walk found
  have heard : Path.isSilent name = false ∧ name ≠ ".." := by
    constructor
    · by_contra silent
      simp [Path.component?, silent] at named
    · rintro rfl
      simp [Path.component?, Path.isSilent] at named
  have behind : (disk.set (directory ++ [name]) entry).walk (directory ++ [name]) blanks =
      .ok (directory ++ [name]) := by
    rcases fits with rfl | unfinished
    · apply walk_of_blank _ blank
      rw [isDirectory_iff, get?_set _ (by simp), if_pos rfl]
    · rw [eq_nil_of_not_endsWithSlash unfinished whole blank]
      rfl
  -- All pieces before the name lead to the directory as before, and there the entry is found.
  have last : (disk.set (directory ++ [name]) entry).walk directory (name :: blanks) =
      .ok (directory ++ [name]) := by
    rw [Disk.walk, get?_set _ (by simp)]
    simp [growth.isDirectory there, heard, Nat.not_lt.mpr short, behind]
  have reached := growth.walk walked
  rw [← origin_congr growth.workingDirectory_eq] at reached
  refine bind_eq_ok_iff.mpr ⟨(), checked, ?_⟩
  rw [whole, walk_append, reached]
  exact last

theorem locate_of_write {disk after : Disk} {path : Path} {content : ByteArray}
    (written : disk.write path content = .ok after) :
    after.locate path = .ok (disk.place path) := by
  have growth : Grows (fun _ => True) (fun _ => True) disk after :=
    write_grows written fun _ => trivial
  obtain ⟨directory, name, found, unfinished, short, -, rfl⟩ := write_target written
  rw [(target_name found).2.1]
  exact locate_of_set found short growth (.inr unfinished)

theorem read_of_locate {disk : Disk} {path : Path} {location : Location} {content : ByteArray}
    (located : disk.locate path = .ok location)
    (found : disk.get? location = some (.file content)) : disk.read path = .ok content := by
  rw [read, located]
  simp [bind, Except.bind, found, pure, Except.pure]

theorem readText_of_read {disk : Disk} {path : Path} {text : String}
    (found : disk.read path = .ok text.toUTF8) : disk.readText path = .ok text := by
  have decoded : String.fromUTF8? text.toUTF8 = some text := dif_pos text.isValidUTF8
  refine bind_eq_ok_iff.mpr ⟨_, found, ?_⟩
  rw [decoded]
  rfl

end Datapack.Disk
