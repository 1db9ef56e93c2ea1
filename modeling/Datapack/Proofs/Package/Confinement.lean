import Datapack.Proofs.Disk.Reading
import Datapack.Proofs.Package.Footprint

/-!
A single write of a plugin. Whether it is refused depends on the components of two paths only, yet
what follows holds of the file tree: a write that is not refused ends at or below the package's
directory, and nothing changes but the file itself and directories that were missing on the way to
it.
-/

namespace Datapack

open Disk

theorem PackLayout.components_directory_ne_nil (outputRoot : Path) (namespaceName : Namespace) :
    (within outputRoot namespaceName).directory.components ≠ [] := by
  obtain ⟨outer, ends⟩ := outputRoot.segments_child_ends_of_unbroken namespaceName.unbroken
  apply Path.components_ne_nil_of_not_isEmpty
  exact Path.isEmpty_eq_false_of_ends ends namespaceName.nonempty

namespace Disk

theorem below_of_parent? (disk : Disk) {front parent path : Path}
    (found : path.parent? = some parent) (leads : front.Leads parent)
    (level : .up ∉ path.components) :
    Location.Below (disk.place front) (disk.place path) := by
  have named : parent.components ≠ [] := by
    intro none
    have begins := leads.begins
    rw [none, List.prefix_nil] at begins
    exact leads.some begins
  have parentLevel : .up ∉ parent.components := by
    intro upwards
    obtain ⟨last, split⟩ := Path.components_of_parent? found
    apply level
    rw [split]
    exact List.mem_append_left [last] upwards
  obtain ⟨name, reached⟩ := disk.place_of_parent? found named level
  rw [reached]
  exact Location.below_of_begins (disk.place_begins leads parentLevel) name

theorem ensureParent_grows_above (disk : Disk) {path : Path} (level : .up ∉ path.components) :
    Grows (fun location => Location.Below location (disk.place path)) (fun _ => False) disk
      (disk.ensureParent path).2 := by
  apply ensureParent_grows
  intro parent found front leads
  exact disk.below_of_parent? found leads level

theorem get?_ensureParent (disk : Disk) {path : Path} (level : .up ∉ path.components)
    (location : Location) :
    (disk.ensureParent path).2.get? location = disk.get? location ∨
      (Location.Below location (disk.place path) ∧ disk.get? location = none ∧
        (disk.ensureParent path).2.get? location = some .directory) := by
  rcases (disk.ensureParent_grows_above level).get?_cases location with
    kept | ⟨free, made, above⟩ | never
  · exact .inl kept
  · exact .inr ⟨above, free, made⟩
  · exact never.elim

/-- A file that is written behind them stands where no directory stood before. -/
theorem get?_write_ensureParent {disk stored : Disk} {path : Path} {content : ByteArray}
    (level : .up ∉ path.components)
    (written : (disk.ensureParent path).2.write path content = .ok stored) :
    disk.isDirectory (disk.place path) = false ∧
      ∀ location, stored.get? location =
        if location = disk.place path then some (.file content)
        else (disk.ensureParent path).2.get? location := by
  have grown := disk.ensureParent_grows_above level
  obtain ⟨directory, name, reached, -, -, free, rfl⟩ := write_ok written
  rw [grown.place_eq] at reached
  rw [← reached] at free ⊢
  refine ⟨?_, fun location => get?_set _ (by simp [reached]) _ location⟩
  by_contra there
  rw [grown.isDirectory (by simpa using there)] at free
  contradiction

end Disk

namespace Work

section Write

variable {work : Work} {directory path : Path} {text : String}

theorem written_of_not_ok (failed : (work.writeInside directory path text).1 ≠ .ok ()) :
    (work.writeInside directory path text).2.written = work.written := by
  rcases work.writeInside_cases directory path text with
    ⟨-, ended⟩ | ⟨-, ⟨failed, cause, ended⟩ | ⟨stored, -, ended⟩⟩
  · rw [ended]
  · rw [ended]
  · rw [ended] at failed
    contradiction

variable (work directory text)

/-- Where a write that is not refused may change a file tree, and to what. -/
theorem get?_writeInside (level : .up ∉ path.components) (location : Location) :
    let outcome := (work.writeInside directory path text).1
    let after := (work.writeInside directory path text).2
    after.disk.get? location = work.disk.get? location ∨
      (location = work.disk.place path ∧ outcome = .ok () ∧
        work.disk.isDirectory location = false ∧
        after.disk.get? location = some (.file text.toUTF8)) ∨
      (Location.Below location (work.disk.place path) ∧ work.disk.get? location = none ∧
        after.disk.get? location = some .directory) := by
  have above := work.disk.get?_ensureParent level location
  rcases work.writeInside_cases directory path text with
    ⟨-, ended⟩ | ⟨-, ⟨failed, cause, ended⟩ | ⟨stored, written, ended⟩⟩
  · rw [ended]
    exact .inl rfl
  · rw [ended]
    exact above.imp id .inr
  · obtain ⟨free, found⟩ := get?_write_ensureParent level written
    rw [ended]
    by_cases same : location = work.disk.place path
    · subst same
      exact .inr (.inl ⟨rfl, rfl, free, by rw [found, if_pos rfl]⟩)
    · have kept := found location
      rw [if_neg same] at kept
      rw [← kept] at above
      exact above.imp id .inr

end Write

/-- A plugin's write cannot leave the package. It is refused exactly if its path goes up or does not
start with the components of the package's directory, and then nothing happens. Otherwise the path
names a place at or below that directory, and all that changes is that a file stands in that place,
if the write goes through, and that directories above it are made where nothing was. The record
grows by the path if the write goes through, and stays as it is if not. -/
theorem writes_stay_inside_package (outputRoot : Path) (namespaceName : Namespace) (path : Path)
    (text : String) (work : Work) :
    let directory := (PackLayout.within outputRoot namespaceName).directory
    let outcome := (work.writeInside directory path text).1
    let after := (work.writeInside directory path text).2
    let place := work.disk.place path
    let IsRefused := ∃ refused, outcome = .error (.outsidePackage refused)
    (IsRefused ↔ .up ∈ path.components ∨ ¬directory.components <+: path.components) ∧
      (IsRefused → after = work) ∧
      (¬IsRefused → work.disk.place directory <+: place ∧
        ∀ location, after.disk.get? location = work.disk.get? location ∨
          (location = place ∧ outcome = .ok () ∧ work.disk.isDirectory location = false ∧
            after.disk.get? location = some (.file text.toUTF8)) ∨
          (Location.Below location place ∧ work.disk.get? location = none ∧
            after.disk.get? location = some .directory)) ∧
      (outcome = .ok () → after.written = work.written ++ [path] ∧
        after.disk.locate path = .ok place ∧
        after.disk.get? place = some (.file text.toUTF8)) ∧
      (outcome ≠ .ok () → after.written = work.written) := by
  intro directory outcome after place IsRefused
  have refused : IsRefused ↔ isInside directory path = false :=
    writeInside_refused_iff
  refine ⟨?_, ?_, ?_, ?_, ?_⟩
  · rw [refused, ← Bool.not_eq_true, isInside_iff, not_and_or, not_not]
  · intro isRefused
    rcases work.writeInside_cases directory path text with ⟨-, ended⟩ | ⟨inside, -⟩
    · exact congrArg Prod.snd ended
    · rw [refused.mp isRefused] at inside
      contradiction
  · intro accepted
    have inside : isInside directory path = true := by simpa using mt refused.mpr accepted
    obtain ⟨level, begins⟩ := isInside_iff.mp inside
    have named := PackLayout.components_directory_ne_nil outputRoot namespaceName
    refine ⟨work.disk.place_begins ⟨named, begins⟩ level, ?_⟩
    exact work.get?_writeInside directory text level
  · intro went
    obtain ⟨inside, stored, written, left⟩ := writeInside_of_ok went
    have level := (isInside_iff.mp inside).1
    have located := locate_of_write written
    rw [(work.disk.ensureParent_grows_above level).place_eq] at located
    change after = _ at left
    rw [left]
    refine ⟨rfl, located, ?_⟩
    rw [(get?_write_ensureParent level written).2, if_pos rfl]
  · exact written_of_not_ok

-- A name that begins like that of the package is still the name of another directory.
example : isInside ⟨["out", "bw"]⟩ ⟨["out", "bw2", "notes.txt"]⟩ = false := by decide

end Work

end Datapack
