import Datapack.Proofs.Disk.Removal
import Datapack.Proofs.Package.Footprint

/-!
A build touches no file outside the directory that bears its namespace's name, whichever way its
output root is spelled. Two namespaces are no names of directories, and for them this fails: with
`.` the output root itself counts as the package's directory, and with `..` the one above it.
-/

namespace Datapack

open Disk

/-- Files that do not lie inside a place keep their content. -/
def Disk.KeepsFiles (before after : Disk) (place : Location) : Prop :=
  ∀ location content, before.get? location = some (.file content) →
    ¬Location.Below place location → after.get? location = some (.file content)

theorem Disk.Grows.keepsFiles {mayMake : Location → Prop} {place : Location} {disk grown : Disk}
    (growth : Grows mayMake (Location.Below place) disk grown) : disk.KeepsFiles grown place := by
  intro location content before outside
  rcases growth.get?_cases location with kept | ⟨free, _⟩ | below
  · rw [kept, before]
  · rw [before] at free
    contradiction
  · exact absurd below outside

theorem Disk.keepsFiles_removeTree (disk : Disk) (path : Path) :
    disk.KeepsFiles (disk.removeTree path) (disk.place path) := by
  intro location content before outside
  by_cases begins : disk.place path <+: location
  · have same : location = disk.place path := by
      by_contra different
      exact outside ⟨begins, different⟩
    have other : disk.isDirectory (disk.place path) = false := by
      rw [same] at before
      simp [isDirectory, before]
    rw [removeTree_of_not_isDirectory disk other, before]
  · rw [get?_removeTree_of_outside disk begins, before]

/-- A build for a proper namespace keeps every file outside the directory of that name. -/
theorem Package.build_keepsFiles (package : Package) (outputRoot : Path) {disk : Disk}
    (tree : disk.IsTree) (proper : package.namespaceName.IsProper) :
    disk.KeepsFiles (package.build outputRoot disk).disk
      (disk.place outputRoot ++ [package.namespaceName.text]) := by
  have place := disk.place_child outputRoot proper.isPlain
  obtain ⟨grown, growth, outcome⟩ :=
    package.build_grows outputRoot (fun _ => True) proper tree rfl
      (fun _ _ _ _ => trivial) (fun _ _ => trivial)
  have kept : disk.KeepsFiles grown
      (disk.place (outputRoot.child package.namespaceName.text)) := growth.keepsFiles
  rw [← place]
  rcases outcome with ⟨_, left⟩ | ⟨_, left⟩
  · rw [left]
    exact kept
  · rw [left]
    intro location content before outside
    apply grown.keepsFiles_removeTree _ location content (kept location content before outside)
    rw [growth.place_eq]
    exact outside

def sharedDisk : Disk where
  entries := [(["out"], .directory), (["out", "notes.txt"], .file "keep".toUTF8)]
  workingDirectory := []

theorem sharedDisk_isTree : sharedDisk.IsTree := by
  apply isTree_of_entries
  intro entry member
  simp only [sharedDisk, List.mem_cons, List.not_mem_nil, or_false] at member
  rcases member with rfl | rfl
  · exact ⟨[], "out", rfl, rfl, by decide⟩
  · exact ⟨["out"], "notes.txt", rfl, rfl, by decide⟩

def dotPackage : Package where
  displayName := "Bed Wars"
  namespaceName := ⟨".", by decide, List.all_eq_true.mp (by decide)⟩
  plugins := [.failing ⟨"broken"⟩]

def dotsPackage : Package :=
  { dotPackage with namespaceName := ⟨"..", by decide, List.all_eq_true.mp (by decide)⟩ }

theorem dotPackage_deletes_neighbour :
    (dotPackage.build ⟨["out"]⟩ sharedDisk).disk.get? ["out", "notes.txt"] = none := by
  decide +kernel

theorem dotsPackage_deletes_neighbour :
    (dotsPackage.build ⟨["out"]⟩ sharedDisk).disk.get? ["out", "notes.txt"] = none := by
  decide +kernel

theorem not_keepsFiles_of_deleted {disk after : Disk} {place location : Location}
    {content : ByteArray} (before : disk.get? location = some (.file content))
    (outside : ¬Location.Below place location) (gone : after.get? location = none) :
    ¬disk.KeepsFiles after place := by
  intro kept
  have still := kept location content before outside
  rw [gone] at still
  contradiction

/-- Building keeps every file outside the directory that bears the namespace's name, for all
packages, output roots and file trees, exactly if the namespace is neither `.` nor `..`. -/
theorem Package.build_keeps_outside_files_iff (namespaceName : Namespace) :
    (∀ (displayName : String) (plugins : List Plugin) (outputRoot : Path) (disk : Disk),
      disk.IsTree →
        disk.KeepsFiles
          (({ displayName, namespaceName, plugins } : Package).build outputRoot disk).disk
          (disk.place outputRoot ++ [namespaceName.text])) ↔
      namespaceName.IsProper := by
  constructor
  · intro contained
    have kept := contained "Bed Wars" [.failing ⟨"broken"⟩] ⟨["out"]⟩ sharedDisk sharedDisk_isTree
    obtain ⟨text, nonempty, allowed⟩ := namespaceName
    constructor
    · rintro rfl
      have beside : ¬Location.Below ["out", "."] ["out", "notes.txt"] := by decide
      exact not_keepsFiles_of_deleted rfl beside dotPackage_deletes_neighbour kept
    · rintro rfl
      have beside : ¬Location.Below ["out", ".."] ["out", "notes.txt"] := by decide
      exact not_keepsFiles_of_deleted rfl beside dotsPackage_deletes_neighbour kept
  · intro proper displayName plugins outputRoot disk tree
    exact Package.build_keepsFiles { displayName, namespaceName, plugins } outputRoot tree proper

end Datapack
