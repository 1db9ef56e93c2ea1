import Datapack.Proofs.Disk.Removal
import Datapack.Proofs.Package.Footprint

/-!
A build that fails leaves no trace. What it wrote stands below the package's directory, and all of
that goes; above, only directories on the way to it may remain. A path of 4096 bytes or more cannot
be followed, so under such a path nothing is written and nothing is removed either.
-/

namespace Datapack

open Disk

section Long

theorem Path.length_le_length_child (base : Path) {name : String} (plain : IsPlain name) :
    base.segments.length ≤ (base.child name).segments.length := by
  simp only [child, join, ofString_of_unbroken plain.unbroken, isAbsolute]
  split
  next empty =>
    rcases (by simpa [isEmpty] using empty : base.segments = [""] ∨ base.segments = []) with
      blank | none
    · simp [blank]
    · simp [none]
  next =>
    split
    · simp only [List.length_append, List.length_dropLast, List.length_singleton]
      omega
    · simp

theorem Disk.checkText_of_long {path : Path} (long : pathLimit ≤ path.text.utf8ByteSize) :
    ∃ cause, checkText path = .error cause ∧ cause ≠ .notFound := by
  have nonempty : path.isEmpty = false := by
    rw [Path.isEmpty_eq_false_iff]
    constructor
    · intro none
      simp [Path.text, none, pathLimit] at long
    · intro blank
      simp [Path.text, blank, pathLimit] at long
  unfold checkText
  split
  · exact ⟨.invalidInput, rfl, by simp⟩
  · exact ⟨.invalidFilename, by simp [nonempty], by simp⟩

theorem Disk.ensureDirectories_of_long (disk : Disk) {path : Path} {outer : List String}
    {last : String} (ends : path.segments = outer ++ [last])
    (heard : Path.isSilent last = false) (long : pathLimit ≤ path.text.utf8ByteSize) :
    ∃ cause, disk.ensureDirectories path = (.error cause, disk) := by
  obtain ⟨cause, refused, other⟩ := checkText_of_long long
  have unmade : disk.ensureDirectory path = .error cause := by
    simp [ensureDirectory, makeDirectory, isDirectoryPath, locate, target, refused, bind,
      Except.bind]
  refine ⟨cause, ?_⟩
  rw [ensureDirectories, Path.chain_eq_cons ends heard, ensureChain, unmade]
  cases cause with
  | notFound => contradiction
  | _ => rfl

theorem Disk.removeTree_of_long (disk : Disk) {path : Path}
    (long : pathLimit ≤ path.text.utf8ByteSize) : disk.removeTree path = disk := by
  obtain ⟨cause, refused, _⟩ := checkText_of_long long
  simp [removeTree, locate, refused, bind, Except.bind]

end Long

theorem PackLayout.segments_tagDirectory {layout : PackLayout} {outer : List String}
    {last : String} (ends : layout.directory.segments = outer ++ [last]) (heard : last ≠ "") :
    layout.tagDirectory.segments =
      layout.directory.segments ++ ["data", "minecraft", "tags"] ++ ["function"] := by
  have data := Path.segments_child ends heard isPlain_data
  have host := Path.segments_child data (by decide) isPlain_minecraft
  have tags := Path.segments_child host (by decide) isPlain_tags
  have function := Path.segments_child tags (by decide) isPlain_function
  rw [tagDirectory, function, tags, host, data]
  simp

/-- Where the package's directory has too long a path the build fails and changes nothing. -/
theorem Package.build_of_long (package : Package) (outputRoot : Path) (disk : Disk)
    (proper : package.namespaceName.IsProper)
    (long : pathLimit ≤ (outputRoot.child package.namespaceName.text).text.utf8ByteSize) :
    (∃ cause, (package.build outputRoot disk).result = .error cause) ∧
      (package.build outputRoot disk).disk = disk := by
  let layout := PackLayout.within outputRoot package.namespaceName
  obtain ⟨outer, ends⟩ := Path.segments_child_ends outputRoot proper.isPlain
  have tags := layout.segments_tagDirectory ends package.namespaceName.nonempty
  have longer : pathLimit ≤ layout.tagDirectory.text.utf8ByteSize := by
    apply long.trans
    apply Path.text_size_le
    · rw [ends]
      simp
    · rw [tags, List.append_assoc]
      exact List.prefix_append _ _
  obtain ⟨cause, unmade⟩ := disk.ensureDirectories_of_long tags rfl longer
  have unwritten : Work.writePackage package layout { disk, written := [] } =
      (.error (.unwritable layout.tagDirectory cause), { disk, written := [] }) := by
    simp [Work.writePackage, Work.makeDirectories, unmade]
  obtain ⟨failed, left⟩ := build_of_unwritten rfl unwritten
  refine ⟨⟨_, failed⟩, ?_⟩
  rw [left, rollBack_eq]
  exact disk.removeTree_of_long long

/-- Nothing is left at or below a place. Only a file that stood at the place itself still does. -/
def Disk.ClearedAt (before after : Disk) (place : Location) : Prop :=
  ∀ location, place <+: location →
    after.get? location = none ∨
      location = place ∧ ∃ content,
        before.get? place = some (.file content) ∧ after.get? place = some (.file content)

/-- Outside a place everything is as it was, but for new directories that lead to it. -/
def Disk.KeptOutside (before after : Disk) (place : Location) : Prop :=
  ∀ location, ¬place <+: location →
    after.get? location = before.get? location ∨
      before.get? location = none ∧ after.get? location = some .directory ∧ location <+: place

section Growth

variable {disk grown : Disk} {path : Path}

theorem Disk.Grows.clearedAt (growth : Grows (Location.Along (disk.place path))
    (Location.Below (disk.place path)) disk grown) (tree : disk.IsTree) (direct : IsDirect path) :
    disk.ClearedAt (grown.removeTree path) (disk.place path) := by
  have standing := growth.isTree tree
  have reached := growth.place_eq path
  intro location begins
  by_cases there : grown.isDirectory (disk.place path) = true
  · rw [← reached] at there begins
    exact .inl (by rw [get?_removeTree standing direct there, if_pos begins])
  · -- Without a directory there nothing can stand below the place.
    rw [removeTree_of_not_isDirectory grown (by rw [reached]; simpa using there)]
    by_cases same : location = disk.place path
    · subst same
      cases found : grown.get? (disk.place path) with
      | none => exact .inl rfl
      | some entry =>
        cases entry with
        | directory => exact absurd (isDirectory_iff.mpr found) there
        | file content =>
          rcases growth.get?_cases (disk.place path) with kept | ⟨_, made, _⟩ | below
          · exact .inr ⟨rfl, content, kept ▸ found, rfl⟩
          · rw [found] at made
            simp at made
          · exact absurd rfl below.2
    · left
      by_contra present
      exact there (standing.isDirectory_of_prefix begins (Ne.symm same) present)

theorem Disk.Grows.keptOutside (growth : Grows (Location.Along (disk.place path))
    (Location.Below (disk.place path)) disk grown) :
    disk.KeptOutside (grown.removeTree path) (disk.place path) := by
  intro location outside
  rw [get?_removeTree_of_outside grown (by rwa [growth.place_eq])]
  rcases growth.get?_cases location with kept | ⟨free, made, along⟩ | below
  · exact .inl kept
  · rcases along with leads | within
    · exact .inr ⟨free, made, leads⟩
    · exact absurd within outside
  · exact absurd below.1 outside

end Growth

theorem Package.build_grows_along (package : Package) (outputRoot : Path) {disk : Disk}
    (proper : package.namespaceName.IsProper) (tree : disk.IsTree)
    (level : .up ∉ outputRoot.components) {cause : BuildError}
    (failed : (package.build outputRoot disk).result = .error cause) :
    ∃ grown,
      Grows (Location.Along (disk.place (outputRoot.child package.namespaceName.text)))
        (Location.Below (disk.place (outputRoot.child package.namespaceName.text))) disk grown ∧
      (package.build outputRoot disk).disk =
        grown.removeTree (outputRoot.child package.namespaceName.text) := by
  let layout := PackLayout.within outputRoot package.namespaceName
  have own : .up ∉ layout.directory.components := Path.level_child proper.isPlain level
  have makes : ∀ path ∈ [layout.tagDirectory, layout.functionDirectory], ∀ front : Path,
      front.Leads path → Location.Along (disk.place layout.directory) (disk.place front) := by
    intro path member front leads
    have inner : .up ∉ path.components ∧ disk.place layout.directory <+: disk.place path := by
      rcases List.mem_pair.mp member with rfl | rfl
      · exact ⟨PackLayout.level_tagDirectory own, by simp⟩
      · exact ⟨PackLayout.level_functionDirectory proper own,
          by simp [layout.place_functionDirectory disk proper]⟩
    exact List.prefix_or_prefix_of_prefix (disk.place_begins leads inner.1) inner.2
  obtain ⟨grown, growth, ⟨⟨report, succeeded⟩, _⟩ | ⟨_, left⟩⟩ :=
    package.build_grows outputRoot _ proper tree rfl makes fun _ along => along
  · rw [failed] at succeeded
    cases succeeded
  · exact ⟨grown, growth, left⟩

/-- A failed build leaves nothing of the package: what stood at or below its directory is gone, and
everything else is as before. Only where the directory's path is too long to be followed does the
whole file tree stay as it was. -/
theorem Package.failed_build_leaves_no_trace (package : Package) (outputRoot : Path) (disk : Disk)
    (cause : BuildError) (tree : disk.IsTree) (level : .up ∉ outputRoot.components)
    (proper : package.namespaceName.IsProper)
    (failed : (package.build outputRoot disk).result = .error cause) :
    let directory := outputRoot.child package.namespaceName.text
    let after := (package.build outputRoot disk).disk
    (directory.text.utf8ByteSize < pathLimit → disk.ClearedAt after (disk.place directory)) ∧
      disk.KeptOutside after (disk.place directory) ∧
      (pathLimit ≤ directory.text.utf8ByteSize → after = disk) := by
  obtain ⟨grown, growth, left⟩ := package.build_grows_along outputRoot proper tree level failed
  obtain ⟨front, ends⟩ := Path.segments_child_ends outputRoot proper.isPlain
  refine ⟨?_, ?_, ?_⟩
  · intro short
    rw [left]
    exact growth.clearedAt tree
      ⟨Path.level_child proper.isPlain level, ⟨front, _, ends, proper.isPlain.named⟩, short⟩
  · rw [left]
    exact growth.keptOutside
  · intro long
    exact (package.build_of_long outputRoot disk proper long).2

def brokenPackage : Package where
  displayName := "Bed Wars"
  namespaceName := ⟨"bw", by decide, List.all_eq_true.mp (by decide)⟩
  plugins := [.failing ⟨"broken"⟩]

def crowdedDisk : Disk where
  entries := [
    (["out"], .directory),
    (["out", "bw"], .directory),
    (["out", "bw", "old.txt"], .file "old".toUTF8),
    (["out", "notes.txt"], .file "keep".toUTF8)]
  workingDirectory := []

theorem crowdedDisk_isTree : crowdedDisk.IsTree := by
  apply isTree_of_entries
  intro entry member
  simp only [crowdedDisk, List.mem_cons, List.not_mem_nil, or_false] at member
  rcases member with rfl | rfl | rfl | rfl
  · exact ⟨[], "out", rfl, rfl, by decide⟩
  · exact ⟨["out"], "bw", rfl, rfl, by decide⟩
  · exact ⟨["out", "bw"], "old.txt", rfl, rfl, by decide⟩
  · exact ⟨["out"], "notes.txt", rfl, rfl, by decide⟩

theorem Package.broken_build_leaves_no_trace :
    (brokenPackage.build ⟨["out"]⟩ crowdedDisk).result = .error (.pluginsFailed ["broken"]) ∧
      crowdedDisk.ClearedAt (brokenPackage.build ⟨["out"]⟩ crowdedDisk).disk ["out", "bw"] ∧
      crowdedDisk.KeptOutside (brokenPackage.build ⟨["out"]⟩ crowdedDisk).disk ["out", "bw"] := by
  have failed : (brokenPackage.build ⟨["out"]⟩ crowdedDisk).result =
      .error (.pluginsFailed ["broken"]) := rfl
  have traceless := brokenPackage.failed_build_leaves_no_trace ⟨["out"]⟩ crowdedDisk
    (.pluginsFailed ["broken"]) crowdedDisk_isTree (by decide) ⟨by decide, by decide⟩ failed
  exact ⟨failed, traceless.1 (by decide), traceless.2.1⟩

def overlongRoot : Path where
  segments := "out" :: List.replicate 4096 ""

/-- Under a path that is too long an earlier package survives a failed build. -/
theorem Package.overlong_root_keeps_earlier_package :
    crowdedDisk.IsTree ∧ .up ∉ overlongRoot.components ∧ brokenPackage.namespaceName.IsProper ∧
      (∃ cause, (brokenPackage.build overlongRoot crowdedDisk).result = .error cause) ∧
      ¬crowdedDisk.ClearedAt (brokenPackage.build overlongRoot crowdedDisk).disk
        (crowdedDisk.place (overlongRoot.child brokenPackage.namespaceName.text)) := by
  have proper : brokenPackage.namespaceName.IsProper := ⟨by decide, by decide⟩
  have level : .up ∉ overlongRoot.components := by
    rw [Path.up_mem_components_iff, overlongRoot, List.mem_cons, List.mem_replicate]
    decide
  have long : pathLimit ≤
      (overlongRoot.child brokenPackage.namespaceName.text).text.utf8ByteSize := by
    have slashes := (overlongRoot.child brokenPackage.namespaceName.text).length_le_text_size
    have pieces := overlongRoot.length_le_length_child proper.isPlain
    have many : overlongRoot.segments.length = 4097 := by
      rw [overlongRoot, List.length_cons, List.length_replicate]
    unfold pathLimit
    omega
  have place : crowdedDisk.place (overlongRoot.child brokenPackage.namespaceName.text) =
      ["out", "bw"] := by
    rw [place_child _ _ proper.isPlain, place_eq_follow, overlongRoot, follow_of_name rfl,
      follow_of_blank (fun _ member => List.eq_of_mem_replicate member)]
    rfl
  obtain ⟨failed, left⟩ := brokenPackage.build_of_long overlongRoot crowdedDisk proper long
  refine ⟨crowdedDisk_isTree, level, proper, failed, ?_⟩
  rw [place, left]
  intro cleared
  rcases cleared ["out", "bw", "old.txt"] (by simp) with gone | ⟨same, _⟩
  · simp [crowdedDisk, get?] at gone
  · simp at same

end Datapack
