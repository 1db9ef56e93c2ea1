import Datapack.Proofs.Disk.Children
import Datapack.Proofs.Package.Footprint

/-!
Where the functions of a package stand, and what it takes to write one. Once the package's own files
are written, the directory of its functions is there and holds only the package's own ones of those
that a plugin may name.
-/

namespace Datapack

open Disk

/-- A function's name that its file can bear. -/
structure IsFunctionName (name : String) : Prop where
  unbroken : '/' ∉ name.toList
  complete : '\x00' ∉ name.toList
  short : name.utf8ByteSize ≤ 244

instance (name : String) : Decidable (IsFunctionName name) :=
  decidable_of_iff ('/' ∉ name.toList ∧ '\x00' ∉ name.toList ∧ name.utf8ByteSize ≤ 244)
    ⟨fun ⟨unbroken, complete, short⟩ => ⟨unbroken, complete, short⟩,
      fun valid => ⟨valid.unbroken, valid.complete, valid.short⟩⟩

/-- A function's file has a name that stands for itself, also if the function's own does not. -/
theorem Path.isPlain_functionFile {name : String} (unbroken : '/' ∉ name.toList) :
    IsPlain (name ++ ".mcfunction") := by
  apply isPlain_of_length
  · rw [String.length_append]
    exact Nat.lt_add_left _ (by decide)
  · rw [String.toList_append, List.mem_append, not_or]
    exact ⟨unbroken, by decide⟩

theorem IsFunctionName.short_file {name : String} (valid : IsFunctionName name) :
    (name ++ ".mcfunction").utf8ByteSize ≤ nameLimit := by
  rw [String.utf8ByteSize_append]
  exact Nat.add_le_add_right valid.short 11

theorem IsFunctionName.complete_file {name : String} (valid : IsFunctionName name) :
    '\x00' ∉ (name ++ ".mcfunction").toList := by
  rw [String.toList_append, List.mem_append, not_or]
  exact ⟨valid.complete, by decide⟩

namespace PackLayout

variable {layout : PackLayout} {name : String} (disk : Disk)

theorem place_functionPath (unbroken : '/' ∉ name.toList) :
    disk.place (layout.functionPath name) =
      disk.place layout.functionDirectory ++ [name ++ ".mcfunction"] :=
  disk.place_child _ (Path.isPlain_functionFile unbroken)

theorem components_functionPath (proper : layout.namespaceName.IsProper)
    (unbroken : '/' ∉ name.toList) :
    (layout.functionPath name).components = layout.directory.components ++
      [.name "data", .name layout.namespaceName.text, .name "function",
        .name (name ++ ".mcfunction")] := by
  rw [functionPath, Path.components_child _ (Path.isPlain_functionFile unbroken), functionDirectory,
    Path.components_child _ isPlain_function, Path.components_child _ proper.isPlain,
    Path.components_child _ isPlain_data]
  simp

/-- A function is inside its package unless the package's own directory goes up. -/
theorem isInside_functionPath_iff (proper : layout.namespaceName.IsProper)
    (unbroken : '/' ∉ name.toList) :
    Work.isInside layout.directory (layout.functionPath name) = true ↔
      .up ∉ layout.directory.components := by
  rw [Work.isInside_iff, components_functionPath proper unbroken]
  simp

theorem eq_of_place_functionPath_eq {other : String} (unbroken : '/' ∉ name.toList)
    (whole : '/' ∉ other.toList)
    (same : disk.place (layout.functionPath name) = disk.place (layout.functionPath other)) :
    name = other := by
  rw [place_functionPath disk unbroken, place_functionPath disk whole, List.append_right_inj,
    List.singleton_inj] at same
  exact (String.append_left_inj ".mcfunction").mp same

theorem place_functionPath_below (proper : layout.namespaceName.IsProper)
    (unbroken : '/' ∉ name.toList) :
    disk.place (layout.functionPath name) = disk.place layout.directory ++
      ["data", layout.namespaceName.text, "function", name ++ ".mcfunction"] := by
  rw [place_functionPath disk unbroken, layout.place_functionDirectory disk proper,
    List.append_assoc]
  rfl

/-- What leads to the package's tags or functions lies on the way to one of the two places. -/
theorem begins_of_leads (proper : layout.namespaceName.IsProper)
    (level : .up ∉ layout.directory.components) {path front : Path}
    (member : path ∈ [layout.tagDirectory, layout.functionDirectory]) (leads : front.Leads path) :
    disk.place front <+: disk.place layout.directory ++ ["data", "minecraft", "tags", "function"] ∨
      disk.place front <+:
        disk.place layout.directory ++ ["data", layout.namespaceName.text, "function"] := by
  simp only [List.mem_cons, List.not_mem_nil, or_false] at member
  rcases member with rfl | rfl
  · left
    rw [← layout.place_tagDirectory disk]
    exact disk.place_begins leads (level_tagDirectory level)
  · right
    rw [← layout.place_functionDirectory disk proper]
    exact disk.place_begins leads (level_functionDirectory proper level)

end PackLayout

def ownFunctions : List String := ["load", "unload", "tick", "reload"]

theorem Package.functionPath_mem_files {package : Package} {layout : PackLayout} {name : String}
    (own : name ∈ ownFunctions) :
    ∃ text, (layout.functionPath name, text) ∈ package.files layout := by
  have listed : layout.functionPath name ∈ (package.files layout).map Prod.fst := by
    rw [package.paths_files]
    simp only [ownFunctions, List.mem_cons, List.not_mem_nil, or_false] at own
    rcases own with rfl | rfl | rfl | rfl <;> simp
  obtain ⟨file, member, same⟩ := List.mem_map.mp listed
  exact ⟨file.2, same ▸ member⟩

/-- A package's own files are its metadata, two tags and its own functions. -/
theorem Package.path_cases_of_mem_files {package : Package} {layout : PackLayout}
    {file : Path × String} (member : file ∈ package.files layout) :
    file.1 = layout.metadataPath ∨ (∃ name ∈ ["load", "tick"], file.1 = layout.tagPath name) ∨
      ∃ name ∈ ownFunctions, file.1 = layout.functionPath name := by
  have listed : file.1 ∈ (package.files layout).map Prod.fst := List.mem_map_of_mem member
  rw [package.paths_files] at listed
  simp only [List.mem_cons, List.not_mem_nil, or_false] at listed
  rcases listed with path | path | path | path | path | path | path
  · exact .inl path
  · exact .inr (.inl ⟨"load", by decide, path⟩)
  · exact .inr (.inr ⟨"load", by decide, path⟩)
  · exact .inr (.inr ⟨"unload", by decide, path⟩)
  · exact .inr (.inl ⟨"tick", by decide, path⟩)
  · exact .inr (.inr ⟨"tick", by decide, path⟩)
  · exact .inr (.inr ⟨"reload", by decide, path⟩)

theorem isFunctionName_of_mem_ownFunctions : ∀ name ∈ ownFunctions, IsFunctionName name := by
  decide

theorem isPlain_tagFile : ∀ name ∈ ["load", "tick"], Path.IsPlain (name ++ ".json") := by
  intro name member
  simp only [List.mem_cons, List.not_mem_nil, or_false] at member
  rcases member with rfl | rfl <;> exact ⟨rfl, by decide⟩

theorem PackLayout.place_tagPath {layout : PackLayout} {name : String} (disk : Disk)
    (member : name ∈ ["load", "tick"]) :
    disk.place (layout.tagPath name) = disk.place layout.directory ++
      ["data", "minecraft", "tags", "function", name ++ ".json"] := by
  rw [tagPath, disk.place_child _ (isPlain_tagFile name member), layout.place_tagDirectory disk,
    List.append_assoc]
  rfl

theorem Package.mem_ownFunctions_of_place_eq {package : Package} {layout : PackLayout}
    {name : String} (disk : Disk) (proper : layout.namespaceName.IsProper)
    (unbroken : '/' ∉ name.toList) {file : Path × String} (member : file ∈ package.files layout)
    (same : disk.place file.1 = disk.place (layout.functionPath name)) : name ∈ ownFunctions := by
  rcases path_cases_of_mem_files member with path | ⟨tag, listed, path⟩ | ⟨other, own, path⟩
  · rw [path, layout.place_metadataPath disk,
      PackLayout.place_functionPath_below disk proper unbroken] at same
    simp at same
  · rw [path, PackLayout.place_tagPath disk listed,
      PackLayout.place_functionPath_below disk proper unbroken] at same
    simp at same
  · rw [path] at same
    have whole := (isFunctionName_of_mem_ownFunctions other own).unbroken
    rwa [← PackLayout.eq_of_place_functionPath_eq disk whole unbroken same]

namespace Work

variable {package : Package} {layout : PackLayout} {work after : Work}

theorem isDirectoryPath_of_makeDirectories {paths : List Path} {path : Path}
    (made : work.makeDirectories paths = (.ok (), after)) (member : path ∈ paths)
    (ends : ∃ outer last, path.segments = outer ++ [last] ∧ Path.isSilent last = false) :
    after.disk.isDirectoryPath path = true := by
  induction paths generalizing work with
  | nil => cases member
  | cons first paths inductionHypothesis =>
    unfold makeDirectories at made
    split at made
    next disk ensured =>
      cases member with
      | tail _ later => exact inductionHypothesis made later
      | head =>
        obtain ⟨outer, last, whole, heard⟩ := ends
        rw [ensureDirectories, Path.chain_eq_cons whole heard] at ensured
        have grown : Grows (fun _ => True) (fun _ => False) disk
            (makeDirectories paths { work with disk }).2.disk :=
          makeDirectories_grows { work with disk } fun _ _ _ _ => trivial
        rw [made] at grown
        exact grown.isDirectoryPath (isDirectoryPath_of_ensureChain ensured)
    next => simp at made

theorem isOpen_functionDirectory (written : work.writePackage package layout = (.ok (), after)) :
    after.disk.IsOpen layout.functionDirectory := by
  have ends : ∃ outer last, layout.functionDirectory.segments = outer ++ [last] ∧
      Path.isSilent last = false := by
    obtain ⟨outer, ends⟩ := Path.segments_child_ends
      ((layout.directory.child "data").child layout.namespaceName.text)
      PackLayout.isPlain_function
    exact ⟨outer, "function", ends, rfl⟩
  refine ⟨ends, ?_⟩
  unfold writePackage at written
  split at written
  next middle made =>
    have filled : Grows (fun _ => True) (fun _ => True) middle.disk
        (middle.writeFiles (package.files layout)).2.disk :=
      writeFiles_grows middle fun _ _ => trivial
    rw [written] at filled
    exact filled.isDirectoryPath (isDirectoryPath_of_makeDirectories made (by simp) ends)
  next failed => exact absurd written (failed after)

/-- Writing the package's own files makes no directory but those on the way to its tags and its
functions, and writes nothing else. -/
theorem writePackage_grows_exactly (package : Package) (layout : PackLayout) (work : Work) :
    Grows
      (fun location => ∃ path ∈ [layout.tagDirectory, layout.functionDirectory],
        ∃ front : Path, front.Leads path ∧ work.disk.place front = location)
      (fun location => ∃ file ∈ package.files layout, work.disk.place file.1 = location)
      work.disk (work.writePackage package layout).2.disk := by
  have grown : Grows
      (fun location => ∃ path ∈ [layout.tagDirectory, layout.functionDirectory],
        ∃ front : Path, front.Leads path ∧ work.disk.place front = location)
      (fun location => ∃ file ∈ package.files layout, work.disk.place file.1 = location)
      work.disk (work.makeDirectories [layout.tagDirectory, layout.functionDirectory]).2.disk :=
    makeDirectories_grows work fun path member front leads => ⟨path, member, front, leads, rfl⟩
  unfold writePackage
  split
  next middle made =>
    rw [made] at grown
    apply grown.trans
    apply writeFiles_grows
    intro file member
    exact ⟨file, member, (grown.place_eq file.1).symm⟩
  next => exact grown

/-- In the place of a function that is not the package's own, its files leave what was there. -/
theorem get?_functionPath_of_writePackage (proper : layout.namespaceName.IsProper)
    (level : .up ∉ layout.directory.components) {name : String} (unbroken : '/' ∉ name.toList)
    (foreign : name ∉ ownFunctions) :
    (work.writePackage package layout).2.disk.get? (work.disk.place (layout.functionPath name)) =
      work.disk.get? (work.disk.place (layout.functionPath name)) := by
  rcases (work.writePackage_grows_exactly package layout).get?_cases
    (work.disk.place (layout.functionPath name)) with
    kept | ⟨_, _, path, member, front, leads, same⟩ | ⟨file, member, same⟩
  · exact kept
  · -- Such a place is not on the way to itself.
    have begins := PackLayout.begins_of_leads work.disk proper level member leads
    rw [same, PackLayout.place_functionPath_below work.disk proper unbroken,
      List.prefix_append_right_inj, List.prefix_append_right_inj] at begins
    simp at begins
  · exact absurd (Package.mem_ownFunctions_of_place_eq _ proper unbroken member same) foreign

section WriteInside

variable {name text : String}

/-- Whether a plugin's function is refused as outside is a question of the package's directory
alone. -/
theorem writeInside_functionPath_refused_iff (work : Work) (proper : layout.namespaceName.IsProper)
    (unbroken : '/' ∉ name.toList) (text : String) :
    (∃ path, (work.writeInside layout.directory (layout.functionPath name) text).1 =
        .error (.outsidePackage path)) ↔
      .up ∈ layout.directory.components := by
  rw [writeInside_refused_iff, ← Bool.not_eq_true,
    PackLayout.isInside_functionPath_iff proper unbroken, not_not]

theorem writeInside_functionPath_eq (proper : layout.namespaceName.IsProper)
    (level : .up ∉ layout.directory.components) (unbroken : '/' ∉ name.toList)
    (opened : work.disk.IsOpen layout.functionDirectory) :
    work.writeInside layout.directory (layout.functionPath name) text =
      match work.write (layout.functionPath name) text with
      | .ok after => (.ok (), after)
      | .error cause => (.error (.unwritable (layout.functionPath name) cause), work) := by
  have inside := (PackLayout.isInside_functionPath_iff proper unbroken).mpr level
  have ready : work.disk.ensureParent (layout.functionPath name) = (.ok (), work.disk) :=
    opened.ensureParent_child (Path.isPlain_functionFile unbroken)
  cases written : work.write (layout.functionPath name) text with
  | ok after => simp [writeInside, inside, ready, written]
  | error cause => simp [writeInside, inside, ready, written]

theorem write_functionPath (opened : work.disk.IsOpen layout.functionDirectory)
    (valid : IsFunctionName name) (short : (layout.functionPath name).text.utf8ByteSize < pathLimit)
    (free : work.disk.isDirectory (work.disk.place (layout.functionPath name)) = false) :
    work.write (layout.functionPath name) text = .ok {
      disk := work.disk.set (work.disk.place (layout.functionPath name)) (.file text.toUTF8)
      written := work.written ++ [layout.functionPath name] } := by
  have plain := Path.isPlain_functionFile valid.unbroken
  have checked := opened.checkText_child plain valid.complete_file short
  rw [PackLayout.place_functionPath _ valid.unbroken] at free ⊢
  exact bind_eq_ok_iff.mpr
    ⟨_, opened.write_child plain checked valid.short_file free text.toUTF8, rfl⟩

theorem writeInside_functionPath_ok_iff (proper : layout.namespaceName.IsProper)
    (valid : IsFunctionName name) (opened : work.disk.IsOpen layout.functionDirectory) :
    (work.writeInside layout.directory (layout.functionPath name) text).1 = .ok () ↔
      .up ∉ layout.directory.components ∧
        (layout.functionPath name).text.utf8ByteSize < pathLimit ∧
        work.disk.isDirectory (work.disk.place (layout.functionPath name)) = false := by
  constructor
  · intro went
    have level : .up ∉ layout.directory.components := by
      intro upwards
      obtain ⟨path, refused⟩ :=
        (work.writeInside_functionPath_refused_iff proper valid.unbroken text).mpr upwards
      rw [refused] at went
      cases went
    rw [writeInside_functionPath_eq proper level valid.unbroken opened] at went
    cases written : work.write (layout.functionPath name) text with
    | error cause => simp [written] at went
    | ok after =>
      obtain ⟨stored, _⟩ := write_eq_ok written
      obtain ⟨directory, file, place, _, _, free, _⟩ := write_ok stored
      rw [← place] at free
      exact ⟨level, short_of_write stored, free⟩
  · rintro ⟨level, short, free⟩
    rw [writeInside_functionPath_eq proper level valid.unbroken opened,
      write_functionPath opened valid short free]

end WriteInside

end Work

namespace Program

variable {directory path : Path} {text : String} {next : Program} {work after : Work}

theorem run_writeThen_of_ok (written : work.writeInside directory path text = (.ok (), after)) :
    (writeThen path text next).run directory work =
      { next.run directory after with
        attempts := { path, text, outcome := .ok () } :: (next.run directory after).attempts } := by
  rw [writeThen, run, written]

theorem run_writeThen_of_error {cause : PluginError}
    (refused : work.writeInside directory path text = (.error cause, after)) :
    (writeThen path text next).run directory work =
      { outcome := .error cause
        attempts := [{ path, text, outcome := .error cause }]
        work := after } := by
  rw [writeThen, run, refused]
  rfl

end Program

end Datapack
