import Mathlib.Data.List.Nodup
import Datapack.Proofs.Package.Atomicity
import Datapack.Proofs.Package.Records
import Datapack.Proofs.Package.Registration

/-!
What the report of a successful build says about the file tree it leaves. All of it follows from the
agreement between the list of written files and the tree, from where a package's own files stand,
and from plugins writing nowhere but in the package's directory.
-/

namespace Datapack

open Disk

section Files

variable {package : Package} {layout : PackLayout} {disk : Disk}

/-- The package's own files bear seven different names, wherever they stand. -/
theorem Package.getLast?_place_files (package : Package) (layout : PackLayout) (disk : Disk) :
    (package.files layout).map (fun file => (disk.place file.1).getLast?) =
      ["pack.mcmeta", "load.json", "load.mcfunction", "unload.mcfunction", "tick.json",
        "tick.mcfunction", "reload.mcfunction"].map some := by
  have named : ∀ (base : Path) {name : String}, Path.IsPlain name →
      (disk.place (base.child name)).getLast? = some name := by
    intro base name plain
    rw [disk.place_child base plain, List.getLast?_concat]
  have tag : ∀ name, Path.IsPlain (name ++ ".json") →
      (disk.place (layout.tagPath name)).getLast? = some (name ++ ".json") :=
    fun _ plain => named _ plain
  have function : ∀ name, Path.IsPlain (name ++ ".mcfunction") →
      (disk.place (layout.functionPath name)).getLast? = some (name ++ ".mcfunction") :=
    fun _ plain => named _ plain
  calc (package.files layout).map (fun file => (disk.place file.1).getLast?)
    _ = ((package.files layout).map Prod.fst).map (fun path => (disk.place path).getLast?) := by
      rw [List.map_map]
      rfl
    _ = _ := by
      simp [paths_files, tag "load" ⟨rfl, by decide⟩, function "load" ⟨rfl, by decide⟩,
        function "unload" ⟨rfl, by decide⟩, tag "tick" ⟨rfl, by decide⟩,
        function "tick" ⟨rfl, by decide⟩, function "reload" ⟨rfl, by decide⟩]

theorem Package.ne_unload_tag {file : Path × String} (member : file ∈ package.files layout) :
    (disk.place file.1).getLast? ≠ some "unload.json" := by
  intro named
  have listed := List.mem_map_of_mem (f := fun file => (disk.place file.1).getLast?) member
  rw [package.getLast?_place_files layout disk, named] at listed
  revert listed
  decide

theorem Package.eq_of_place_eq {first second : Path × String}
    (left : first ∈ package.files layout) (right : second ∈ package.files layout)
    (same : disk.place first.1 = disk.place second.1) : first = second := by
  have distinct : ((package.files layout).map
      fun file => (disk.place file.1).getLast?).Nodup := by
    rw [package.getLast?_place_files layout disk]
    decide
  exact List.inj_on_of_nodup_map distinct left right (by rw [same])

theorem Package.script_mem_files (package : Package) (layout : PackLayout) (event : Event) :
    (layout.functionPath event.name, package.scripts.render event) ∈ package.files layout := by
  cases event <;> simp [files, eventFiles, Event.all, Event.isTagged]

theorem Package.metadata_mem_files (package : Package) (layout : PackLayout) :
    (layout.metadataPath, metadataText package.displayName) ∈ package.files layout := by
  simp [files]

end Files

section Within

variable {outputRoot : Path} {namespaceName : Namespace}

theorem PackLayout.segments_within (outputRoot : Path) (namespaceName : Namespace) :
    ∃ outer, (within outputRoot namespaceName).directory.segments =
      outer ++ [namespaceName.text] :=
  outputRoot.segments_child_ends_of_unbroken namespaceName.unbroken

theorem PackLayout.level_within (level : .up ∉ outputRoot.components)
    (forward : namespaceName.text ≠ "..") :
    .up ∉ (within outputRoot namespaceName).directory.components := by
  unfold within
  by_cases dot : namespaceName.text = "."
  · rw [dot, Path.components_child_dot]
    split
    · simp
    · exact level
  · exact Path.level_child (Namespace.IsProper.isPlain ⟨dot, forward⟩) level

theorem PackLayout.components_within_ne_nil (outputRoot : Path)
    (forward : namespaceName.text ≠ "..") :
    (within outputRoot namespaceName).directory.components ≠ [] := by
  unfold within
  by_cases dot : namespaceName.text = "."
  · rw [dot, Path.components_child_dot]
    split
    · simp
    next filled => exact Path.components_ne_nil_of_not_isEmpty (by simpa using filled)
  · rw [Path.components_child _ (Namespace.IsProper.isPlain ⟨dot, forward⟩)]
    simp

end Within

theorem Disk.checkText_of_child {base : Path} {outer : List String} {last name : String}
    (ends : base.segments = outer ++ [last]) (heard : last ≠ "") (plain : Path.IsPlain name)
    (passed : checkText (base.child name) = .ok ()) : checkText base = .ok () := by
  apply checkText_of_begins _ ends heard passed
  rw [Path.segments_child ends heard plain]
  exact List.prefix_append _ _

namespace Work.Records

variable {start : Disk} {writes : List (Path × String)} {work : Work} {layout : PackLayout}
  {text : String}

theorem isDirectory_directory (records : Records start writes work) (tree : start.IsTree)
    (member : (layout.metadataPath, text) ∈ writes) :
    work.disk.isDirectory (start.place layout.directory) = true := by
  obtain ⟨last, _, found⟩ := records.exists_file member
  rw [layout.place_metadataPath start] at found
  apply (records.grown.isTree tree).parent _ "pack.mcmeta"
  rw [found]
  simp

theorem get?_directory_eq_none (records : Records start writes work) (tree : start.IsTree)
    (member : (layout.metadataPath, text) ∈ writes) (level : .up ∉ layout.directory.components)
    {outer : List String} {name : String} (ends : layout.directory.segments = outer ++ [name])
    (heard : name ≠ "") (missing : start.exists? layout.directory = false) :
    start.get? (start.place layout.directory) = none := by
  have standing := isDirectory_iff.mp (records.isDirectory_directory tree member)
  cases found : start.get? (start.place layout.directory) with
  | none => rfl
  | some entry =>
    exfalso
    cases entry with
    | directory =>
      -- A directory would have been found by its path.
      have steps : ".." ∉ layout.directory.segments :=
        mt (Path.up_mem_components_iff layout.directory).mpr level
      rw [place_eq_follow] at found
      have walked := walk_of_isDirectory tree steps (isDirectory_iff.mpr found)
      obtain ⟨_, passed, _⟩ := bind_eq_ok_iff.mp (records.reachable _ member)
      have checked : checkText layout.directory = .ok () :=
        checkText_of_child ends heard PackLayout.isPlain_metadata passed
      simp [exists?, locate, checked, walked, bind, Except.bind] at missing
    | file content =>
      -- A file would still be there, or another in its place, but there is a directory.
      rcases records.grown.get?_cases (start.place layout.directory) with kept | ⟨free, _⟩ | written
      · rw [kept, found] at standing
        simp at standing
      · rw [found] at free
        contradiction
      · obtain ⟨write, listed, same⟩ := written
        obtain ⟨last, _, stored⟩ := records.exists_file listed
        rw [same, standing] at stored
        simp at stored

section Plugins

variable {package : Package} {pluginWrites : List (Path × String)}

/-- A script that no plugin wrote over is as the package wrote it. -/
theorem read_script (records : Records start (package.files layout ++ pluginWrites) work)
    {event : Event}
    (untouched : ∀ write ∈ pluginWrites,
      start.place write.1 ≠ start.place (layout.functionPath event.name)) :
    work.disk.read (layout.functionPath event.name) = .ok
      ("\n".intercalate (package.plugins.flatMap fun plugin => plugin.scripts event)).toUTF8 := by
  have script := package.script_mem_files layout event
  rw [Scripts.render, Package.scripts_apply] at script
  have written := List.mem_append_left pluginWrites script
  apply read_of_locate (records.reachable _ written)
  apply records.content
  apply lastText?_of_unique written
  intro other member same
  rcases List.mem_append.mp member with own | foreign
  · rw [Package.eq_of_place_eq own script same]
  · exact absurd same (untouched other foreign)

theorem below_of_mem (records : Records start (package.files layout ++ pluginWrites) work)
    (tree : start.IsTree) (forward : layout.namespaceName.text ≠ "..")
    (named : layout.directory.components ≠ [])
    (inside : ∀ write ∈ pluginWrites, isInside layout.directory write.1 = true)
    {write : Path × String} (member : write ∈ package.files layout ++ pluginWrites) :
    Location.Below (start.place layout.directory) (start.place write.1) := by
  rcases List.mem_append.mp member with own | foreign
  · exact Package.below_of_mem_files start forward own
  · obtain ⟨level, begins⟩ := isInside_iff.mp (inside write foreign)
    refine ⟨start.place_begins ⟨named, begins⟩ level, ?_⟩
    -- The directory is still a directory, so it is no file that was written.
    intro same
    have metadata := List.mem_append_left pluginWrites (package.metadata_mem_files layout)
    have standing := isDirectory_iff.mp (records.isDirectory_directory tree metadata)
    obtain ⟨text, _, found⟩ := records.exists_file member
    rw [same, standing] at found
    simp at found

/-- In a directory that is new the files are exactly those on record. -/
theorem isFile_below_iff (records : Records start (package.files layout ++ pluginWrites) work)
    (tree : start.IsTree) (forward : layout.namespaceName.text ≠ "..")
    (named : layout.directory.components ≠ [])
    (inside : ∀ write ∈ pluginWrites, isInside layout.directory write.1 = true)
    (free : start.get? (start.place layout.directory) = none) (location : Location) :
    (Location.Below (start.place layout.directory) location ∧
        ∃ content, work.disk.get? location = some (.file content)) ↔
      location ∈ work.written.map start.place := by
  rw [records.listed, List.map_map, List.mem_map]
  constructor
  · rintro ⟨below, file⟩
    exact (records.isFile_iff tree free below).mp file
  · rintro ⟨write, member, rfl⟩
    have below := records.below_of_mem tree forward named inside member
    exact ⟨below, (records.isFile_iff tree free below).mpr ⟨write, member, rfl⟩⟩

end Plugins

end Work.Records

/-- A successful build is complete and its report exact. The report names the plugins and lists the
package's own files and then what the plugins wrote, no more and no less. Each listed file can be
read and holds what was written last to its place, so a script that no plugin wrote over holds the
lines of all plugins. In a directory that is new the listed files are all there is. -/
theorem Package.successful_build_is_reported_exactly (package : Package) (outputRoot : Path)
    (disk : Disk) (report : BuildReport) (tree : disk.IsTree)
    (succeeded : (package.build outputRoot disk).result = .ok report) :
    let layout := PackLayout.within outputRoot package.namespaceName
    let after := (package.build outputRoot disk).disk
    let pluginWrites := (package.build outputRoot disk).pluginWrites
    report.directory = layout.directory ∧ report.plugins = package.plugins.map Plugin.name ∧
      report.files =
        [layout.metadataPath, layout.tagPath "load", layout.functionPath "load",
          layout.functionPath "unload", layout.tagPath "tick", layout.functionPath "tick",
          layout.functionPath "reload"] ++ pluginWrites.map Prod.fst ∧
      (∀ path ∈ report.files, ∃ text,
        disk.lastText? (package.files layout ++ pluginWrites) (disk.place path) = some text ∧
          after.read path = .ok text.toUTF8) ∧
      (∀ event : Event,
        (∀ write ∈ pluginWrites,
          disk.place write.1 ≠ disk.place (layout.functionPath event.name)) →
        after.read (layout.functionPath event.name) = .ok
          ("\n".intercalate (package.plugins.flatMap fun plugin => plugin.scripts event)).toUTF8) ∧
      (.up ∉ outputRoot.components → package.namespaceName.text ≠ ".." →
        disk.exists? layout.directory = false →
        (∀ location,
          (Location.Below (disk.place layout.directory) location ∧
            ∃ content, after.get? location = some (.file content)) ↔
          location ∈ report.files.map disk.place) ∧
        ∀ location content, Location.Below (disk.place layout.directory) location →
          after.get? location = some (.file content) → location.getLast? = some "unload.json" →
          ∃ write ∈ pluginWrites, disk.place write.1 = location) := by
  obtain ⟨layout, laid⟩ : ∃ layout,
      PackLayout.within outputRoot package.namespaceName = layout := ⟨_, rfl⟩
  have records := records_of_build laid succeeded
  have inside : ∀ write ∈ (package.build outputRoot disk).pluginWrites,
      Work.isInside layout.directory write.1 = true :=
    fun _ member => isInside_of_mem_pluginWrites laid succeeded member
  have names : report.directory = layout.directory ∧
      report.plugins = package.plugins.map Plugin.name := by
    obtain ⟨_, _, _, _, _, _, rfl⟩ := build_eq_ok laid succeeded
    exact ⟨rfl, rfl⟩
  -- From here on all that matters of the build is what is on record.
  generalize package.build outputRoot disk = build at records inside ⊢
  simp only [laid]
  refine ⟨names.1, names.2, ?_, fun _ member => records.read_listed member,
    fun _ untouched => records.read_script untouched, ?_⟩
  · have listed : report.files = (package.files layout ++ build.pluginWrites).map Prod.fst :=
      records.listed
    rw [listed, List.map_append, package.paths_files]
  · intro level forward missing
    have metadata := List.mem_append_left build.pluginWrites (package.metadata_mem_files layout)
    have same : layout.namespaceName = package.namespaceName := by rw [← laid, PackLayout.within]
    have named := PackLayout.components_within_ne_nil outputRoot forward
    have own := PackLayout.level_within level forward
    obtain ⟨outer, ends⟩ := PackLayout.segments_within outputRoot package.namespaceName
    rw [laid] at named own ends
    rw [← same] at forward
    have free : disk.get? (disk.place layout.directory) = none :=
      records.get?_directory_eq_none tree metadata own ends package.namespaceName.nonempty missing
    refine ⟨records.isFile_below_iff tree forward named inside free, ?_⟩
    intro location content below found ending
    obtain ⟨write, member, rfl⟩ := (records.isFile_iff tree free below).mp ⟨content, found⟩
    rcases List.mem_append.mp member with kept | foreign
    · exact absurd ending (ne_unload_tag kept)
    · exact ⟨write, foreign, rfl⟩

/-- A package with a plugin that writes over a script, by another spelling of its path, and then
tries in vain to write outside. -/
def rewritingPackage : Package where
  displayName := "Bed Wars"
  namespaceName := brokenPackage.namespaceName
  plugins := [
    .scripted (.labelled "greeter" "hello"),
    .custom {
      name := "writer"
      program := fun _ =>
        .write ⟨["out", "", "bw", ".", "data", "bw", "function", "load.mcfunction"]⟩ "say bye"
          fun _ => .write ⟨["out", "notes.txt"]⟩ "lost" fun _ => .done }]

def rewritingReport : BuildReport where
  directory := ⟨["out", "bw"]⟩
  files := [
    ⟨["out", "bw", "pack.mcmeta"]⟩,
    ⟨["out", "bw", "data", "minecraft", "tags", "function", "load.json"]⟩,
    ⟨["out", "bw", "data", "bw", "function", "load.mcfunction"]⟩,
    ⟨["out", "bw", "data", "bw", "function", "unload.mcfunction"]⟩,
    ⟨["out", "bw", "data", "minecraft", "tags", "function", "tick.json"]⟩,
    ⟨["out", "bw", "data", "bw", "function", "tick.mcfunction"]⟩,
    ⟨["out", "bw", "data", "bw", "function", "reload.mcfunction"]⟩,
    ⟨["out", "", "bw", ".", "data", "bw", "function", "load.mcfunction"]⟩]
  plugins := ["greeter", "writer"]

theorem Package.rewriting_build_is_reported_exactly :
    let build := rewritingPackage.build ⟨["out"]⟩ Disk.empty
    build.result = .ok rewritingReport ∧
      build.disk.read ⟨["out", "bw", "data", "bw", "function", "load.mcfunction"]⟩ =
        .ok "say bye".toUTF8 ∧
      build.disk.read ⟨["out", "bw", "data", "bw", "function", "tick.mcfunction"]⟩ =
        .ok "say hello tick".toUTF8 ∧
      ∀ location,
        (Location.Below ["out", "bw"] location ∧
          ∃ content, build.disk.get? location = some (.file content)) ↔
        location ∈ rewritingReport.files.map Disk.empty.place := by
  have tree : Disk.empty.IsTree := isTree_of_entries fun _ member => absurd member List.not_mem_nil
  have succeeded : (rewritingPackage.build ⟨["out"]⟩ Disk.empty).result = .ok rewritingReport := rfl
  obtain ⟨_, _, _, listed, scripts, fresh⟩ := rewritingPackage.successful_build_is_reported_exactly
    ⟨["out"]⟩ Disk.empty rewritingReport tree succeeded
  refine ⟨succeeded, ?_, ?_, (fresh (by decide) (by decide) rfl).1⟩
  · obtain ⟨text, last, read⟩ := listed ⟨["out", "bw", "data", "bw", "function", "load.mcfunction"]⟩
      (by decide)
    -- Of the two writes to this place the plugin's came later.
    obtain rfl : "say bye" = text := Option.some.inj (Eq.trans (by decide +kernel) last)
    exact read
  · exact scripts .tick (by decide +kernel)

end Datapack
