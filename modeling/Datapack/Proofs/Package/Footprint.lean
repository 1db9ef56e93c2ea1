import Datapack.Package.Build
import Datapack.Proofs.Disk.Growth

/-!
Where a build leaves its traces. Every step of it, down to each single action of each plugin, makes
directories on the way to the package's directory or below it, and writes files below it only.
-/

namespace Datapack

/-- Lies inside a place, which is not inside itself. -/
def Location.Below (place location : Location) : Prop :=
  place <+: location ∧ location ≠ place

instance (place location : Location) : Decidable (Location.Below place location) :=
  inferInstanceAs (Decidable (place <+: location ∧ location ≠ place))

/-- Leads to a place, or is at or below it. -/
def Location.Along (place location : Location) : Prop :=
  location <+: place ∨ place <+: location

/-- A namespace that names a directory of its own. -/
def Namespace.IsProper (namespaceName : Namespace) : Prop :=
  namespaceName.text ≠ "." ∧ namespaceName.text ≠ ".."

theorem Namespace.unbroken (namespaceName : Namespace) : '/' ∉ namespaceName.text.toList := by
  intro member
  have allowed := namespaceName.allowed _ member
  contradiction

theorem Namespace.IsProper.isPlain {namespaceName : Namespace} (proper : namespaceName.IsProper) :
    Path.IsPlain namespaceName.text where
  named := by
    simp [Path.component?, Path.isSilent, namespaceName.nonempty, proper.1, proper.2]
  unbroken := namespaceName.unbroken

/-- A namespace that does not lead up leads down, or nowhere if it is a single dot. -/
theorem Namespace.place_begins (namespaceName : Namespace) (level : namespaceName.text ≠ "..")
    (disk : Disk) (base : Path) :
    disk.place base <+: disk.place (base.child namespaceName.text) := by
  by_cases dot : namespaceName.text = "."
  · simp [dot]
  · have proper : namespaceName.IsProper := ⟨dot, level⟩
    rw [disk.place_child _ proper.isPlain]
    exact List.prefix_append _ _

namespace PackLayout

section Names

theorem isPlain_metadata : Path.IsPlain "pack.mcmeta" := ⟨rfl, by decide⟩

theorem isPlain_data : Path.IsPlain "data" := ⟨rfl, by decide⟩

theorem isPlain_minecraft : Path.IsPlain "minecraft" := ⟨rfl, by decide⟩

theorem isPlain_tags : Path.IsPlain "tags" := ⟨rfl, by decide⟩

theorem isPlain_function : Path.IsPlain "function" := ⟨rfl, by decide⟩

end Names

variable {layout : PackLayout} (disk : Disk)

@[simp]
theorem place_metadataPath :
    disk.place layout.metadataPath = disk.place layout.directory ++ ["pack.mcmeta"] :=
  disk.place_child _ isPlain_metadata

@[simp]
theorem place_tagDirectory :
    disk.place layout.tagDirectory =
      disk.place layout.directory ++ ["data", "minecraft", "tags", "function"] := by
  unfold tagDirectory
  rw [disk.place_child _ isPlain_function, disk.place_child _ isPlain_tags,
    disk.place_child _ isPlain_minecraft, disk.place_child _ isPlain_data]
  simp

@[simp]
theorem place_functionDirectory (proper : layout.namespaceName.IsProper) :
    disk.place layout.functionDirectory =
      disk.place layout.directory ++ ["data", layout.namespaceName.text, "function"] := by
  unfold functionDirectory
  rw [disk.place_child _ isPlain_function, disk.place_child _ proper.isPlain,
    disk.place_child _ isPlain_data]
  simp

theorem functionDirectory_begins (level : layout.namespaceName.text ≠ "..") :
    disk.place layout.directory <+: disk.place layout.functionDirectory := by
  unfold functionDirectory
  have within := layout.namespaceName.place_begins level disk (layout.directory.child "data")
  rw [disk.place_child _ isPlain_data] at within
  rw [disk.place_child _ isPlain_function]
  exact (List.prefix_append _ _).trans (within.trans (List.prefix_append _ _))

theorem level_tagDirectory (level : .up ∉ layout.directory.components) :
    .up ∉ layout.tagDirectory.components := by
  apply Path.level_child isPlain_function
  apply Path.level_child isPlain_tags
  apply Path.level_child isPlain_minecraft
  exact Path.level_child isPlain_data level

theorem level_functionDirectory (proper : layout.namespaceName.IsProper)
    (level : .up ∉ layout.directory.components) : .up ∉ layout.functionDirectory.components := by
  apply Path.level_child isPlain_function
  apply Path.level_child proper.isPlain
  exact Path.level_child isPlain_data level

end PackLayout

theorem Location.below_append (place : Location) {rest : Location} (further : rest ≠ []) :
    Below place (place ++ rest) :=
  ⟨List.prefix_append place rest, by simpa using further⟩

theorem Location.below_of_begins {place location : Location} (begins : place <+: location)
    (name : String) : Below place (location ++ [name]) := by
  obtain ⟨rest, rfl⟩ := begins
  rw [List.append_assoc]
  exact below_append place (by simp)

theorem Package.paths_files (package : Package) (layout : PackLayout) :
    (package.files layout).map Prod.fst =
      [layout.metadataPath, layout.tagPath "load", layout.functionPath "load",
        layout.functionPath "unload", layout.tagPath "tick", layout.functionPath "tick",
        layout.functionPath "reload"] := by
  simp [files, eventFiles, Event.all, Event.isTagged, Event.name, reloadFunctionName]

theorem Package.below_of_mem_files {package : Package} {layout : PackLayout} (disk : Disk)
    (level : layout.namespaceName.text ≠ "..") {file : Path × String}
    (member : file ∈ package.files layout) :
    Location.Below (disk.place layout.directory) (disk.place file.1) := by
  have function : ∀ name, Path.IsPlain (name ++ ".mcfunction") →
      Location.Below (disk.place layout.directory) (disk.place (layout.functionPath name)) := by
    intro name plain
    rw [PackLayout.functionPath, disk.place_child _ plain]
    exact Location.below_of_begins (layout.functionDirectory_begins disk level) _
  have tag : ∀ name, Path.IsPlain (name ++ ".json") →
      Location.Below (disk.place layout.directory) (disk.place (layout.tagPath name)) := by
    intro name plain
    rw [PackLayout.tagPath, disk.place_child _ plain, layout.place_tagDirectory disk]
    exact Location.below_of_begins (List.prefix_append _ _) _
  have listed : file.1 ∈ (package.files layout).map Prod.fst := List.mem_map_of_mem member
  rw [package.paths_files] at listed
  simp only [List.mem_cons, List.not_mem_nil, or_false] at listed
  rcases listed with same | same | same | same | same | same | same <;> rw [same]
  · rw [layout.place_metadataPath disk]
    exact Location.below_append _ (by simp)
  · exact tag "load" ⟨rfl, by decide⟩
  · exact function "load" ⟨rfl, by decide⟩
  · exact function "unload" ⟨rfl, by decide⟩
  · exact tag "tick" ⟨rfl, by decide⟩
  · exact function "tick" ⟨rfl, by decide⟩
  · exact function "reload" ⟨rfl, by decide⟩

namespace Work

open Disk

section

variable {mayMake mayWrite : Location → Prop}

theorem makeDirectories_grows {paths : List Path} (work : Work)
    (allowed : ∀ path ∈ paths, ∀ front : Path, front.Leads path →
      mayMake (work.disk.place front)) :
    Grows mayMake mayWrite work.disk (work.makeDirectories paths).2.disk := by
  induction paths generalizing work with
  | nil => exact .refl
  | cons path paths inductionHypothesis =>
    have grown : Grows mayMake mayWrite work.disk (work.disk.ensureDirectories path).2 :=
      ensureDirectories_grows work.disk (allowed path (by simp))
    unfold makeDirectories
    split
    next disk made =>
      rw [made] at grown
      apply grown.trans
      apply inductionHypothesis { work with disk }
      intro other member front leads
      rw [grown.place_eq]
      exact allowed other (by simp [member]) front leads
    next made =>
      rw [made] at grown
      exact grown

theorem write_eq_ok {work after : Work} {path : Path} {text : String}
    (written : work.write path text = .ok after) :
    work.disk.write path text.toUTF8 = .ok after.disk ∧
      after.written = work.written ++ [path] := by
  obtain ⟨disk, stored, made⟩ := bind_eq_ok_iff.mp written
  obtain rfl := Except.ok.inj made
  exact ⟨stored, rfl⟩

theorem writeFiles_grows {files : List (Path × String)} (work : Work)
    (allowed : ∀ file ∈ files, mayWrite (work.disk.place file.1)) :
    Grows mayMake mayWrite work.disk (work.writeFiles files).2.disk := by
  induction files generalizing work with
  | nil => exact .refl
  | cons file files inductionHypothesis =>
    obtain ⟨path, text⟩ := file
    unfold writeFiles
    split
    next after written =>
      have grown : Grows mayMake mayWrite work.disk after.disk :=
        write_grows (write_eq_ok written).1 fun _ => allowed (path, text) (by simp)
      apply grown.trans
      apply inductionHypothesis after
      intro other member
      rw [grown.place_eq]
      exact allowed other (by simp [member])
    next => exact .refl

end

theorem isDirectory_of_makeDirectories {work after : Work} {path : Path} {paths : List Path}
    {outer : List String} {last : String} (ends : path.segments = outer ++ [last])
    (heard : Path.isSilent last = false)
    (made : work.makeDirectories (path :: paths) = (.ok (), after)) :
    after.disk.isDirectory (work.disk.place path) = true := by
  unfold makeDirectories at made
  split at made
  next disk ensured =>
    rw [ensureDirectories, Path.chain_eq_cons ends heard] at ensured
    have there := isDirectory_of_ensureChain ensured
    have grown : Grows (fun _ => True) (fun _ => False) disk
        ({ work with disk : Work }.makeDirectories paths).2.disk :=
      makeDirectories_grows { work with disk } fun _ _ _ _ => trivial
    rw [made] at grown
    exact grown.isDirectory there
  next => simp at made

@[simp]
theorem isInside_iff {directory path : Path} :
    isInside directory path = true ↔
      .up ∉ path.components ∧ directory.components <+: path.components := by
  simp [isInside, Path.startsWith]

/-- All that can come of a plugin's write: it is refused and nothing happens, it fails after the
directories that could be made, or it goes through and is put on record. -/
theorem writeInside_cases (work : Work) (directory path : Path) (text : String) :
    (isInside directory path = false ∧
        work.writeInside directory path text = (.error (.outsidePackage path), work)) ∨
      (isInside directory path = true ∧
        ((∃ named cause, work.writeInside directory path text =
            (.error (.unwritable named cause),
              { work with disk := (work.disk.ensureParent path).2 })) ∨
          ∃ stored, (work.disk.ensureParent path).2.write path text.toUTF8 = .ok stored ∧
            work.writeInside directory path text =
              (.ok (), { disk := stored, written := work.written ++ [path] }))) := by
  unfold writeInside
  cases inside : isInside directory path with
  | false => exact .inl ⟨rfl, rfl⟩
  | true =>
    refine .inr ⟨rfl, ?_⟩
    rcases made : work.disk.ensureParent path with ⟨outcome, disk⟩
    cases outcome with
    | error failure => exact .inl ⟨failure.1, failure.2, rfl⟩
    | ok =>
      cases written : ({ work with disk } : Work).write path text with
      | error cause => exact .inl ⟨path, cause, by simp [written]⟩
      | ok after =>
        obtain ⟨stored, listed⟩ := write_eq_ok written
        refine .inr ⟨after.disk, stored, ?_⟩
        obtain ⟨disk, written⟩ := after
        simp_all

section Outcome

variable {work : Work} {directory path : Path} {text : String}

theorem writeInside_refused_iff :
    (∃ refused, (work.writeInside directory path text).1 = .error (.outsidePackage refused)) ↔
      isInside directory path = false := by
  rcases writeInside_cases work directory path text with
    ⟨outside, ended⟩ | ⟨inside, ⟨failed, cause, ended⟩ | ⟨stored, -, ended⟩⟩
  · simp [ended, outside]
  · simp [ended, inside]
  · simp [ended, inside]

/-- A write that went through made the directories, stored the file and put it on record. -/
theorem writeInside_of_ok (went : (work.writeInside directory path text).1 = .ok ()) :
    isInside directory path = true ∧
      ∃ stored, (work.disk.ensureParent path).2.write path text.toUTF8 = .ok stored ∧
        (work.writeInside directory path text).2 =
          { disk := stored, written := work.written ++ [path] } := by
  rcases writeInside_cases work directory path text with
    ⟨-, ended⟩ | ⟨inside, ⟨failed, cause, ended⟩ | ⟨stored, written, ended⟩⟩
  · rw [ended] at went
    contradiction
  · rw [ended] at went
    contradiction
  · exact ⟨inside, stored, written, congrArg Prod.snd ended⟩

end Outcome

/-- What a plugin may write to lies below the package's directory, once that is a directory. -/
theorem writeInside_grows (work : Work) {directory : Path} (path : Path) (text : String)
    (named : directory.components ≠ [])
    (there : work.disk.isDirectory (work.disk.place directory) = true) :
    Grows (Location.Along (work.disk.place directory)) (Location.Below (work.disk.place directory))
      work.disk (work.writeInside directory path text).2.disk := by
  rcases work.writeInside_cases directory path text with ⟨-, ended⟩ | ⟨inside, outcome⟩
  · rw [ended]
    exact .refl
  · -- A path that starts with the directory and never goes up stays at or below it.
    obtain ⟨level, begins⟩ := isInside_iff.mp inside
    have within : work.disk.place directory <+: work.disk.place path :=
      work.disk.place_begins ⟨named, begins⟩ level
    have grown : Grows (Location.Along (work.disk.place directory))
        (Location.Below (work.disk.place directory)) work.disk (work.disk.ensureParent path).2 := by
      apply ensureParent_grows
      intro parent found front leads
      have above := work.disk.place_begins (Path.leads_of_parent? found leads) level
      exact List.prefix_or_prefix_of_prefix above within
    rcases outcome with ⟨failed, cause, ended⟩ | ⟨stored, written, ended⟩
    · rw [ended]
      exact grown
    · rw [ended]
      apply grown.trans
      apply write_grows written
      intro free
      rw [grown.place_eq path] at free ⊢
      refine ⟨within, ?_⟩
      -- The directory itself is no place for a file, since it is still a directory.
      intro same
      rw [same, grown.isDirectory there] at free
      contradiction

end Work

open Disk

section Layout

variable {layout : PackLayout}

/-- The package's directory as the steps of a build see it: named, and there. -/
structure PackLayout.StandsIn (layout : PackLayout) (disk : Disk) (place : Location) : Prop where
  named : layout.directory.components ≠ []
  reached : disk.place layout.directory = place
  there : disk.isDirectory place = true

theorem PackLayout.StandsIn.grow {disk after : Disk} {place : Location}
    {mayMake mayWrite : Location → Prop} (stands : layout.StandsIn disk place)
    (growth : Grows mayMake mayWrite disk after) : layout.StandsIn after place where
  named := stands.named
  reached := (growth.place_eq _).trans stands.reached
  there := growth.isDirectory stands.there

theorem Program.run_grows (program : Program) (work : Work) {place : Location}
    (stands : layout.StandsIn work.disk place) :
    Grows (Location.Along place) (Location.Below place) work.disk
      (program.run layout.directory work).work.disk := by
  induction program generalizing work with
  | finish outcome => exact .refl
  | write path text next inductionHypothesis =>
    have grown := work.writeInside_grows path text stands.named (stands.reached ▸ stands.there)
    rw [stands.reached] at grown
    exact grown.trans (inductionHypothesis _ _ (stands.grow grown))
  | inspect path next inductionHypothesis => exact inductionHypothesis _ work stands

/-- The next plugin finds what the one before it left, whether that failed or not. -/
@[simp]
theorem Work.runPlugins_cons_work (plugin : Plugin) (plugins : List Plugin) (work : Work) :
    (work.runPlugins layout (plugin :: plugins)).2.2 =
      (((plugin.program layout).run layout.directory work).work.runPlugins layout plugins).2.2 := by
  simp only [runPlugins]
  split <;> rfl

@[simp]
theorem Work.runPlugins_cons_attempts (plugin : Plugin) (plugins : List Plugin) (work : Work) :
    (work.runPlugins layout (plugin :: plugins)).2.1 =
      ((plugin.program layout).run layout.directory work).attempts ::
        (((plugin.program layout).run layout.directory work).work.runPlugins layout plugins).2.1
    := by
  simp only [runPlugins]
  split <;> rfl

@[simp]
theorem Work.runPlugins_cons_failed (plugin : Plugin) (plugins : List Plugin) (work : Work) :
    (work.runPlugins layout (plugin :: plugins)).1 =
      match ((plugin.program layout).run layout.directory work).outcome with
      | .ok () =>
        (((plugin.program layout).run layout.directory work).work.runPlugins layout plugins).1
      | .error _ =>
        plugin.name ::
          (((plugin.program layout).run layout.directory work).work.runPlugins layout plugins).1
    := by
  simp only [runPlugins]
  cases ((plugin.program layout).run layout.directory work).outcome <;> rfl

theorem Work.runPlugins_grows (plugins : List Plugin) (work : Work) {place : Location}
    (stands : layout.StandsIn work.disk place) :
    Grows (Location.Along place) (Location.Below place) work.disk
      (work.runPlugins layout plugins).2.2.disk := by
  induction plugins generalizing work with
  | nil => exact .refl
  | cons plugin plugins inductionHypothesis =>
    have grown := (plugin.program layout).run_grows work stands
    have rest := inductionHypothesis _ (stands.grow grown)
    rw [runPlugins_cons_work]
    exact grown.trans rest

end Layout

section Build

variable {mayMake : Location → Prop} {package : Package} {layout : PackLayout}

theorem Work.writePackage_grows (work : Work) (proper : layout.namespaceName.IsProper)
    (makes : ∀ path ∈ [layout.tagDirectory, layout.functionDirectory], ∀ front : Path,
      front.Leads path → mayMake (work.disk.place front)) :
    Grows mayMake (Location.Below (work.disk.place layout.directory)) work.disk
      (work.writePackage package layout).2.disk := by
  have grown : Grows mayMake (Location.Below (work.disk.place layout.directory)) work.disk
      (work.makeDirectories [layout.tagDirectory, layout.functionDirectory]).2.disk :=
    makeDirectories_grows work makes
  unfold writePackage
  split
  next after made =>
    rw [made] at grown
    apply grown.trans
    apply writeFiles_grows
    intro file member
    rw [← grown.place_eq layout.directory]
    exact Package.below_of_mem_files after.disk proper.2 member
  next => exact grown

theorem Work.standsIn_of_writePackage {work after : Work} (proper : layout.namespaceName.IsProper)
    (named : layout.directory.components ≠ []) (tree : work.disk.IsTree)
    (written : work.writePackage package layout = (.ok (), after)) :
    layout.StandsIn after.disk (work.disk.place layout.directory) := by
  have grown : Grows (fun _ => True) (Location.Below (work.disk.place layout.directory)) work.disk
      (work.writePackage package layout).2.disk :=
    writePackage_grows work proper fun _ _ _ _ => trivial
  rw [written] at grown
  refine ⟨named, grown.place_eq _, ?_⟩
  unfold writePackage at written
  split at written
  next middle made =>
    -- The directory of the tags was made first, and in a tree all that leads to it is there too.
    obtain ⟨outer, ends⟩ := Path.segments_child_ends
      (((layout.directory.child "data").child "minecraft").child "tags") PackLayout.isPlain_function
    have tags := isDirectory_of_makeDirectories ends rfl made
    have filled : Grows (fun _ => True) (fun _ => True) middle.disk
        (middle.writeFiles (package.files layout)).2.disk :=
      writeFiles_grows middle fun _ _ => trivial
    rw [written] at filled
    apply (grown.isTree tree).isDirectory_of_begins _ (filled.isDirectory tags)
    change _ <+: work.disk.place layout.tagDirectory
    rw [layout.place_tagDirectory work.disk]
    exact List.prefix_append _ _
  next failed => exact absurd written (failed after)

/-- A build that failed leaves what it left when its directory is removed. -/
@[simp]
theorem rollBack_eq (layout : PackLayout) (disk : Disk) :
    rollBack layout disk = disk.removeTree layout.directory := by
  unfold rollBack Disk.exists? Disk.removeTree
  cases disk.locate layout.directory with
  | ok location => simp
  | error cause => simp

theorem Package.build_of_unwritten {outputRoot : Path} {disk : Disk} {work : Work}
    {cause : BuildError} (laid : PackLayout.within outputRoot package.namespaceName = layout)
    (unwritten : Work.writePackage package layout { disk, written := [] } = (.error cause, work)) :
    (package.build outputRoot disk).result = .error cause ∧
      (package.build outputRoot disk).disk = rollBack layout work.disk := by
  subst laid
  unfold build
  simp only [unwritten]
  exact ⟨trivial, trivial⟩

theorem Package.build_of_written {outputRoot : Path} {disk : Disk} {work after : Work}
    {failed : List String} {attempts : List (List Attempt)}
    (laid : PackLayout.within outputRoot package.namespaceName = layout)
    (written : Work.writePackage package layout { disk, written := [] } = (.ok (), work))
    (ran : work.runPlugins layout package.plugins = (failed, attempts, after)) :
    package.build outputRoot disk =
      if failed = [] then
        { result := .ok {
            directory := layout.directory
            files := after.written
            plugins := package.pluginNames }
          disk := after.disk
          attempts }
      else
        { result := .error (.pluginsFailed failed)
          disk := rollBack layout after.disk
          attempts } := by
  subst laid
  unfold build
  simp only [written, ran]

/-- All a build does to a file tree: it grows, and after a failure the package's directory is
removed. -/
theorem Package.build_grows (package : Package) (outputRoot : Path) {disk : Disk}
    (mayMake : Location → Prop) (proper : package.namespaceName.IsProper) (tree : disk.IsTree)
    (laid : PackLayout.within outputRoot package.namespaceName = layout)
    (makes : ∀ path ∈ [layout.tagDirectory, layout.functionDirectory], ∀ front : Path,
      front.Leads path → mayMake (disk.place front))
    (along : ∀ location, Location.Along (disk.place layout.directory) location →
      mayMake location) :
    ∃ grown, Grows mayMake (Location.Below (disk.place layout.directory)) disk grown ∧
      (((∃ report, (package.build outputRoot disk).result = .ok report) ∧
          (package.build outputRoot disk).disk = grown) ∨
        ((∃ cause, (package.build outputRoot disk).result = .error cause) ∧
          (package.build outputRoot disk).disk = grown.removeTree layout.directory)) := by
  have same : layout.namespaceName = package.namespaceName := by rw [← laid, PackLayout.within]
  rw [← same] at proper
  have named : layout.directory.components ≠ [] := by
    rw [← laid, PackLayout.within, Path.components_child _ (same ▸ proper.isPlain)]
    simp
  have own : Grows mayMake (Location.Below (disk.place layout.directory)) disk
      (Work.writePackage package layout { disk, written := [] }).2.disk :=
    Work.writePackage_grows { disk, written := [] } proper makes
  rcases written : Work.writePackage package layout { disk, written := [] } with ⟨outcome, work⟩
  rw [written] at own
  cases outcome with
  | error cause =>
    obtain ⟨failed, left⟩ := build_of_unwritten laid written
    rw [rollBack_eq] at left
    exact ⟨work.disk, own, .inr ⟨⟨cause, failed⟩, left⟩⟩
  | ok =>
    have stands : layout.StandsIn work.disk (disk.place layout.directory) :=
      Work.standsIn_of_writePackage proper named tree written
    have added := work.runPlugins_grows package.plugins stands
    rcases ran : work.runPlugins layout package.plugins with ⟨failed, attempts, after⟩
    rw [ran] at added
    have grown := own.trans (added.mono along fun _ below => below)
    have built := build_of_written laid written ran
    by_cases none : failed = []
    · rw [if_pos none] at built
      exact ⟨after.disk, grown, .inl ⟨⟨_, by rw [built]⟩, by rw [built]⟩⟩
    · rw [if_neg none, rollBack_eq] at built
      exact ⟨after.disk, grown, .inr ⟨⟨_, by rw [built]⟩, by rw [built]⟩⟩

end Build

end Datapack
