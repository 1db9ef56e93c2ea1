import Datapack.Proofs.Disk.Reading
import Datapack.Proofs.Package.Footprint

/-!
A build keeps a list of the files it wrote. Along the whole build that list and the file tree agree:
each listed file can be read by its path and holds what was last written to its place, by whatever
path.
-/

namespace Datapack

open Disk

def Attempt.saved (attempts : List Attempt) : List (Path × String) :=
  attempts.filterMap fun attempt =>
    match attempt.outcome with
    | .ok () => some (attempt.path, attempt.text)
    | .error _ => none

def Build.pluginWrites (build : Build) : List (Path × String) :=
  Attempt.saved build.attempts.flatten

/-- What was written last to a place. -/
def Disk.lastText? (disk : Disk) (writes : List (Path × String)) (location : Location) :
    Option String :=
  (writes.reverse.find? fun write => disk.place write.1 = location).map Prod.snd

section LastText

variable {disk : Disk} {writes : List (Path × String)} {location : Location}

theorem Disk.lastText?_concat (write : Path × String) :
    disk.lastText? (writes ++ [write]) location =
      if disk.place write.1 = location then some write.2 else disk.lastText? writes location := by
  unfold lastText?
  rw [List.reverse_append, List.reverse_singleton, List.singleton_append, List.find?_cons]
  by_cases same : disk.place write.1 = location <;> simp [same]

theorem Disk.mem_of_lastText? {text : String}
    (found : disk.lastText? writes location = some text) :
    ∃ write ∈ writes, disk.place write.1 = location ∧ write.2 = text := by
  obtain ⟨write, first, rfl⟩ := Option.map_eq_some_iff.mp found
  refine ⟨write, List.mem_reverse.mp (List.mem_of_find?_eq_some first), ?_, rfl⟩
  simpa using List.find?_some first

theorem Disk.exists_lastText? {write : Path × String} (member : write ∈ writes)
    (reached : disk.place write.1 = location) :
    ∃ text, disk.lastText? writes location = some text := by
  apply Option.isSome_iff_exists.mp
  rw [lastText?, Option.isSome_map, List.find?_isSome]
  exact ⟨write, List.mem_reverse.mpr member, by simpa using reached⟩

/-- Where all writes to a place wrote the same, it does not matter which came last. -/
theorem Disk.lastText?_of_unique {write : Path × String} (member : write ∈ writes)
    (unique : ∀ other ∈ writes, disk.place other.1 = disk.place write.1 → other.2 = write.2) :
    disk.lastText? writes (disk.place write.1) = some write.2 := by
  obtain ⟨text, found⟩ := exists_lastText? member (rfl : disk.place write.1 = _)
  obtain ⟨other, listed, same, rfl⟩ := mem_of_lastText? found
  rw [found, unique other listed same]

end LastText

/-- The list of what was written agrees with the file tree that a work has reached from another. -/
structure Work.Records (start : Disk) (writes : List (Path × String)) (work : Work) : Prop where
  listed : work.written = writes.map Prod.fst
  grown : Grows (fun _ => True) (fun location => ∃ write ∈ writes, start.place write.1 = location)
    start work.disk
  content : ∀ location text, start.lastText? writes location = some text →
    work.disk.get? location = some (.file text.toUTF8)
  reachable : ∀ write ∈ writes, work.disk.locate write.1 = .ok (start.place write.1)

namespace Work.Records

variable {start : Disk} {writes : List (Path × String)} {work after : Work}

theorem begin (disk : Disk) : Records disk [] { disk, written := [] } where
  listed := rfl
  grown := .refl
  content := by simp [lastText?]
  reachable := by simp

theorem grow (records : Records start writes work)
    (growth : Grows (fun _ => True) (fun _ => False) work.disk after.disk)
    (same : after.written = work.written) : Records start writes after where
  listed := same.trans records.listed
  grown := records.grown.trans (growth.mono (fun _ made => made) fun _ never => never.elim)
  content := by
    intro location text found
    have before := records.content location text found
    rcases growth.get?_cases location with kept | ⟨missing, _⟩ | never
    · rw [kept, before]
    · rw [before] at missing
      contradiction
    · exact never.elim
  reachable := fun write member => growth.locate (records.reachable write member)

theorem write (records : Records start writes work) {path : Path} {text : String}
    (written : work.write path text = .ok after) :
    Records start (writes ++ [(path, text)]) after := by
  obtain ⟨stored, listed⟩ := write_eq_ok written
  have reached : work.disk.place path = start.place path := records.grown.place_eq path
  have growth : Grows (fun _ => True)
      (fun location => ∃ write ∈ writes ++ [(path, text)], start.place write.1 = location)
      work.disk after.disk :=
    write_grows stored fun _ => ⟨(path, text), by simp, reached.symm⟩
  constructor
  · rw [listed, records.listed, List.map_append, List.map_singleton]
  · refine Grows.trans (records.grown.mono (fun _ made => made) ?_) growth
    rintro location ⟨write, member, same⟩
    exact ⟨write, List.mem_append_left _ member, same⟩
  · intro location last found
    obtain ⟨directory, name, place, _, _, _, left⟩ := write_ok stored
    rw [lastText?_concat] at found
    rw [left, get?_set _ (by simp), ← place, reached]
    by_cases same : start.place path = location
    · rw [if_pos same] at found
      rw [if_pos same.symm, ← Option.some.inj found]
    · rw [if_neg same] at found
      rw [if_neg (Ne.symm same)]
      exact records.content location last found
  · intro write member
    rcases List.mem_append.mp member with earlier | last
    · exact growth.locate (records.reachable write earlier)
    · rw [List.mem_singleton.mp last, ← reached]
      exact locate_of_write stored

theorem makeDirectories (records : Records start writes work) (paths : List Path) :
    Records start writes (work.makeDirectories paths).2 := by
  refine records.grow (makeDirectories_grows work fun _ _ _ _ => trivial) ?_
  clear records
  induction paths generalizing work with
  | nil => rfl
  | cons path paths inductionHypothesis =>
    unfold Work.makeDirectories
    split
    next disk _ =>
      have rest := @inductionHypothesis { work with disk }
      exact rest
    next => rfl

theorem writeFiles {files : List (Path × String)} (records : Records start writes work)
    (written : work.writeFiles files = (.ok (), after)) :
    Records start (writes ++ files) after := by
  induction files generalizing writes work with
  | nil =>
    obtain rfl := (Prod.mk.inj written).2
    rwa [List.append_nil]
  | cons file files inductionHypothesis =>
    obtain ⟨path, text⟩ := file
    unfold Work.writeFiles at written
    split at written
    next middle stored =>
      have rest := inductionHypothesis (records.write stored) written
      rwa [List.append_assoc, List.singleton_append] at rest
    next => simp at written

/-- A plugin's write is put on record if it went through, and only then. -/
theorem writeInside (records : Records start writes work) (directory path : Path)
    (text : String) :
    Records start
      (writes ++ Attempt.saved [⟨path, text, (work.writeInside directory path text).1⟩])
      (work.writeInside directory path text).2 := by
  have unchanged : ∀ cause, writes ++ Attempt.saved [⟨path, text, .error cause⟩] = writes :=
    fun _ => List.append_nil writes
  have growth : Grows (fun _ => True) (fun _ => False) work.disk
      (work.disk.ensureParent path).2 :=
    ensureParent_grows work.disk fun _ _ _ _ => trivial
  have ready : Records start writes { work with disk := (work.disk.ensureParent path).2 } :=
    records.grow growth rfl
  rcases work.writeInside_cases directory path text with
    ⟨-, ended⟩ | ⟨-, ⟨failed, cause, ended⟩ | ⟨stored, written, ended⟩⟩
  · rw [ended, unchanged]
    exact records
  · rw [ended, unchanged]
    exact ready
  · rw [ended]
    exact ready.write (bind_eq_ok_iff.mpr ⟨stored, written, rfl⟩)

theorem run (directory : Path) (program : Program) (records : Records start writes work) :
    Records start (writes ++ Attempt.saved (program.run directory work).attempts)
      (program.run directory work).work := by
  induction program generalizing writes work with
  | finish outcome =>
    rw [Program.run, Attempt.saved, List.filterMap_nil, List.append_nil]
    exact records
  | write path text next inductionHypothesis =>
    have rest := inductionHypothesis (work.writeInside directory path text).1
      (records.writeInside directory path text)
    rw [List.append_assoc, Attempt.saved, Attempt.saved, ← List.filterMap_append] at rest
    exact rest
  | inspect path next inductionHypothesis => exact inductionHypothesis _ records

theorem runPlugins (layout : PackLayout) (plugins : List Plugin)
    (records : Records start writes work) :
    Records start (writes ++ Attempt.saved (work.runPlugins layout plugins).2.1.flatten)
      (work.runPlugins layout plugins).2.2 := by
  induction plugins generalizing writes work with
  | nil =>
    rw [Work.runPlugins, List.flatten_nil, Attempt.saved, List.filterMap_nil, List.append_nil]
    exact records
  | cons plugin plugins inductionHypothesis =>
    have rest := inductionHypothesis (records.run layout.directory (plugin.program layout))
    rw [List.append_assoc, Attempt.saved, Attempt.saved, ← List.filterMap_append] at rest
    rw [runPlugins_cons_attempts, runPlugins_cons_work, List.flatten_cons]
    exact rest

theorem writePackage {package : Package} {layout : PackLayout}
    (records : Records start writes work)
    (written : work.writePackage package layout = (.ok (), after)) :
    Records start (writes ++ package.files layout) after := by
  have ready := records.makeDirectories [layout.tagDirectory, layout.functionDirectory]
  unfold Work.writePackage at written
  split at written
  next middle made =>
    rw [made] at ready
    exact ready.writeFiles written
  next failed => exact absurd written (failed after)

theorem exists_file (records : Records start writes work) {write : Path × String}
    (member : write ∈ writes) :
    ∃ text, start.lastText? writes (start.place write.1) = some text ∧
      work.disk.get? (start.place write.1) = some (.file text.toUTF8) := by
  obtain ⟨text, last⟩ := exists_lastText? member (rfl : start.place write.1 = _)
  exact ⟨text, last, records.content _ text last⟩

theorem read_listed (records : Records start writes work) {path : Path}
    (member : path ∈ work.written) :
    ∃ text, start.lastText? writes (start.place path) = some text ∧
      work.disk.read path = .ok text.toUTF8 := by
  rw [records.listed] at member
  obtain ⟨write, written, rfl⟩ := List.mem_map.mp member
  obtain ⟨text, last, found⟩ := records.exists_file written
  exact ⟨text, last, read_of_locate (records.reachable write written) found⟩

/-- Below a place where nothing was, the files are those on record. -/
theorem isFile_iff (records : Records start writes work) (tree : start.IsTree) {place : Location}
    (free : start.get? place = none) {location : Location} (below : Location.Below place location) :
    (∃ content, work.disk.get? location = some (.file content)) ↔
      ∃ write ∈ writes, start.place write.1 = location := by
  constructor
  · rintro ⟨content, found⟩
    rcases records.grown.get?_cases location with kept | ⟨_, made, _⟩ | written
    · rw [tree.get?_eq_none_of_begins below.1 free, found] at kept
      contradiction
    · rw [found] at made
      simp at made
    · exact written
  · rintro ⟨write, member, rfl⟩
    obtain ⟨text, _, found⟩ := records.exists_file member
    exact ⟨_, found⟩

end Work.Records

section Build

variable {package : Package} {layout : PackLayout} {outputRoot : Path} {disk : Disk}
  {report : BuildReport}

/-- A build succeeds by writing the package's own files and running every plugin without a
failure. -/
theorem Package.build_eq_ok (laid : PackLayout.within outputRoot package.namespaceName = layout)
    (built : (package.build outputRoot disk).result = .ok report) :
    ∃ work attempts after,
      Work.writePackage package layout { disk, written := [] } = (.ok (), work) ∧
      work.runPlugins layout package.plugins = ([], attempts, after) ∧
      package.build outputRoot disk = { result := .ok report, disk := after.disk, attempts } ∧
      report = {
        directory := layout.directory
        files := after.written
        plugins := package.pluginNames } := by
  rcases written : Work.writePackage package layout { disk, written := [] } with ⟨outcome, work⟩
  cases outcome with
  | error cause =>
    rw [(build_of_unwritten laid written).1] at built
    cases built
  | ok =>
    rcases ran : work.runPlugins layout package.plugins with ⟨failed, attempts, after⟩
    have whole := build_of_written laid written ran
    by_cases none : failed = []
    · rw [if_pos none] at whole
      rw [whole] at built
      rw [none] at ran
      obtain rfl := Except.ok.inj built
      exact ⟨work, attempts, after, rfl, ran, whole, rfl⟩
    · rw [if_neg none] at whole
      rw [whole] at built
      cases built

/-- The report of a successful build lists what the package and then its plugins wrote. -/
theorem Package.records_of_build
    (laid : PackLayout.within outputRoot package.namespaceName = layout)
    (built : (package.build outputRoot disk).result = .ok report) :
    Work.Records disk (package.files layout ++ (package.build outputRoot disk).pluginWrites)
      { disk := (package.build outputRoot disk).disk, written := report.files } := by
  obtain ⟨work, attempts, after, written, ran, whole, rfl⟩ := build_eq_ok laid built
  have all := ((Work.Records.begin disk).writePackage written).runPlugins layout package.plugins
  rw [ran] at all
  rw [whole]
  exact all

theorem Attempt.mem_saved {attempts : List Attempt} {write : Path × String} :
    write ∈ saved attempts ↔
      ∃ attempt ∈ attempts, attempt.outcome = .ok () ∧ (attempt.path, attempt.text) = write := by
  rw [saved, List.mem_filterMap]
  refine exists_congr fun attempt => and_congr_right fun _ => ?_
  cases attempt.outcome <;> simp

theorem Program.isInside_of_mem_attempts (directory : Path) (program : Program) (work : Work) :
    ∀ attempt ∈ (program.run directory work).attempts, attempt.outcome = .ok () →
      Work.isInside directory attempt.path = true := by
  induction program generalizing work with
  | finish outcome => simp [run]
  | write path text next inductionHypothesis =>
    intro attempt member went
    change attempt ∈ Attempt.mk path text _ :: _ at member
    rcases List.mem_cons.mp member with same | later
    · rw [same] at went ⊢
      exact (Work.writeInside_of_ok went).1
    · exact inductionHypothesis _ _ attempt later went
  | inspect path next inductionHypothesis => exact inductionHypothesis _ work

theorem Work.exists_of_mem_attempts {layout : PackLayout} {plugins : List Plugin} {work : Work}
    {attempt : Attempt} (tried : attempt ∈ (work.runPlugins layout plugins).2.1.flatten) :
    ∃ plugin ∈ plugins, ∃ before : Work,
      attempt ∈ ((plugin.program layout).run layout.directory before).attempts := by
  induction plugins generalizing work with
  | nil => simp [runPlugins] at tried
  | cons plugin plugins inductionHypothesis =>
    rw [runPlugins_cons_attempts, List.flatten_cons] at tried
    rcases List.mem_append.mp tried with own | later
    · exact ⟨plugin, .head _, work, own⟩
    · obtain ⟨other, member, before, found⟩ := inductionHypothesis later
      exact ⟨other, .tail _ member, before, found⟩

/-- What plugins wrote during a build was tried by one of them and went through. -/
theorem Package.tried_of_mem_pluginWrites
    (laid : PackLayout.within outputRoot package.namespaceName = layout)
    (built : (package.build outputRoot disk).result = .ok report) {write : Path × String}
    (member : write ∈ (package.build outputRoot disk).pluginWrites) :
    ∃ attempt : Attempt,
      (∃ plugin ∈ package.plugins, ∃ work : Work,
        attempt ∈ ((plugin.program layout).run layout.directory work).attempts) ∧
      attempt.outcome = .ok () ∧ (attempt.path, attempt.text) = write := by
  obtain ⟨work, attempts, after, _, ran, whole, _⟩ := build_eq_ok laid built
  rw [whole] at member
  obtain ⟨attempt, tried, went, same⟩ := Attempt.mem_saved.mp member
  have listed : attempt ∈ (work.runPlugins layout package.plugins).2.1.flatten := by
    rw [ran]
    exact tried
  exact ⟨attempt, Work.exists_of_mem_attempts listed, went, same⟩

theorem Package.isInside_of_mem_pluginWrites
    (laid : PackLayout.within outputRoot package.namespaceName = layout)
    (built : (package.build outputRoot disk).result = .ok report) {write : Path × String}
    (member : write ∈ (package.build outputRoot disk).pluginWrites) :
    Work.isInside layout.directory write.1 = true := by
  obtain ⟨attempt, ⟨plugin, -, work, tried⟩, went, rfl⟩ :=
    tried_of_mem_pluginWrites laid built member
  exact Program.isInside_of_mem_attempts layout.directory (plugin.program layout) work attempt tried
    went

end Build

end Datapack
