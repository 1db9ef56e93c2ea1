import Datapack.Proofs.Disk.Repetition
import Datapack.Proofs.Package.Records

/-!
Building once more what was built changes nothing. The second build meets a file tree that has only
grown since each of its steps was taken for the first time, so every step goes through again: what
was required is still there, directories are found instead of made, and files are written over by
what they held at this point the first time. In the end each of them holds what was written last.
-/

namespace Datapack

open Disk

/-- Whatever may have been added. -/
abbrev Disk.Extends (first second : Disk) : Prop :=
  Grows (fun _ => True) (fun _ => True) first second

namespace Work

/-- A step that only writes over what is there. -/
structure Rewrites (work after : Work) : Prop where
  grown : work.disk.Extends after.disk
  nothingNew : ∀ location, work.disk.get? location = none → after.disk.get? location = none

namespace Rewrites

variable {first second third : Work}

theorem refl (work : Work) : work.Rewrites work where
  grown := .refl
  nothingNew := fun _ free => free

theorem trans (before : first.Rewrites second) (after : second.Rewrites third) :
    first.Rewrites third where
  grown := before.grown.trans after.grown
  nothingNew := fun location free => after.nothingNew location (before.nothingNew location free)

end Rewrites

section Growth

theorem write_extends {work after : Work} {path : Path} {text : String}
    (written : work.write path text = .ok after) : work.disk.Extends after.disk :=
  write_grows (write_eq_ok written).1 fun _ => trivial

theorem writeInside_extends (work : Work) (directory path : Path) (text : String) :
    work.disk.Extends (work.writeInside directory path text).2.disk := by
  have grown : work.disk.Extends (work.disk.ensureParent path).2 :=
    ensureParent_grows work.disk fun _ _ _ _ => trivial
  rcases work.writeInside_cases directory path text with
    ⟨-, ended⟩ | ⟨-, ⟨failed, cause, ended⟩ | ⟨stored, written, ended⟩⟩
  · rw [ended]
    exact .refl
  · rw [ended]
    exact grown
  · rw [ended]
    exact grown.trans (write_grows written fun _ => trivial)

theorem run_extends (directory : Path) (program : Program) (work : Work) :
    work.disk.Extends (program.run directory work).work.disk := by
  induction program generalizing work with
  | finish outcome => exact .refl
  | write path text next inductionHypothesis =>
    exact (work.writeInside_extends directory path text).trans (inductionHypothesis _ _)
  | inspect path next inductionHypothesis => exact inductionHypothesis _ work

theorem runPlugins_extends (layout : PackLayout) (plugins : List Plugin) (work : Work) :
    work.disk.Extends (work.runPlugins layout plugins).2.2.disk := by
  induction plugins generalizing work with
  | nil => exact .refl
  | cons plugin plugins inductionHypothesis =>
    rw [runPlugins_cons_work]
    exact (run_extends layout.directory (plugin.program layout) work).trans (inductionHypothesis _)

end Growth

section Again

variable {work after later : Work}

theorem write_again {path : Path} {text : String} (written : work.write path text = .ok after)
    (growth : after.disk.Extends later.disk) :
    ∃ final, later.write path text = .ok final ∧ later.Rewrites final := by
  obtain ⟨location, ⟨old, standing⟩, stored⟩ :=
    Disk.write_again text.toUTF8 (write_eq_ok written).1 growth
  refine ⟨_, bind_eq_ok_iff.mpr ⟨_, stored, rfl⟩, write_grows stored fun _ => trivial, ?_⟩
  intro other free
  have below : location ≠ [] := by
    rintro rfl
    simp [get?] at standing
  have elsewhere : other ≠ location := by
    rintro rfl
    rw [standing] at free
    contradiction
  rw [get?_set _ below, if_neg elsewhere]
  exact free

theorem makeDirectories_again {paths : List Path}
    (made : work.makeDirectories paths = (.ok (), after))
    (growth : after.disk.Extends later.disk) :
    later.makeDirectories paths = (.ok (), later) := by
  induction paths generalizing work with
  | nil => rfl
  | cons path paths inductionHypothesis =>
    unfold makeDirectories at made ⊢
    split at made
    next disk ensured =>
      have rest : disk.Extends after.disk := by
        have grown : disk.Extends (makeDirectories paths { work with disk }).2.disk :=
          makeDirectories_grows { work with disk } fun _ _ _ _ => trivial
        rwa [made] at grown
      have again : later.disk.ensureDirectories path = (.ok (), later.disk) :=
        ensureChain_again ensured (rest.trans growth)
      simp only [again]
      exact inductionHypothesis made
    next => simp at made

theorem writeFiles_again {files : List (Path × String)}
    (written : work.writeFiles files = (.ok (), after))
    (growth : after.disk.Extends later.disk) :
    ∃ final, later.writeFiles files = (.ok (), final) ∧ later.Rewrites final := by
  induction files generalizing work later with
  | nil => exact ⟨later, rfl, .refl later⟩
  | cons file files inductionHypothesis =>
    obtain ⟨path, text⟩ := file
    unfold writeFiles at written
    split at written
    next middle stored =>
      have rest : middle.disk.Extends after.disk := by
        have grown : middle.disk.Extends (middle.writeFiles files).2.disk :=
          writeFiles_grows middle fun _ _ => trivial
        rwa [written] at grown
      obtain ⟨next, once, rewrites⟩ := write_again stored (rest.trans growth)
      obtain ⟨final, others, further⟩ := inductionHypothesis written (growth.trans rewrites.grown)
      refine ⟨final, ?_, rewrites.trans further⟩
      rw [writeFiles, once]
      exact others
    next => simp at written

theorem writePackage_again {package : Package} {layout : PackLayout}
    (written : work.writePackage package layout = (.ok (), after))
    (growth : after.disk.Extends later.disk) :
    ∃ final, later.writePackage package layout = (.ok (), final) ∧ later.Rewrites final := by
  unfold writePackage at written
  split at written
  next middle made =>
    have rest : middle.disk.Extends after.disk := by
      have grown : middle.disk.Extends (middle.writeFiles (package.files layout)).2.disk :=
        writeFiles_grows middle fun _ _ => trivial
      rwa [written] at grown
    rw [writePackage, makeDirectories_again made (rest.trans growth)]
    exact writeFiles_again written growth
  next failed => exact absurd written (failed after)

theorem writeInside_again {directory path : Path} {text : String}
    (written : work.writeInside directory path text = (.ok (), after))
    (growth : after.disk.Extends later.disk) :
    ∃ final, later.writeInside directory path text = (.ok (), final) ∧ later.Rewrites final := by
  have inside := (writeInside_of_ok (congrArg Prod.fst written)).1
  rw [writeInside, if_pos inside] at written
  split at written
  next => simp at written
  next disk made =>
    split at written
    next stored =>
      obtain rfl := (Prod.mk.inj written).2
      have ready := ensureParent_again made ((write_extends stored).trans growth)
      obtain ⟨final, once, rewrites⟩ := write_again stored growth
      refine ⟨final, ?_, rewrites⟩
      rw [writeInside, if_pos inside, ready]
      simp only [once]
    next => simp at written

end Again

end Work

namespace Program

/-- A program that fails with the first of its actions that does. -/
def IsFirm : Program → Prop
  | .finish _ => True
  | .write _ _ next =>
    (∀ cause, ∃ other, next (.error cause) = .finish (.error other)) ∧ (next (.ok ())).IsFirm
  | .inspect _ next => (∃ cause, next false = .finish (.error cause)) ∧ (next true).IsFirm

theorem IsFirm.writeThen {path : Path} {text : String} {next : Program} (firm : next.IsFirm) :
    (Program.writeThen path text next).IsFirm :=
  ⟨fun cause => ⟨cause, rfl⟩, firm⟩

theorem IsFirm.run_again {directory : Path} {program : Program} {work later : Work}
    (firm : program.IsFirm) (succeeded : (program.run directory work).outcome = .ok ())
    (growth : (program.run directory work).work.disk.Extends later.disk) :
    (program.run directory later).outcome = .ok () ∧
      (program.run directory later).attempts = (program.run directory work).attempts ∧
      later.Rewrites (program.run directory later).work := by
  induction program generalizing work later with
  | finish outcome => exact ⟨succeeded, rfl, .refl later⟩
  | write path text next inductionHypothesis =>
    rcases written : work.writeInside directory path text with ⟨outcome, after⟩
    simp only [run, written] at succeeded growth ⊢
    cases outcome with
    | error cause =>
      obtain ⟨other, stops⟩ := firm.1 cause
      rw [stops] at succeeded
      cases succeeded
    | ok =>
      have rest := (Work.run_extends directory (next (.ok ())) after).trans growth
      obtain ⟨final, again, rewrites⟩ := Work.writeInside_again written rest
      obtain ⟨ended, same, further⟩ := inductionHypothesis (.ok ()) firm.2 succeeded
        (growth.trans rewrites.grown)
      rw [again]
      exact ⟨ended, by rw [same], rewrites.trans further⟩
  | inspect path next inductionHypothesis =>
    simp only [run] at succeeded growth ⊢
    cases seen : work.disk.exists? path with
    | false =>
      obtain ⟨cause, stops⟩ := firm.1
      rw [seen, stops] at succeeded
      cases succeeded
    | true =>
      rw [seen] at succeeded growth
      have rest := (Work.run_extends directory (next true) work).trans growth
      rw [rest.exists? seen]
      exact inductionHypothesis true firm.2 succeeded growth

end Program

theorem EconomyPlugin.isFirm_program (plugin : EconomyPlugin) (layout : PackLayout) :
    (plugin.program layout).IsFirm := by
  unfold program
  split
  · exact Program.IsFirm.writeThen trivial
  · exact trivial

theorem ScriptedPlugin.isFirm_program (plugin : ScriptedPlugin) (layout : PackLayout) :
    (plugin.program layout).IsFirm := by
  have writes : ∀ functions, (plugin.writeFunctions layout functions).IsFirm := by
    intro functions
    induction functions with
    | nil => exact trivial
    | cons function functions inductionHypothesis =>
      exact Program.IsFirm.writeThen inductionHypothesis
  unfold program
  induction plugin.requires with
  | nil => exact writes plugin.writes
  | cons function functions inductionHypothesis => exact ⟨⟨_, rfl⟩, inductionHypothesis⟩

theorem Work.runPlugins_again {layout : PackLayout} {plugins : List Plugin} {work later : Work}
    (firm : ∀ plugin ∈ plugins, (plugin.program layout).IsFirm)
    (succeeded : (work.runPlugins layout plugins).1 = [])
    (growth : (work.runPlugins layout plugins).2.2.disk.Extends later.disk) :
    (later.runPlugins layout plugins).1 = [] ∧
      (later.runPlugins layout plugins).2.1 = (work.runPlugins layout plugins).2.1 ∧
      later.Rewrites (later.runPlugins layout plugins).2.2 := by
  induction plugins generalizing work later with
  | nil => exact ⟨rfl, rfl, .refl later⟩
  | cons plugin plugins inductionHypothesis =>
    rw [runPlugins_cons_failed] at succeeded
    rw [runPlugins_cons_work] at growth
    split at succeeded
    next ended =>
      have rest := (runPlugins_extends layout plugins _).trans growth
      obtain ⟨again, same, rewrites⟩ := (firm plugin (by simp)).run_again ended rest
      obtain ⟨others, alike, further⟩ := inductionHypothesis
        (fun other member => firm other (by simp [member])) succeeded (growth.trans rewrites.grown)
      rw [runPlugins_cons_failed, runPlugins_cons_work, runPlugins_cons_attempts,
        runPlugins_cons_attempts, again, same, alike]
      exact ⟨others, rfl, rewrites.trans further⟩
    next => cases succeeded

/-- Writing the same once more leaves every place as it is, if it adds no entry. -/
theorem Work.Records.unchanged_of_again {start disk final : Disk} {writes : List (Path × String)}
    {files others : List Path} (first : Records start writes { disk, written := files })
    (second : Records disk writes { disk := final, written := others })
    (nothingNew : ∀ location, disk.get? location = none → final.get? location = none) :
    final.workingDirectory = disk.workingDirectory ∧
      ∀ location, final.get? location = disk.get? location := by
  refine ⟨second.grown.workingDirectory_eq, ?_⟩
  intro location
  rcases second.grown.get?_cases location with kept | ⟨missing, made, _⟩ | ⟨write, member, reached⟩
  · exact kept
  · rw [nothingNew location missing] at made
    contradiction
  · obtain ⟨text, last⟩ := exists_lastText? member reached
    refine (second.content location text last).trans ?_
    -- The places of the writes are the same, so what came last is the same too.
    have same : ∀ path, disk.place path = start.place path := first.grown.place_eq
    simp only [lastText?, same] at last
    exact (first.content location text last).symm

namespace Package

variable {package : Package} {outputRoot : Path} {disk : Disk} {report : BuildReport}

/-- A build that succeeded succeeds again, with the same attempts, and adds no entry. -/
theorem build_again {layout : PackLayout}
    (laid : PackLayout.within outputRoot package.namespaceName = layout)
    (firm : ∀ plugin ∈ package.plugins, (plugin.program layout).IsFirm)
    (succeeded : (package.build outputRoot disk).result = .ok report) :
    let first := package.build outputRoot disk
    let second := package.build outputRoot first.disk
    (∃ other, second.result = .ok other) ∧ second.attempts = first.attempts ∧
      ∀ location, first.disk.get? location = none → second.disk.get? location = none := by
  obtain ⟨work, attempts, after, written, ran, whole, _⟩ := build_eq_ok laid succeeded
  have filled := work.runPlugins_extends layout package.plugins
  rw [ran] at filled
  let start : Work := { disk := after.disk, written := [] }
  obtain ⟨middle, rewritten, rewrites⟩ : ∃ middle,
      start.writePackage package layout = (.ok (), middle) ∧ start.Rewrites middle :=
    Work.writePackage_again written filled
  have grown : (work.runPlugins layout package.plugins).2.2.disk.Extends middle.disk := by
    rw [ran]
    exact rewrites.grown
  obtain ⟨unfailed, same, further⟩ := Work.runPlugins_again firm (congrArg Prod.fst ran) grown
  rcases reran : middle.runPlugins layout package.plugins with ⟨failed, retried, final⟩
  rw [reran] at unfailed same further
  obtain rfl : failed = [] := unfailed
  have again := build_of_written laid rewritten reran
  rw [if_pos rfl] at again
  rw [ran] at same
  simp only [whole, again]
  exact ⟨⟨_, rfl⟩, same, (rewrites.trans further).nothingNew⟩

/-- A report follows from what was written. -/
theorem report_of_build {layout : PackLayout}
    (laid : PackLayout.within outputRoot package.namespaceName = layout)
    (built : (package.build outputRoot disk).result = .ok report) :
    report = {
      directory := layout.directory
      files := (package.files layout ++ (package.build outputRoot disk).pluginWrites).map Prod.fst
      plugins := package.pluginNames } := by
  have listed := (records_of_build laid built).listed
  obtain ⟨_, _, _, _, _, _, rfl⟩ := build_eq_ok laid built
  rw [← listed]

/-- Building again what was built reports the same and changes nothing, whatever the plugins
require of each other and write over. -/
theorem rebuild_changes_nothing (package : Package) (outputRoot : Path) (disk : Disk)
    (report : BuildReport)
    (kinds : ∀ plugin ∈ package.plugins,
      (∃ economy, plugin = .economy economy) ∨ ∃ scripted, plugin = .scripted scripted)
    (succeeded : (package.build outputRoot disk).result = .ok report) :
    let first := package.build outputRoot disk
    let second := package.build outputRoot first.disk
    second.result = .ok report ∧ second.disk.workingDirectory = first.disk.workingDirectory ∧
      ∀ location, second.disk.get? location = first.disk.get? location := by
  obtain ⟨layout, laid⟩ : ∃ layout, PackLayout.within outputRoot package.namespaceName = layout :=
    ⟨_, rfl⟩
  have firm : ∀ plugin ∈ package.plugins, (plugin.program layout).IsFirm := by
    intro plugin member
    rcases kinds plugin member with ⟨economy, rfl⟩ | ⟨scripted, rfl⟩
    · exact economy.isFirm_program _
    · exact scripted.isFirm_program _
  obtain ⟨⟨other, repeated⟩, retried, nothingNew⟩ := build_again laid firm succeeded
  have before := records_of_build laid succeeded
  have after := records_of_build laid repeated
  have expected := report_of_build laid succeeded
  have reported := report_of_build laid repeated
  -- From here on the two builds are known only by these facts.
  dsimp only
  generalize package.build outputRoot disk = first at *
  generalize package.build outputRoot first.disk = second at *
  have same : second.pluginWrites = first.pluginWrites := by
    rw [Build.pluginWrites, retried, Build.pluginWrites]
  rw [same] at after reported
  constructor
  · rw [repeated, reported, expected]
  · exact before.unchanged_of_again after nothingNew

end Package

/-- A package whose plugins build on each other: the last one requires what those before it wrote
and writes over the script that one of them wrote over already. -/
def layeredPackage : Package where
  displayName := "Duels"
  namespaceName := ⟨"duels", by decide, List.all_eq_true.mp (by decide)⟩
  plugins := [
    .economy ⟨⟨"duels", by decide, List.all_eq_true.mp (by decide)⟩, some {}⟩,
    .scripted { name := "arena", writes := ["load", "arena/reset"], requires := ["load"] },
    .scripted { name := "lobby", writes := ["load"], requires := ["purchase", "arena/reset"] }]

theorem Package.layered_build_is_repeatable :
    let first := layeredPackage.build ⟨["out"]⟩ Disk.empty
    let second := layeredPackage.build ⟨["out"]⟩ first.disk
    ∃ report, first.result = .ok report ∧ report.plugins = ["economy", "arena", "lobby"] ∧
      second.result = .ok report ∧
      ∀ location, second.disk.get? location = first.disk.get? location := by
  obtain ⟨report, succeeded⟩ : ∃ report,
      (layeredPackage.build ⟨["out"]⟩ Disk.empty).result = .ok report := ⟨_, rfl⟩
  have kinds : ∀ plugin ∈ layeredPackage.plugins,
      (∃ economy, plugin = .economy economy) ∨ ∃ scripted, plugin = .scripted scripted := by
    intro plugin member
    simp only [layeredPackage, List.mem_cons, List.not_mem_nil, or_false] at member
    rcases member with rfl | rfl | rfl
    · exact .inl ⟨_, rfl⟩
    · exact .inr ⟨_, rfl⟩
    · exact .inr ⟨_, rfl⟩
  obtain ⟨again, _, unchanged⟩ :=
    layeredPackage.rebuild_changes_nothing ⟨["out"]⟩ Disk.empty report kinds succeeded
  refine ⟨report, succeeded, ?_, again, unchanged⟩
  rw [Package.report_of_build rfl succeeded]
  rfl

end Datapack
