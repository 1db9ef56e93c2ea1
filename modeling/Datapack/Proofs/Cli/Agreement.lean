import Datapack.Proofs.Cli.Arguments
import Datapack.Proofs.Package.Functions
import Datapack.Proofs.Package.Report

/-!
Rendering a script and building the package agree. Both load the same definition; one prints a
script, the other writes it and then lets the plugins write. A loaded package has at most an
economy for a plugin, and that writes its purchase procedure, which is no script.
-/

namespace Datapack

open Disk

/-- An economy tries to write nothing but the purchase procedure. -/
theorem EconomyPlugin.path_of_mem_attempts {plugin : EconomyPlugin} {layout : PackLayout}
    {work : Work} {attempt : Attempt}
    (tried : attempt ∈ ((plugin.program layout).run layout.directory work).attempts) :
    attempt.path = layout.functionPath Economy.purchaseFunctionName := by
  unfold program at tried
  split at tried
  · rcases ran : work.writeInside layout.directory
      (layout.functionPath Economy.purchaseFunctionName)
      (functionText (Economy.purchaseLines plugin.namespaceName)) with ⟨outcome, after⟩
    cases outcome with
    | ok =>
      rw [Program.run_writeThen_of_ok ran] at tried
      rw [List.mem_singleton.mp tried]
    | error cause =>
      rw [Program.run_writeThen_of_error ran] at tried
      rw [List.mem_singleton.mp tried]
  · cases tried

theorem Package.plugins_create {displayName namespaceText : String} {package : Package}
    (created : create displayName namespaceText = .ok package) : package.plugins = [] := by
  obtain ⟨namespaceName, -, made⟩ := bind_eq_ok_iff.mp created
  obtain rfl := Except.ok.inj made
  rfl

theorem Definition.isEconomy_of_package {definition : Definition} {package : Package}
    (made : definition.package = .ok package) {plugin : Plugin}
    (member : plugin ∈ package.plugins) : ∃ economy, plugin = .economy economy := by
  unfold Definition.package at made
  cases created : Package.create definition.manifest.displayName
      definition.manifest.namespaceText with
  | error cause =>
    rw [created] at made
    cases made
  | ok bare =>
    rw [created] at made
    have empty := Package.plugins_create created
    cases chosen : definition.economy with
    | none =>
      rw [chosen] at made
      obtain rfl := Except.ok.inj made
      rw [empty] at member
      cases member
    | some found =>
      rw [chosen] at made
      dsimp only [bind, Except.bind] at made
      split at made
      next economy configured =>
        obtain rfl := Except.ok.inj made
        rw [Package.register, empty] at member
        exact ⟨economy, List.mem_singleton.mp member⟩
      next => cases made

theorem Package.place_ne_script {package : Package} {layout : PackLayout} {outputRoot : Path}
    {disk : Disk} {report : BuildReport}
    (economies : ∀ plugin ∈ package.plugins, ∃ economy, plugin = .economy economy)
    (laid : PackLayout.within outputRoot package.namespaceName = layout)
    (built : (package.build outputRoot disk).result = .ok report) (event : Event) :
    ∀ write ∈ (package.build outputRoot disk).pluginWrites,
      disk.place write.1 ≠ disk.place (layout.functionPath event.name) := by
  intro write member same
  obtain ⟨attempt, ⟨plugin, listed, work, tried⟩, -, rfl⟩ :=
    tried_of_mem_pluginWrites laid built member
  obtain ⟨economy, rfl⟩ := economies plugin listed
  rw [EconomyPlugin.path_of_mem_attempts tried] at same
  have unbroken : '/' ∉ event.name.toList := by cases event <;> decide
  have clash := PackLayout.eq_of_place_functionPath_eq disk (by decide) unbroken same
  revert clash
  cases event <;> decide

theorem Package.readText_script {package : Package} {layout : PackLayout} {outputRoot : Path}
    {disk : Disk} {report : BuildReport}
    (economies : ∀ plugin ∈ package.plugins, ∃ economy, plugin = .economy economy)
    (laid : PackLayout.within outputRoot package.namespaceName = layout)
    (built : (package.build outputRoot disk).result = .ok report) (event : Event) :
    (package.build outputRoot disk).disk.readText (layout.functionPath event.name) =
      .ok (package.scripts.render event) := by
  have records := records_of_build laid built
  have untouched := place_ne_script economies laid built event
  generalize package.build outputRoot disk = build at records untouched ⊢
  rw [Scripts.render, scripts_apply]
  exact readText_of_read (records.read_script untouched)

namespace Cli

variable {disk : Disk} {parsers : Parsers} {directory output : String}

theorem run_render (given : IsValue directory) (event : Event) (disk : Disk) (parsers : Parsers) :
    run ["render", directory, event.name] disk parsers =
      match disk.loadPackage (.ofString directory) parsers with
      | .error cause => { code := 1, complaint := cause.message, disk }
      | .ok package => { code := 0, output := package.scripts.render event ++ "\n", disk } := by
  rw [run, Invocation.ofArguments_render given]
  rfl

theorem package_of_run_build (given : IsValue directory) (named : IsValue output)
    (went : (run ["build", directory, "-o", output] disk parsers).code = 0) :
    ∃ package report, disk.loadPackage (.ofString directory) parsers = .ok package ∧
      (package.build (.ofString output) disk).result = .ok report ∧
      (run ["build", directory, "-o", output] disk parsers).disk =
        (package.build (.ofString output) disk).disk := by
  rw [run, Invocation.ofArguments_build given named] at went ⊢
  unfold Invocation.run at went ⊢
  dsimp only at went ⊢
  cases loaded : disk.loadPackage (.ofString directory) parsers with
  | error cause =>
    rw [loaded] at went
    cases went
  | ok package =>
    rw [loaded] at went
    dsimp only at went
    cases built : (package.build (.ofString output) disk).result with
    | error cause =>
      rw [built] at went
      cases went
    | ok report => exact ⟨package, report, rfl, built, by simp only [built]⟩

/-- The two verbs agree. Whatever follows it, `render` leaves the file tree as it is; given a
directory and an event it ends well exactly if the directory's definition can be loaded and made
into a package. And where `build` ends well, so does `render` for every event, and prints what
`build` has left in the event's script. -/
theorem render_prints_what_build_writes (disk : Disk) (parsers : Parsers)
    (given : IsValue directory) (named : IsValue output) :
    (∀ arguments, (run ("render" :: arguments) disk parsers).disk = disk) ∧
      (∀ event : Event, (run ["render", directory, event.name] disk parsers).code = 0 ↔
        ∃ definition package, disk.loadDefinition (.ofString directory) parsers = .ok definition ∧
          definition.package = .ok package) ∧
      ((run ["build", directory, "-o", output] disk parsers).code = 0 →
        ∃ package, disk.loadPackage (.ofString directory) parsers = .ok package ∧
          let layout := PackLayout.within (.ofString output) package.namespaceName
          ∀ event : Event, ∃ text,
            (run ["build", directory, "-o", output] disk parsers).disk.readText
                (layout.functionPath event.name) = .ok text ∧
              (run ["render", directory, event.name] disk parsers).code = 0 ∧
              (run ["render", directory, event.name] disk parsers).output = text ++ "\n") := by
  refine ⟨?_, ?_, ?_⟩
  · intro arguments
    exact Invocation.disk_run (Invocation.writes_render arguments) disk parsers
  · intro event
    have both : (∃ definition package,
        disk.loadDefinition (.ofString directory) parsers = .ok definition ∧
          definition.package = .ok package) ↔
        ∃ package, disk.loadPackage (.ofString directory) parsers = .ok package := by
      rw [exists_comm]
      exact exists_congr fun package => bind_eq_ok_iff.symm
    rw [both, run_render given]
    cases disk.loadPackage (.ofString directory) parsers <;> simp
  · intro went
    obtain ⟨package, report, loaded, built, left⟩ := package_of_run_build given named went
    obtain ⟨definition, -, made⟩ := bind_eq_ok_iff.mp loaded
    refine ⟨package, loaded, ?_⟩
    intro layout event
    refine ⟨package.scripts.render event, ?_, ?_, ?_⟩
    · rw [left]
      exact Package.readText_script (fun _ => Definition.isEconomy_of_package made) rfl built event
    · rw [run_render given, loaded]
    · rw [run_render given, loaded]

/-- A definition of a package with an economy in which there is nothing yet. -/
def arenaDisk : Disk where
  entries := [
    (["packs"], .directory),
    (["packs", "pack.json"],
      .file "\x7b\"display_name\":\"Arena\",\"namespace\":\"bw\"\x7d".toUTF8),
    (["packs", "economy.json"], .file "\x7b\x7d".toUTF8)]
  workingDirectory := []

theorem arena_renders_as_built :
    IsValue "packs" ∧ IsValue "out" ∧
      (run ["build", "packs", "-o", "out"] arenaDisk).code = 0 ∧
      ∃ text,
        (run ["build", "packs", "-o", "out"] arenaDisk).disk.readText
            (.ofString "out/bw/data/bw/function/tick.mcfunction") = .ok text ∧
          (run ["render", "packs", "tick"] arenaDisk).code = 0 ∧
          (run ["render", "packs", "tick"] arenaDisk).output = text ++ "\n" := by
  have given : IsValue "packs" := by decide
  have named : IsValue "out" := by decide
  have went : (run ["build", "packs", "-o", "out"] arenaDisk).code = 0 := by decide +kernel
  obtain ⟨-, -, agree⟩ := render_prints_what_build_writes arenaDisk .standard given named
  obtain ⟨package, loaded, printed⟩ := agree went
  have text : package.namespaceName.text = "bw" := by
    have known : (arenaDisk.loadPackage (.ofString "packs")).toOption.map
        (fun package => package.namespaceName.text) = some "bw" := by decide +kernel
    rw [loaded] at known
    exact Option.some.inj known
  have path : (PackLayout.within (.ofString "out") package.namespaceName).functionPath "tick" =
      .ofString "out/bw/data/bw/function/tick.mcfunction" := by
    unfold PackLayout.functionPath PackLayout.functionDirectory PackLayout.within
    rw [text]
    rfl
  have tick := printed .tick
  dsimp only [Event.name] at tick
  rw [path] at tick
  exact ⟨given, named, went, tick⟩

end Cli

end Datapack
