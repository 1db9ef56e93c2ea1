import Datapack.Proofs.Package.Report
import Datapack.Proofs.Package.Writing

/-!
Which plugins of a package fail. A plugin that fails has written nothing, so those after it find the
functions of the package itself and of the earlier plugins that did not fail. Along the whole build
the file tree holds exactly these functions, and they decide what the next plugin can require.
-/

namespace Datapack

open Disk

/-- The functions that a plugin writes where others are available, or nothing if it fails. -/
def Plugin.contribution? (available : List String) : Plugin → Option (List String)
  | .economy plugin => if plugin.isConfigured then some [Economy.purchaseFunctionName] else none
  | .scripted plugin =>
    if ∀ name ∈ plugin.requires, name ∈ available then some plugin.writes else none
  | .failing _ => none
  | .custom _ => none

/-- What plugins contribute one after another. Each finds what those before it have written. -/
def contributions (available : List String) : List Plugin → List (Option (List String))
  | [] => []
  | plugin :: plugins =>
    let own := plugin.contribution? available
    own :: contributions (available ++ own.getD []) plugins

def failedPlugins (available : List String) (plugins : List Plugin) : List String :=
  (plugins.zip (contributions available plugins)).filterMap fun (plugin, own) =>
    if own.isNone then some plugin.name else none

/-- A plugin of one of the known kinds, whose functions have names that their files can bear. -/
def Plugin.IsRegular : Plugin → Prop
  | .economy _ => True
  | .scripted plugin => ∀ name ∈ plugin.writes ++ plugin.requires, IsFunctionName name
  | .failing _ => True
  | .custom _ => False

instance (plugin : Plugin) : Decidable plugin.IsRegular :=
  match plugin with
  | .economy _ => inferInstanceAs (Decidable True)
  | .scripted plugin =>
    inferInstanceAs (Decidable (∀ name ∈ plugin.writes ++ plugin.requires, IsFunctionName name))
  | .failing _ => inferInstanceAs (Decidable True)
  | .custom _ => inferInstanceAs (Decidable False)

/-- Of the functions that a plugin can name, exactly the available ones are in a package's
directory. -/
structure PackLayout.Supplies (layout : PackLayout) (available : List String) (disk : Disk) :
    Prop where
  opened : disk.IsOpen layout.functionDirectory
  present : ∀ name, IsFunctionName name → name ∈ available →
    checkText (layout.functionPath name) = .ok () ∧
      ∃ content, disk.get? (disk.place (layout.functionPath name)) = some (.file content)
  absent : ∀ name, IsFunctionName name → name ∉ available →
    disk.get? (disk.place (layout.functionPath name)) = none

namespace PackLayout.Supplies

variable {layout : PackLayout} {available : List String} {disk : Disk} {work : Work}
  {name text : String}

theorem exists?_iff (supplies : layout.Supplies available disk) (valid : IsFunctionName name) :
    disk.exists? (layout.functionPath name) = true ↔ name ∈ available := by
  have plain := Path.isPlain_functionFile valid.unbroken
  have found : disk.exists? (layout.functionPath name) = true ↔ _ :=
    supplies.opened.exists?_child_iff plain valid.short_file
  rw [found, ← layout.place_functionPath disk valid.unbroken]
  constructor
  · rintro ⟨_, standing⟩
    by_contra foreign
    exact standing (supplies.absent name valid foreign)
  · intro member
    obtain ⟨checked, content, standing⟩ := supplies.present name valid member
    exact ⟨checked, by simp [standing]⟩

theorem isDirectory_eq_false (supplies : layout.Supplies available disk)
    (valid : IsFunctionName name) :
    disk.isDirectory (disk.place (layout.functionPath name)) = false := by
  by_cases member : name ∈ available
  · obtain ⟨_, content, standing⟩ := supplies.present name valid member
    simp [isDirectory, standing]
  · simp [isDirectory, supplies.absent name valid member]

theorem store (supplies : layout.Supplies available disk) (valid : IsFunctionName name)
    (short : (layout.functionPath name).text.utf8ByteSize < pathLimit) {content : ByteArray}
    {after : Disk} (grown : Grows (fun _ => True) (fun _ => True) disk after)
    (stored : after = disk.set (disk.place (layout.functionPath name)) (.file content)) :
    layout.Supplies (available ++ [name]) after := by
  have elsewhere : ∀ other, IsFunctionName other → other ≠ name →
      after.get? (after.place (layout.functionPath other)) =
        disk.get? (disk.place (layout.functionPath other)) := by
    intro other allowed different
    rw [grown.place_eq, stored, get?_set _ (by simp [place_functionPath disk valid.unbroken]),
      if_neg]
    intro same
    exact different (eq_of_place_functionPath_eq disk allowed.unbroken valid.unbroken same)
  refine ⟨supplies.opened.grow grown, ?_, ?_⟩
  · intro other allowed member
    by_cases same : other = name
    · subst same
      have plain := Path.isPlain_functionFile valid.unbroken
      refine ⟨supplies.opened.checkText_child plain valid.complete_file short, content, ?_⟩
      rw [grown.place_eq, stored, get?_set _ (by simp [place_functionPath disk valid.unbroken]),
        if_pos rfl]
    · rw [elsewhere other allowed same]
      apply supplies.present other allowed
      simpa [same] using member
  · intro other allowed missing
    rw [List.mem_append, List.mem_singleton, not_or] at missing
    rw [elsewhere other allowed missing.2]
    exact supplies.absent other allowed missing.1

theorem writeInside (supplies : layout.Supplies available work.disk)
    (proper : layout.namespaceName.IsProper) (level : .up ∉ layout.directory.components)
    (valid : IsFunctionName name)
    (short : (layout.functionPath name).text.utf8ByteSize < pathLimit) (text : String) :
    ∃ after, work.writeInside layout.directory (layout.functionPath name) text = (.ok (), after) ∧
      layout.Supplies (available ++ [name]) after.disk := by
  have free := supplies.isDirectory_eq_false valid
  have written : work.write (layout.functionPath name) text = .ok _ :=
    Work.write_functionPath supplies.opened valid short free
  have grown : Grows (fun _ => True) (fun _ => True) work.disk _ :=
    write_grows (Work.write_eq_ok written).1 fun _ => trivial
  refine ⟨_, ?_, supplies.store valid short grown rfl⟩
  rw [Work.writeInside_functionPath_eq proper level valid.unbroken supplies.opened, written]

end PackLayout.Supplies

section Programs

variable {layout : PackLayout} {available : List String} {work : Work} {functions : List String}

theorem ScriptedPlugin.run_writeFunctions (plugin : ScriptedPlugin)
    (proper : layout.namespaceName.IsProper) (level : .up ∉ layout.directory.components)
    (supplies : layout.Supplies available work.disk)
    (valid : ∀ name ∈ functions, IsFunctionName name)
    (short : ∀ name ∈ functions, (layout.functionPath name).text.utf8ByteSize < pathLimit) :
    let run := (plugin.writeFunctions layout functions).run layout.directory work
    run.outcome = .ok () ∧ run.attempts.map Attempt.path = functions.map layout.functionPath ∧
      layout.Supplies (available ++ functions) run.work.disk := by
  induction functions generalizing available work with
  | nil =>
    rw [List.append_nil]
    exact ⟨rfl, rfl, supplies⟩
  | cons function functions inductionHypothesis =>
    obtain ⟨after, written, further⟩ := supplies.writeInside proper level
      (valid function (.head _)) (short function (.head _))
      (functionText ["say " ++ plugin.name ++ " wrote " ++ function])
    obtain ⟨ended, tried, all⟩ := inductionHypothesis further
      (fun name member => valid name (.tail _ member))
      (fun name member => short name (.tail _ member))
    rw [List.append_assoc] at all
    rw [writeFunctions, Program.run_writeThen_of_ok written]
    refine ⟨ended, ?_, all⟩
    rw [List.map_cons, List.map_cons, tried]

theorem ScriptedPlugin.run_checkFunctions_of_supplied (next : Program)
    (supplies : layout.Supplies available work.disk)
    (valid : ∀ name ∈ functions, IsFunctionName name)
    (supplied : ∀ name ∈ functions, name ∈ available) :
    (checkFunctions layout next functions).run layout.directory work =
      next.run layout.directory work := by
  induction functions with
  | nil => rfl
  | cons function functions inductionHypothesis =>
    have found :=
      (supplies.exists?_iff (valid function (.head _))).mpr (supplied function (.head _))
    rw [checkFunctions, Program.run, found]
    exact inductionHypothesis (fun name member => valid name (.tail _ member))
      (fun name member => supplied name (.tail _ member))

theorem ScriptedPlugin.run_checkFunctions_of_unsupplied (next : Program)
    (supplies : layout.Supplies available work.disk)
    (valid : ∀ name ∈ functions, IsFunctionName name)
    (unsupplied : ¬∀ name ∈ functions, name ∈ available) :
    ∃ cause, (checkFunctions layout next functions).run layout.directory work =
      { outcome := .error cause, attempts := [], work } := by
  induction functions with
  | nil => exact absurd (fun _ member => absurd member List.not_mem_nil) unsupplied
  | cons function functions inductionHypothesis =>
    have found := supplies.exists?_iff (valid function (.head _))
    rw [checkFunctions, Program.run]
    by_cases member : function ∈ available
    · rw [found.mpr member]
      apply inductionHypothesis fun name later => valid name (.tail _ later)
      simpa [member] using unsupplied
    · rw [Bool.eq_false_iff.mpr (mt found.mp member)]
      exact ⟨_, rfl⟩

theorem Plugin.run_of_contribution {plugin : Plugin} (proper : layout.namespaceName.IsProper)
    (level : .up ∉ layout.directory.components) (supplies : layout.Supplies available work.disk)
    (regular : plugin.IsRegular) (contributes : plugin.contribution? available = some functions)
    (short : ∀ name ∈ functions, (layout.functionPath name).text.utf8ByteSize < pathLimit) :
    let run := (plugin.program layout).run layout.directory work
    run.outcome = .ok () ∧ run.attempts.map Attempt.path = functions.map layout.functionPath ∧
      layout.Supplies (available ++ functions) run.work.disk := by
  cases plugin with
  | economy plugin =>
    rw [contribution?] at contributes
    split at contributes
    next configured =>
      obtain rfl := Option.some.inj contributes
      obtain ⟨after, written, further⟩ := supplies.writeInside proper level
        (by decide : IsFunctionName Economy.purchaseFunctionName) (short _ (.head _))
        (functionText (Economy.purchaseLines plugin.namespaceName))
      rw [program, EconomyPlugin.program, if_pos configured, Program.run_writeThen_of_ok written]
      exact ⟨rfl, rfl, further⟩
    next => cases contributes
  | scripted plugin =>
    rw [contribution?] at contributes
    split at contributes
    next supplied =>
      obtain rfl := Option.some.inj contributes
      rw [program, ScriptedPlugin.program, ScriptedPlugin.run_checkFunctions_of_supplied _ supplies
        (fun name member => regular name (List.mem_append_right _ member)) supplied]
      exact plugin.run_writeFunctions proper level supplies
        (fun name member => regular name (List.mem_append_left _ member)) short
    next => cases contributes
  | failing plugin => cases contributes
  | custom plugin => cases contributes

theorem Plugin.run_of_failure {plugin : Plugin} (supplies : layout.Supplies available work.disk)
    (regular : plugin.IsRegular) (fails : plugin.contribution? available = none) :
    ∃ cause, (plugin.program layout).run layout.directory work =
      { outcome := .error cause, attempts := [], work } := by
  cases plugin with
  | economy plugin =>
    rw [contribution?] at fails
    split at fails
    next => cases fails
    next unconfigured =>
      rw [program, EconomyPlugin.program, if_neg unconfigured]
      exact ⟨_, rfl⟩
  | scripted plugin =>
    rw [contribution?] at fails
    split at fails
    next => cases fails
    next unsupplied =>
      exact ScriptedPlugin.run_checkFunctions_of_unsupplied _ supplies
        (fun name member => regular name (List.mem_append_right _ member)) unsupplied
  | failing plugin => exact ⟨_, rfl⟩
  | custom plugin => exact regular.elim

end Programs

section Contributions

variable {available functions : List String} {plugin : Plugin} {plugins : List Plugin}

theorem contributions_cons_of_some (contributes : plugin.contribution? available = some functions) :
    contributions available (plugin :: plugins) =
      some functions :: contributions (available ++ functions) plugins := by
  simp [contributions, contributes]

theorem contributions_cons_of_none (fails : plugin.contribution? available = none) :
    contributions available (plugin :: plugins) = none :: contributions available plugins := by
  simp [contributions, fails]

theorem failedPlugins_cons_of_some (contributes : plugin.contribution? available = some functions) :
    failedPlugins available (plugin :: plugins) =
      failedPlugins (available ++ functions) plugins := by
  simp [failedPlugins, contributions_cons_of_some contributes]

theorem failedPlugins_cons_of_none (fails : plugin.contribution? available = none) :
    failedPlugins available (plugin :: plugins) =
      plugin.name :: failedPlugins available plugins := by
  simp [failedPlugins, contributions_cons_of_none fails]

end Contributions

theorem Work.runPlugins_of_supplies {layout : PackLayout} {available : List String} {work : Work}
    {plugins : List Plugin} (proper : layout.namespaceName.IsProper)
    (level : .up ∉ layout.directory.components) (supplies : layout.Supplies available work.disk)
    (regular : ∀ plugin ∈ plugins, plugin.IsRegular)
    (short : ∀ own ∈ contributions available plugins, ∀ name ∈ own.getD [],
      (layout.functionPath name).text.utf8ByteSize < pathLimit) :
    (work.runPlugins layout plugins).1 = failedPlugins available plugins ∧
      (work.runPlugins layout plugins).2.1.map (List.map Attempt.path) =
        (contributions available plugins).map fun own =>
          (own.getD []).map layout.functionPath := by
  induction plugins generalizing available work with
  | nil => exact ⟨rfl, rfl⟩
  | cons plugin plugins inductionHypothesis =>
    have others := fun other member => regular other (.tail _ member)
    rw [runPlugins_cons_failed, runPlugins_cons_attempts]
    cases contributes : plugin.contribution? available with
    | some functions =>
      rw [contributions_cons_of_some contributes] at short ⊢
      rw [failedPlugins_cons_of_some contributes]
      obtain ⟨ended, tried, further⟩ := Plugin.run_of_contribution proper level supplies
        (regular plugin (.head _)) contributes (short (some functions) (.head _))
      obtain ⟨failed, attempts⟩ := inductionHypothesis further others
        fun later member => short later (.tail _ member)
      rw [ended, List.map_cons, List.map_cons, tried, attempts]
      exact ⟨failed, rfl⟩
    | none =>
      rw [contributions_cons_of_none contributes] at short ⊢
      rw [failedPlugins_cons_of_none contributes]
      obtain ⟨cause, run⟩ := Plugin.run_of_failure supplies (regular plugin (.head _)) contributes
      obtain ⟨failed, attempts⟩ := inductionHypothesis supplies others
        fun later member => short later (.tail _ member)
      rw [run, List.map_cons, List.map_cons, attempts]
      simp only [failed]
      exact ⟨trivial, rfl⟩

/-- The package's own functions are the first ones available, if its directory is new. -/
theorem Work.supplies_of_writePackage {package : Package} {layout : PackLayout} {disk : Disk}
    {work : Work} (tree : disk.IsTree) (proper : layout.namespaceName.IsProper)
    (level : .up ∉ layout.directory.components)
    (free : disk.get? (disk.place layout.directory) = none)
    (written : Work.writePackage package layout { disk, written := [] } = (.ok (), work)) :
    layout.Supplies ownFunctions work.disk := by
  have records := (Records.begin disk).writePackage written
  refine ⟨isOpen_functionDirectory written, ?_, ?_⟩
  · intro name valid own
    obtain ⟨text, member⟩ := package.functionPath_mem_files own
    obtain ⟨_, checked, _⟩ := bind_eq_ok_iff.mp (records.reachable _ member)
    obtain ⟨last, _, found⟩ := records.exists_file member
    rw [records.grown.place_eq]
    exact ⟨checked, _, found⟩
  · intro name valid foreign
    have kept : (Work.writePackage package layout { disk, written := [] }).2.disk.get? _ = _ :=
      get?_functionPath_of_writePackage proper level valid.unbroken foreign
    rw [written] at kept
    rw [records.grown.place_eq, kept,
      PackLayout.place_functionPath_below disk proper valid.unbroken]
    exact tree.get?_eq_none_of_begins (List.prefix_append _ _) free

/-- Every plugin runs once and in order, whether or not one before it failed, and tries to write
just what it contributes. Exactly those fail that always do, that were never configured, or that
require a function which neither the package nor an earlier plugin that did not fail has
written. -/
theorem Package.unsupplied_plugins_fail (package : Package) (outputRoot : Path) (disk : Disk)
    (tree : disk.IsTree) (level : .up ∉ outputRoot.components)
    (proper : package.namespaceName.IsProper)
    (writable : (Work.writePackage package (.within outputRoot package.namespaceName)
      { disk, written := [] }).1 = .ok ())
    (missing : disk.exists? (PackLayout.within outputRoot package.namespaceName).directory = false)
    (regular : ∀ plugin ∈ package.plugins, plugin.IsRegular)
    (short : ∀ own ∈ contributions ownFunctions package.plugins, ∀ name ∈ own.getD [],
      ((PackLayout.within outputRoot package.namespaceName).functionPath name).text.utf8ByteSize <
        pathLimit) :
    let layout := PackLayout.within outputRoot package.namespaceName
    let build := package.build outputRoot disk
    let failed := failedPlugins ownFunctions package.plugins
    build.attempts.map (List.map Attempt.path) =
        (contributions ownFunctions package.plugins).map
          (fun own => (own.getD []).map layout.functionPath) ∧
      ((∃ report, build.result = .ok report) ↔ failed = []) ∧
      (failed ≠ [] → build.result = .error (.pluginsFailed failed)) := by
  obtain ⟨layout, laid⟩ : ∃ layout, PackLayout.within outputRoot package.namespaceName = layout :=
    ⟨_, rfl⟩
  have same : layout.namespaceName = package.namespaceName := by rw [← laid, PackLayout.within]
  have own := PackLayout.level_within level proper.2
  obtain ⟨outer, ends⟩ := PackLayout.segments_within outputRoot package.namespaceName
  rw [← same] at proper
  rw [laid] at writable missing short own ends
  rcases written : Work.writePackage package layout { disk, written := [] } with ⟨outcome, work⟩
  obtain rfl : outcome = .ok () := by rwa [written] at writable
  have records := (Work.Records.begin disk).writePackage written
  have free : disk.get? (disk.place layout.directory) = none :=
    records.get?_directory_eq_none tree (package.metadata_mem_files layout) own ends
      package.namespaceName.nonempty missing
  have supplies := Work.supplies_of_writePackage tree proper own free written
  obtain ⟨failures, attempts⟩ := Work.runPlugins_of_supplies proper own supplies regular short
  rcases ran : work.runPlugins layout package.plugins with ⟨failed, tried, after⟩
  rw [ran] at failures attempts
  obtain rfl : failed = failedPlugins ownFunctions package.plugins := failures
  have built := build_of_written laid written ran
  simp only [laid]
  by_cases none : failedPlugins ownFunctions package.plugins = []
  · rw [if_pos none] at built
    rw [built]
    exact ⟨attempts, iff_of_true ⟨_, rfl⟩ none, fun some => absurd none some⟩
  · rw [if_neg none] at built
    rw [built]
    refine ⟨attempts, iff_of_false ?_ none, fun _ => rfl⟩
    rintro ⟨report, succeeded⟩
    cases succeeded

/-- A package whose plugins depend on each other in vain: one comes before the economy whose
function it requires, and another requires what that one would have written. -/
def troubledPackage : Package where
  displayName := "Bed Wars"
  namespaceName := brokenPackage.namespaceName
  plugins := [
    .scripted { name := "arena", writes := ["arena"], requires := ["purchase"] },
    .economy ⟨brokenPackage.namespaceName, some {}⟩,
    .failing ⟨"broken"⟩,
    .scripted { name := "lobby", writes := ["lobby"], requires := ["purchase", "reload"] },
    .scripted { name := "games", requires := ["lobby", "arena"] },
    .economy ⟨brokenPackage.namespaceName, none⟩,
    .scripted { name := "scores", requires := ["lobby"] }]

theorem Package.troubled_build_names_four_plugins :
    Disk.empty.IsTree ∧
      (Work.writePackage troubledPackage (.within ⟨["out"]⟩ troubledPackage.namespaceName)
        { disk := Disk.empty, written := [] }).1 = .ok () ∧
      Disk.empty.exists?
        (PackLayout.within ⟨["out"]⟩ troubledPackage.namespaceName).directory = false ∧
      (troubledPackage.build ⟨["out"]⟩ Disk.empty).result =
        .error (.pluginsFailed ["arena", "broken", "games", "economy"]) := by
  have writable : (Work.writePackage troubledPackage
      (.within ⟨["out"]⟩ troubledPackage.namespaceName)
      { disk := Disk.empty, written := [] }).1 = .ok () := by rfl
  obtain ⟨_, _, failed⟩ := troubledPackage.unsupplied_plugins_fail ⟨["out"]⟩ Disk.empty
    isTree_empty (by decide) ⟨by decide, by decide⟩ writable rfl (by decide) (by decide)
  exact ⟨isTree_empty, writable, rfl, failed (by decide)⟩

def wordyName : String := "announce_the_winner_of_the_last_round_to_everyone_on_the_map"

def wordyPlugin : ScriptedPlugin where
  name := "wordy"
  writes := [wordyName]

def wordyPackage : Package where
  displayName := "Bed Wars"
  namespaceName := brokenPackage.namespaceName
  plugins := [.scripted wordyPlugin]

theorem Program.run_writeThen_of_long {layout : PackLayout} {work : Work} {name : String}
    (proper : layout.namespaceName.IsProper) (opened : work.disk.IsOpen layout.functionDirectory)
    (valid : IsFunctionName name) (long : pathLimit ≤ (layout.functionPath name).text.utf8ByteSize)
    (text : String) (next : Program) :
    ∃ cause, ((writeThen (layout.functionPath name) text next).run layout.directory work).outcome =
      .error cause := by
  rcases tried : work.writeInside layout.directory (layout.functionPath name) text with
    ⟨outcome, after⟩
  cases outcome with
  | ok =>
    have went := (Work.writeInside_functionPath_ok_iff proper valid opened).mp
      (congrArg Prod.fst tried)
    exact absurd went.2.1 (Nat.not_lt.mpr long)
  | error cause =>
    rw [run_writeThen_of_error tried]
    exact ⟨cause, rfl⟩

/-- Behind enough slashes the package's own files have room, but a plugin's function has not. -/
theorem Package.wordy_plugin_fails_behind_slashes :
    let root := slashed "out" 4034
    let layout := PackLayout.within root wordyPackage.namespaceName
    Disk.empty.IsTree ∧ .up ∉ root.components ∧ wordyPackage.namespaceName.IsProper ∧
      (Work.writePackage wordyPackage layout { disk := Disk.empty, written := [] }).1 = .ok () ∧
      Disk.empty.exists? layout.directory = false ∧
      (∀ plugin ∈ wordyPackage.plugins, plugin.IsRegular) ∧
      failedPlugins ownFunctions wordyPackage.plugins = [] ∧
      (wordyPackage.build root Disk.empty).result = .error (.pluginsFailed ["wordy"]) := by
  have proper : wordyPackage.namespaceName.IsProper := ⟨by decide, by decide⟩
  have level : .up ∉ (slashed "out" 4034).components := by
    rw [Path.up_mem_components_iff, slashed, List.mem_cons, List.mem_replicate]
    decide
  have fits : (PackLayout.within (slashed "out" 4034) wordyPackage.namespaceName).HasRoom
      Disk.empty :=
    PackLayout.hasRoom_within_slashed (by decide) proper (by decide) (by decide) (by decide)
  have size := text_size_slashed "out" wordyPackage.namespaceName.text 4034
  rw [← child_slashed "out" 4034 proper.isPlain] at size
  obtain ⟨layout, laid⟩ : ∃ layout,
      PackLayout.within (slashed "out" 4034) wordyPackage.namespaceName = layout := ⟨_, rfl⟩
  have same : layout.namespaceName = wordyPackage.namespaceName := by rw [← laid, PackLayout.within]
  have directory :
      layout.directory = (slashed "out" 4034).child wordyPackage.namespaceName.text := by
    rw [← laid, PackLayout.within]
  rw [laid] at fits
  simp only [laid]
  have writable : (Work.writePackage wordyPackage layout
      { disk := Disk.empty, written := [] }).1 = .ok () :=
    Work.writePackage_of_hasRoom wordyPackage isTree_empty fits
  refine ⟨isTree_empty, level, proper, writable, fits.passable.exists?_eq_false fits.free,
    by decide, by decide, ?_⟩
  rcases written : Work.writePackage wordyPackage layout { disk := Disk.empty, written := [] } with
    ⟨outcome, work⟩
  obtain rfl : outcome = .ok () := by rwa [written] at writable
  obtain ⟨outer, ends⟩ := fits.ends
  have long : pathLimit ≤ (layout.functionPath wordyName).text.utf8ByteSize := by
    rw [PackLayout.text_size_functionPath ends layout.namespaceName.nonempty fits.proper
      (by decide), directory, size, same]
    decide
  rcases ran : work.runPlugins layout wordyPackage.plugins with ⟨names, attempts, after⟩
  obtain rfl : ["wordy"] = names := by
    have program : (Plugin.scripted wordyPlugin).program layout =
        .writeThen (layout.functionPath wordyName)
          (functionText ["say " ++ wordyPlugin.name ++ " wrote " ++ wordyName]) .done := rfl
    obtain ⟨cause, failed⟩ := Program.run_writeThen_of_long fits.proper
      (Work.isOpen_functionDirectory written) (by decide : IsFunctionName wordyName) long
      (functionText ["say " ++ wordyPlugin.name ++ " wrote " ++ wordyName]) .done
    have listed := congrArg Prod.fst ran
    rw [wordyPackage, Work.runPlugins_cons_failed, program, failed] at listed
    exact listed
  rw [build_of_written laid written ran]
  rfl

end Datapack
