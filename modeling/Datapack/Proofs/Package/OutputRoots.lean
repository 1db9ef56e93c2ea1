import Datapack.Proofs.Package.Functions

/-!
How an output root is spelled matters to plugins. A package writes its own files by whatever path
leads to them, but a plugin's function is refused as soon as the path to it goes up anywhere, and
that includes the output root. So the two agree only below roots that never go up.
-/

namespace Datapack

open Disk

theorem PackLayout.up_mem_within_iff {outputRoot : Path} {namespaceName : Namespace}
    (proper : namespaceName.IsProper) :
    .up ∈ (within outputRoot namespaceName).directory.components ↔ .up ∈ outputRoot.components := by
  rw [within, Path.components_child _ proper.isPlain]
  simp

theorem EconomyPlugin.outcome_of_configured {plugin : EconomyPlugin}
    (configured : plugin.isConfigured = true) (layout : PackLayout) (work : Work) :
    ((plugin.program layout).run layout.directory work).outcome =
      (work.writeInside layout.directory (layout.functionPath Economy.purchaseFunctionName)
        (functionText (Economy.purchaseLines plugin.namespaceName))).1 := by
  rw [program, if_pos configured]
  rcases ran : work.writeInside layout.directory
    (layout.functionPath Economy.purchaseFunctionName)
    (functionText (Economy.purchaseLines plugin.namespaceName)) with ⟨outcome, after⟩
  cases outcome with
  | ok =>
    rw [Program.run_writeThen_of_ok ran]
    rfl
  | error cause => rw [Program.run_writeThen_of_error ran]

theorem Work.isDirectory_functionPath_of_writePackage {package : Package} {layout : PackLayout}
    {work after : Work} {name : String} (proper : layout.namespaceName.IsProper)
    (level : .up ∉ layout.directory.components) (unbroken : '/' ∉ name.toList)
    (foreign : name ∉ ownFunctions)
    (written : work.writePackage package layout = (.ok (), after)) :
    after.disk.isDirectory (after.disk.place (layout.functionPath name)) =
      work.disk.isDirectory (work.disk.place (layout.functionPath name)) := by
  have grown := work.writePackage_grows_exactly package layout
  have same : (work.writePackage package layout).2.disk.get? _ = _ :=
    get?_functionPath_of_writePackage proper level unbroken foreign
  rw [written] at grown same
  rw [grown.place_eq, isDirectory, same, isDirectory]

namespace Package

variable {package : Package} {outputRoot : Path} {disk : Disk} {work : Work}

/-- How a build ends whose only plugin is a configured economy is how its one write ends. -/
theorem build_of_economy {economy : EconomyPlugin} {layout : PackLayout}
    (laid : PackLayout.within outputRoot package.namespaceName = layout)
    (only : package.plugins = [.economy economy]) (configured : economy.isConfigured = true)
    (written : Work.writePackage package layout { disk, written := [] } = (.ok (), work)) :
    match (work.writeInside layout.directory (layout.functionPath Economy.purchaseFunctionName)
      (functionText (Economy.purchaseLines economy.namespaceName))).1 with
    | .ok () => ∃ report, (package.build outputRoot disk).result = .ok report
    | .error _ => (package.build outputRoot disk).result = .error (.pluginsFailed ["economy"]) := by
  rcases ran : work.runPlugins layout package.plugins with ⟨failed, attempts, after⟩
  have built := build_of_written laid written ran
  have names := congrArg Prod.fst ran
  rw [only, Work.runPlugins_cons_failed] at names
  change (match ((economy.program layout).run layout.directory work).outcome with
    | .ok () => []
    | .error _ => [EconomyPlugin.name]) = failed at names
  rw [economy.outcome_of_configured configured] at names
  rw [built]
  split
  next went =>
    rw [went] at names
    rw [← names]
    exact ⟨_, rfl⟩
  next refused =>
    rw [refused] at names
    rw [← names]
    rfl

/-- A plugin's function is refused as outside the package exactly if the output root goes up,
however plain its name is. So a package whose own files can be written, with nothing but a
configured economy, is built exactly if the root never goes up, the path of the purchase function is
short enough and no directory stands in its place. -/
theorem plugins_fail_below_roots_that_go_up (package : Package) (outputRoot : Path) (disk : Disk)
    (economy : EconomyPlugin) (proper : package.namespaceName.IsProper)
    (only : package.plugins = [.economy economy]) (configured : economy.isConfigured = true)
    (writable : (Work.writePackage package (.within outputRoot package.namespaceName)
      { disk, written := [] }).1 = .ok ()) :
    let layout := PackLayout.within outputRoot package.namespaceName
    let purchase := layout.functionPath Economy.purchaseFunctionName
    let result := (package.build outputRoot disk).result
    (∀ (work : Work) (name text : String), '/' ∉ name.toList →
      ((∃ path, (work.writeInside layout.directory (layout.functionPath name) text).1 =
          .error (.outsidePackage path)) ↔
        .up ∈ outputRoot.components)) ∧
      (.up ∈ outputRoot.components → result = .error (.pluginsFailed ["economy"])) ∧
      ((∃ report, result = .ok report) ↔
        .up ∉ outputRoot.components ∧ purchase.text.utf8ByteSize < pathLimit ∧
          disk.isDirectory (disk.place purchase) = false) := by
  obtain ⟨layout, laid⟩ : ∃ layout, PackLayout.within outputRoot package.namespaceName = layout :=
    ⟨_, rfl⟩
  have upwards : .up ∈ layout.directory.components ↔ .up ∈ outputRoot.components := by
    rw [← laid]
    exact PackLayout.up_mem_within_iff proper
  have same : layout.namespaceName = package.namespaceName := by rw [← laid, PackLayout.within]
  rw [← same] at proper
  rw [laid] at writable
  rcases written : Work.writePackage package layout { disk, written := [] } with ⟨outcome, work⟩
  obtain rfl : outcome = .ok () := by rwa [written] at writable
  have valid : IsFunctionName Economy.purchaseFunctionName := by decide
  have succeeds : (work.writeInside layout.directory
        (layout.functionPath Economy.purchaseFunctionName)
        (functionText (Economy.purchaseLines economy.namespaceName))).1 = .ok () ↔
      .up ∉ outputRoot.components ∧
        (layout.functionPath Economy.purchaseFunctionName).text.utf8ByteSize < pathLimit ∧
        disk.isDirectory (disk.place (layout.functionPath Economy.purchaseFunctionName)) =
          false := by
    rw [Work.writeInside_functionPath_ok_iff proper valid (Work.isOpen_functionDirectory written),
      upwards]
    refine and_congr_right fun level => and_congr_right fun _ => ?_
    rw [Work.isDirectory_functionPath_of_writePackage proper (mt upwards.mp level) valid.unbroken
      (by decide) written]
  have built := build_of_economy laid only configured written
  simp only [laid]
  rw [← succeeds]
  refine ⟨?_, ?_, ?_⟩
  · intro other name text unbroken
    rw [← upwards]
    exact other.writeInside_functionPath_refused_iff proper unbroken text
  · intro goesUp
    have refused := mt succeeds.mp fun level => level.1 goesUp
    split at built
    next went => exact absurd went refused
    next => exact built
  · split at built
    next went => exact iff_of_true built went
    next cause refused =>
      rw [built, refused]
      simp

end Package

def bareEconomy : EconomyPlugin where
  namespaceName := ⟨"skywars", by decide, List.all_eq_true.mp (by decide)⟩
  layout? := some {}

def barePackage : Package where
  displayName := "Sky Wars"
  namespaceName := bareEconomy.namespaceName
  plugins := [.economy bareEconomy]

/-- The directory `out` by a path that goes up on its way. -/
def detour : Path where
  segments := ["out", "..", "out"]

theorem Package.detour_keeps_economy_from_building :
    barePackage.namespaceName.IsProper ∧
      (Work.writePackage barePackage (.within detour barePackage.namespaceName)
        { disk := Disk.empty, written := [] }).1 = .ok () ∧
      (barePackage.build detour Disk.empty).result = .error (.pluginsFailed ["economy"]) ∧
      ∃ report, (barePackage.build ⟨["out"]⟩ Disk.empty).result = .ok report := by
  have proper : barePackage.namespaceName.IsProper := ⟨by decide, by decide⟩
  have writable : (Work.writePackage barePackage (.within detour barePackage.namespaceName)
      { disk := Disk.empty, written := [] }).1 = .ok () := by rfl
  have straight : (Work.writePackage barePackage (.within ⟨["out"]⟩ barePackage.namespaceName)
      { disk := Disk.empty, written := [] }).1 = .ok () := by rfl
  obtain ⟨_, failed, _⟩ := barePackage.plugins_fail_below_roots_that_go_up detour Disk.empty
    bareEconomy proper rfl rfl writable
  obtain ⟨_, _, built⟩ := barePackage.plugins_fail_below_roots_that_go_up ⟨["out"]⟩ Disk.empty
    bareEconomy proper rfl rfl straight
  exact ⟨proper, writable, failed (by decide), built.mpr ⟨by decide, by decide, rfl⟩⟩

end Datapack
