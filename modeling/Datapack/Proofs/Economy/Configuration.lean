import Datapack.Proofs.Economy.Acceptance
import Datapack.Proofs.Package.OutputRoots

/-!
A plugin that is given one configuration after another takes the first that can be resolved. Those
before it leave no trace, and those behind it are not even looked at.
-/

namespace Datapack

open Economy

/-- A write fails because of its path or of the file tree; refusing is left to plugins. -/
theorem Work.writeInside_ne_rejected (work : Work) (directory path : Path) (text reason : String) :
    (work.writeInside directory path text).1 ≠ .error (.rejected reason) := by
  rcases work.writeInside_cases directory path text with
    ⟨-, ended⟩ | ⟨-, ⟨failed, cause, ended⟩ | ⟨stored, -, ended⟩⟩
  · simp [ended]
  · simp [ended]
  · simp [ended]

namespace EconomyPlugin

def accepted? (config : Config) : Option Layout :=
  (resolve config).toOption

theorem accepted?_eq_some_iff {config : Config} {layout : Layout} :
    accepted? config = some layout ↔ resolve config = .ok layout := by
  unfold accepted?
  cases resolve config <;> simp [Except.toOption]

theorem accepted?_eq_none_iff {config : Config} :
    accepted? config = none ↔ ∃ cause, resolve config = .error cause := by
  unfold accepted?
  cases resolve config <;> simp [Except.toOption]

/-- The answers to configurations that come one after the other, and the plugin at the end. -/
def configureAll (plugin : EconomyPlugin) :
    List Config → List (Except ConfigError Unit) × EconomyPlugin
  | [] => ([], plugin)
  | config :: configs =>
    let (answer, plugin) := plugin.tryConfigure config
    let (answers, plugin) := plugin.configureAll configs
    (answer :: answers, plugin)

section Calls

variable {plugin : EconomyPlugin}

theorem tryConfigure_of_some {layout : Layout} (configured : plugin.layout? = some layout)
    (config : Config) : plugin.tryConfigure config = (.error .alreadyConfigured, plugin) := by
  simp [tryConfigure, configure, configured]

theorem tryConfigure_of_none (fresh : plugin.layout? = none) (config : Config) :
    plugin.tryConfigure config =
      ((resolve config).map fun _ => (), { plugin with layout? := accepted? config }) := by
  obtain ⟨namespaceName, layout?⟩ := plugin
  obtain rfl : layout? = none := fresh
  unfold tryConfigure configure accepted?
  cases resolve config with
  | error cause => rfl
  | ok layout => rfl

theorem tryConfigure_plugin (plugin : EconomyPlugin) (config : Config) :
    (plugin.tryConfigure config).2 =
      { plugin with layout? := plugin.layout?.or (accepted? config) } := by
  cases known : plugin.layout? with
  | none => rw [tryConfigure_of_none known, Option.none_or]
  | some layout => rw [tryConfigure_of_some known, Option.some_or, ← known]

/-- All that remains of a sequence of configurations is the first that could be resolved. -/
theorem configureAll_plugin (plugin : EconomyPlugin) (configs : List Config) :
    (plugin.configureAll configs).2 =
      { plugin with layout? := plugin.layout?.or (configs.findSome? accepted?) } := by
  induction configs generalizing plugin with
  | nil => simp [configureAll]
  | cons config configs inductionHypothesis =>
    change ((plugin.tryConfigure config).2.configureAll configs).2 = _
    rw [inductionHypothesis, tryConfigure_plugin, Option.or_assoc, List.findSome?_cons]
    cases accepted? config <;> simp

theorem getElem?_answers (plugin : EconomyPlugin) (configs : List Config) (index : Nat) :
    (plugin.configureAll configs).1[index]? = configs[index]?.map fun config =>
      ((plugin.configureAll (configs.take index)).2.tryConfigure config).1 := by
  induction configs generalizing plugin index with
  | nil => rfl
  | cons config configs inductionHypothesis =>
    cases index with
    | zero => rfl
    | succ index => exact inductionHypothesis (plugin.tryConfigure config).2 index

theorem length_answers (plugin : EconomyPlugin) (configs : List Config) :
    (plugin.configureAll configs).1.length = configs.length := by
  induction configs generalizing plugin with
  | nil => rfl
  | cons config configs inductionHypothesis =>
    exact congrArg (· + 1) (inductionHypothesis (plugin.tryConfigure config).2)

end Calls

section Fresh

variable {namespaceName : Namespace} {configs : List Config}

theorem configureAll_of_fresh :
    (configureAll { namespaceName } configs).2 =
      { namespaceName, layout? := configs.findSome? accepted? } := by
  rw [configureAll_plugin, Option.none_or]

theorem answer_of_fresh {index : Nat} {config : Config} (given : configs[index]? = some config) :
    (configureAll { namespaceName } configs).1[index]? = some
      (match (configs.take index).findSome? accepted? with
        | none => (resolve config).map fun _ => ()
        | some _ => .error .alreadyConfigured) := by
  rw [getElem?_answers, given, Option.map_some, configureAll_of_fresh]
  congr 1
  cases earlier : (configs.take index).findSome? accepted? with
  | none => rw [tryConfigure_of_none rfl]
  | some layout => rw [tryConfigure_of_some rfl]

/-- A call is granted if its configuration can be resolved and no earlier one could. -/
theorem granted_iff {index : Nat} {config : Config} (given : configs[index]? = some config) :
    (configureAll { namespaceName } configs).1[index]? = some (.ok ()) ↔
      (configs.take index).findSome? accepted? = none ∧ ∃ layout, resolve config = .ok layout := by
  rw [answer_of_fresh given, Option.some_inj]
  cases (configs.take index).findSome? accepted? with
  | none => cases resolve config <;> simp [Except.map]
  | some layout => simp

theorem granted_before_iff (index : Nat) :
    (∃ earlier < index, (configureAll { namespaceName } configs).1[earlier]? = some (.ok ())) ↔
      (configs.take index).findSome? accepted? ≠ none := by
  constructor
  · rintro ⟨earlier, before, granted⟩ nothing
    have inside : earlier < configs.length := by
      rw [← length_answers { namespaceName }]
      exact (List.getElem?_eq_some_iff.mp granted).1
    have given := List.getElem?_eq_getElem inside
    obtain ⟨-, layout, resolved⟩ := (granted_iff given).mp granted
    have member : configs[earlier] ∈ configs.take index := by
      rw [List.mem_take_iff_getElem]
      exact ⟨earlier, by omega, rfl⟩
    have refused := List.findSome?_eq_none_iff.mp nothing _ member
    rw [accepted?_eq_some_iff.mpr resolved] at refused
    cases refused
  · intro found
    obtain ⟨layout, found⟩ := Option.ne_none_iff_exists'.mp found
    -- The first configuration that could be resolved is the one that was granted.
    obtain ⟨front, config, back, parts, taken, passed⟩ := List.findSome?_eq_some_iff.mp found
    have shorter : front.length < index := by
      have bound := congrArg List.length parts
      rw [List.length_take, List.length_append, List.length_cons] at bound
      omega
    have begins : configs.take front.length = front := by
      have nested := congrArg (List.take front.length) parts
      rwa [List.take_take, Nat.min_eq_left (Nat.le_of_lt shorter), List.take_left] at nested
    have given : configs[front.length]? = some config := by
      have there := congrArg (·[front.length]?) parts
      simpa [List.getElem?_take, shorter] using there
    refine ⟨front.length, shorter, (granted_iff given).mpr ⟨?_, layout, ?_⟩⟩
    · rw [begins]
      exact List.findSome?_eq_none_iff.mpr passed
    · exact accepted?_eq_some_iff.mp taken

end Fresh

theorem rejected_iff (plugin : EconomyPlugin) (layout : PackLayout) (work : Work) :
    (∃ reason, ((plugin.program layout).run layout.directory work).outcome =
        .error (.rejected reason)) ↔
      plugin.isConfigured = false := by
  cases configured : plugin.isConfigured with
  | true =>
    rw [outcome_of_configured configured]
    simp [Work.writeInside_ne_rejected]
  | false => simp [program, configured, Program.reject, Program.run]

/-- A configuration is set once. Of a sequence of configurations given to a fresh plugin, one is
answered with "already configured" if an earlier one was granted, and otherwise with the outcome of
resolving it. What is left behind is the first that can be resolved, or a fresh plugin if none
can, and only then does the plugin refuse to be built. -/
theorem first_resolvable_configuration_is_kept (namespaceName : Namespace)
    (configs : List Config) :
    let fresh : EconomyPlugin := { namespaceName }
    let answers := (fresh.configureAll configs).1
    let plugin := (fresh.configureAll configs).2
    answers.length = configs.length ∧
      (∀ (index : Nat) (config : Config), configs[index]? = some config →
        (answers[index]? = some (.error .alreadyConfigured) ↔
          ∃ earlier < index, answers[earlier]? = some (.ok ())) ∧
        ((¬ ∃ earlier < index, answers[earlier]? = some (.ok ())) →
          answers[index]? = some ((resolve config).map fun _ => ()))) ∧
      (match configs.findSome? fun config => (resolve config).toOption with
        | some layout =>
          plugin.isConfigured = true ∧ plugin.layout = layout ∧
            plugin.scripts = Economy.scripts namespaceName layout
        | none => plugin = fresh) ∧
      ∀ (layout : PackLayout) (work : Work),
        (∃ reason, ((plugin.program layout).run layout.directory work).outcome =
            .error (.rejected reason)) ↔
          ∀ config ∈ configs, ∃ cause, resolve config = .error cause := by
  intro fresh answers plugin
  have left : plugin = { namespaceName, layout? := configs.findSome? accepted? } :=
    configureAll_of_fresh
  refine ⟨length_answers fresh configs, ?_, ?_, ?_⟩
  · intro index config given
    rw [granted_before_iff, answer_of_fresh given]
    cases (configs.take index).findSome? accepted? with
    | none =>
      have seen : (resolve config).map (fun _ => ()) ≠ .error .alreadyConfigured := by
        have own := resolve_ne_alreadyConfigured config
        cases answer : resolve config with
        | error cause =>
          rw [answer] at own
          simpa [Except.map] using own
        | ok layout => simp [Except.map]
      simp [seen]
    | some layout => simp
  · change match configs.findSome? accepted? with | some layout => _ | none => _
    rw [left]
    cases configs.findSome? accepted? with
    | none => rfl
    | some layout => exact ⟨rfl, rfl, rfl⟩
  · intro layout work
    rw [rejected_iff, left, isConfigured, Option.isSome_eq_false_iff, Option.isNone_iff_eq_none,
      List.findSome?_eq_none_iff]
    simp only [accepted?_eq_none_iff]

end EconomyPlugin

end Datapack
