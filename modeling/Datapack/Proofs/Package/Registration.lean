import Datapack.Package.Basic

/-!
How plugins come into a package, and what that makes of its scripts.

Lines are collected plugin by plugin and, for each plugin, event by event. Seen from one event the
result is the same as if the other events were not there: the plugins' own lines for it, one plugin
after the other.
-/

namespace Datapack

namespace Scripts

theorem append_apply (scripts : Scripts) (event : Event) (lines : List String) (other : Event) :
    scripts.append event lines other =
      if other = event then scripts other ++ lines else scripts other := rfl

/-- Lines added for different events stay apart: each event gets its own, once. -/
theorem foldl_append_apply {events : List Event} (distinct : events.Nodup)
    (scripts lines : Scripts) (event : Event) :
    events.foldl (fun scripts event => scripts.append event (lines event)) scripts event =
      if event ∈ events then scripts event ++ lines event else scripts event := by
  induction events generalizing scripts with
  | nil => rfl
  | cons first events inductionHypothesis =>
    obtain ⟨fresh, distinct⟩ := List.nodup_cons.mp distinct
    rw [List.foldl_cons, inductionHypothesis distinct, append_apply]
    by_cases own : event = first
    · subst own
      simp [fresh]
    · simp [own]

end Scripts

theorem Event.mem_all (event : Event) : event ∈ all := by
  cases event <;> decide

namespace Package

theorem collect_apply (scripts : Scripts) (plugin : Plugin) (event : Event) :
    collect scripts plugin event = scripts event ++ plugin.scripts event := by
  rw [collect, Scripts.foldl_append_apply (by decide), if_pos event.mem_all]

theorem foldl_collect_apply (plugins : List Plugin) (scripts : Scripts) (event : Event) :
    plugins.foldl collect scripts event =
      scripts event ++ plugins.flatMap fun plugin => plugin.scripts event := by
  induction plugins generalizing scripts with
  | nil => exact (List.append_nil _).symm
  | cons plugin plugins inductionHypothesis =>
    rw [List.foldl_cons, inductionHypothesis, collect_apply, List.append_assoc, List.flatMap_cons]

/-- Seen from one event a package's script is the lines of its plugins, one after the other. -/
@[simp]
theorem scripts_apply (package : Package) (event : Event) :
    package.scripts event = package.plugins.flatMap fun plugin => plugin.scripts event :=
  foldl_collect_apply package.plugins Scripts.empty event

end Package

/-- How a plugin comes into a package: it is made for the package's namespace, or it is there
already. -/
inductive Registration where
  | made (make : Namespace → Plugin)
  | ready (plugin : Plugin)

namespace Registration

def plugin (namespaceName : Namespace) : Registration → Plugin
  | .made make => make namespaceName
  | .ready plugin => plugin

def enter (package : Package) : Registration → Package
  | .made make => package.use make
  | .ready plugin => package.register plugin

theorem enter_eq (package : Package) (registration : Registration) :
    registration.enter package =
      { package with
        plugins := package.plugins ++ [registration.plugin package.namespaceName] } := by
  cases registration <;> rfl

end Registration

namespace Package

def enterAll (package : Package) (registrations : List Registration) : Package :=
  registrations.foldl Registration.enter package

theorem enterAll_eq (package : Package) (registrations : List Registration) :
    package.enterAll registrations =
      { package with
        plugins := package.plugins ++
          registrations.map (Registration.plugin package.namespaceName) } := by
  unfold enterAll
  induction registrations generalizing package with
  | nil => simp
  | cons registration registrations inductionHypothesis =>
    rw [List.foldl_cons, inductionHypothesis, Registration.enter_eq]
    simp

theorem scripts_enterAll (package : Package) (registrations : List Registration) (event : Event) :
    (package.enterAll registrations).scripts event =
      package.scripts event ++ (registrations.map fun registration =>
        (registration.plugin package.namespaceName).scripts event).flatten := by
  rw [scripts_apply, scripts_apply, enterAll_eq, List.flatMap_append, List.flatMap_map,
    List.flatMap_def (l := registrations)]

/-- A change reaches the first plugin that it applies to, and no other. -/
theorem replaceFirst?_of_first {change? : Plugin → Option Plugin} {plugin changed : Plugin}
    {before : List Plugin} (passed : ∀ earlier ∈ before, change? earlier = none)
    (applies : change? plugin = some changed) (after : List Plugin) :
    replaceFirst? change? (before ++ plugin :: after) = some (before ++ changed :: after) := by
  induction before with
  | nil => simp [replaceFirst?, applies]
  | cons earlier before inductionHypothesis =>
    have rest := inductionHypothesis fun other member => passed other (.tail _ member)
    simp [replaceFirst?, passed earlier (.head _), rest]

theorem replaceFirst?_of_none {change? : Plugin → Option Plugin} {plugins : List Plugin}
    (passed : ∀ plugin ∈ plugins, change? plugin = none) :
    replaceFirst? change? plugins = none := by
  induction plugins with
  | nil => rfl
  | cons plugin plugins inductionHypothesis =>
    have rest := inductionHypothesis fun other member => passed other (.tail _ member)
    simp [replaceFirst?, passed plugin (.head _), rest]

section Update

variable {Kind : Type} {select? : Plugin → Option Kind}

theorem updateFirst_of_none {package : Package} (missing : package.first? select? = none)
    (update : Kind → Plugin) : package.updateFirst select? update = package := by
  have passed : ∀ plugin ∈ package.plugins, (select? plugin).map update = none := by
    intro plugin member
    rw [List.findSome?_eq_none_iff.mp missing plugin member, Option.map_none]
  rw [updateFirst, replaceFirst?_of_none passed]

theorem updateFirst_of_first {package : Package} {before after : List Plugin} {plugin : Plugin}
    {chosen : Kind} (registered : package.plugins = before ++ plugin :: after)
    (passed : ∀ earlier ∈ before, select? earlier = none) (selected : select? plugin = some chosen)
    (update : Kind → Plugin) :
    package.updateFirst select? update =
      { package with plugins := before ++ update chosen :: after } := by
  have unchanged : ∀ earlier ∈ before, (select? earlier).map update = none := by
    intro earlier member
    rw [passed earlier member, Option.map_none]
  have changed : (select? plugin).map update = some (update chosen) := by
    rw [selected, Option.map_some]
  rw [updateFirst, registered, replaceFirst?_of_first unchanged changed]

end Update

/-- A package's script for an event is what its plugins have to say at that event, in the order in
which they were registered and with nothing from other events. So the scripts of two registries
one behind the other are the scripts of the first followed by those of the second, and a change to
the first plugin of a kind changes that plugin's lines and none before or behind them. -/
theorem scripts_follow_registrations (displayName : String) (namespaceName : Namespace) :
    let registered (registrations : List Registration) : Package :=
      enterAll { displayName, namespaceName } registrations
    (∀ (registrations : List Registration) (event : Event),
      (registered registrations).scripts event =
        (registrations.map fun registration =>
          (registration.plugin namespaceName).scripts event).flatten) ∧
    (∀ (first second : List Registration) (event : Event),
      (registered (first ++ second)).scripts event =
        (registered first).scripts event ++ (registered second).scripts event) ∧
    ∀ (registrations : List Registration) (Kind : Type) (select? : Plugin → Option Kind)
        (update : Kind → Plugin),
      let package := registered registrations
      match package.first? select? with
      | none => package.updateFirst select? update = package
      | some chosen => ∃ before plugin after,
          package.plugins = before ++ plugin :: after ∧
          (∀ earlier ∈ before, select? earlier = none) ∧ select? plugin = some chosen ∧
          ∀ event : Event,
            let front := before.flatMap fun plugin => plugin.scripts event
            let back := after.flatMap fun plugin => plugin.scripts event
            package.scripts event = front ++ plugin.scripts event ++ back ∧
              (package.updateFirst select? update).scripts event =
                front ++ (update chosen).scripts event ++ back := by
  intro registered
  have collected : ∀ (registrations : List Registration) (event : Event),
      (registered registrations).scripts event =
        (registrations.map fun registration =>
          (registration.plugin namespaceName).scripts event).flatten :=
    scripts_enterAll { displayName, namespaceName }
  refine ⟨collected, ?_, ?_⟩
  · intro first second event
    simp only [collected, List.map_append, List.flatten_append]
  · intro registrations Kind select? update package
    split
    next missing => exact updateFirst_of_none missing update
    next chosen found =>
      obtain ⟨before, plugin, after, listed, selected, passed⟩ :=
        List.findSome?_eq_some_iff.mp found
      refine ⟨before, plugin, after, listed, passed, selected, ?_⟩
      intro event front back
      rw [updateFirst_of_first listed passed selected, scripts_apply, scripts_apply, listed]
      simp [front, back]

end Package

end Datapack
