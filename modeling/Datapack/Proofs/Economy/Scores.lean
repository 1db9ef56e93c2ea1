import Datapack.Proofs.Economy.Generators
import Datapack.Proofs.Economy.Ownership

/-!
Packages side by side on one scoreboard. Whatever others run in between, a package finds its scores
as it left them, and its generators drop what they would have dropped alone.
-/

namespace Datapack

namespace Host

def Agree (objectives : List String) (host other : Host) : Prop :=
  ∀ objective ∈ objectives, host.objectives objective = other.objectives objective

@[simp]
theorem objectives_addObjective (host : Host) (objective name : String) :
    (host.addObjective objective).objectives name =
      if name = objective then some ((host.objectives objective).getD fun _ => none)
      else host.objectives name := by
  unfold addObjective
  by_cases same : name = objective
  · subst same
    cases present : host.objectives name <;> simp [present]
  · cases present : host.objectives objective <;> simp [same]

@[simp]
theorem objectives_setScore (host : Host) (objective holder name : String) (value : Int) :
    (host.setScore objective holder value).objectives name =
      if name = objective then
        (host.objectives objective).map fun scores => Function.update scores holder (some value)
      else host.objectives name := by
  unfold setScore
  by_cases same : name = objective
  · subst same
    cases present : host.objectives name <;> simp [present]
  · cases present : host.objectives objective <;> simp [same]

namespace Agree

variable {objectives : List String} {host other : Host}

theorem score? (agree : Agree objectives host other) {objective : String}
    (member : objective ∈ objectives) (holder : String) :
    host.score? objective holder = other.score? objective holder := by
  unfold Host.score?
  rw [agree objective member]

theorem addObjective (agree : Agree objectives host other) (objective : String) :
    Agree objectives (host.addObjective objective) (other.addObjective objective) := by
  intro name member
  rw [objectives_addObjective, objectives_addObjective]
  by_cases same : name = objective
  · subst same
    rw [agree name member]
  · rw [if_neg same, if_neg same]
    exact agree name member

theorem removeObjective (agree : Agree objectives host other) (objective : String) :
    Agree objectives (host.removeObjective objective) (other.removeObjective objective) := by
  intro name member
  by_cases same : name = objective
  · subst same
    simp [Host.removeObjective]
  · simp only [Host.removeObjective, Function.update_of_ne same]
    exact agree name member

theorem setScore (agree : Agree objectives host other) (objective holder : String) (value : Int) :
    Agree objectives (host.setScore objective holder value)
      (other.setScore objective holder value) := by
  intro name member
  rw [objectives_setScore, objectives_setScore]
  by_cases same : name = objective
  · subst same
    rw [agree name member]
  · rw [if_neg same, if_neg same]
    exact agree name member

/-- What a count goes on from is a score of the objective itself. -/
theorem addScore (agree : Agree objectives host other) (objective holder : String) (value : Int) :
    Agree objectives (host.addScore objective holder value)
      (other.addScore objective holder value) := by
  unfold Host.addScore
  by_cases own : objective ∈ objectives
  · rw [agree.score? own]
    exact agree.setScore objective holder _
  · intro name member
    have different : name ≠ objective := by
      rintro rfl
      exact own member
    rw [objectives_setScore, objectives_setScore, if_neg different, if_neg different]
    exact agree name member

end Agree

end Host

def Clause.Consults (objectives : List String) : Clause → Prop
  | .scoreAtLeast _ objective _ => objective ∈ objectives
  | .atSelf => True
  | .as _ => False
  | .holds _ _ => False

namespace Command

/-- That nothing but the scores in some objectives decides whether an instruction is carried out. -/
def IsGuardedBy (objectives : List String) : Command → Prop
  | .execute clauses command =>
    (∀ clause ∈ clauses, clause.Consults objectives) ∧ command.IsGuardedBy objectives
  | _ => True

end Command

namespace Host

section Guarded

variable {objectives : List String} {host other : Host}

theorem Agree.advance (agree : Agree objectives host other) {clause : Clause}
    (consults : clause.Consults objectives) (actor : Option Nat) :
    host.advance actor clause = other.advance actor clause := by
  rcases clause with selector | - | ⟨holder, objective, least⟩ | ⟨slots, test⟩
  · cases consults
  · rfl
  · simp only [Host.advance, agree.score? consults]
  · cases consults

theorem Agree.actors (agree : Agree objectives host other) {clauses : List Clause}
    (consult : ∀ clause ∈ clauses, clause.Consults objectives) (actor : Option Nat) :
    host.actors clauses actor = other.actors clauses actor := by
  unfold Host.actors
  generalize [actor] = reached
  induction clauses generalizing reached with
  | nil => rfl
  | cons clause clauses inductionHypothesis =>
    have first : ∀ actor, host.advance actor clause = other.advance actor clause :=
      agree.advance (consult clause (.head _))
    simp only [List.foldl_cons, first]
    apply inductionHypothesis
    intro later member
    exact consult later (.tail _ member)

/-- Hosts that agree on the scores that an instruction looks at agree on them afterwards. -/
theorem Agree.run (agree : Agree objectives host other) {command : Command}
    (guarded : command.IsGuardedBy objectives) (actor : Option Nat) :
    Agree objectives (command.run actor host) (command.run actor other) := by
  induction command generalizing actor host other with
  | addObjective objective => exact agree.addObjective objective
  | removeObjective objective => exact agree.removeObjective objective
  | setScore holder objective value => exact agree.setScore objective holder value
  | addScore holder objective value => exact agree.addScore objective holder value
  | summon kind position data => exact agree
  | store name path value => exact agree
  | kill selector =>
    rw [Command.run, Command.run, foldl_changeAt, foldl_changeAt]
    exact agree
  | fillItems name path =>
    cases actor with
    | none => exact agree
    | some place =>
      cases stored : host.storage name path <;> cases otherStored : other.storage name path <;>
        simp only [Command.run, stored, otherStored] <;> exact agree
  | execute clauses command inductionHypothesis =>
    rw [Command.run, Command.run, agree.actors guarded.1]
    generalize other.actors clauses actor = actors
    induction actors generalizing host other with
    | nil => exact agree
    | cons actor actors others => exact others (inductionHypothesis agree guarded.2 actor)
  | comment remark => exact agree
  | facePlayer => exact agree
  | clear test => exact agree
  | call function arguments => exact agree

theorem Agree.runAll (agree : Agree objectives host other) {lines : List Command}
    (guarded : ∀ line ∈ lines, line.IsGuardedBy objectives) :
    Agree objectives (Command.runAll lines host) (Command.runAll lines other) := by
  induction lines generalizing host other with
  | nil => exact agree
  | cons line lines inductionHypothesis =>
    apply inductionHypothesis (agree.run (guarded line (.head _)) none)
    intro later member
    exact guarded later (.tail _ member)

theorem Agree.drop? (agree : Agree objectives host other) {line : Command}
    (guarded : line.IsGuardedBy objectives) :
    Command.drop? (host, line) = Command.drop? (other, line) := by
  unfold Command.drop?
  split
  · next holder objective least kind position data same =>
    obtain ⟨rfl, rfl⟩ := Prod.mk.inj same
    simp only [agree.score? (guarded.1 _ (.head _))]
  · next silent =>
    split
    · next holder objective least kind position data same =>
      obtain ⟨rfl, rfl⟩ := Prod.mk.inj same
      exact absurd rfl (silent host holder objective least kind position data)
    · rfl

theorem Agree.drops (agree : Agree objectives host other) {lines : List Command}
    (guarded : ∀ line ∈ lines, line.IsGuardedBy objectives) :
    (Command.moments lines host).filterMap Command.drop? =
      (Command.moments lines other).filterMap Command.drop? := by
  induction lines generalizing host other with
  | nil => rfl
  | cons line lines inductionHypothesis =>
    have first := guarded line (.head _)
    have rest := inductionHypothesis (agree.run first none) fun later member =>
      guarded later (.tail _ member)
    simp only [Command.moments, List.filterMap_cons, agree.drop? first, rest]

end Guarded

end Host

namespace Economy

structure Installation where
  namespaceName : Namespace
  layout : Layout

namespace Installation

/-- The lines of the rendered scripts that keep scores; in a tick those are the ones of the
generators. -/
def lines (installation : Installation) (event : Event) : List Command :=
  let script := (scripts installation.namespaceName installation.layout).instructions event
  match event with
  | .tick => Command.under "Generators" script
  | _ => script

/-- The same lines as they were before they were rendered. -/
def work (installation : Installation) : Event → List Command
  | .load => loadCommands installation.namespaceName installation.layout
  | .unload => unloadCommands installation.namespaceName
  | .tick => installation.layout.generators.flatMap (generatorCommands installation.namespaceName)

theorem lines_eq_work (installation : Installation) : installation.lines = installation.work := by
  funext event
  cases event with
  | load => exact instructions_load _ _
  | unload => exact instructions_unload _ _
  | tick => exact under_generators _ _

variable {installation : Installation} {event : Event} {line : Command}

theorem belongs_of_mem_lines (member : line ∈ installation.lines event) :
    Belongs installation.namespaceName installation.layout line := by
  rw [lines_eq_work] at member
  cases event with
  | load => exact belongs_of_mem_loadCommands member
  | unload =>
    have scripted : line ∈ commands installation.namespaceName installation.layout .unload := member
    exact belongs_of_mem_commands scripted
  | tick =>
    obtain ⟨generator, -, own⟩ := List.mem_flatMap.mp member
    exact belongs_of_mem_generatorCommands own

/-- Only generators look at scores, and only at their own counts. -/
theorem isGuardedBy_of_mem_lines (member : line ∈ installation.lines event) :
    line.IsGuardedBy (ownObjectives installation.namespaceName) := by
  rw [lines_eq_work] at member
  cases event with
  | load =>
    rcases mem_loadCommands.mp member with rfl | rfl | ⟨generator, -, rfl⟩ |
      ⟨keeper, -, rfl | rfl⟩ | ⟨shop, -, rfl⟩
    all_goals trivial
  | unload =>
    rcases mem_unloadCommands.mp member with rfl | rfl | rfl
    all_goals trivial
  | tick =>
    obtain ⟨generator, -, own⟩ := List.mem_flatMap.mp member
    rw [generatorCommands_eq] at own
    have count : ∀ clause ∈ [Clause.scoreAtLeast (generatorHolder generator.id)
        (generatorsObjective installation.namespaceName) generator.threshold],
        clause.Consults (ownObjectives installation.namespaceName) := by
      intro clause listed
      obtain rfl := List.mem_singleton.mp listed
      exact .head _
    simp only [List.mem_cons, List.not_mem_nil, or_false] at own
    rcases own with rfl | rfl | rfl
    · trivial
    · exact ⟨count, trivial⟩
    · exact ⟨count, trivial⟩

end Installation

theorem disjoint_ownObjectives {first second : Namespace} (different : first ≠ second)
    {objective : String} (own : objective ∈ ownObjectives first) :
    objective ∉ ownObjectives second := by
  simp only [ownObjectives, List.mem_cons, List.not_mem_nil, or_false] at own ⊢
  rintro (same | same)
  · rcases own with rfl | rfl
    · exact different ((prefixed_left_inj first second).mp same)
    · exact generatorsObjective_ne_currencyObjective second first same.symm
  · rcases own with rfl | rfl
    · exact generatorsObjective_ne_currencyObjective first second same
    · exact different ((prefixed_left_inj first second).mp same)

section Together

variable {Index : Type} (installed : Index → Installation)

def perform (turns : List (Index × Event)) (host : Host) : Host :=
  turns.foldl (fun host turn => Command.runAll ((installed turn.1).lines turn.2) host) host

/-- Every turn with all that was dropped in it. -/
def performance : List (Index × Event) → Host → List ((Index × Event) × List Drop)
  | [], _ => []
  | turn :: turns, host =>
    let lines := (installed turn.1).lines turn.2
    (turn, (Command.moments lines host).filterMap Command.drop?) ::
      performance turns (Command.runAll lines host)

theorem perform_eq_work (turns : List (Index × Event)) (host : Host) :
    perform installed turns host =
      turns.foldl (fun host turn => Command.runAll ((installed turn.1).work turn.2) host) host := by
  simp only [perform, Installation.lines_eq_work]

variable {installed} {index : Index} {host other : Host}

def AreDistinct (installed : Index → Installation) : Prop :=
  ∀ first second, (installed first).namespaceName = (installed second).namespaceName →
    first = second

theorem agree_of_other_turn (distinct : AreDistinct installed)
    (agree : host.Agree (ownObjectives (installed index).namespaceName) other) {first : Index}
    (foreign : first ≠ index) (event : Event) :
    (Command.runAll ((installed first).lines event) host).Agree
      (ownObjectives (installed index).namespaceName) other := by
  have leaves : Leaves (installed first).namespaceName (installed first).layout host
      (Command.runAll ((installed first).lines event) host) :=
    leaves_runAll (fun _ member => .inl (Installation.belongs_of_mem_lines member)) host
  have different : (installed index).namespaceName ≠ (installed first).namespaceName := by
    intro same
    exact foreign (distinct index first same).symm
  intro objective own
  calc
    (Command.runAll ((installed first).lines event) host).objectives objective =
        host.objectives objective :=
      leaves.objectives objective (disjoint_ownObjectives different own)
    _ = other.objectives objective := agree objective own

variable [DecidableEq Index]

theorem agree_perform (distinct : AreDistinct installed)
    (agree : host.Agree (ownObjectives (installed index).namespaceName) other)
    (turns : List (Index × Event)) :
    (perform installed turns host).Agree (ownObjectives (installed index).namespaceName)
      (perform installed (turns.filter fun turn => turn.1 = index) other) := by
  induction turns generalizing host other with
  | nil => exact agree
  | cons turn turns inductionHypothesis =>
    by_cases own : turn.1 = index
    · rw [List.filter_cons_of_pos (by simpa using own)]
      apply inductionHypothesis
      apply agree.runAll
      intro line member
      rw [← own]
      exact Installation.isGuardedBy_of_mem_lines member
    · rw [List.filter_cons_of_neg (by simpa using own)]
      exact inductionHypothesis (agree_of_other_turn distinct agree own turn.2)

theorem filter_performance (distinct : AreDistinct installed)
    (agree : host.Agree (ownObjectives (installed index).namespaceName) other)
    (turns : List (Index × Event)) :
    (performance installed turns host).filter (fun entry => entry.1.1 = index) =
      performance installed (turns.filter fun turn => turn.1 = index) other := by
  induction turns generalizing host other with
  | nil => rfl
  | cons turn turns inductionHypothesis =>
    by_cases own : turn.1 = index
    · have guarded : ∀ line ∈ (installed turn.1).lines turn.2,
          line.IsGuardedBy (ownObjectives (installed index).namespaceName) := by
        intro line member
        rw [← own]
        exact Installation.isGuardedBy_of_mem_lines member
      rw [performance, List.filter_cons_of_pos (by simpa using own),
        List.filter_cons_of_pos (by simpa using own), performance, agree.drops guarded,
        inductionHypothesis (agree.runAll guarded)]
    · rw [performance, List.filter_cons_of_neg (by simpa using own),
        List.filter_cons_of_neg (by simpa using own)]
      exact inductionHypothesis (agree_of_other_turn distinct agree own turn.2)

end Together

/-- Whichever way the runs of two packages are mixed, each of them ends with the scores, and drops
at each of its ticks the items, that it would have if the other one had never run. -/
theorem scores_of_packages_stay_apart {first second : Installation}
    (different : first.namespaceName ≠ second.namespaceName) (turns : List (Bool × Event))
    (host : Host) (side : Bool) :
    let installed : Bool → Installation := fun side => if side then first else second
    let ownTurns := turns.filter fun turn => turn.1 = side
    (∀ objective ∈ ownObjectives (installed side).namespaceName,
      (perform installed turns host).objectives objective =
        (perform installed ownTurns host).objectives objective) ∧
      (performance installed turns host).filter (fun entry => entry.1.1 = side) =
        performance installed ownTurns host := by
  intro installed ownTurns
  have distinct : AreDistinct installed := by
    intro one another same
    cases one <;> cases another
    · rfl
    · exact absurd same.symm different
    · exact absurd same different
    · rfl
  have same : host.Agree (ownObjectives (installed side).namespaceName) host := fun _ _ => rfl
  exact ⟨agree_perform distinct same turns, filter_performance distinct same turns⟩

/-- Two forges on one host, the name of one being an objective of the other. The second one is
removed after a tick while the first one goes on. -/
theorem forges_count_apart :
    let first : Installation := ⟨⟨"bw", by decide, List.all_eq_true.mp (by decide)⟩, forgeLayout⟩
    let second : Installation :=
      ⟨⟨"bw_generators", by decide, List.all_eq_true.mp (by decide)⟩, forgeLayout⟩
    let installed : Bool → Installation := fun side => if side then first else second
    let turns : List (Bool × Event) := [(true, .load), (false, .load), (true, .tick),
      (false, .tick), (false, .unload), (true, .tick), (false, .tick), (true, .tick)]
    let host : Host := { objectives := fun _ => none, entities := [], storage := fun _ _ => none }
    first.namespaceName ≠ second.namespaceName ∧
      (perform installed turns host).score? "bw_generators" "1" = some 3 ∧
      ((performance installed turns host).filter (fun entry => entry.1.1 = true)).map
        (fun entry => (entry.1.2, entry.2.length)) =
          [(.load, 0), (.tick, 1), (.tick, 1), (.tick, 1)] := by
  intro first second installed turns host
  have different : first.namespaceName ≠ second.namespaceName := by decide
  obtain ⟨objectives, dropped⟩ := scores_of_packages_stay_apart different turns host true
  have agree : Host.Agree _ _ _ := objectives
  have listed : "bw_generators" ∈ ownObjectives (installed true).namespaceName := .head _
  have own : (turns.filter fun turn => turn.1 = true) =
      [(true, .load), (true, .tick), (true, .tick), (true, .tick)] := rfl
  rw [own] at dropped
  simp only [installed]
  refine ⟨different, ?_, ?_⟩
  · rw [agree.score? listed "1", perform_eq_work]
    decide +kernel
  · rw [dropped]
    simp only [performance, Installation.lines_eq_work]
    decide +kernel

end Economy

end Datapack
