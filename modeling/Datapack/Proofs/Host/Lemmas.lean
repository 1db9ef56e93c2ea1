import Mathlib.Data.List.Nodup
import Datapack.Proofs.Host.Basic
import Datapack.Proofs.Lists

/-!
How instructions change a host, one part of it at a time, and how scripts compose.
-/

namespace Datapack

@[simp]
theorem Snbt.entry?_setEntry (entries : List (String × Snbt)) (key other : String)
    (value : Snbt) :
    entry? (setEntry entries key value) other =
      if other = key then some value else entry? entries other := by
  unfold entry? setEntry
  rw [List.reverse_append, List.reverse_singleton, List.singleton_append, ← List.filter_reverse]
  by_cases same : other = key
  · subst same
    simp
  · rw [lookup_of_ne same, lookup_filter_keys (fun name => name != key)]
    simp [same]

namespace Entity

variable (entity : Entity) (value : Snbt) (tag : String)

@[simp]
theorem tags_fill : (entity.fill value).tags = entity.tags := by
  simp [tags, fill]

theorem tags_eq_of_entry {entity : Entity} {names : List String}
    (entry : Snbt.entry? entity.entries "Tags" = some (.tags names)) : entity.tags = names := by
  unfold tags
  rw [entry]
  simp only [Snbt.tags, List.filterMap_map]
  exact List.filterMap_some

end Entity

namespace Host

/-- Changing entities at distinct places changes each of them once. -/
theorem getElem?_foldl_modify (change : Entity → Entity) {places : List Nat}
    (distinct : places.Nodup) (entities : List Entity) (place : Nat) :
    (places.foldl (fun entities place => entities.modify place change) entities)[place]? =
      if place ∈ places then entities[place]?.map change else entities[place]? := by
  induction places generalizing entities with
  | nil => simp
  | cons first places inductionHypothesis =>
    obtain ⟨fresh, distinct⟩ := List.nodup_cons.mp distinct
    rw [List.foldl_cons, inductionHypothesis distinct]
    by_cases here : place = first
    · subst here
      simp [fresh]
    · simp [here, Ne.symm here]

theorem foldl_changeAt (change : Entity → Entity) (places : List Nat) (host : Host) :
    places.foldl (fun host place => host.changeAt place change) host =
      { host with
        entities := places.foldl (fun entities place => entities.modify place change)
          host.entities } := by
  induction places generalizing host with
  | nil => rfl
  | cons place places inductionHypothesis =>
    rw [List.foldl_cons, inductionHypothesis]
    rfl

theorem mem_carriers {host : Host} {tag : String} {place : Nat} {entity : Entity}
    (present : host.entities[place]? = some entity) :
    place ∈ host.carriers tag ↔ entity.answersTo tag = true := by
  have inside : place < host.entities.length := (List.getElem?_eq_some_iff.mp present).1
  unfold carriers
  rw [List.mem_filter, List.mem_range, present]
  simp [inside]

@[simp]
theorem actors_tagged (host : Host) (tag : String) (actor : Option Nat) :
    host.actors [.as (.tagged tag)] actor = (host.carriers tag).map some := by
  simp [actors, advance, selected]

/-- Changing all carriers of a tag changes exactly the entities that answer to it. -/
theorem changeAt_carriers (change : Entity → Entity) (host : Host) (tag : String) :
    (host.carriers tag).foldl (fun host place => host.changeAt place change) host =
      { host with
        entities := host.entities.map fun entity =>
          if entity.answersTo tag then change entity else entity } := by
  rw [foldl_changeAt]
  congr 1
  apply List.ext_getElem?
  intro place
  have distinct : (host.carriers tag).Nodup := List.nodup_range.filter _
  rw [getElem?_foldl_modify change distinct, List.getElem?_map]
  cases present : host.entities[place]? with
  | none => simp
  | some entity =>
    simp only [mem_carriers present, Option.map_some]
    split <;> rfl

section Parts

variable (host : Host) (objective holder : String) (value : Int)

@[simp]
theorem entities_addObjective : (host.addObjective objective).entities = host.entities := by
  unfold addObjective
  split <;> rfl

@[simp]
theorem entities_setScore :
    (host.setScore objective holder value).entities = host.entities := by
  unfold setScore
  split <;> rfl

/-- An objective that exists is not added again. -/
@[simp]
theorem isSome_addObjective (other : String) :
    ((host.addObjective objective).objectives other).isSome =
      (other == objective || (host.objectives other).isSome) := by
  unfold addObjective
  by_cases same : other = objective
  · subst same
    cases present : host.objectives other <;> simp [present]
  · cases present : host.objectives objective <;> simp [same]

@[simp]
theorem isSome_setScore (other : String) :
    ((host.setScore objective holder value).objectives other).isSome =
      (host.objectives other).isSome := by
  unfold setScore
  by_cases same : other = objective
  · subst same
    cases present : host.objectives other <;> simp [present]
  · cases present : host.objectives objective <;> simp [same]

variable {host objective}

@[simp]
theorem score?_setScore (present : (host.objectives objective).isSome) (other name : String) :
    (host.setScore objective holder value).score? other name =
      if other = objective ∧ name = holder then some value else host.score? other name := by
  obtain ⟨scores, found⟩ := Option.isSome_iff_exists.mp present
  unfold setScore score?
  rw [found]
  by_cases same : other = objective
  · subst same
    by_cases own : name = holder
    · simp [own]
    · simp [own, found]
  · simp [same]

theorem score?_setScore_of_ne (host : Host) (objective : String) {holder name : String}
    (different : name ≠ holder) (value : Int) (other : String) :
    (host.setScore objective holder value).score? other name = host.score? other name := by
  unfold setScore
  cases found : host.objectives objective with
  | none => rfl
  | some scores =>
    unfold score?
    by_cases same : other = objective
    · subst same
      simp [found, different]
    · simp [same]

theorem addObjective_of_isSome (present : (host.objectives objective).isSome) :
    host.addObjective objective = host := by
  obtain ⟨scores, found⟩ := Option.isSome_iff_exists.mp present
  rw [addObjective, found]

/-- Setting a score to what it is changes nothing. -/
theorem setScore_of_score? (scored : host.score? objective holder = some value) :
    host.setScore objective holder value = host := by
  obtain ⟨scores, found, same⟩ := Option.bind_eq_some_iff.mp scored
  rw [setScore, found]
  simp only [← same, Function.update_eq_self, ← found]

theorem objectives_addObjective_congr {other : Host} (same : host.objectives = other.objectives)
    (objective : String) :
    (host.addObjective objective).objectives = (other.addObjective objective).objectives := by
  unfold addObjective
  rw [same]
  split
  · exact same
  · rfl

theorem objectives_setScore_congr {other : Host} (same : host.objectives = other.objectives)
    (objective holder : String) (value : Int) :
    (host.setScore objective holder value).objectives =
      (other.setScore objective holder value).objectives := by
  unfold setScore
  rw [same]
  split
  · rfl
  · exact same

end Parts

end Host

namespace Command

@[simp]
theorem runAll_nil (host : Host) : runAll [] host = host := rfl

@[simp]
theorem runAll_cons (line : Command) (lines : List Command) (host : Host) :
    runAll (line :: lines) host = runAll lines (line.run none host) := rfl

@[simp]
theorem runAll_append (lines others : List Command) (host : Host) :
    runAll (lines ++ others) host = runAll others (runAll lines host) :=
  List.foldl_append

@[simp]
theorem moments_append (lines others : List Command) (host : Host) :
    moments (lines ++ others) host = moments lines host ++ moments others (runAll lines host) := by
  induction lines generalizing host with
  | nil => rfl
  | cons line lines inductionHypothesis =>
    rw [List.cons_append, moments, moments, inductionHypothesis]
    rfl

/-- What every line preserves, a script preserves. -/
theorem runAll_preserves (invariant : Host → Prop) {lines : List Command}
    (preserved : ∀ line ∈ lines, ∀ host, invariant host → invariant (line.run none host))
    {host : Host} (holds : invariant host) : invariant (runAll lines host) := by
  induction lines generalizing host with
  | nil => exact holds
  | cons line lines inductionHypothesis =>
    apply inductionHypothesis
    · intro other member
      exact preserved other (.tail _ member)
    · exact preserved line (.head _) host holds

theorem moments_preserve (invariant : Host → Prop) {lines : List Command}
    (preserved : ∀ line ∈ lines, ∀ host, invariant host → invariant (line.run none host))
    {host : Host} (holds : invariant host) {moment : Host × Command}
    (member : moment ∈ moments lines host) : invariant moment.1 := by
  induction lines generalizing host with
  | nil => cases member
  | cons line lines inductionHypothesis =>
    rcases List.mem_cons.mp member with rfl | later
    · exact holds
    · refine inductionHypothesis ?_ (preserved line (.head _) host holds) later
      intro other member
      exact preserved other (.tail _ member)

theorem runAll_keeps {View : Type} (view : Host → View) {lines : List Command}
    (kept : ∀ line ∈ lines, ∀ host, view (line.run none host) = view host) (host : Host) :
    view (runAll lines host) = view host :=
  runAll_preserves (fun reached => view reached = view host)
    (fun line member reached same => (kept line member reached).trans same) rfl

theorem mem_of_mem_moments {lines : List Command} {host : Host} {moment : Host × Command}
    (member : moment ∈ moments lines host) : moment.2 ∈ lines := by
  induction lines generalizing host with
  | nil => cases member
  | cons line lines inductionHypothesis =>
    rcases List.mem_cons.mp member with rfl | later
    · exact .head _
    · exact .tail _ (inductionHypothesis later)

theorem exists_mem_moments {line : Command} {lines : List Command} (member : line ∈ lines)
    (host : Host) : ∃ reached, (reached, line) ∈ moments lines host := by
  induction lines generalizing host with
  | nil => cases member
  | cons first lines inductionHypothesis =>
    rcases List.mem_cons.mp member with rfl | later
    · exact ⟨host, .head _⟩
    · obtain ⟨reached, moment⟩ := inductionHypothesis later (first.run none host)
      exact ⟨reached, .tail _ moment⟩

theorem entities_eq_drops {lines : List Command}
    (each : ∀ line ∈ lines, ∀ host, (line.run none host).entities =
      host.entities ++ (drop? (host, line)).toList.flatMap Drop.entities) (host : Host) :
    (runAll lines host).entities =
      host.entities ++ ((moments lines host).filterMap drop?).flatMap Drop.entities := by
  induction lines generalizing host with
  | nil => simp [moments]
  | cons line lines inductionHypothesis =>
    rw [runAll_cons, inductionHypothesis fun other member => each other (.tail _ member),
      each line (.head _), moments, List.filterMap_cons, List.append_assoc]
    cases drop? (host, line) <;> simp

theorem entities_iterate_eq_drops {lines : List Command}
    (each : ∀ line ∈ lines, ∀ host, (line.run none host).entities =
      host.entities ++ (drop? (host, line)).toList.flatMap Drop.entities) (host : Host)
    (runs : Nat) :
    ((runAll lines)^[runs] host).entities =
      host.entities ++ (drops lines host runs).flatMap fun entry => entry.2.entities := by
  induction runs with
  | zero => simp [drops]
  | succ runs inductionHypothesis =>
    rw [Function.iterate_succ_apply', entities_eq_drops each, inductionHypothesis, drops,
      List.flatMap_append, List.append_assoc, List.flatMap_map]

theorem run_scoreAtLeast (holder objective : String) (least : Nat) (command : Command)
    (host : Host) :
    (Command.execute [.scoreAtLeast holder objective least] command).run none host =
      if (host.score? objective holder).any fun score => (least : Int) ≤ score then
        command.run none host
      else host := by
  simp only [run, Host.actors, Host.advance, List.foldl_cons, List.foldl_nil, List.flatMap_cons,
    List.flatMap_nil, List.append_nil]
  split <;> rfl

theorem foldl_fillItems {name path : String} {value : Snbt} (places : List Nat) (host : Host)
    (stored : host.storage name path = some value) :
    places.foldl (fun host place => (Command.fillItems name path).run (some place) host) host =
      places.foldl (fun host place => host.changeAt place (Entity.fill value)) host := by
  induction places generalizing host with
  | nil => rfl
  | cons place places inductionHypothesis =>
    have filled : (Command.fillItems name path).run (some place) host =
        host.changeAt place (Entity.fill value) := by
      simp only [run, stored]
    rw [List.foldl_cons, List.foldl_cons, filled]
    exact inductionHypothesis _ stored

/-- Refilling from a stored value fills every entity that answers to the tag. -/
theorem run_fillItems {host : Host} {name path : String} {value : Snbt}
    (stored : host.storage name path = some value) (tag : String) :
    (Command.execute [.as (.tagged tag)] (.fillItems name path)).run none host =
      { host with
        entities := host.entities.map fun entity =>
          if entity.answersTo tag then entity.fill value else entity } := by
  rw [run, Host.actors_tagged, List.foldl_map, foldl_fillItems _ host stored,
    Host.changeAt_carriers]

/-- Killing by a tag leaves everything in its place, but nobody who answers to the tag alive. -/
@[simp]
theorem run_kill (tag : String) (actor : Option Nat) (host : Host) :
    (Command.kill (.tagged tag)).run actor host =
      { host with
        entities := host.entities.map fun entity =>
          if entity.answersTo tag then entity.die else entity } :=
  Host.changeAt_carriers Entity.die host tag

end Command

end Datapack
