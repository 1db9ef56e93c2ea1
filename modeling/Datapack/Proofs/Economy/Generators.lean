import Datapack.Proofs.Duration
import Datapack.Proofs.Economy.Loading
import Datapack.Proofs.Economy.Rendering

/-!
Generators count ticks. Each of them counts modulo its own period and drops its item when the count
is full, whatever the others do.
-/

namespace Datapack.Economy

/-- A generator that waits for nothing drops at every tick. -/
def PlacedGenerator.period (generator : PlacedGenerator) : Nat :=
  max 1 generator.threshold

def droppedItem (namespaceName : Namespace) (item : String) (position : Position) : Entity :=
  { kind := "item"
    position
    entries := [
      ("Tags", .tags [namespaceName.text]),
      ("Item", .compound [("id", .string item), ("count", .int 1)])] }

theorem under_generators (namespaceName : Namespace) (layout : Layout) :
    Command.under "Generators" ((scripts namespaceName layout).instructions .tick) =
      layout.generators.flatMap (generatorCommands namespaceName) :=
  under_instructions_tick rfl

/-- A generator has three lines. -/
theorem take_generatorCommands (namespaceName : Namespace) (generators : List PlacedGenerator)
    (count : Nat) :
    (generators.flatMap (generatorCommands namespaceName)).take (3 * count) =
      (generators.take count).flatMap (generatorCommands namespaceName) := by
  induction generators generalizing count with
  | nil => simp
  | cons generator generators inductionHypothesis =>
    cases count with
    | zero => rfl
    | succ count =>
      have three :
          3 * (count + 1) = (generatorCommands namespaceName generator).length + 3 * count :=
        Nat.add_comm (3 * count) 3
      rw [List.flatMap_cons, List.take_succ_cons, List.flatMap_cons, ← inductionHypothesis count,
        three, List.take_length_add_append]

section Lines

variable (namespaceName : Namespace) (generator : PlacedGenerator)

def countLine : Command :=
  .addScore (generatorHolder generator.id) (generatorsObjective namespaceName) 1

def whenFull (command : Command) : Command :=
  .execute [.scoreAtLeast (generatorHolder generator.id) (generatorsObjective namespaceName)
    generator.threshold] command

def dropLine : Command :=
  whenFull namespaceName generator
    (.summon "item" generator.position
      (.compound (droppedItem namespaceName generator.item generator.position).entries))

def resetLine : Command :=
  whenFull namespaceName generator
    (.setScore (generatorHolder generator.id) (generatorsObjective namespaceName) 0)

theorem generatorCommands_eq :
    generatorCommands namespaceName generator =
      [countLine namespaceName generator, dropLine namespaceName generator,
        resetLine namespaceName generator] := rfl

def dropAt (count : Nat) : Drop :=
  { holder := generatorHolder generator.id
    count
    entities := [droppedItem namespaceName generator.item generator.position] }

variable {namespaceName generator}

/-- A generator's line does nothing, sets the generator's own count, or drops its item. -/
theorem line_cases {line : Command} (member : line ∈ generatorCommands namespaceName generator)
    (host : Host) :
    (Command.drop? (host, line) = none ∧ line.run none host = host) ∨
    (Command.drop? (host, line) = none ∧ ∃ value, line.run none host =
      host.setScore (generatorsObjective namespaceName) (generatorHolder generator.id) value) ∨
    ∃ count,
      Command.drop? (host, line) = some
        { holder := generatorHolder generator.id
          count
          entities := [droppedItem namespaceName generator.item generator.position] } ∧
      line.run none host =
        { host with
          entities := host.entities ++
            [droppedItem namespaceName generator.item generator.position] } := by
  rw [generatorCommands_eq] at member
  simp only [List.mem_cons, List.not_mem_nil, or_false] at member
  rcases member with rfl | rfl | rfl
  · exact .inr (.inl ⟨rfl, _, rfl⟩)
  · have dropped : Command.drop? (host, dropLine namespaceName generator) =
        (host.score? (generatorsObjective namespaceName) (generatorHolder generator.id)).bind
          fun count => if (generator.threshold : Int) ≤ count then some
            { holder := generatorHolder generator.id
              count
              entities := [droppedItem namespaceName generator.item generator.position] }
            else none := rfl
    unfold dropLine whenFull at dropped ⊢
    rw [dropped, Command.run_scoreAtLeast]
    cases host.score? (generatorsObjective namespaceName) (generatorHolder generator.id) with
    | none => exact .inl ⟨rfl, rfl⟩
    | some count =>
      by_cases full : (generator.threshold : Int) ≤ count
      · refine .inr (.inr ⟨count, ?_, ?_⟩)
        · simp [full]
        · simp only [Option.any_some, full, decide_true, if_true]
          rfl
      · exact .inl ⟨by simp [full], by simp [full]⟩
  · unfold resetLine whenFull
    rw [Command.run_scoreAtLeast]
    split
    · exact .inr (.inl ⟨rfl, _, rfl⟩)
    · exact .inl ⟨rfl, rfl⟩

theorem score?_line {line : Command} (member : line ∈ generatorCommands namespaceName generator)
    {name : String} (different : name ≠ generatorHolder generator.id) (host : Host) :
    (line.run none host).score? (generatorsObjective namespaceName) name =
      host.score? (generatorsObjective namespaceName) name := by
  rcases line_cases member host with ⟨-, ran⟩ | ⟨-, value, ran⟩ | ⟨count, -, ran⟩
  · rw [ran]
  · rw [ran, Host.score?_setScore_of_ne host _ different]
  · rw [ran]
    rfl

theorem isSome_line {line : Command} (member : line ∈ generatorCommands namespaceName generator)
    (objective : String) (host : Host) :
    ((line.run none host).objectives objective).isSome = (host.objectives objective).isSome := by
  rcases line_cases member host with ⟨-, ran⟩ | ⟨-, value, ran⟩ | ⟨count, -, ran⟩
  · rw [ran]
  · rw [ran, Host.isSome_setScore]
  · rw [ran]

theorem entities_line {line : Command} (member : line ∈ generatorCommands namespaceName generator)
    (host : Host) :
    (line.run none host).entities =
      host.entities ++ (Command.drop? (host, line)).toList.flatMap Drop.entities := by
  rcases line_cases member host with ⟨dropped, ran⟩ | ⟨dropped, value, ran⟩ | ⟨count, dropped, ran⟩
  · rw [ran, dropped]
    simp
  · rw [ran, dropped]
    simp
  · rw [ran, dropped]
    simp

end Lines

/-- The objective is there, and the generator's count in it. -/
structure Counting (namespaceName : Namespace) (generator : PlacedGenerator) (host : Host)
    (count : Nat) : Prop where
  present : (host.objectives (generatorsObjective namespaceName)).isSome
  score : host.score? (generatorsObjective namespaceName) (generatorHolder generator.id) =
    some (count : Int)

namespace Counting

variable {namespaceName : Namespace} {generator : PlacedGenerator} {host : Host} {count : Nat}

theorem setScore (counting : Counting namespaceName generator host count) (value : Nat) :
    Counting namespaceName generator
      (host.setScore (generatorsObjective namespaceName) (generatorHolder generator.id) value)
      value where
  present := by rw [Host.isSome_setScore]; exact counting.present
  score := by rw [Host.score?_setScore _ _ counting.present, if_pos ⟨rfl, rfl⟩]

theorem run_countLine (counting : Counting namespaceName generator host count) :
    Counting namespaceName generator ((countLine namespaceName generator).run none host)
      (count + 1) := by
  have counted : (countLine namespaceName generator).run none host =
      host.setScore (generatorsObjective namespaceName) (generatorHolder generator.id)
        ((count + 1 : Nat) : Int) := by
    unfold countLine Command.run Host.addScore
    rw [counting.score]
    rfl
  rw [counted]
  exact counting.setScore (count + 1)

theorem run_whenFull (counting : Counting namespaceName generator host count)
    (command : Command) :
    (whenFull namespaceName generator command).run none host =
      if generator.threshold ≤ count then command.run none host else host := by
  unfold whenFull
  rw [Command.run_scoreAtLeast, counting.score]
  simp

theorem run_dropLine (counting : Counting namespaceName generator host count) :
    Counting namespaceName generator ((dropLine namespaceName generator).run none host)
      count := by
  unfold dropLine
  rw [counting.run_whenFull]
  split
  · exact ⟨counting.present, counting.score⟩
  · exact counting

theorem run_resetLine (counting : Counting namespaceName generator host count) :
    Counting namespaceName generator ((resetLine namespaceName generator).run none host)
      (if generator.threshold ≤ count then 0 else count) := by
  unfold resetLine
  rw [counting.run_whenFull]
  split
  · exact counting.setScore 0
  · exact counting

theorem drop?_dropLine (counting : Counting namespaceName generator host count) :
    Command.drop? (host, dropLine namespaceName generator) =
      if generator.threshold ≤ count then some (dropAt namespaceName generator count)
      else none := by
  change (host.score? _ _).bind _ = _
  rw [counting.score]
  simp only [Option.bind_some, Int.ofNat_le]
  rfl

/-- In its turn a generator counts, and starts again if the count is full. -/
theorem turn (counting : Counting namespaceName generator host count) :
    Counting namespaceName generator
      (Command.runAll (generatorCommands namespaceName generator) host)
      (if generator.threshold ≤ count + 1 then 0 else count + 1) :=
  counting.run_countLine.run_dropLine.run_resetLine

theorem turn_moments (counting : Counting namespaceName generator host count) :
    ∀ moment ∈ Command.moments (generatorCommands namespaceName generator) host,
      ∃ score ≤ count + 1, Counting namespaceName generator moment.1 score := by
  intro moment member
  rw [generatorCommands_eq] at member
  simp only [Command.moments, List.mem_cons, List.not_mem_nil, or_false] at member
  rcases member with rfl | rfl | rfl
  · exact ⟨count, Nat.le_succ count, counting⟩
  · exact ⟨count + 1, Nat.le_refl _, counting.run_countLine⟩
  · exact ⟨count + 1, Nat.le_refl _, counting.run_countLine.run_dropLine⟩

theorem turn_drops (counting : Counting namespaceName generator host count) :
    (Command.moments (generatorCommands namespaceName generator) host).filterMap Command.drop? =
      if generator.threshold ≤ count + 1 then [dropAt namespaceName generator (count + 1)]
      else [] := by
  have first : Command.drop? (host, countLine namespaceName generator) = none := rfl
  have last : ∀ state, Command.drop? (state, resetLine namespaceName generator) = none :=
    fun _ => rfl
  rw [generatorCommands_eq]
  simp only [Command.moments, List.filterMap_cons, List.filterMap_nil, first, last,
    counting.run_countLine.drop?_dropLine]
  by_cases full : generator.threshold ≤ count + 1
  · simp only [full, if_true]
  · simp only [full, if_false]

end Counting

section Ticks

variable {namespaceName : Namespace} {generator : PlacedGenerator}
  {others earlier later : List PlacedGenerator} {host : Host} {count : Nat}

/-- A generator's number is not among those of the others. -/
def Apart (generator : PlacedGenerator) (others : List PlacedGenerator) : Prop :=
  ∀ other ∈ others, generatorHolder generator.id ≠ generatorHolder other.id

theorem Counting.line (counting : Counting namespaceName generator host count)
    (apart : Apart generator others) {line : Command}
    (member : line ∈ others.flatMap (generatorCommands namespaceName)) :
    Counting namespaceName generator (line.run none host) count := by
  obtain ⟨other, listed, own⟩ := List.mem_flatMap.mp member
  constructor
  · rw [isSome_line own]
    exact counting.present
  · rw [score?_line own (apart other listed)]
    exact counting.score

theorem Counting.others_turns (counting : Counting namespaceName generator host count)
    (apart : Apart generator others) :
    Counting namespaceName generator
      (Command.runAll (others.flatMap (generatorCommands namespaceName)) host) count :=
  Command.runAll_preserves (fun host => Counting namespaceName generator host count)
    (fun _ member _ counting => counting.line apart member) counting

theorem Counting.others_moments (counting : Counting namespaceName generator host count)
    (apart : Apart generator others) :
    ∀ moment ∈ Command.moments (others.flatMap (generatorCommands namespaceName)) host,
      Counting namespaceName generator moment.1 count :=
  fun _ => Command.moments_preserve (fun host => Counting namespaceName generator host count)
    (fun _ member _ counting => counting.line apart member) counting

theorem Apart.drops (apart : Apart generator others) (host : Host) :
    ((Command.moments (others.flatMap (generatorCommands namespaceName)) host).filterMap
        Command.drop?).filter (fun drop => drop.holder == generatorHolder generator.id) = [] := by
  apply List.filter_eq_nil_iff.mpr
  intro drop member
  obtain ⟨⟨state, line⟩, moment, dropped⟩ := List.mem_filterMap.mp member
  obtain ⟨other, listed, own⟩ := List.mem_flatMap.mp (Command.mem_of_mem_moments moment)
  rcases line_cases own state with ⟨nothing, -⟩ | ⟨nothing, -⟩ | ⟨count, released, -⟩
  · rw [nothing] at dropped
    cases dropped
  · rw [nothing] at dropped
    cases dropped
  · rw [released] at dropped
    obtain rfl := Option.some.inj dropped
    simp only [beq_iff_eq]
    exact Ne.symm (apart other listed)

theorem full_iff (small : count < generator.period) :
    generator.threshold ≤ count + 1 ↔ count + 1 = generator.period := by
  unfold PlacedGenerator.period at small ⊢
  omega

theorem next_count (small : count < generator.period) :
    (if generator.threshold ≤ count + 1 then 0 else count + 1) =
      (count + 1) % generator.period := by
  simp only [full_iff small]
  split
  · next full => rw [full, Nat.mod_self]
  · next short => exact (Nat.mod_eq_of_lt (by omega)).symm

/-- As soon as a generator had its turn in a tick, its count is the next one. -/
theorem Counting.own (counting : Counting namespaceName generator host count)
    (small : count < generator.period) (before : Apart generator earlier) :
    Counting namespaceName generator
      (Command.runAll ((earlier ++ [generator]).flatMap (generatorCommands namespaceName)) host)
      ((count + 1) % generator.period) := by
  rw [List.flatMap_append, List.flatMap_singleton, Command.runAll_append, ← next_count small]
  exact (counting.others_turns before).turn

theorem Counting.tick (counting : Counting namespaceName generator host count)
    (small : count < generator.period) (before : Apart generator earlier)
    (behind : Apart generator later) :
    Counting namespaceName generator
      (Command.runAll ((earlier ++ generator :: later).flatMap (generatorCommands namespaceName))
        host) ((count + 1) % generator.period) := by
  rw [List.append_cons, List.flatMap_append, Command.runAll_append]
  exact (counting.own small before).others_turns behind

theorem Counting.tick_drops (counting : Counting namespaceName generator host count)
    (small : count < generator.period) (before : Apart generator earlier)
    (behind : Apart generator later) :
    ((Command.moments ((earlier ++ generator :: later).flatMap (generatorCommands namespaceName))
        host).filterMap Command.drop?).filter
        (fun drop => drop.holder == generatorHolder generator.id) =
      if count + 1 = generator.period then
        [dropAt namespaceName generator generator.period] else [] := by
  rw [List.flatMap_append, List.flatMap_cons, Command.moments_append, Command.moments_append,
    List.filterMap_append, List.filterMap_append, List.filter_append, List.filter_append,
    before.drops, behind.drops, (counting.others_turns before).turn_drops, List.nil_append,
    List.append_nil]
  simp only [full_iff small]
  split
  · next full =>
    rw [full]
    simp [dropAt]
  · rfl

theorem Counting.tick_moments (counting : Counting namespaceName generator host count)
    (small : count < generator.period) (before : Apart generator earlier)
    (behind : Apart generator later) :
    ∀ moment ∈ Command.moments
        ((earlier ++ generator :: later).flatMap (generatorCommands namespaceName)) host,
      ∃ score ≤ generator.period, Counting namespaceName generator moment.1 score := by
  intro moment member
  -- Before its turn the count is the old one, in the turn at most one more, then the next one.
  rw [List.flatMap_append, List.flatMap_cons, Command.moments_append, Command.moments_append,
    List.mem_append, List.mem_append] at member
  have reached := counting.others_turns before
  rcases member with first | own | last
  · exact ⟨count, Nat.le_of_lt small, counting.others_moments before moment first⟩
  · obtain ⟨score, bounded, scored⟩ := reached.turn_moments moment own
    exact ⟨score, by omega, scored⟩
  · refine ⟨_, ?_, reached.turn.others_moments behind moment last⟩
    rw [next_count small]
    exact Nat.le_of_lt (Nat.mod_lt _ (Nat.zero_lt_of_lt small))

end Ticks

section Runs

variable {namespaceName : Namespace} {generator : PlacedGenerator}
  {earlier later : List PlacedGenerator} {host : Host}

theorem period_pos (generator : PlacedGenerator) : 0 < generator.period := by
  unfold PlacedGenerator.period
  omega

/-- After any number of ticks the count is that number modulo the period. -/
theorem Counting.run (counting : Counting namespaceName generator host 0)
    (before : Apart generator earlier) (behind : Apart generator later) (runs : Nat) :
    Counting namespaceName generator
      ((Command.runAll ((earlier ++ generator :: later).flatMap
        (generatorCommands namespaceName)))^[runs] host) (runs % generator.period) := by
  induction runs with
  | zero =>
    rw [Nat.zero_mod]
    exact counting
  | succ runs inductionHypothesis =>
    have small := Nat.mod_lt runs (period_pos generator)
    rw [Function.iterate_succ_apply', ← Nat.mod_add_mod]
    exact inductionHypothesis.tick small before behind

theorem div_succ (period runs : Nat) (positive : 0 < period) :
    (runs + 1) / period =
      runs / period + if runs % period + 1 = period then 1 else 0 := by
  have parts := Nat.div_add_mod runs period
  have small := Nat.mod_lt runs positive
  split
  · next full =>
    have multiple : runs + 1 = period * (runs / period + 1) := by
      rw [Nat.mul_succ]
      omega
    rw [multiple, Nat.mul_div_cancel_left _ positive]
  · next short =>
    have rest : runs + 1 = period * (runs / period) + (runs % period + 1) := by omega
    rw [rest, Nat.mul_add_div positive, Nat.div_eq_of_lt (a := runs % period + 1) (by omega)]

/-- The drops of a generator come once in a period, at its end. -/
theorem Counting.run_drops (counting : Counting namespaceName generator host 0)
    (before : Apart generator earlier) (behind : Apart generator later) (runs : Nat) :
    (Command.drops ((earlier ++ generator :: later).flatMap (generatorCommands namespaceName))
        host runs).filter (fun entry => entry.2.holder == generatorHolder generator.id) =
      (List.range (runs / generator.period)).map fun turn =>
        ((turn + 1) * generator.period, dropAt namespaceName generator generator.period) := by
  induction runs with
  | zero => simp [Command.drops]
  | succ runs inductionHypothesis =>
    have small := Nat.mod_lt runs (period_pos generator)
    -- The count before the new tick is the remainder, so the tick drops exactly at a multiple.
    have dropped := (counting.run before behind runs).tick_drops small before behind
    rw [Command.drops, List.filter_append, inductionHypothesis, List.filter_map]
    simp only [Function.comp_def]
    rw [dropped, div_succ _ _ (period_pos generator)]
    split
    · next full =>
      have ending : runs + 1 = (runs / generator.period + 1) * generator.period := by
        have parts := Nat.div_add_mod runs generator.period
        rw [Nat.succ_mul, Nat.mul_comm]
        omega
      rw [List.range_succ, List.map_append, List.map_singleton, List.map_singleton, ← ending]
    · rw [Nat.add_zero]
      simp

end Runs

/-- Ticks beyond the largest score are refused. -/
theorem le_largestScore {delay : Number.Binary64} {ticks : Nat}
    (accepted : ticksOfSeconds? delay = some ticks) : ticks ≤ largestScore :=
  Nat.le_pred_of_lt (lt_of_ticksOfSeconds? accepted)

theorem apart_of_places {config : Config} {layout : Layout}
    (resolved : resolve config = .ok layout) (few : config.generators.length < 2 ^ 32)
    {index : Nat} {placed : PlacedGenerator}
    (present : layout.generators[index]? = some placed) :
    Apart placed (layout.generators.take index) ∧
      Apart placed (layout.generators.drop (index + 1)) := by
  have different : ∀ {place : Nat} {other : PlacedGenerator},
      layout.generators[place]? = some other → place ≠ index →
        generatorHolder placed.id ≠ generatorHolder other.id := by
    intro place other found elsewhere same
    obtain ⟨inside, number⟩ := id_generators resolved present
    obtain ⟨otherInside, otherNumber⟩ := id_generators resolved found
    have numbers := Id.text_inj.mp same
    rw [number, otherNumber, Id.ofNat_inj (by omega) (by omega)] at numbers
    exact elsewhere numbers.symm
  constructor
  · intro other member
    obtain ⟨place, found⟩ := List.mem_iff_getElem?.mp member
    rw [List.getElem?_take] at found
    split at found
    · next inside => exact different found (by omega)
    · cases found
  · intro other member
    obtain ⟨place, found⟩ := List.mem_iff_getElem?.mp member
    rw [List.getElem?_drop] at found
    exact different found (by omega)

theorem counts_after_load (namespaceName : Namespace) {config : Config} {layout : Layout}
    (resolved : resolve config = .ok layout) (few : config.generators.length < 2 ^ 32)
    {index : Nat} {placed : PlacedGenerator}
    (found : layout.generators[index]? = some placed) (host : Host) (runs : Nat) :
    let lines := layout.generators.flatMap (generatorCommands namespaceName)
    let loaded := Command.runAll (loadCommands namespaceName layout) host
    let reached := (Command.runAll lines)^[runs] loaded
    Counting namespaceName placed reached (runs % placed.period) ∧
      (Command.drops lines loaded runs).filter
          (fun entry => entry.2.holder == generatorHolder placed.id) =
        (List.range (runs / placed.period)).map (fun turn =>
          ((turn + 1) * placed.period, dropAt namespaceName placed placed.period)) ∧
      Counting namespaceName placed
        (Command.runAll ((layout.generators.take (index + 1)).flatMap
          (generatorCommands namespaceName)) reached) ((runs + 1) % placed.period) ∧
      ∀ moment ∈ Command.moments lines reached,
        ∃ score ≤ placed.period, Counting namespaceName placed moment.1 score := by
  intro lines loaded reached
  obtain ⟨before, behind⟩ := apart_of_places resolved few found
  obtain ⟨inside, here⟩ := List.getElem?_eq_some_iff.mp found
  have split : lines = (layout.generators.take index ++
      placed :: layout.generators.drop (index + 1)).flatMap (generatorCommands namespaceName) := by
    rw [← here, List.getElem_cons_drop, List.take_append_drop]
  have start : Counting namespaceName placed loaded 0 :=
    ⟨isSome_load namespaceName layout host,
      score?_load namespaceName layout (List.mem_of_getElem? found) host⟩
  have counting := start.run before behind runs
  have small : runs % placed.period < placed.period := Nat.mod_lt _ (period_pos placed)
  have own := counting.own small before
  have moments := counting.tick_moments small before behind
  have dropped := start.run_drops before behind runs
  rw [← split] at counting own moments dropped
  refine ⟨counting, dropped, ?_, moments⟩
  rw [List.take_add_one, found, ← Nat.mod_add_mod]
  exact own

/-- Over any number of ticks after a load, every generator counts modulo its period, drops its item
at the end of each period with the count full, and starts again from zero. No entities appear but
these drops, and no count leaves the range of scores. -/
theorem generators_drop_once_a_period (namespaceName : Namespace) {config : Config}
    {layout : Layout} (resolved : resolve config = .ok layout)
    (few : config.generators.length < 2 ^ 32) (host : Host) (runs : Nat) :
    let package := scripts namespaceName layout
    let lines := Command.under "Generators" (package.instructions .tick)
    let loaded := Command.runAll (package.instructions .load) host
    let reached := (Command.runAll lines)^[runs] loaded
    reached.entities = loaded.entities ++
        (Command.drops lines loaded runs).flatMap (fun entry => entry.2.entities) ∧
      ∀ (index : Nat) (generator : Generator), config.generators[index]? = some generator →
        ∃ threshold, ticksOfSeconds? generator.delaySeconds = some threshold ∧
          let period := max 1 threshold
          let holder := generatorHolder (.ofNat index)
          let score? := fun host : Host =>
            host.score? (generatorsObjective namespaceName) holder
          score? reached = some ((runs % period : Nat) : Int) ∧
          (Command.drops lines loaded runs).filter (fun entry => entry.2.holder == holder) =
            (List.range (runs / period)).map (fun turn =>
              ((turn + 1) * period,
                { holder
                  count := period
                  entities := [
                    droppedItem namespaceName generator.item generator.position] })) ∧
          score? (Command.runAll (lines.take (3 * (index + 1))) reached) =
            some (((runs + 1) % period : Nat) : Int) ∧
          ∀ moment ∈ Command.moments lines reached,
            ∃ score ≤ largestScore, score? moment.1 = some ((score : Nat) : Int) := by
  intro package
  rw [under_generators, instructions_load]
  intro lines loaded reached
  constructor
  · apply Command.entities_iterate_eq_drops
    intro line member host
    obtain ⟨generator, -, own⟩ := List.mem_flatMap.mp member
    exact entities_line own host
  · intro index generator given
    obtain ⟨threshold, ticks, found⟩ := getElem?_generators resolved given
    obtain ⟨counting, dropped, own, moments⟩ :=
      counts_after_load namespaceName resolved few found host runs
    rw [← take_generatorCommands] at own
    refine ⟨threshold, ticks, counting.score, dropped, own.score, ?_⟩
    intro moment member
    obtain ⟨score, bounded, scored⟩ := moments moment member
    have representable : max 1 threshold ≤ largestScore :=
      Nat.max_le.mpr ⟨by decide, le_largestScore ticks⟩
    exact ⟨score, Nat.le_trans bounded representable, scored.score⟩

def clayPit : Generator :=
  { item := "clay", position := ⟨.zero, .zero, .zero⟩, delaySeconds := .zero }

def ironMine : Generator :=
  { item := "iron", position := ⟨.one, .zero, .zero⟩, delaySeconds := .one }

/-- One generator drops at every tick, the other one every second. -/
def forge : Config where
  generators := [clayPit, ironMine]

def forgeLayout : Layout where
  generators := [
    { id := 0, item := "clay", position := ⟨.zero, .zero, .zero⟩, threshold := 0 },
    { id := 1, item := "iron", position := ⟨.one, .zero, .zero⟩, threshold := 20 }]

theorem forge_drops_iron_twice_in_forty_five_ticks :
    resolve forge = .ok forgeLayout ∧
      let namespaceName : Namespace := ⟨"bw", by decide, List.all_eq_true.mp (by decide)⟩
      let host : Host := { objectives := fun _ => none, entities := [], storage := fun _ _ => none }
      let package := scripts namespaceName forgeLayout
      let loaded := Command.runAll (package.instructions .load) host
      let lines := Command.under "Generators" (package.instructions .tick)
      let iron := droppedItem namespaceName "iron" ⟨.one, .zero, .zero⟩
      ((Command.runAll lines)^[45] loaded).score? "bw_generators" "1" = some 5 ∧
        (Command.drops lines loaded 45).filter (fun entry => entry.2.holder == "1") =
          [(20, { holder := "1", count := 20, entities := [iron] }),
            (40, { holder := "1", count := 20, entities := [iron] })] := by
  have resolved : resolve forge = .ok forgeLayout := by decide +kernel
  refine ⟨resolved, ?_⟩
  intro namespaceName host package loaded lines iron
  obtain ⟨threshold, ticks, score, dropped, -⟩ :=
    (generators_drop_once_a_period namespaceName resolved (by decide) host 45).2 1 ironMine rfl
  have known : ticksOfSeconds? ironMine.delaySeconds = some 20 := by decide +kernel
  obtain rfl := Option.some.inj (known.symm.trans ticks)
  exact ⟨score, dropped⟩

end Datapack.Economy
