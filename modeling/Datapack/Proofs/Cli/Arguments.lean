import Datapack.Cli.Run

/-!
What arguments ask for. Plain values end up where the verb expects them, and no argument that
follows `render` makes it write.
-/

namespace Datapack

theorem Event.ofName?_name (event : Event) : ofName? event.name = some event := by
  cases event <;> rfl

namespace Cli

/-- An argument that is a value by itself: there is something, and it is no option. -/
structure IsValue (text : String) : Prop where
  nonempty : text ≠ ""
  plain : text.toList.head? ≠ some '-'

instance (text : String) : Decidable (IsValue text) :=
  decidable_of_iff (text ≠ "" ∧ text.toList.head? ≠ some '-')
    ⟨fun ⟨nonempty, plain⟩ => ⟨nonempty, plain⟩, fun given => ⟨given.nonempty, given.plain⟩⟩

theorem Event.isValue_name (event : Event) : IsValue event.name := by
  cases event <;> decide

namespace Reading

variable {arguments : Arguments} {text : String}

/-- A plain argument is the option's value if the option waits for one, and else a value by
itself. -/
theorem next_of_isValue (given : IsValue text) (asked : arguments.topics = none) :
    next (.going arguments) text =
      if arguments.awaitsOutput then setOutput arguments text else value arguments text := by
  have plain := given.plain
  unfold next
  simp only [asked]
  split <;> simp_all

theorem next_directory (verb : Verb) (given : IsValue text) :
    next (.going { verb := some verb }) text =
      .going { verb := some verb, values := [text] } := by
  rw [next_of_isValue given rfl]
  cases verb <;> simp [value, Verb.valueCount, given.nonempty]

theorem next_event (directory : String) (event : Event) :
    next (.going { verb := some .render, values := [directory] }) event.name =
      .going { verb := some .render, values := [directory, event.name] } := by
  have given := Event.isValue_name event
  rw [next_of_isValue given rfl]
  simp [value, Verb.valueCount, given.nonempty, event.ofName?_name]

theorem next_output (directory : String) (given : IsValue text) :
    next (.going { verb := some .build, values := [directory], awaitsOutput := true }) text =
      .going { verb := some .build, values := [directory], output := some text } := by
  rw [next_of_isValue given rfl]
  simp [setOutput, given.nonempty]

end Reading

theorem Invocation.ofArguments_render {directory : String} (given : IsValue directory)
    (event : Event) :
    ofArguments ["render", directory, event.name] = .render (.ofString directory) event := by
  have first : Reading.next (.going {}) "render" = .going { verb := some .render } := rfl
  unfold ofArguments
  rw [List.foldl_cons, List.foldl_cons, List.foldl_cons, List.foldl_nil, first,
    Reading.next_directory .render given, Reading.next_event]
  simp [Arguments.invocation, event.ofName?_name]

theorem Invocation.ofArguments_build {directory output : String} (given : IsValue directory)
    (named : IsValue output) :
    ofArguments ["build", directory, "-o", output] =
      .build (.ofString directory) (.ofString output) := by
  have first : Reading.next (.going {}) "build" = .going { verb := some .build } := rfl
  have option : Reading.next (.going { verb := some .build, values := [directory] }) "-o" =
      .going { verb := some .build, values := [directory], awaitsOutput := true } := rfl
  unfold ofArguments
  rw [List.foldl_cons, List.foldl_cons, List.foldl_cons, List.foldl_cons, List.foldl_nil, first,
    Reading.next_directory .build given, option, Reading.next_output directory named]
  rfl

def Invocation.writes : Invocation → Bool
  | .build .. => true
  | _ => false

theorem Invocation.disk_run {invocation : Invocation} (harmless : invocation.writes = false)
    (disk : Disk) (parsers : Parsers) : (invocation.run disk parsers).disk = disk := by
  cases invocation with
  | build packDirectory outputRoot => cases harmless
  | render packDirectory event =>
    unfold run
    dsimp only
    split <;> rfl
  | _ => rfl

namespace Reading

/-- Reading has come to a point from which it does not lead to writing. -/
def Renders : Reading → Prop
  | .going arguments => arguments.verb = some .render
  | .settled invocation => invocation.writes = false

section Steps

variable {arguments : Arguments} (rendering : arguments.verb = some .render)

include rendering

theorem renders_setOutput (text : String) : (setOutput arguments text).Renders := by
  unfold setOutput
  split
  · rfl
  · exact rendering

theorem renders_value (text : String) : (value arguments text).Renders := by
  unfold value
  simp only [rendering]
  split
  · rfl
  · split
    · rfl
    · split <;> rfl

theorem versionFlag_eq_misuse : versionFlag arguments = misuse := by
  simp [versionFlag, rendering]

theorem outputFlag_eq_misuse : outputFlag arguments = misuse := by
  simp [outputFlag, rendering]

theorem renders_shortFlags (flags : List Char) : (shortFlags arguments flags).Renders := by
  induction flags with
  | nil => exact rendering
  | cons flag flags inductionHypothesis =>
    unfold shortFlags
    rw [versionFlag_eq_misuse rendering, outputFlag_eq_misuse rendering]
    split
    next => exact rendering
    next rest same =>
      obtain ⟨-, rfl⟩ := List.cons.inj same
      exact inductionHypothesis
    next => rfl
    next => rfl
    next => rfl
    next => rfl

theorem renders_longFlag (text : List Char) : (longFlag arguments text).Renders := by
  unfold longFlag
  rw [versionFlag_eq_misuse rendering, outputFlag_eq_misuse rendering]
  dsimp only
  split
  · exact rendering
  · rfl
  · rfl
  · rfl
  · rfl
  · rfl

end Steps

theorem renders_next {reading : Reading} (renders : reading.Renders) (text : String) :
    (next reading text).Renders := by
  cases reading with
  | settled invocation => exact renders
  | going arguments =>
    unfold next
    dsimp only
    split
    · exact renders
    · split
      · rfl
      · exact renders_setOutput renders text
      · exact renders_value renders text
      · exact renders
      · exact renders_longFlag renders _
      · exact renders_shortFlags renders _
      · exact renders_value renders text

theorem renders_foldl {reading : Reading} (renders : reading.Renders) (texts : List String) :
    (texts.foldl next reading).Renders := by
  induction texts generalizing reading with
  | nil => exact renders
  | cons text texts inductionHypothesis => exact inductionHypothesis (renders_next renders text)

end Reading

theorem Arguments.writes_invocation {arguments : Arguments}
    (rendering : arguments.verb = some .render) : arguments.invocation.writes = false := by
  unfold invocation
  simp only [rendering]
  split
  · rfl
  · split
    · next topics _ =>
      unfold helpAbout
      split
      · rfl
      · split <;> rfl
      · rfl
    · split
      · contradiction
      · split <;> rfl
      · rfl

/-- Whatever else it is told, `render` is not a way to write. -/
theorem Invocation.writes_render (texts : List String) :
    (ofArguments ("render" :: texts)).writes = false := by
  have first : (Reading.next (.going {}) "render").Renders := rfl
  have last := Reading.renders_foldl first texts
  unfold ofArguments
  rw [List.foldl_cons]
  split
  · next invocation settled =>
    rw [settled] at last
    exact last
  · next arguments going =>
    rw [going] at last
    exact arguments.writes_invocation last

end Cli

end Datapack
