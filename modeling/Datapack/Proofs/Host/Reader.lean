import Datapack.Event
import Datapack.Proofs.Host.Sections
import Datapack.Proofs.Json.Numbers
import Datapack.Proofs.Text.Lines

/-!
What a host reads from the lines of a script. A line is taken apart at its blanks, and its words are
read one kind of instruction at a time; structured data at the end of a line may have blanks of its
own. What a line is written for is read from it again, as long as the names in it are words.
-/

namespace Datapack

open Number

namespace Reader

/-- What stands behind fixed text at the start and before fixed text at the end. -/
def between? (front back text : String) : Option String := do
  let rest ← front.toList.isPrefixOf? text.toList
  let inner ← back.toList.isSuffixOf? rest
  return String.ofList inner

def natural? (word : String) : Option Nat :=
  if word ≠ "" ∧ word.toList.all Char.isDigit then some (naturalOfDigits word.toList) else none

def least? (word : String) : Option Nat := do
  let least ← between? "" ".." word
  natural? least

def coordinate? : String → Option Binary64
  | "NaN" => some .undefined
  | "inf" => some (.infinite false)
  | "-inf" => some (.infinite true)
  | word => ((Literal.read? word.toList).filter Literal.hasDigits).map Literal.value

/-- Data that is split over several words is put together again. -/
def data? (words : List String) : Option Snbt :=
  Snbt.decode? (" ".intercalate words)

def selector? : String → Option Selector
  | "@a" => some .everyPlayer
  | word => do
    let tag ← between? "@e[tag=" "]" word
    if tag.toList.all Snbt.isBareKeyCharacter then some (.tagged tag) else none

def slots? : String → Option Slots
  | "player.cursor" => some .cursor
  | "container.*" => some .container
  | _ => none

/-- A test for custom data alone is for any item. -/
def stackTest? (text : String) : Option StackTest :=
  let item := String.ofList (text.toList.takeWhile (· != '['))
  let options := String.ofList (text.toList.dropWhile (· != '['))
  match between? "[count=" "]" options with
  | some counted => do
    let count ← natural? (String.ofList (counted.toList.takeWhile (· != ',')))
    let data ← between? ",custom_data=" "" (String.ofList (counted.toList.dropWhile (· != ',')))
    let customData ← Snbt.decode? data
    return { item := some (item, count), customData }
  | none => do
    let data ← between? "[custom_data=" "]" options
    let customData ← Snbt.decode? data
    if item = "*" then some { item := none, customData } else none

def scoreboard? : List String → Option Command
  | ["objectives", "add", objective, "dummy"] => some (.addObjective objective)
  | ["objectives", "remove", objective] => some (.removeObjective objective)
  | ["players", "set", holder, objective, value] =>
    (natural? value).map (.setScore holder objective)
  | ["players", "add", holder, objective, value] =>
    (natural? value).map (.addScore holder objective)
  | _ => none

def modification? : List String → Option Command
  | "storage" :: storage :: path :: "set" :: "value" :: value =>
    (data? value).map (.store storage path)
  | ["entity", "@s", "Items", "set", "from", "storage", storage, path] =>
    some (.fillItems storage path)
  | _ => none

/-- An instruction that runs no other one. -/
def simple? : List String → Option Command
  | "scoreboard" :: words => scoreboard? words
  | "data" :: "modify" :: words => modification? words
  | "summon" :: entity :: x :: y :: z :: data => do
    let x ← coordinate? x
    let y ← coordinate? y
    let z ← coordinate? z
    let data ← data? data
    return .summon entity ⟨x, y, z⟩ data
  | ["kill", selector] => (selector? selector).map .kill
  | ["tp", "@s", "~", "~", "~", "facing", "entity", "@p"] => some .facePlayer
  | "clear" :: "@s" :: test => (stackTest? (" ".intercalate test)).map .clear
  | "function" :: function :: arguments => (data? arguments).map (.call function)
  | _ => none

structure Execution where
  clauses : List Clause
  command : Command

def Execution.after (clause : Clause) (execution : Execution) : Execution :=
  { execution with clauses := clause :: execution.clauses }

def Execution.whole (execution : Execution) : Command :=
  .execute execution.clauses execution.command

def execution? : List String → Option Execution
  | "run" :: "execute" :: words => (execution? words).map fun inner => ⟨[], inner.whole⟩
  | "run" :: words => (simple? words).map (Execution.mk [])
  | "as" :: selector :: words => do
    let selector ← selector? selector
    (execution? words).map (.after (.as selector))
  | "at" :: "@s" :: words => (execution? words).map (.after .atSelf)
  | "if" :: "score" :: holder :: objective :: "matches" :: range :: words => do
    let least ← least? range
    (execution? words).map (.after (.scoreAtLeast holder objective least))
  | "if" :: "items" :: "entity" :: "@s" :: slots :: test :: words => do
    let slots ← slots? slots
    let test ← stackTest? test
    (execution? words).map (.after (.holds slots test))
  | _ => none

def instruction? : List String → Option Command
  | "execute" :: words => (execution? words).map Execution.whole
  | words => simple? words

end Reader

/-- The instruction that a line is, or a remark. -/
def Command.read? (line : String) : Option Command :=
  if line.toList.head? == some '#' then (Reader.between? "# " "" line).map .comment
  else Reader.instruction? (partsOf ' ' line)

/-- The instructions in the text of a script. A line that is none is passed over. -/
def Scripts.instructions (scripts : Scripts) (event : Event) : List Command :=
  (linesOf (scripts.render event)).filterMap Command.read?

section Values

namespace Reader

theorem isPrefixOf?_append (front rest : List Char) :
    front.isPrefixOf? (front ++ rest) = some rest := by
  induction front with
  | nil => rfl
  | cons character front inductionHypothesis =>
    rw [List.cons_append, List.isPrefixOf?, beq_self_eq_true, if_pos rfl]
    exact inductionHypothesis

@[simp]
theorem between?_append (front inner back : String) :
    between? front back (front ++ inner ++ back) = some inner := by
  have ending : back.toList.isSuffixOf? (inner.toList ++ back.toList) = some inner.toList := by
    rw [List.isSuffixOf?, List.reverse_append, isPrefixOf?_append, Option.map_some,
      List.reverse_reverse]
  rw [between?, String.toList_append, String.toList_append, List.append_assoc, isPrefixOf?_append,
    Option.bind_eq_bind, Option.bind_some, ending, Option.bind_some, String.ofList_toList]
  rfl

@[simp]
theorem natural?_toString (value : Nat) : natural? (toString value) = some value := by
  have characters : (toString value).toList = Nat.toDigits 10 value := by
    rw [Nat.toString_eq_repr, Nat.toList_repr]
  have digits : (Nat.toDigits 10 value).all Char.isDigit = true :=
    List.all_eq_true.mpr fun _ => Snbt.isDigit_of_mem_toDigits
  have nonempty : toString value ≠ "" := by
    intro empty
    rw [empty] at characters
    exact Nat.toDigits_ne_nil characters.symm
  rw [natural?, characters, if_pos ⟨nonempty, digits⟩, naturalOfDigits_toDigits]

theorem least?_text (least : Nat) : least? (toString least ++ "..") = some least := by
  have range := between?_append "" (toString least) ".."
  rw [String.empty_append] at range
  rw [least?, range, Option.bind_eq_bind, Option.bind_some, natural?_toString]

theorem spells_plain (negative : Bool) (magnitude : Magnitude) :
    Json.Spells ((Binary64.finite negative magnitude).render .plain).toList negative
      (if magnitude.units = 0 then ⟨0, 0⟩ else magnitude.shortest .up) := by
  rw [Json.toList_render, Magnitude.render]
  split
  next =>
    have parts : Json.AreParts ['0'] none := Json.areParts_zero (List.forall_mem_nil _) (by simp)
    refine @Json.spells_parts _ [] _ none negative parts rfl _ ?_
    rfl
  next nonzero =>
    exact Json.spells_positional (digits_shortest_ne_zero .up nonzero) negative (.inl rfl)

theorem hasDigits_of_literal? {characters : List Char} {literal : Literal}
    (read : Json.literal? characters = some literal) :
    Literal.read? characters = some literal ∧ literal.hasDigits = true := by
  obtain ⟨found, valid⟩ := Option.filter_eq_some_iff.mp read
  refine ⟨found, ?_⟩
  by_contra missing
  have empty : literal.whole = [] := by
    simp only [Literal.hasDigits, Bool.not_eq_true, Bool.or_eq_false_iff, Bool.not_eq_false',
      List.isEmpty_iff] at missing
    exact missing.1
  simp [Literal.isCanonical, empty] at valid

/-- Every number is read back from its plain text, a zero with its sign. -/
@[simp]
theorem coordinate?_render (number : Binary64) :
    coordinate? (number.render .plain) = some number := by
  cases number with
  | undefined => rfl
  | infinite negative => cases negative <;> rfl
  | finite negative magnitude =>
    obtain ⟨literal, read, sign, same⟩ := spells_plain negative magnitude
    obtain ⟨found, digits⟩ := hasDigits_of_literal? read
    have named : ∀ name, Json.literal? name.toList = none →
        (Binary64.finite negative magnitude).render .plain ≠ name := by
      rintro name none rfl
      rw [read] at none
      contradiction
    rw [coordinate?]
    · rw [found, Option.filter_some_pos digits, Option.map_some, Json.value_of_shortest sign same]
    · exact named "NaN" rfl
    · exact named "inf" rfl
    · exact named "-inf" rfl

@[simp]
theorem data?_words (data : Snbt) : data? (partsOf ' ' data.text) = some data := by
  rw [data?, intercalate_partsOf rfl, Snbt.decode?_text]

@[simp]
theorem slots?_text (slots : Slots) : slots? slots.text = some slots := by
  cases slots <;> rfl

end Reader

/-- The text may be written as a tag, or as a key without quotes. -/
def IsBare (text : String) : Prop :=
  ∀ character ∈ text.toList, Snbt.isBareKeyCharacter character = true

instance (text : String) : Decidable (IsBare text) :=
  List.decidableBAll _ _

theorem IsBare.isWord {text : String} (bare : IsBare text) : IsWord text :=
  fun member => absurd (bare _ member) (by decide)

def Selector.IsReadable : Selector → Prop
  | .tagged tag => IsBare tag
  | .everyPlayer => True

/-- An item ends where the options of a test begin. -/
def StackTest.IsReadable (test : StackTest) : Prop :=
  ∀ item ∈ test.item, '[' ∉ item.1.toList

namespace Reader

theorem selector?_text {selector : Selector} (readable : selector.IsReadable) :
    selector? selector.text = some selector := by
  cases selector with
  | everyPlayer => rfl
  | tagged tag =>
    have inside : between? "@e[tag=" "]" (Selector.tagged tag).text = some tag :=
      between?_append "@e[tag=" tag "]"
    rw [selector?]
    · rw [inside, Option.bind_eq_bind, Option.bind_some, if_pos (List.all_eq_true.mpr readable)]
    · intro same
      have second := congrArg (fun text : String => text.toList[1]?) same
      simp [Selector.text] at second

theorem cut_append {front rest : String} {mark : Char} (free : mark ∉ front.toList)
    (starts : rest.toList.head? = some mark) :
    String.ofList ((front ++ rest).toList.takeWhile (· != mark)) = front ∧
      String.ofList ((front ++ rest).toList.dropWhile (· != mark)) = rest := by
  have inner : ∀ character ∈ front.toList, (character != mark) = true := by
    intro character member
    rw [bne_iff_ne]
    rintro rfl
    exact free member
  have stop : rest.toList.takeWhile (· != mark) = [] ∧
      rest.toList.dropWhile (· != mark) = rest.toList := by
    obtain ⟨characters, listed⟩ := List.head?_eq_some_iff.mp starts
    simp [listed]
  rw [String.toList_append, List.takeWhile_append_of_pos inner, List.dropWhile_append_of_pos inner,
    stop.1, stop.2, List.append_nil, String.ofList_toList, String.ofList_toList]
  exact ⟨rfl, rfl⟩

theorem stackTest?_text {test : StackTest} (readable : test.IsReadable) :
    stackTest? test.text = some test := by
  obtain ⟨item, customData⟩ := test
  cases item with
  | none =>
    have shape : StackTest.text ⟨none, customData⟩ =
        "*" ++ ("[custom_data=" ++ customData.text ++ "]") := by
      rw [← String.append_assoc, ← String.append_assoc]
      rfl
    have parts := @cut_append "*" ("[custom_data=" ++ customData.text ++ "]") '[' (by decide)
      (by simp)
    have uncounted : between? "[count=" "]" ("[custom_data=" ++ customData.text ++ "]") = none := by
      simp [between?, List.isPrefixOf?]
    simp only [stackTest?, shape, parts, uncounted, between?_append, Option.bind_eq_bind,
      Option.bind_some, Snbt.decode?_text, if_pos]
  | some item =>
    obtain ⟨item, count⟩ := item
    let counted := toString count ++ (",custom_data=" ++ customData.text)
    have shape : StackTest.text ⟨some (item, count), customData⟩ =
        item ++ ("[count=" ++ counted ++ "]") := by
      simp only [StackTest.text, counted, String.append_assoc]
    have front := @cut_append item ("[count=" ++ counted ++ "]") '[' (readable _ rfl) (by simp)
    have digits : ',' ∉ (toString count).toList :=
      fun member => absurd (isDigit_of_mem_toString member) (by decide)
    have back := @cut_append _ (",custom_data=" ++ customData.text) _ digits (by simp)
    have data := between?_append ",custom_data=" customData.text ""
    rw [String.append_empty] at data
    simp only [stackTest?, shape, front, between?_append, counted, back, data, natural?_toString,
      Option.bind_eq_bind, Option.bind_some, Snbt.decode?_text]
    rfl

end Reader

end Values

section Words

/-- The texts that are written with blanks between them. -/
def Clause.pieces : Clause → List String
  | .as selector => ["as", selector.text]
  | .atSelf => ["at", "@s"]
  | .scoreAtLeast holder objective least =>
    ["if", "score", holder, objective, "matches", toString least ++ ".."]
  | .holds slots test => ["if", "items", "entity", "@s", slots.text, test.text]

def Clause.IsReadable : Clause → Prop
  | .as selector => selector.IsReadable
  | .atSelf => True
  | .scoreAtLeast holder objective _ => IsWord holder ∧ IsWord objective
  | .holds _ test => test.IsReadable ∧ IsWord test.text

/-- The texts that are written with blanks between them; data may have more of them. -/
def Command.pieces : Command → List String
  | .comment remark => ["#", remark]
  | .addObjective objective => ["scoreboard", "objectives", "add", objective, "dummy"]
  | .removeObjective objective => ["scoreboard", "objectives", "remove", objective]
  | .setScore holder objective value =>
    ["scoreboard", "players", "set", holder, objective, toString value]
  | .addScore holder objective value =>
    ["scoreboard", "players", "add", holder, objective, toString value]
  | .summon entity position data =>
    ["summon", entity, position.x.render .plain, position.y.render .plain,
      position.z.render .plain, data.text]
  | .store storage path value =>
    ["data", "modify", "storage", storage, path, "set", "value", value.text]
  | .kill selector => ["kill", selector.text]
  | .facePlayer => ["tp", "@s", "~", "~", "~", "facing", "entity", "@p"]
  | .fillItems storage path =>
    ["data", "modify", "entity", "@s", "Items", "set", "from", "storage", storage, path]
  | .clear test => ["clear", "@s", test.text]
  | .call function arguments => ["function", function, arguments.text]
  | .execute clauses command =>
    "execute" :: clauses.flatMap Clause.pieces ++ "run" :: command.pieces

/-- Names are words, so that it shows where they end. -/
def Command.IsReadable : Command → Prop
  | .comment _ => True
  | .addObjective objective => IsWord objective
  | .removeObjective objective => IsWord objective
  | .setScore holder objective _ => IsWord holder ∧ IsWord objective
  | .addScore holder objective _ => IsWord holder ∧ IsWord objective
  | .summon entity _ _ => IsWord entity
  | .store storage path _ => IsWord storage ∧ IsWord path
  | .kill selector => selector.IsReadable
  | .facePlayer => True
  | .fillItems storage path => IsWord storage ∧ IsWord path
  | .clear test => test.IsReadable
  | .call function _ => IsWord function
  | .execute clauses command =>
    clauses ≠ [] ∧ (∀ clause ∈ clauses, clause.IsReadable) ∧ command.isRemark = false ∧
      command.IsReadable

theorem Clause.pieces_ne_nil (clause : Clause) : clause.pieces ≠ [] := by
  cases clause <;> exact List.cons_ne_nil _ _

theorem Command.pieces_ne_nil (command : Command) : command.pieces ≠ [] := by
  cases command <;> exact List.cons_ne_nil _ _

theorem Clause.text_eq (clause : Clause) : clause.text = " ".intercalate clause.pieces := by
  apply String.toList_inj.mp
  unfold Clause.text
  rw [String.toList_intercalate]
  cases clause <;> simp [Clause.pieces]

theorem Command.text_eq {command : Command} (readable : command.IsReadable) :
    command.text = " ".intercalate command.pieces := by
  induction command with
  | execute clauses command inductionHypothesis =>
    obtain ⟨nonempty, -, -, inner⟩ := readable
    have before : clauses.flatMap Clause.pieces ≠ [] := by
      obtain ⟨clause, others, rfl⟩ := List.exists_cons_of_ne_nil nonempty
      rw [List.flatMap_cons]
      exact List.append_ne_nil_of_left_ne_nil clause.pieces_ne_nil _
    unfold Command.text Command.pieces
    rw [List.cons_append, String.intercalate_cons_of_ne_nil (by simp),
      String.intercalate_append_of_ne_nil before (List.cons_ne_nil _ _),
      String.intercalate_cons_of_ne_nil command.pieces_ne_nil,
      intercalate_flatMap Clause.pieces_ne_nil (fun clause => clause.text_eq.symm),
      ← inductionHypothesis inner]
    apply String.toList_inj.mp
    simp
  | summon entity position data =>
    apply String.toList_inj.mp
    unfold Command.text Position.text
    rw [String.toList_intercalate]
    simp [Command.pieces]
  | _ =>
    apply String.toList_inj.mp
    unfold Command.text
    rw [String.toList_intercalate]
    simp [Command.pieces]

theorem Selector.isWord_text {selector : Selector} (readable : selector.IsReadable) :
    IsWord selector.text := by
  cases selector with
  | everyPlayer => decide
  | tagged tag =>
    have name : IsWord tag := IsBare.isWord readable
    simpa [IsWord, Selector.text] using name

@[simp]
theorem isWord_toString (number : Nat) : IsWord (toString number) :=
  fun member => absurd (isDigit_of_mem_toString member) (by decide)

theorem isWord_render (number : Binary64) : IsWord (number.render .plain) :=
  fun member => absurd (isNumeral_render number _ member) (by decide)

theorem Slots.isWord_text (slots : Slots) : IsWord slots.text := by
  cases slots <;> decide

theorem Clause.isWord_of_mem_pieces {clause : Clause} (readable : clause.IsReadable) :
    ∀ piece ∈ clause.pieces, IsWord piece := by
  rcases clause with selector | - | ⟨holder, objective, least⟩ | ⟨slots, test⟩
  · have word := Selector.isWord_text readable
    simpa [Clause.pieces] using ⟨by decide, word⟩
  · simp only [Clause.pieces]
    decide
  · have range : IsWord (toString least ++ "..") :=
      isWord_append.mpr ⟨isWord_toString least, by decide⟩
    simp only [Clause.pieces, List.forall_mem_cons]
    exact ⟨by decide, by decide, readable.1, readable.2, by decide, range, List.forall_mem_nil _⟩
  · simp only [Clause.pieces, List.forall_mem_cons]
    exact ⟨by decide, by decide, by decide, by decide, slots.isWord_text, readable.2,
      List.forall_mem_nil _⟩

namespace Reader

theorem execution?_run (words : List String) :
    execution? ("run" :: words) = (instruction? words).map (Execution.mk []) := by
  unfold instruction?
  split
  · rw [execution?, Option.map_map]
    rfl
  · rw [execution?]
    assumption

theorem execution?_clause {clause : Clause} (readable : clause.IsReadable) (words : List String) :
    execution? (clause.pieces ++ words) = (execution? words).map (.after clause) := by
  rcases clause with selector | - | ⟨holder, objective, least⟩ | ⟨slots, test⟩
  · change execution? ("as" :: selector.text :: words) = _
    rw [execution?, selector?_text readable]
    rfl
  · rfl
  · change execution?
      ("if" :: "score" :: holder :: objective :: "matches" :: (toString least ++ "..") :: words) = _
    rw [execution?, least?_text]
    rfl
  · change execution?
      ("if" :: "items" :: "entity" :: "@s" :: slots.text :: test.text :: words) = _
    rw [execution?, slots?_text, stackTest?_text readable.1]
    rfl

theorem execution?_clauses {clauses : List Clause}
    (readable : ∀ clause ∈ clauses, clause.IsReadable) {words : List String} {command : Command}
    (run : instruction? words = some command) :
    execution? (clauses.flatMap Clause.pieces ++ "run" :: words) = some ⟨clauses, command⟩ := by
  induction clauses with
  | nil => rw [List.flatMap_nil, List.nil_append, execution?_run, run, Option.map_some]
  | cons clause clauses inductionHypothesis =>
    rw [List.forall_mem_cons] at readable
    rw [List.flatMap_cons, List.append_assoc, execution?_clause readable.1,
      inductionHypothesis readable.2]
    rfl

theorem instruction?_pieces {command : Command} (readable : command.IsReadable)
    (instruction : command.isRemark = false) :
    instruction? (command.pieces.flatMap (partsOf ' ')) = some command := by
  induction command with
  | comment remark => cases instruction
  | addObjective objective =>
    have word : IsWord objective := readable
    simp (disch := first | assumption | decide) only [Command.pieces, words_cons]
    rfl
  | removeObjective objective =>
    have word : IsWord objective := readable
    simp (disch := first | assumption | decide) only [Command.pieces, words_cons]
    rfl
  | setScore holder objective value =>
    obtain ⟨holderWord, objectiveWord⟩ := readable
    have number := isWord_toString value
    simp (disch := first | assumption | decide) only [Command.pieces, words_cons]
    change (natural? (toString value)).map (Command.setScore holder objective) = _
    rw [natural?_toString, Option.map_some]
  | addScore holder objective value =>
    obtain ⟨holderWord, objectiveWord⟩ := readable
    have number := isWord_toString value
    simp (disch := first | assumption | decide) only [Command.pieces, words_cons]
    change (natural? (toString value)).map (Command.addScore holder objective) = _
    rw [natural?_toString, Option.map_some]
  | summon entity position data =>
    have word : IsWord entity := readable
    have x := isWord_render position.x
    have y := isWord_render position.y
    have z := isWord_render position.z
    simp (disch := first | assumption | decide) only [Command.pieces, words_cons]
    rw [List.flatMap_singleton]
    change ((coordinate? (position.x.render .plain)).bind fun x =>
      (coordinate? (position.y.render .plain)).bind fun y =>
      (coordinate? (position.z.render .plain)).bind fun z =>
      (data? (partsOf ' ' data.text)).bind fun data =>
        some (Command.summon entity ⟨x, y, z⟩ data)) = _
    rw [coordinate?_render, coordinate?_render, coordinate?_render, data?_words]
    rfl
  | store storage path value =>
    obtain ⟨storageWord, pathWord⟩ := readable
    simp (disch := first | assumption | decide) only [Command.pieces, words_cons]
    rw [List.flatMap_singleton]
    change (data? (partsOf ' ' value.text)).map (Command.store storage path) = _
    rw [data?_words, Option.map_some]
  | kill selector =>
    have word := Selector.isWord_text readable
    simp (disch := first | assumption | decide) only [Command.pieces, words_cons]
    change (selector? selector.text).map Command.kill = _
    rw [selector?_text readable, Option.map_some]
  | facePlayer =>
    simp (disch := first | assumption | decide) only [Command.pieces, words_cons]
    rfl
  | fillItems storage path =>
    obtain ⟨storageWord, pathWord⟩ := readable
    simp (disch := first | assumption | decide) only [Command.pieces, words_cons]
    rfl
  | clear test =>
    simp (disch := first | assumption | decide) only [Command.pieces, words_cons]
    rw [List.flatMap_singleton]
    change (stackTest? (" ".intercalate (partsOf ' ' test.text))).map Command.clear = _
    rw [intercalate_partsOf rfl, stackTest?_text readable, Option.map_some]
  | call function arguments =>
    have word : IsWord function := readable
    simp (disch := first | assumption | decide) only [Command.pieces, words_cons]
    rw [List.flatMap_singleton]
    change (data? (partsOf ' ' arguments.text)).map (Command.call function) = _
    rw [data?_words, Option.map_some]
  | execute clauses command inductionHypothesis =>
    obtain ⟨-, each, plain, inner⟩ := readable
    have words : ∀ piece ∈ clauses.flatMap Clause.pieces, IsWord piece := by
      intro piece member
      obtain ⟨clause, listed, member⟩ := List.mem_flatMap.mp member
      exact Clause.isWord_of_mem_pieces (each clause listed) piece member
    unfold Command.pieces
    rw [List.flatMap_append, words_cons (by decide), words_cons (by decide), flatMap_partsOf words,
      List.cons_append, instruction?, execution?_clauses each (inductionHypothesis inner plain)]
    rfl

end Reader

/-- What a line was written for is read from it. -/
theorem Command.read?_text {command : Command} (readable : command.IsReadable) :
    read? command.text = some command := by
  rw [read?, head?_text]
  cases kind : command.isRemark with
  | true =>
    cases command with
    | comment remark =>
      have behind := Reader.between?_append "# " remark ""
      rw [String.append_empty] at behind
      change (Reader.between? "# " "" ("# " ++ remark)).map Command.comment = _
      rw [behind, Option.map_some]
    | _ => cases kind
  | false =>
    rw [if_neg Bool.false_ne_true, text_eq readable, partsOf_intercalate rfl command.pieces_ne_nil,
      Reader.instruction?_pieces readable kind]

end Words

section Scripts

namespace Command

/-- What is read from the text of an instruction, which may have several lines. -/
def reread (command : Command) : List Command :=
  (linesOf command.text).filterMap read?

theorem reread_eq_self {command : Command} (readable : command.IsReadable)
    (single : IsLine command.text) : command.reread = [command] := by
  rw [reread, linesOf, partsOf_of_not_mem single, List.filterMap_cons, read?_text readable,
    List.filterMap_nil]

theorem flatMap_reread {commands : List Command}
    (readable : ∀ command ∈ commands, command.IsReadable)
    (single : ∀ command ∈ commands, IsLine command.text) :
    commands.flatMap reread = commands := by
  induction commands with
  | nil => rfl
  | cons command commands inductionHypothesis =>
    rw [List.forall_mem_cons] at readable single
    rw [List.flatMap_cons, reread_eq_self readable.1 single.1,
      inductionHypothesis readable.2 single.2, List.singleton_append]

end Command

/-- A rendered script is read one written instruction after the other. -/
theorem Scripts.instructions_eq {scripts : Scripts} {event : Event} {commands : List Command}
    (written : scripts event = commands.map Command.text) (nonempty : commands ≠ []) :
    scripts.instructions event = commands.flatMap Command.reread := by
  rw [instructions, render, written, linesOf, partsOf_intercalate rfl (by simpa using nonempty),
    List.filterMap_flatMap, List.flatMap_map]
  rfl

end Scripts

section Players

/-- An instruction that players carry out. -/
def Command.isForPlayers : Command → Bool
  | .execute (.as .everyPlayer :: _) _ => true
  | _ => false

/-- Whatever stands behind the selector of all players, nobody else is meant. -/
theorem Command.isForPlayers_of_read? {rest : String} {command : Command}
    (read : read? ("execute as @a " ++ rest) = some command) : command.isForPlayers = true := by
  have shape : "execute as @a " ++ rest = " ".intercalate ["execute", "as", "@a", rest] := by
    apply String.toList_inj.mp
    rw [String.toList_intercalate]
    simp
  have words : partsOf ' ' ("execute as @a " ++ rest) =
      "execute" :: "as" :: "@a" :: partsOf ' ' rest := by
    rw [shape, partsOf_intercalate rfl (List.cons_ne_nil _ _)]
    simp (disch := decide) only [words_cons, List.flatMap_singleton]
  rw [read?, if_neg (by simp), words] at read
  change ((Reader.execution? (partsOf ' ' rest)).map
    (Reader.Execution.after (.as .everyPlayer))).map Reader.Execution.whole = _ at read
  obtain ⟨execution, reached, rfl⟩ := Option.map_eq_some_iff.mp read
  obtain ⟨inner, -, rfl⟩ := Option.map_eq_some_iff.mp reached
  rfl

theorem Command.eq_execute_of_isForPlayers {command : Command}
    (players : command.isForPlayers = true) :
    ∃ clauses inner, command = .execute (.as .everyPlayer :: clauses) inner := by
  unfold isForPlayers at players
  split at players
  · exact ⟨_, _, rfl⟩
  · cases players

theorem Command.text_of_isForPlayers {command : Command} (players : command.isForPlayers = true) :
    ∃ rest, command.text = "execute as @a " ++ rest := by
  obtain ⟨clauses, inner, rfl⟩ := eq_execute_of_isForPlayers players
  have first : Clause.text (.as .everyPlayer) = "as @a" := rfl
  unfold Command.text
  rw [List.map_cons, first]
  cases clauses with
  | nil =>
    refine ⟨"run " ++ inner.text, String.toList_inj.mp ?_⟩
    simp
  | cons clause clauses =>
    refine ⟨" ".intercalate ((clause :: clauses).map Clause.text) ++ " run " ++ inner.text,
      String.toList_inj.mp ?_⟩
    rw [String.intercalate_cons_of_ne_nil (by simp)]
    simp

theorem Command.isForPlayers_of_mem_reread {command line : Command}
    (players : command.isForPlayers = true) (single : IsLine command.text)
    (member : line ∈ command.reread) : line.isForPlayers = true := by
  rw [reread, linesOf, partsOf_of_not_mem single] at member
  obtain ⟨text, listed, read⟩ := List.mem_filterMap.mp member
  obtain rfl := List.mem_singleton.mp listed
  obtain ⟨rest, shape⟩ := text_of_isForPlayers players
  rw [shape] at read
  exact isForPlayers_of_read? read

@[simp]
theorem Host.actors_everyPlayer (host : Host) (clauses : List Clause) (actor : Option Nat) :
    host.actors (.as .everyPlayer :: clauses) actor = [] := by
  unfold actors
  rw [List.foldl_cons]
  change clauses.foldl _ [] = []
  induction clauses with
  | nil => rfl
  | cons clause clauses inductionHypothesis => exact inductionHypothesis

/-- Nobody is there to carry out an instruction for players. -/
theorem Command.run_of_isForPlayers {command : Command} (players : command.isForPlayers = true)
    (actor : Option Nat) (host : Host) : command.run actor host = host := by
  obtain ⟨clauses, inner, rfl⟩ := eq_execute_of_isForPlayers players
  rw [run, Host.actors_everyPlayer, List.foldl_nil]

theorem Command.runAll_of_isForPlayers {lines : List Command}
    (players : ∀ line ∈ lines, line.isForPlayers = true) (host : Host) :
    runAll lines host = host := by
  induction lines with
  | nil => rfl
  | cons line lines inductionHypothesis =>
    rw [List.forall_mem_cons] at players
    rw [runAll, List.foldl_cons, run_of_isForPlayers players.1]
    exact inductionHypothesis players.2

end Players

end Datapack
