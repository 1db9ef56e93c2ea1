import Datapack.Snbt.Basic

/-!
Structured data can be read back from its written form. The reader goes down the text by recursion,
with one function for each kind of thing that can stand there. Each of them leaves a rest that is
shorter than what it was given, and carries the proof of that.
-/

namespace Datapack.Snbt

structure Reading (Value : Type) (input : List Char) where
  value : Value
  rest : List Char
  shorter : rest.length < input.length

namespace Reading

variable {First Second Value : Type} {input : List Char}

def map (convert : First → Value) (reading : Reading First input) : Reading Value input :=
  { reading with value := convert reading.value }

def behind {opening : Char} (reading : Reading Value input) : Reading Value (opening :: input) :=
  { reading with shorter := Nat.lt_succ_of_lt reading.shorter }

/-- What was read in two turns. -/
def andThen (first : Reading First input) (second : Reading Second first.rest)
    (join : First → Second → Value) : Reading Value input where
  value := join first.value second.value
  rest := second.rest
  shorter := Nat.lt_trans second.shorter first.shorter

def next? (reading : Reading Value input) : Option (Char × Reading Value input) :=
  match reading with
  | ⟨_, [], _⟩ => none
  | ⟨value, character :: rest, shorter⟩ =>
    some (character, { value, rest, shorter := Nat.lt_of_succ_lt shorter })

end Reading

/-- The longest run of allowed characters in front, which must not be empty. -/
def readRun? (allowed : Char → Bool) (input : List Char) : Option (Reading (List Char) input) :=
  if empty : input.takeWhile allowed = [] then none
  else some {
    value := input.takeWhile allowed
    rest := input.dropWhile allowed
    shorter := by
      have run := List.length_pos_iff.mpr empty
      have parts := congrArg List.length
        (List.takeWhile_append_dropWhile (p := allowed) (l := input))
      rw [List.length_append] at parts
      omega }

def unescape? : Char → Option Char
  | '"' => some '"'
  | '\\' => some '\\'
  | 'n' => some '\n'
  | _ => none

/-- A quoted text from behind the opening quote, up to the closing one. -/
def readQuoted? : (input : List Char) → Option (Reading (List Char) input)
  | [] => none
  | '"' :: rest => some { value := [], rest, shorter := Nat.lt_succ_self _ }
  | ['\\'] => none
  | '\\' :: escaped :: rest => do
    let character ← unescape? escaped
    let reading ← readQuoted? rest
    return (reading.map (character :: ·)).behind.behind
  | character :: rest => do
    let reading ← readQuoted? rest
    return (reading.map (character :: ·)).behind

def readNatural? (input : List Char) : Option (Reading Nat input) := do
  let digits ← readRun? Char.isDigit input
  return digits.map fun digits => Nat.ofDigitChars 10 digits 0

def readInteger? : (input : List Char) → Option (Reading Int input)
  | '-' :: rest => do
    let magnitude ← readNatural? rest
    return (magnitude.map fun magnitude : Nat => -(magnitude : Int)).behind
  | input => do
    let magnitude ← readNatural? input
    return magnitude.map Int.ofNat

/-- A number that is marked as one is a byte. -/
def readNumber? (input : List Char) : Option (Reading Snbt input) := do
  let number ← readInteger? input
  match number.next? with
  | some ('b', number) => return number.map .byte
  | _ => return number.map .int

def readKey? : (input : List Char) → Option (Reading String input)
  | '"' :: rest => do
    let key ← readQuoted? rest
    return (key.map String.ofList).behind
  | input => do
    let key ← readRun? isBareKeyCharacter input
    return key.map String.ofList

mutual

def read? (input : List Char) : Option (Reading Snbt input) :=
  match input with
  | '"' :: rest => do
    let text ← readQuoted? rest
    return (text.map fun text => .string (String.ofList text)).behind
  | '[' :: ']' :: rest =>
    some { value := .list [], rest, shorter := by simp only [List.length_cons]; omega }
  | '[' :: rest => do
    let items ← readItems? rest
    return (items.map .list).behind
  | '{' :: '}' :: rest =>
    some { value := .compound [], rest, shorter := by simp only [List.length_cons]; omega }
  | '{' :: rest => do
    let entries ← readEntries? rest
    return (entries.map .compound).behind
  | 't' :: 'r' :: 'u' :: 'e' :: rest =>
    some { value := .bool true, rest, shorter := by simp only [List.length_cons]; omega }
  | 'f' :: 'a' :: 'l' :: 's' :: 'e' :: rest =>
    some { value := .bool false, rest, shorter := by simp only [List.length_cons]; omega }
  | input => readNumber? input
termination_by (input.length, 0)

/-- The items of a list that has some, up to the closing bracket. -/
def readItems? (input : List Char) : Option (Reading (List Snbt) input) := do
  let item ← read? input
  match item.next? with
  | some (',', item) =>
    let others ← readItems? item.rest
    return item.andThen others List.cons
  | some (']', item) => return item.map List.singleton
  | _ => none
termination_by (input.length, 1)
decreasing_by
  · exact .right _ Nat.one_pos
  · exact .left _ _ item.shorter

/-- The entries of a compound that has some, up to the closing brace. -/
def readEntries? (input : List Char) : Option (Reading (List (String × Snbt)) input) := do
  let key ← readKey? input
  match key.next? with
  | some (':', key) =>
    let value ← read? key.rest
    match (key.andThen value Prod.mk).next? with
    | some (',', entry) =>
      let others ← readEntries? entry.rest
      return entry.andThen others List.cons
    | some ('}', entry) => return entry.map List.singleton
    | _ => none
  | _ => none
termination_by (input.length, 1)
decreasing_by
  · exact .left _ _ key.shorter
  · exact .left _ _ entry.shorter

end

def decode? (text : String) : Option Snbt :=
  match read? text.toList with
  | some ⟨value, [], _⟩ => some value
  | _ => none

def Reads {Value : Type} {input : List Char} (outcome : Option (Reading Value input))
    (value : Value) (rest : List Char) : Prop :=
  ∃ shorter, outcome = some ⟨value, rest, shorter⟩

theorem Reads.bind {First Second : Type} {input whole : List Char}
    {outcome : Option (Reading First input)}
    {next : Reading First input → Option (Reading Second whole)}
    {first : First} {second : Second} {rest others : List Char} (found : Reads outcome first rest)
    (further : ∀ shorter, Reads (next ⟨first, rest, shorter⟩) second others) :
    Reads (outcome >>= next) second others := by
  obtain ⟨shorter, rfl⟩ := found
  exact further shorter

theorem decode?_of_reads {text : String} {value : Snbt}
    (found : Reads (read? text.toList) value []) : decode? text = some value := by
  obtain ⟨shorter, found⟩ := found
  rw [decode?, found]

/-- A rest that does not go on with a run of allowed characters. -/
def Stops (allowed : Char → Bool) (rest : List Char) : Prop :=
  ∀ character ∈ rest.head?, allowed character = false

theorem reads_run {allowed : Char → Bool} {run rest : List Char} (nonempty : run ≠ [])
    (inside : ∀ character ∈ run, allowed character = true) (stops : Stops allowed rest) :
    Reads (readRun? allowed (run ++ rest)) run rest := by
  have ended : rest.takeWhile allowed = [] ∧ rest.dropWhile allowed = rest := by
    cases rest with
    | nil => exact ⟨rfl, rfl⟩
    | cons character rest =>
      have outside := stops character rfl
      simp [outside]
  have taken : (run ++ rest).takeWhile allowed = run := by
    rw [List.takeWhile_append_of_pos inside, ended.1, List.append_nil]
  have dropped : (run ++ rest).dropWhile allowed = rest := by
    rw [List.dropWhile_append_of_pos inside, ended.2]
  simp [Reads, readRun?, taken, dropped, nonempty, List.length_pos_iff]

/-- An escaped character is read as the character it stands for. -/
theorem reads_escape (character : Char) {text value rest : List Char}
    (later : Reads (readQuoted? text) value rest) :
    Reads (readQuoted? (escape character ++ text)) (character :: value) rest := by
  by_cases quote : character = '"'
  · subst quote
    exact later.bind fun _ => ⟨_, rfl⟩
  by_cases backslash : character = '\\'
  · subst backslash
    exact later.bind fun _ => ⟨_, rfl⟩
  by_cases feed : character = '\n'
  · subst feed
    exact later.bind fun _ => ⟨_, rfl⟩
  have plain : escape character = [character] := by simp only [escape]
  rw [plain, List.singleton_append, readQuoted?]
  · exact later.bind fun _ => ⟨_, rfl⟩
  · exact quote
  · intro same
    exact absurd same backslash
  · intro escaped rest same
    exact absurd same backslash

theorem reads_quoted (text rest : List Char) :
    Reads (readQuoted? (text.flatMap escape ++ '"' :: rest)) text rest := by
  induction text with
  | nil => exact ⟨_, rfl⟩
  | cons character text inductionHypothesis =>
    rw [List.flatMap_cons, List.append_assoc]
    exact reads_escape character inductionHypothesis

theorem isDigit_of_mem_toDigits {value : Nat} {character : Char}
    (member : character ∈ Nat.toDigits 10 value) : character.isDigit = true :=
  Nat.isDigit_of_mem_toDigits (by decide) (by decide) member

theorem reads_natural (value : Nat) {rest : List Char} (stops : Stops Char.isDigit rest) :
    Reads (readNatural? (Nat.toDigits 10 value ++ rest)) value rest := by
  have inside : ∀ character ∈ Nat.toDigits 10 value, character.isDigit = true :=
    fun _ member => isDigit_of_mem_toDigits member
  apply (reads_run Nat.toDigits_ne_nil inside stops).bind
  intro shorter
  refine ⟨shorter, ?_⟩
  simp only [Reading.map, Nat.ofDigitChars_ten_toDigits]
  rfl

/-- A written number starts with a digit or a minus sign. -/
theorem intCharacters_starts (value : Int) :
    ∃ first more, intCharacters value = first :: more ∧ (first = '-' ∨ first.isDigit = true) := by
  unfold intCharacters
  split
  · exact ⟨_, _, rfl, .inl rfl⟩
  · obtain ⟨first, more, digits⟩ := List.exists_cons_of_ne_nil
      (Nat.toDigits_ne_nil (n := value.natAbs) (b := 10))
    exact ⟨first, more, digits, .inr (isDigit_of_mem_toDigits (digits ▸ List.mem_cons_self))⟩

theorem readInteger?_of_digit {first : Char} (digit : first.isDigit = true) (more : List Char) :
    readInteger? (first :: more) = do
      let magnitude ← readNatural? (first :: more)
      return magnitude.map Int.ofNat := by
  rw [readInteger?]
  intro rest same
  obtain rfl := (List.cons.inj same).1
  contradiction

theorem reads_integer (value : Int) {rest : List Char} (stops : Stops Char.isDigit rest) :
    Reads (readInteger? (intCharacters value ++ rest)) value rest := by
  have magnitude := reads_natural value.natAbs stops
  by_cases negative : value < 0
  · have number : Reads (readInteger? ('-' :: (Nat.toDigits 10 value.natAbs ++ rest)))
        (-(value.natAbs : Int)) rest := magnitude.bind fun _ => ⟨_, rfl⟩
    rw [intCharacters, if_pos negative]
    rwa [show -(value.natAbs : Int) = value by omega] at number
  · obtain ⟨first, more, digits⟩ := List.exists_cons_of_ne_nil
      (Nat.toDigits_ne_nil (n := value.natAbs) (b := 10))
    have digit : first.isDigit = true := isDigit_of_mem_toDigits (digits ▸ List.mem_cons_self)
    rw [digits] at magnitude
    have number : Reads (readInteger? (first :: more ++ rest)) (value.natAbs : Int) rest := by
      rw [List.cons_append, readInteger?_of_digit digit]
      exact magnitude.bind fun _ => ⟨_, rfl⟩
    rw [intCharacters, if_neg negative, digits]
    rwa [show (value.natAbs : Int) = value by omega] at number

/-- What may stand behind a value: nothing, or what goes on with or closes a list or compound. -/
def Closes (rest : List Char) : Prop :=
  ∀ character ∈ rest.head?, character ∈ [',', ']', '}']

theorem Closes.stops {rest : List Char} (closes : Closes rest) : Stops Char.isDigit rest := by
  intro character first
  have listed := closes character first
  simp only [List.mem_cons, List.not_mem_nil, or_false] at listed
  rcases listed with rfl | rfl | rfl <;> rfl

theorem reads_byte (value : Int) {rest : List Char} :
    Reads (readNumber? (intCharacters value ++ 'b' :: rest)) (.byte value) rest := by
  have stops : Stops Char.isDigit ('b' :: rest) := by
    intro character first
    obtain rfl := Option.some.inj first
    rfl
  exact (reads_integer value stops).bind fun _ => ⟨_, rfl⟩

theorem reads_int (value : Int) {rest : List Char} (closes : Closes rest) :
    Reads (readNumber? (intCharacters value ++ rest)) (.int value) rest := by
  apply (reads_integer value closes.stops).bind
  intro shorter
  cases rest with
  | nil => exact ⟨_, rfl⟩
  | cons first more =>
    have listed := closes first rfl
    simp only [List.mem_cons, List.not_mem_nil, or_false] at listed
    rcases listed with rfl | rfl | rfl
    · exact ⟨_, rfl⟩
    · exact ⟨_, rfl⟩
    · exact ⟨_, rfl⟩

theorem read?_of_number {first : Char} (starts : first = '-' ∨ first.isDigit = true)
    (more : List Char) : read? (first :: more) = readNumber? (first :: more) := by
  rw [read?]
  all_goals
    intro rest same
    obtain rfl := (List.cons.inj same).1
    simp at starts

theorem keyCharacters_starts (key : String) :
    ∃ first more, keyCharacters key = first :: more ∧ first ≠ '}' := by
  unfold keyCharacters
  split
  · next bare =>
    have nonempty : key.toList ≠ [] := by simpa using bare.1
    obtain ⟨first, more, listed⟩ := List.exists_cons_of_ne_nil nonempty
    refine ⟨first, more, listed, ?_⟩
    rintro rfl
    have allowed := List.all_eq_true.mp bare.2 '}' (listed ▸ List.mem_cons_self)
    contradiction
  · exact ⟨_, _, rfl, by decide⟩

theorem characters_starts (value : Snbt) :
    ∃ first more, value.characters = first :: more ∧ first ≠ ']' := by
  have number : ∀ number rest, ∃ first more, intCharacters number ++ rest = first :: more ∧
      first ≠ ']' := by
    intro number rest
    obtain ⟨first, more, written, starts⟩ := intCharacters_starts number
    refine ⟨first, more ++ rest, by rw [written, List.cons_append], ?_⟩
    rintro rfl
    simp at starts
  cases value with
  | byte value => exact number value ['b']
  | int value => simpa [characters] using number value []
  | bool value => cases value <;> exact ⟨_, _, rfl, by decide⟩
  | string value => exact ⟨_, _, rfl, by decide⟩
  | list items => exact ⟨_, _, rfl, by decide⟩
  | compound entries => exact ⟨_, _, rfl, by decide⟩

theorem itemCharacters_starts (item : Snbt) (items : List Snbt) :
    ∃ first more, itemCharacters (item :: items) = first :: more ∧ first ≠ ']' := by
  obtain ⟨first, more, written, starts⟩ := characters_starts item
  cases items with
  | nil => exact ⟨first, more, written, starts⟩
  | cons next items => exact ⟨first, _, by rw [itemCharacters, written, List.cons_append], starts⟩

theorem entryCharacters_starts (entry : String × Snbt) (entries : List (String × Snbt)) :
    ∃ first more, entryCharacters (entry :: entries) = first :: more ∧ first ≠ '}' := by
  obtain ⟨key, value⟩ := entry
  obtain ⟨first, more, written, starts⟩ := keyCharacters_starts key
  cases entries with
  | nil => exact ⟨first, _, by rw [entryCharacters, written, List.cons_append], starts⟩
  | cons next entries =>
    exact ⟨first, _, by rw [entryCharacters, written, List.cons_append], starts⟩

theorem reads_key (key : String) (rest : List Char) :
    Reads (readKey? (keyCharacters key ++ ':' :: rest)) key (':' :: rest) := by
  have whole : String.ofList key.toList = key := String.ofList_toList
  by_cases bare : key ≠ "" ∧ key.toList.all isBareKeyCharacter = true
  · have nonempty : key.toList ≠ [] := by simpa using bare.1
    have allowed := List.all_eq_true.mp bare.2
    have stops : Stops isBareKeyCharacter (':' :: rest) := by
      intro character first
      obtain rfl := Option.some.inj first
      rfl
    have run : Reads (do
          let key ← readRun? isBareKeyCharacter (key.toList ++ ':' :: rest)
          return key.map String.ofList)
        (String.ofList key.toList) (':' :: rest) :=
      (reads_run nonempty allowed stops).bind fun _ => ⟨_, rfl⟩
    rw [whole] at run
    rw [keyCharacters, if_pos bare, readKey?]
    · exact run
    · -- A quote is not allowed in a key that stands bare.
      intro more same
      obtain ⟨first, others, listed⟩ := List.exists_cons_of_ne_nil nonempty
      rw [listed] at same
      obtain rfl := (List.cons.inj same).1
      have quote := allowed '"' (listed ▸ List.mem_cons_self)
      contradiction
  · have quoted : Reads (readKey? ('"' :: (key.toList.flatMap escape ++ '"' :: ':' :: rest)))
        (String.ofList key.toList) (':' :: rest) :=
      (reads_quoted key.toList (':' :: rest)).bind fun _ => ⟨_, rfl⟩
    rw [whole] at quoted
    rw [keyCharacters, if_neg bare, Snbt.quoted, List.cons_append, List.append_assoc]
    exact quoted

/-- That a value is read back wherever it may stand. -/
def Readable (value : Snbt) : Prop :=
  ∀ rest, Closes rest → Reads (read? (value.characters ++ rest)) value rest

theorem reads_items {items : List Snbt} (nonempty : items ≠ [])
    (each : ∀ item ∈ items, item.Readable) (rest : List Char) :
    Reads (readItems? (itemCharacters items ++ ']' :: rest)) items rest := by
  induction items with
  | nil => contradiction
  | cons item items inductionHypothesis =>
    have first := each item (.head _)
    rw [readItems?]
    cases items with
    | nil =>
      apply (first (']' :: rest) (by simp [Closes])).bind
      exact fun _ => ⟨_, rfl⟩
    | cons next items =>
      have others := inductionHypothesis (by simp) fun other member => each other (.tail _ member)
      rw [itemCharacters, List.append_assoc, List.cons_append]
      apply (first _ (by simp [Closes])).bind
      exact fun _ => others.bind fun _ => ⟨_, rfl⟩

theorem reads_entries {entries : List (String × Snbt)} (nonempty : entries ≠ [])
    (each : ∀ entry ∈ entries, entry.2.Readable) (rest : List Char) :
    Reads (readEntries? (entryCharacters entries ++ '}' :: rest)) entries rest := by
  induction entries with
  | nil => contradiction
  | cons entry entries inductionHypothesis =>
    obtain ⟨key, value⟩ := entry
    have first := each (key, value) (.head _)
    rw [readEntries?]
    cases entries with
    | nil =>
      rw [entryCharacters, List.append_assoc, List.cons_append]
      apply (reads_key key _).bind
      intro _
      apply (first ('}' :: rest) (by simp [Closes])).bind
      exact fun _ => ⟨_, rfl⟩
    | cons next entries =>
      have others := inductionHypothesis (by simp) fun other member => each other (.tail _ member)
      rw [entryCharacters, List.append_assoc, List.cons_append, List.append_assoc,
        List.cons_append]
      apply (reads_key key _).bind
      intro _
      apply (first _ (by simp [Closes])).bind
      exact fun _ => others.bind fun _ => ⟨_, rfl⟩

/-- Whatever holds of a list if it holds of its items, and of a compound if it holds of its values,
holds of all data. -/
theorem induct {motive : Snbt → Prop} (byte : ∀ value, motive (.byte value))
    (int : ∀ value, motive (.int value)) (bool : ∀ value, motive (.bool value))
    (string : ∀ value, motive (.string value))
    (list : ∀ items, (∀ item ∈ items, motive item) → motive (.list items))
    (compound : ∀ entries, (∀ entry ∈ entries, motive entry.2) → motive (.compound entries)) :
    ∀ value, motive value
  | .byte value => byte value
  | .int value => int value
  | .bool value => bool value
  | .string value => string value
  | .list items => list items fun item _ => induct byte int bool string list compound item
  | .compound entries =>
    compound entries fun entry _ => induct byte int bool string list compound entry.2
decreasing_by
  · decreasing_tactic
  · next member =>
    have smaller := List.sizeOf_lt_of_mem member
    obtain ⟨key, value⟩ := entry
    simp only [Prod.mk.sizeOf_spec, Snbt.compound.sizeOf_spec] at smaller ⊢
    omega

theorem readable (value : Snbt) : value.Readable := by
  have number : ∀ number behind, read? (intCharacters number ++ behind) =
      readNumber? (intCharacters number ++ behind) := by
    intro number behind
    obtain ⟨first, more, written, starts⟩ := intCharacters_starts number
    rw [written, List.cons_append, read?_of_number starts]
  induction value using induct with
  | byte value =>
    intro rest _
    rw [characters, List.append_assoc, number]
    exact reads_byte value
  | int value =>
    intro rest closes
    rw [characters, number]
    exact reads_int value closes
  | bool value =>
    intro rest _
    cases value <;> (rw [characters]; unfold read?; exact ⟨_, rfl⟩)
  | string value =>
    intro rest _
    have text : Reads (read? ('"' :: (value.toList.flatMap escape ++ '"' :: rest)))
        (.string (String.ofList value.toList)) rest := by
      rw [read?]
      exact (reads_quoted value.toList rest).bind fun _ => ⟨_, rfl⟩
    rw [String.ofList_toList] at text
    rw [characters, quoted, List.cons_append, List.append_assoc]
    exact text
  | list items each =>
    intro rest _
    rw [characters, List.cons_append, List.append_assoc, List.singleton_append]
    cases items with
    | nil =>
      change Reads (read? ('[' :: ']' :: rest)) _ _
      rw [read?]
      exact ⟨_, rfl⟩
    | cons item items =>
      obtain ⟨first, more, written, starts⟩ := itemCharacters_starts item items
      have inside := reads_items (List.cons_ne_nil item items) each rest
      rw [written, List.cons_append] at inside ⊢
      rw [read?]
      · exact inside.bind fun _ => ⟨_, rfl⟩
      · intro closed same
        exact starts (List.cons.inj same).1
  | compound entries each =>
    intro rest _
    rw [characters, List.cons_append, List.append_assoc, List.singleton_append]
    cases entries with
    | nil =>
      change Reads (read? ('{' :: '}' :: rest)) _ _
      rw [read?]
      exact ⟨_, rfl⟩
    | cons entry entries =>
      obtain ⟨first, more, written, starts⟩ := entryCharacters_starts entry entries
      have inside := reads_entries (List.cons_ne_nil entry entries) each rest
      rw [written, List.cons_append] at inside ⊢
      rw [read?]
      · exact inside.bind fun _ => ⟨_, rfl⟩
      · intro closed same
        exact starts (List.cons.inj same).1

@[simp]
theorem decode?_text (value : Snbt) : decode? value.text = some value := by
  apply decode?_of_reads
  have whole := readable value [] (by simp [Closes])
  rwa [text, String.toList_ofList, ← List.append_nil value.characters]

/-- A written value is read back, all of it, as the value it was written from; so no two values are
written alike. -/
theorem text_is_uniquely_decodable :
    (∀ value : Snbt, decode? value.text = some value) ∧ Function.Injective text := by
  refine ⟨decode?_text, ?_⟩
  intro first second same
  apply Option.some.inj
  rw [← decode?_text first, ← decode?_text second, same]

end Datapack.Snbt
