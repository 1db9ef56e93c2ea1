import Mathlib.Data.List.Pairwise
import Datapack.Definition.Load
import Datapack.Proofs.Disk.Children

/-!
Data files. A name may stand for a file in each of the formats. What is looked for is described
here by what a file tree has: which of the files are there, which two of them come first, and what
is read from the one whose extension leads back to its format.
-/

namespace Datapack

def dataFile (directory : Path) (name : String) (format : Format) : Path :=
  directory.child (name ++ "." ++ format.extension)

/-- A name to which an extension can be added. -/
structure IsDataName (name : String) : Prop where
  nonempty : name ≠ ""
  unbroken : '/' ∉ name.toList

theorem isDataName_pack : IsDataName "pack" where
  nonempty := by decide
  unbroken := by decide

theorem isDataName_economy : IsDataName "economy" where
  nonempty := by decide
  unbroken := by decide

namespace Format

theorem mem_all (format : Format) : format ∈ all := by
  cases format <;> decide

def place (format : Format) : Nat :=
  all.idxOf format

theorem place_injective : Function.Injective place :=
  fun first _ same => (List.idxOf_inj first.mem_all).mp same

theorem pairwise_all : all.Pairwise fun first second => first.place < second.place := by
  decide

theorem ofExtension?_extension (format : Format) :
    ofExtension? format.extension = some format := by
  cases format <;> decide

theorem plain_extension (format : Format) :
    '.' ∉ format.extension.toList ∧ '/' ∉ format.extension.toList := by
  cases format <;> decide

theorem two_lt_length_extension (format : Format) : 2 < format.extension.length := by
  cases format <;> decide

end Format

theorem Path.extensionOfName?_append {name extension : String} (nonempty : name ≠ "")
    (whole : '.' ∉ extension.toList) :
    extensionOfName? (name ++ "." ++ extension) = some extension := by
  have backwards : (name ++ "." ++ extension).toList.reverse =
      extension.toList.reverse ++ '.' :: name.toList.reverse := by
    simp [String.toList_append]
  have passed : ∀ character ∈ extension.toList.reverse, (character != '.') = true := by
    intro character member
    have different : character ≠ '.' := by
      rintro rfl
      exact whole (List.mem_reverse.mp member)
    simpa using different
  obtain ⟨last, others, ends⟩ : ∃ last others, name.toList.reverse = last :: others := by
    apply List.exists_cons_of_ne_nil
    simpa using nonempty
  unfold extensionOfName?
  dsimp only
  rw [backwards, List.takeWhile_append_of_pos passed, List.dropWhile_append_of_pos passed, ends]
  simp

section Names

variable {name : String}

theorem IsDataName.isPlain (valid : IsDataName name) (format : Format) :
    Path.IsPlain (name ++ "." ++ format.extension) := by
  apply Path.isPlain_of_length
  · rw [String.length_append]
    exact Nat.lt_add_left _ format.two_lt_length_extension
  · rw [String.toList_append, String.toList_append, List.mem_append, List.mem_append, not_or,
      not_or]
    exact ⟨⟨valid.unbroken, by decide⟩, format.plain_extension.2⟩

theorem IsDataName.ofPath?_dataFile (valid : IsDataName name) (directory : Path)
    (format : Format) : Format.ofPath? (dataFile directory name format) = some format := by
  have named : (dataFile directory name format).fileName? =
      some (name ++ "." ++ format.extension) := by
    rw [Path.fileName?, dataFile, Path.components_child _ (valid.isPlain format)]
    simp
  rw [Format.ofPath?, Path.extension?, named, Option.bind_some,
    Path.extensionOfName?_append valid.nonempty format.plain_extension.1, Option.bind_some,
    Format.ofExtension?_extension]

end Names

namespace Disk

/-- What a path leads to. -/
def Finds (disk : Disk) (path : Path) (entry : Entry) : Prop :=
  ∃ location, disk.locate path = .ok location ∧ disk.get? location = some entry

def HasData (disk : Disk) (directory : Path) (name : String) (format : Format) : Prop :=
  ∃ entry, disk.Finds (dataFile directory name format) entry

/-- The data file of a name is there in a format, is a text and stands for a value. -/
def ReadsAs {Value : Type} (disk : Disk) (directory : Path) (name : String)
    (parse : Parser Value) (format : Format) (value : Value) : Prop :=
  ∃ text : String, disk.Finds (dataFile directory name format) (.file text.toUTF8) ∧
    parse format text = .ok value

/-- The data file of a name is there in one format and in no other one. -/
structure HasOnly (disk : Disk) (directory : Path) (name : String) (format : Format) : Prop where
  present : disk.HasData directory name format
  only : ∀ other, disk.HasData directory name other → other = format

/-- The two formats of a name's data files that are looked for first. -/
structure AreFirst (disk : Disk) (directory : Path) (name : String) (first second : Format) :
    Prop where
  first_present : disk.HasData directory name first
  second_present : disk.HasData directory name second
  ordered : first.place < second.place
  others : ∀ format, disk.HasData directory name format →
    format = first ∨ second.place ≤ format.place

section Faults

variable (disk : Disk) (directory : Path) (name : String)

/-- There are data files of a name in several formats. -/
inductive Conflicting : LoadError → Prop
  | first_two {first second : Format} (found : disk.AreFirst directory name first second) :
      Conflicting (.conflictingFormats (dataFile directory name first)
        (dataFile directory name second))

inductive Missing : LoadError → Prop
  | absent (none : ∀ format, ¬disk.HasData directory name format) :
      Missing (.missingRequired name directory)

inductive Unreadable : LoadError → Prop
  | directory {format : Format} (found : disk.Finds (dataFile directory name format) .directory) :
      Unreadable (.unreadable .isADirectory)
  | bytes {format : Format} {content : ByteArray}
      (found : disk.Finds (dataFile directory name format) (.file content))
      (broken : ∀ text : String, content ≠ text.toUTF8) : Unreadable (.unreadable .invalidData)

/-- A data file of a name is a text that its format's parser refuses. -/
inductive Unparsable {Value : Type} (parse : Parser Value) : LoadError → Prop
  | refused {format : Format} {text detail : String}
      (found : disk.Finds (dataFile directory name format) (.file text.toUTF8))
      (parsed : parse format text = .error detail) :
      Unparsable parse (.unparsable (dataFile directory name format) detail)

end Faults

variable {disk : Disk} {directory : Path} {name : String}

theorem Finds.unique {path : Path} {first second : Entry} (found : disk.Finds path first)
    (again : disk.Finds path second) : first = second := by
  obtain ⟨location, located, present⟩ := found
  obtain ⟨other, relocated, again⟩ := again
  obtain rfl := Except.ok.inj (located.symm.trans relocated)
  exact Option.some.inj (present.symm.trans again)

theorem finds_of_locate_child {base : Path} {location : Location} (plain : Path.IsPlain name)
    (located : disk.locate (base.child name) = .ok location) :
    ∃ entry, disk.Finds (base.child name) entry := by
  obtain ⟨outer, ends⟩ := base.segments_child_ends plain
  obtain ⟨_, -, walked⟩ := bind_eq_ok_iff.mp located
  rw [ends, walk_append] at walked
  obtain ⟨reached, -, last⟩ := bind_eq_ok_iff.mp walked
  have heard : Path.isSilent name = false ∧ name ≠ ".." := by
    simp [Path.isSilent, plain.ne_dots]
  simp only [walk, heard.1, heard.2, Bool.false_eq_true, if_false] at last
  split at last
  · cases last
  · split at last
    · cases last
    · split at last
      next entry present =>
        obtain rfl := Except.ok.inj last
        exact ⟨entry, _, located, present⟩
      next => cases last

theorem exists?_dataFile_iff (valid : IsDataName name) (format : Format) :
    disk.exists? (dataFile directory name format) = true ↔ disk.HasData directory name format := by
  unfold exists?
  constructor
  · intro there
    split at there
    next location located => exact finds_of_locate_child (valid.isPlain format) located
    next => cases there
  · rintro ⟨entry, location, located, -⟩
    rw [located]

namespace AreFirst

variable {first second : Format}

theorem unique {otherFirst otherSecond : Format}
    (found : disk.AreFirst directory name first second)
    (again : disk.AreFirst directory name otherFirst otherSecond) :
    first = otherFirst ∧ second = otherSecond := by
  have ordered := found.ordered
  have reordered := again.ordered
  have same : first = otherFirst := by
    by_contra different
    have later := (again.others first found.first_present).resolve_left different
    have earlier := (found.others otherFirst again.first_present).resolve_left (Ne.symm different)
    omega
  subst same
  have distinct : ∀ format : Format, first.place < format.place → format ≠ first := by
    rintro format behind rfl
    exact Nat.lt_irrefl _ behind
  have later := (again.others second found.second_present).resolve_left (distinct second ordered)
  have earlier :=
    (found.others otherSecond again.second_present).resolve_left (distinct otherSecond reordered)
  exact ⟨rfl, Format.place_injective (Nat.le_antisymm earlier later)⟩

end AreFirst

theorem HasOnly.not_areFirst {first second format : Format}
    (alone : disk.HasOnly directory name format) :
    ¬disk.AreFirst directory name first second := by
  intro found
  have ordered := found.ordered
  rw [alone.only first found.first_present, alone.only second found.second_present] at ordered
  exact Nat.lt_irrefl _ ordered

section Finding

def formats (disk : Disk) (directory : Path) (name : String) : List Format :=
  Format.all.filter fun format => disk.exists? (dataFile directory name format)

theorem mem_formats_iff (valid : IsDataName name) {format : Format} :
    format ∈ disk.formats directory name ↔ disk.HasData directory name format := by
  rw [formats, List.mem_filter, exists?_dataFile_iff valid]
  exact and_iff_right format.mem_all

theorem pairwise_formats (disk : Disk) (directory : Path) (name : String) :
    (disk.formats directory name).Pairwise fun first second => first.place < second.place :=
  Format.pairwise_all.filter _

theorem find_eq (disk : Disk) (directory : Path) (name : String) :
    disk.find directory name =
      match disk.formats directory name with
      | [] => .ok none
      | [format] => .ok (some (dataFile directory name format))
      | first :: second :: _ =>
        .error (.conflictingFormats (dataFile directory name first)
          (dataFile directory name second)) := by
  have listed : (candidates directory name).filter disk.exists? =
      (disk.formats directory name).map (dataFile directory name) :=
    List.filter_map
  -- The equation of this definition is slow to derive.
  delta find
  rw [listed]
  match disk.formats directory name with
  | [] => rfl
  | [_] => rfl
  | _ :: _ :: _ => rfl

/-- Nothing is found, or the only data file there is, or the first two conflict. -/
theorem find_cases (valid : IsDataName name) (disk : Disk) (directory : Path) :
    ((∀ format, ¬disk.HasData directory name format) ∧ disk.find directory name = .ok none) ∨
      (∃ format, disk.HasOnly directory name format ∧
        disk.find directory name = .ok (some (dataFile directory name format))) ∨
      ∃ first second, disk.AreFirst directory name first second ∧
        disk.find directory name = .error (.conflictingFormats (dataFile directory name first)
          (dataFile directory name second)) := by
  have members : ∀ format, disk.HasData directory name format ↔
      format ∈ disk.formats directory name := fun format => (mem_formats_iff valid).symm
  have ordered := disk.pairwise_formats directory name
  rw [find_eq]
  match listed : disk.formats directory name with
  | [] =>
    refine .inl ⟨?_, rfl⟩
    intro format
    simp [members, listed]
  | [format] =>
    refine .inr (.inl ⟨format, ⟨?_, ?_⟩, rfl⟩)
    · simp [members, listed]
    · simp [members, listed]
  | first :: second :: rest =>
    rw [listed] at ordered
    obtain ⟨before, later⟩ := List.pairwise_cons.mp ordered
    refine .inr (.inr ⟨first, second, ⟨?_, ?_, before second (.head _), ?_⟩, rfl⟩)
    · simp [members, listed]
    · simp [members, listed]
    · intro format present
      rw [members, listed, List.mem_cons, List.mem_cons] at present
      rcases present with same | rfl | member
      · exact .inl same
      · exact .inr (Nat.le_refl _)
      · exact .inr (Nat.le_of_lt ((List.pairwise_cons.mp later).1 format member))

theorem find_eq_ok_none_iff (valid : IsDataName name) :
    disk.find directory name = .ok none ↔ ∀ format, ¬disk.HasData directory name format := by
  rcases find_cases valid disk directory with ⟨absent, found⟩ | ⟨format, alone, found⟩ |
    ⟨first, second, two, found⟩
  · simp [absent, found]
  · simpa [found] using ⟨format, alone.present⟩
  · simpa [found] using ⟨first, two.first_present⟩

theorem find_eq_ok_some_iff (valid : IsDataName name) {file : Path} :
    disk.find directory name = .ok (some file) ↔
      ∃ format, disk.HasOnly directory name format ∧ file = dataFile directory name format := by
  rcases find_cases valid disk directory with ⟨absent, found⟩ | ⟨format, alone, found⟩ |
    ⟨first, second, two, found⟩
  · rw [found]
    refine ⟨nofun, ?_⟩
    rintro ⟨format, alone, -⟩
    exact absurd alone.present (absent format)
  · rw [found]
    constructor
    · intro same
      exact ⟨format, alone, (Option.some.inj (Except.ok.inj same)).symm⟩
    · rintro ⟨other, also, rfl⟩
      rw [alone.only other also.present]
  · rw [found]
    refine ⟨nofun, ?_⟩
    rintro ⟨format, alone, -⟩
    exact absurd two alone.not_areFirst

end Finding

section Decoding

variable {Value : Type} {parse : Parser Value} {format : Format}

theorem readText_of_finds_directory {path : Path} (found : disk.Finds path .directory) :
    disk.readText path = .error .isADirectory := by
  obtain ⟨location, located, present⟩ := found
  rw [readText, read, located]
  simp [bind, Except.bind, present]

theorem readText_of_finds_text {path : Path} {text : String}
    (found : disk.Finds path (.file text.toUTF8)) : disk.readText path = .ok text := by
  obtain ⟨location, located, present⟩ := found
  exact readText_of_read (read_of_locate located present)

theorem readText_of_finds_bytes {path : Path} {content : ByteArray}
    (found : disk.Finds path (.file content)) (broken : ∀ text : String, content ≠ text.toUTF8) :
    disk.readText path = .error .invalidData := by
  obtain ⟨location, located, present⟩ := found
  have undecoded : String.fromUTF8? content = none := by
    apply dif_neg
    intro valid
    exact broken (String.fromUTF8 content valid) rfl
  rw [readText, read_of_locate located present]
  simp [bind, Except.bind, undecoded]

theorem decode_dataFile (valid : IsDataName name) (parse : Parser Value) (format : Format) :
    disk.decode (dataFile directory name format) parse =
      match disk.readText (dataFile directory name format) with
      | .error cause => .error (.unreadable cause)
      | .ok text =>
        match parse format text with
        | .ok value => .ok value
        | .error detail => .error (.unparsable (dataFile directory name format) detail) := by
  rw [decode, valid.ofPath?_dataFile]
  rfl

theorem readText_eq_ok_iff {path : Path} {text : String} :
    disk.readText path = .ok text ↔ disk.Finds path (.file text.toUTF8) := by
  refine ⟨?_, readText_of_finds_text⟩
  intro succeeded
  obtain ⟨content, found, decoded⟩ := bind_eq_ok_iff.mp succeeded
  obtain ⟨location, located, taken⟩ := bind_eq_ok_iff.mp found
  refine ⟨location, located, ?_⟩
  split at taken
  next other present =>
    obtain rfl := Except.ok.inj taken
    rw [present]
    unfold String.fromUTF8? at decoded
    split at decoded
    next converted =>
      split at converted
      next valid =>
        obtain rfl := Option.some.inj converted
        obtain rfl := Except.ok.inj decoded
        rfl
      next => cases converted
    next => cases decoded
  next => cases taken
  next => cases taken

theorem HasOnly.unreadable_iff (alone : disk.HasOnly directory name format) {cause : LoadError} :
    disk.Unreadable directory name cause ↔
      ∃ reason, disk.readText (dataFile directory name format) = .error reason ∧
        cause = .unreadable reason := by
  constructor
  · rintro (found | ⟨found, broken⟩)
    · obtain rfl := alone.only _ ⟨_, found⟩
      exact ⟨_, readText_of_finds_directory found, rfl⟩
    · obtain rfl := alone.only _ ⟨_, found⟩
      exact ⟨_, readText_of_finds_bytes found broken, rfl⟩
  · rintro ⟨reason, failed, rfl⟩
    obtain ⟨entry, found⟩ := alone.present
    cases entry with
    | directory =>
      rw [readText_of_finds_directory found] at failed
      cases failed
      exact .directory found
    | file content =>
      have broken : ∀ text : String, content ≠ text.toUTF8 := by
        rintro text rfl
        rw [readText_of_finds_text found] at failed
        cases failed
      rw [readText_of_finds_bytes found broken] at failed
      cases failed
      exact .bytes found broken

theorem HasOnly.unparsable_iff (alone : disk.HasOnly directory name format) {cause : LoadError} :
    disk.Unparsable directory name parse cause ↔
      ∃ text detail, disk.readText (dataFile directory name format) = .ok text ∧
        parse format text = .error detail ∧
        cause = .unparsable (dataFile directory name format) detail := by
  constructor
  · rintro ⟨found, parsed⟩
    obtain rfl := alone.only _ ⟨_, found⟩
    exact ⟨_, _, readText_of_finds_text found, parsed, rfl⟩
  · rintro ⟨text, detail, read, parsed, rfl⟩
    exact .refused (readText_eq_ok_iff.mp read) parsed

theorem decode_eq_ok_iff (valid : IsDataName name) {value : Value} :
    disk.decode (dataFile directory name format) parse = .ok value ↔
      disk.ReadsAs directory name parse format value := by
  simp only [ReadsAs, ← readText_eq_ok_iff]
  rw [decode_dataFile valid]
  cases disk.readText (dataFile directory name format) with
  | error reason => simp
  | ok text =>
    dsimp only
    cases parsed : parse format text <;> simp [parsed]

end Decoding

end Disk

end Datapack
