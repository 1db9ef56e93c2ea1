import Datapack.Proofs.Disk.Making
import Datapack.Proofs.Package.Atomicity
import Datapack.Proofs.Package.Functions

/-!
When a package's own files can be written. It is enough that the package's directory is new, that no
file is in the way to it and that it leaves room for the longest path below it.
-/

namespace Datapack

open Disk

theorem Path.text_size_child {base : Path} {outer : List String} {last name : String}
    (ends : base.segments = outer ++ [last]) (heard : last ≠ "") (plain : IsPlain name) :
    (base.child name).text.utf8ByteSize = base.text.utf8ByteSize + 1 + name.utf8ByteSize := by
  have nonempty : base.segments ≠ [] := by simp [ends]
  have slash : "/".utf8ByteSize = 1 := rfl
  rw [text, segments_child ends heard plain,
    String.intercalate_append_of_ne_nil nonempty (List.cons_ne_nil name []),
    String.intercalate_singleton, String.utf8ByteSize_append, String.utf8ByteSize_append, slash]
  rfl

namespace PackLayout

variable {layout : PackLayout} {outer : List String} {last : String}

theorem segments_functionDirectory (ends : layout.directory.segments = outer ++ [last])
    (heard : last ≠ "") (proper : layout.namespaceName.IsProper) :
    layout.functionDirectory.segments =
      layout.directory.segments ++ ["data", layout.namespaceName.text] ++ ["function"] := by
  have data := Path.segments_child ends heard isPlain_data
  have own := Path.segments_child data (by decide) proper.isPlain
  have function := Path.segments_child own layout.namespaceName.nonempty isPlain_function
  rw [functionDirectory, function, own, data]
  simp

theorem text_size_functionDirectory (ends : layout.directory.segments = outer ++ [last])
    (heard : last ≠ "") (proper : layout.namespaceName.IsProper) :
    layout.functionDirectory.text.utf8ByteSize =
      layout.directory.text.utf8ByteSize + layout.namespaceName.text.utf8ByteSize + 15 := by
  obtain ⟨_, first⟩ := layout.directory.segments_child_ends isPlain_data
  obtain ⟨_, second⟩ := (layout.directory.child "data").segments_child_ends proper.isPlain
  rw [functionDirectory, Path.text_size_child second layout.namespaceName.nonempty isPlain_function,
    Path.text_size_child first (by decide) proper.isPlain,
    Path.text_size_child ends heard isPlain_data]
  have sizes : "data".utf8ByteSize = 4 ∧ "function".utf8ByteSize = 8 := by decide
  omega

theorem text_size_functionPath (ends : layout.directory.segments = outer ++ [last])
    (heard : last ≠ "") (proper : layout.namespaceName.IsProper) {name : String}
    (unbroken : '/' ∉ name.toList) :
    (layout.functionPath name).text.utf8ByteSize =
      layout.directory.text.utf8ByteSize + layout.namespaceName.text.utf8ByteSize + 27 +
        name.utf8ByteSize := by
  have whole := segments_functionDirectory ends heard proper
  have directory := text_size_functionDirectory ends heard proper
  have size : ".mcfunction".utf8ByteSize = 11 := rfl
  rw [functionPath, Path.text_size_child whole (by decide) (Path.isPlain_functionFile unbroken),
    String.utf8ByteSize_append]
  omega

theorem text_size_tagDirectory (ends : layout.directory.segments = outer ++ [last])
    (heard : last ≠ "") :
    layout.tagDirectory.text.utf8ByteSize = layout.directory.text.utf8ByteSize + 29 := by
  obtain ⟨_, first⟩ := layout.directory.segments_child_ends isPlain_data
  obtain ⟨_, second⟩ := (layout.directory.child "data").segments_child_ends isPlain_minecraft
  obtain ⟨_, third⟩ :=
    ((layout.directory.child "data").child "minecraft").segments_child_ends isPlain_tags
  rw [tagDirectory, Path.text_size_child third (by decide) isPlain_function,
    Path.text_size_child second (by decide) isPlain_tags,
    Path.text_size_child first (by decide) isPlain_minecraft,
    Path.text_size_child ends heard isPlain_data]
  have sizes : "data".utf8ByteSize = 4 ∧ "minecraft".utf8ByteSize = 9 ∧ "tags".utf8ByteSize = 4 ∧
      "function".utf8ByteSize = 8 := by decide
  omega

end PackLayout

namespace Work

theorem makeDirectories_of_passable {paths : List Path} {work : Work} (tree : work.disk.IsTree)
    (passable : ∀ path ∈ paths, work.disk.IsPassable path) :
    (work.makeDirectories paths).1 = .ok () := by
  induction paths generalizing work with
  | nil => rfl
  | cons path paths inductionHypothesis =>
    have went := (passable path (.head _)).ensureDirectories tree
    have growth : Grows (fun _ => True) (fun _ => False) work.disk
        (work.disk.ensureDirectories path).2 :=
      ensureDirectories_grows work.disk fun _ _ => trivial
    rcases made : work.disk.ensureDirectories path with ⟨outcome, disk⟩
    rw [made] at went growth
    obtain rfl : outcome = .ok () := went
    rw [makeDirectories, made]
    apply inductionHypothesis (growth.isTree tree)
    intro other member
    exact (passable other (.tail _ member)).grow growth

theorem writeFiles_of_takes {files : List (Path × String)} {work : Work}
    (takes : ∀ file ∈ files, work.disk.Takes file.1) : (work.writeFiles files).1 = .ok () := by
  induction files generalizing work with
  | nil => rfl
  | cons file files inductionHypothesis =>
    obtain ⟨path, text⟩ := file
    have stored := (takes (path, text) (.head _)).write text.toUTF8
    have written : work.write path text = .ok _ := bind_eq_ok_iff.mpr ⟨_, stored, rfl⟩
    rw [writeFiles, written]
    apply inductionHypothesis
    intro other member
    exact (takes other (.tail _ member)).of_write stored

end Work

theorem Namespace.IsProper.isFileName {namespaceName : Namespace} (proper : namespaceName.IsProper)
    (short : namespaceName.text.utf8ByteSize ≤ nameLimit) : IsFileName namespaceName.text where
  named := proper.isPlain.named
  complete := by
    intro member
    have allowed := namespaceName.allowed _ member
    contradiction
  short := short

/-- A package's directory that is new, with no file in the way to it and with room for the longest
of the paths below it. -/
structure PackLayout.HasRoom (layout : PackLayout) (disk : Disk) : Prop where
  proper : layout.namespaceName.IsProper
  named : layout.namespaceName.text.utf8ByteSize ≤ nameLimit
  ends : ∃ outer, layout.directory.segments = outer ++ [layout.namespaceName.text]
  passable : disk.IsPassable layout.directory
  free : disk.get? (disk.place layout.directory) = none
  tags : layout.directory.text.utf8ByteSize + 39 < pathLimit
  functions :
    layout.directory.text.utf8ByteSize + layout.namespaceName.text.utf8ByteSize + 33 < pathLimit

namespace PackLayout.HasRoom

variable {layout : PackLayout} {disk : Disk} {package : Package} {work middle : Work}

theorem isPassable (fits : layout.HasRoom disk) (tree : disk.IsTree) :
    ∀ path ∈ [layout.tagDirectory, layout.functionDirectory], disk.IsPassable path := by
  obtain ⟨outer, ends⟩ := fits.ends
  have heard := layout.namespaceName.nonempty
  have clear := fits.passable.clear.append tree fits.free
  intro path member
  simp only [List.mem_cons, List.not_mem_nil, or_false] at member
  rcases member with rfl | rfl
  · have whole := segments_tagDirectory ends heard
    have size := text_size_tagDirectory ends heard
    have room := fits.tags
    rw [List.append_assoc] at whole
    apply fits.passable.extend ends heard whole (by decide) (by omega)
    rw [layout.place_tagDirectory disk]
    exact clear _
  · have whole := segments_functionDirectory ends heard fits.proper
    have size := text_size_functionDirectory ends heard fits.proper
    have room := fits.functions
    rw [List.append_assoc] at whole
    apply fits.passable.extend ends heard whole _ (by omega)
    · rw [layout.place_functionDirectory disk fits.proper]
      exact clear _
    · intro name listed
      simp only [List.cons_append, List.nil_append, List.mem_cons, List.not_mem_nil, or_false]
        at listed
      rcases listed with rfl | rfl | rfl
      · decide
      · exact fits.proper.isFileName fits.named
      · decide

/-- The directories that were made are open, and so is the package's own. -/
theorem isOpen (fits : layout.HasRoom work.disk) (tree : work.disk.IsTree)
    (made : work.makeDirectories [layout.tagDirectory, layout.functionDirectory] =
      (.ok (), middle)) :
    ∀ base ∈ [layout.directory, layout.tagDirectory, layout.functionDirectory],
      middle.disk.IsOpen base := by
  obtain ⟨outer, ends⟩ := fits.ends
  have heard := layout.namespaceName.nonempty
  have tags : middle.disk.IsOpen layout.tagDirectory := by
    have last : ∃ outer last, layout.tagDirectory.segments = outer ++ [last] ∧
        Path.isSilent last = false :=
      ⟨_, _, segments_tagDirectory ends heard, rfl⟩
    exact ⟨last, Work.isDirectoryPath_of_makeDirectories made (.head _) last⟩
  have functions : middle.disk.IsOpen layout.functionDirectory := by
    have last : ∃ outer last, layout.functionDirectory.segments = outer ++ [last] ∧
        Path.isSilent last = false :=
      ⟨_, _, segments_functionDirectory ends heard fits.proper, rfl⟩
    exact ⟨last, Work.isDirectoryPath_of_makeDirectories made (.tail _ (.head _)) last⟩
  have own : middle.disk.IsOpen layout.directory := by
    have grown : Grows (fun _ => True) (fun _ => False) work.disk
        (work.makeDirectories [layout.tagDirectory, layout.functionDirectory]).2.disk :=
      Work.makeDirectories_grows work fun _ _ _ _ => trivial
    rw [made] at grown
    have there := isDirectory_of_isDirectoryPath tags.there
    rw [layout.place_tagDirectory middle.disk] at there
    have silent : Path.isSilent layout.namespaceName.text = false := by
      simp [Path.isSilent, heard, fits.proper.1]
    refine ⟨⟨outer, _, ends, silent⟩, ?_⟩
    apply isDirectoryPath_of_isDirectory (grown.isTree tree) fits.passable.checked
      fits.passable.level
    exact (grown.isTree tree).isDirectory_of_begins (List.prefix_append _ _) there
  intro base member
  simp only [List.mem_cons, List.not_mem_nil, or_false] at member
  rcases member with rfl | rfl | rfl
  · exact own
  · exact tags
  · exact functions

theorem isDirectory_eq_false (fits : layout.HasRoom work.disk) (tree : work.disk.IsTree)
    (made : work.makeDirectories [layout.tagDirectory, layout.functionDirectory] =
      (.ok (), middle)) {rest : Location}
    (aside : ¬rest <+: ["data", "minecraft", "tags", "function"])
    (apart : ¬rest <+: ["data", layout.namespaceName.text, "function"]) :
    middle.disk.isDirectory (middle.disk.place layout.directory ++ rest) = false := by
  have grown : Grows
      (fun location => ∃ path ∈ [layout.tagDirectory, layout.functionDirectory],
        ∃ front : Path, front.Leads path ∧ work.disk.place front = location)
      (fun _ => False) work.disk
      (work.makeDirectories [layout.tagDirectory, layout.functionDirectory]).2.disk :=
    Work.makeDirectories_grows work fun path member front leads =>
      ⟨path, member, front, leads, rfl⟩
  rw [made] at grown
  have level : .up ∉ layout.directory.components :=
    mt (Path.up_mem_components_iff layout.directory).mp fits.passable.level
  rw [grown.place_eq]
  rcases grown.get?_cases (work.disk.place layout.directory ++ rest) with
    kept | ⟨_, _, path, member, front, leads, same⟩ | never
  · rw [isDirectory, kept, tree.get?_eq_none_of_begins (List.prefix_append _ _) fits.free]
    rfl
  · have begins := begins_of_leads work.disk fits.proper level member leads
    rw [same, List.prefix_append_right_inj, List.prefix_append_right_inj] at begins
    rcases begins with onward | onward
    · exact absurd onward aside
    · exact absurd onward apart
  · exact never.elim

theorem takes (fits : layout.HasRoom work.disk) (tree : work.disk.IsTree)
    (made : work.makeDirectories [layout.tagDirectory, layout.functionDirectory] =
      (.ok (), middle)) {file : Path × String} (member : file ∈ package.files layout) :
    middle.disk.Takes file.1 := by
  obtain ⟨outer, ends⟩ := fits.ends
  have heard := layout.namespaceName.nonempty
  have opened := fits.isOpen tree made
  have tags := fits.tags
  have functions := fits.functions
  rcases Package.path_cases_of_mem_files member with path | ⟨tag, listed, path⟩ | ⟨name, own, path⟩
  · rw [path]
    apply (opened _ (.head _)).takes isPlain_metadata (by decide)
    · have size : "pack.mcmeta".utf8ByteSize = 11 := rfl
      rw [Path.text_size_child ends heard isPlain_metadata]
      omega
    · change middle.disk.isDirectory (middle.disk.place layout.metadataPath) = false
      rw [layout.place_metadataPath middle.disk]
      exact fits.isDirectory_eq_false tree made (by simp) (by simp)
  · have known : ∀ tag ∈ ["load", "tick"],
        IsFileName (tag ++ ".json") ∧ (tag ++ ".json").utf8ByteSize = 9 := by decide
    have valid := known tag listed
    rw [path]
    apply (opened _ (.tail _ (.head _))).takes (isPlain_tagFile tag listed) valid.1
    · have size := text_size_tagDirectory ends heard
      rw [Path.text_size_child (segments_tagDirectory ends heard) (by decide)
        (isPlain_tagFile tag listed)]
      omega
    · change middle.disk.isDirectory (middle.disk.place (layout.tagPath tag)) = false
      rw [place_tagPath middle.disk listed]
      exact fits.isDirectory_eq_false tree made (by simp) (by simp)
  · have valid := isFunctionName_of_mem_ownFunctions name own
    have plain := Path.isPlain_functionFile valid.unbroken
    rw [path]
    apply (opened _ (.tail _ (.tail _ (.head _)))).takes plain
    · exact ⟨plain.named, valid.complete_file, valid.short_file⟩
    · have size := text_size_functionPath ends heard fits.proper valid.unbroken
      have longest : ∀ name ∈ ownFunctions, name.utf8ByteSize ≤ 6 := by decide
      have bound := longest name own
      change (layout.functionPath name).text.utf8ByteSize < pathLimit
      omega
    · change middle.disk.isDirectory (middle.disk.place (layout.functionPath name)) = false
      rw [place_functionPath_below middle.disk fits.proper valid.unbroken]
      exact fits.isDirectory_eq_false tree made (by simp) (by simp)

end PackLayout.HasRoom

/-- A package's own files can be written wherever there is room for them. -/
theorem Work.writePackage_of_hasRoom (package : Package) {layout : PackLayout} {work : Work}
    (tree : work.disk.IsTree) (fits : layout.HasRoom work.disk) :
    (work.writePackage package layout).1 = .ok () := by
  have went := makeDirectories_of_passable tree (fits.isPassable tree)
  rcases made : work.makeDirectories [layout.tagDirectory, layout.functionDirectory] with
    ⟨outcome, middle⟩
  rw [made] at went
  obtain rfl : outcome = .ok () := went
  rw [writePackage, made]
  exact writeFiles_of_takes fun file member => fits.takes tree made member

/-- A name with many slashes behind it. -/
def slashed (first : String) (count : Nat) : Path where
  segments := first :: List.replicate (count + 1) ""

theorem child_slashed (first : String) (count : Nat) {name : String} (plain : Path.IsPlain name) :
    (slashed first count).child name =
      { segments := first :: List.replicate count "" ++ [name] } := by
  have ends : (slashed first count).segments = first :: List.replicate count "" ++ [""] := by
    rw [slashed, List.replicate_succ', List.cons_append]
  have filled : (slashed first count).isEmpty = false := by
    simp [Path.isEmpty_eq_false_iff, ends]
  have finished : (slashed first count).endsWithSlash = true := by
    rw [Path.endsWithSlash, ends, List.getLast?_concat]
    simp
  have single : (Path.mk [name]).isAbsolute = false := by simp [Path.isAbsolute]
  rw [Path.child, Path.join, Path.ofString_of_unbroken plain.unbroken, single, filled, finished,
    ends, List.dropLast_concat]
  rfl

theorem text_size_slashed (first name : String) (count : Nat) :
    (Path.mk (first :: List.replicate count "" ++ [name])).text.utf8ByteSize =
      first.utf8ByteSize + count + 1 + name.utf8ByteSize := by
  have slash : "/".utf8ByteSize = 1 := rfl
  unfold Path.text
  induction count generalizing first with
  | zero =>
    rw [List.replicate_zero, List.singleton_append, String.intercalate_cons_cons,
      String.intercalate_singleton, String.utf8ByteSize_append, String.utf8ByteSize_append, slash]
  | succ count inductionHypothesis =>
    have rest := inductionHypothesis ""
    rw [List.cons_append] at rest
    rw [List.replicate_succ, List.cons_append, List.cons_append, String.intercalate_cons_cons,
      String.utf8ByteSize_append, String.utf8ByteSize_append, slash, rest,
      String.utf8ByteSize_empty]
    omega

/-- Slashes take up room, but as long as enough is left a package can be written behind them. -/
theorem PackLayout.hasRoom_within_slashed {first : String} {namespaceName : Namespace} {count : Nat}
    (valid : IsFileName first) (proper : namespaceName.IsProper)
    (named : namespaceName.text.utf8ByteSize ≤ nameLimit)
    (tags : first.utf8ByteSize + count + 1 + namespaceName.text.utf8ByteSize + 39 < pathLimit)
    (functions : first.utf8ByteSize + count + 1 + namespaceName.text.utf8ByteSize +
      namespaceName.text.utf8ByteSize + 33 < pathLimit) :
    (within (slashed first count) namespaceName).HasRoom Disk.empty := by
  have whole := child_slashed first count proper.isPlain
  have size := text_size_slashed first namespaceName.text count
  have pieces : ∀ segment ∈ first :: List.replicate count "" ++ [namespaceName.text],
      segment = first ∨ segment = "" ∨ segment = namespaceName.text := by
    intro segment member
    rcases List.mem_append.mp member with front | last
    · rcases List.mem_cons.mp front with begin | blank
      · exact .inl begin
      · exact .inr (.inl (List.eq_of_mem_replicate blank))
    · exact .inr (.inr (List.mem_singleton.mp last))
  have place := Disk.empty.place_child (slashed first count) proper.isPlain
  have passable : Disk.empty.IsPassable
      { segments := first :: List.replicate count "" ++ [namespaceName.text] } := by
    refine ⟨?_, ?_, ?_, ?_, ?_⟩
    · apply checkText_of_clean _ (Path.isEmpty_eq_false_of_ends rfl namespaceName.nonempty)
      · rw [size]
        omega
      · intro segment member
        rcases pieces segment member with rfl | rfl | rfl
        · exact valid.complete
        · simp
        · exact (proper.isFileName named).complete
    · intro member
      rcases pieces ".." member with same | same | same
      · rw [← same] at valid
        exact absurd valid.named (by decide)
      · contradiction
      · exact proper.2 same.symm
    · intro segment member
      rcases pieces segment member with rfl | rfl | rfl
      · exact valid.short
      · decide
      · exact named
    · unfold origin
      split <;> rfl
    · intro location _
      cases location with
      | nil => exact .inr rfl
      | cons name rest => exact .inl rfl
  refine ⟨proper, named, ⟨_, by rw [within, whole]⟩, ?_, ?_, ?_, ?_⟩
  · rw [within, whole]
    exact passable
  · rw [within, place]
    simp [Disk.empty, get?]
  · rw [within, whole, size]
    exact tags
  · rw [within, whole, size]
    exact functions

end Datapack
