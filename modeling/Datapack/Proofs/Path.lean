import Mathlib.Data.List.DropRight
import Datapack.Disk.Operations
import Datapack.Pack.Layout

/-!
Components of paths: how they arise from pieces, and what joining, cutting short and taking the
parent do to them.
-/

namespace Datapack.Path

/-- A name that stands for itself as the only piece of a path. -/
structure IsPlain (name : String) : Prop where
  named : component? name = some (.name name)
  unbroken : '/' ∉ name.toList

theorem isPlain_of_length {name : String} (long : 2 < name.length)
    (unbroken : '/' ∉ name.toList) : IsPlain name where
  named := by
    have other : ∀ text : String, text.length ≤ 2 → name ≠ text := by
      rintro text short rfl
      omega
    simp [component?, isSilent, other "" (by decide), other "." (by decide), other ".." (by decide)]
  unbroken := unbroken

theorem component?_cases {segment : String} {component : Component}
    (read : component? segment = some component) :
    (segment = ".." ∧ component = .up) ∨ component = .name segment := by
  unfold component? at read
  split at read
  · contradiction
  · split at read
    next upwards => exact .inl ⟨upwards, (Option.some.inj read).symm⟩
    next => exact .inr (Option.some.inj read).symm

theorem component?_isSome_of_heard {segment : String} (heard : isSilent segment = false) :
    (component? segment).isSome = true := by
  simp only [component?, heard, Bool.false_eq_true, if_false]
  split <;> rfl

@[simp]
theorem up_mem_filterMap_iff (segments : List String) :
    .up ∈ segments.filterMap component? ↔ ".." ∈ segments := by
  rw [List.mem_filterMap]
  constructor
  · rintro ⟨segment, member, read⟩
    rcases component?_cases read with ⟨rfl, _⟩ | named
    · exact member
    · contradiction
  · intro member
    exact ⟨"..", member, rfl⟩

theorem up_or_name_of_mem_tail {path : Path} {first component : Component}
    {rest : List Component} (split : path.components = first :: rest)
    (member : component ∈ rest) : component = .up ∨ ∃ text, component = .name text := by
  have further : ∀ segments : List String, component ∈ segments.filterMap component? →
      component = .up ∨ ∃ text, component = .name text := by
    intro segments found
    obtain ⟨segment, _, read⟩ := List.mem_filterMap.mp found
    rcases component?_cases read with ⟨_, upwards⟩ | named
    · exact .inl upwards
    · exact .inr ⟨segment, named⟩
  unfold components at split
  split at split
  · split at split
    · contradiction
    · rw [(List.cons.inj split).2.symm] at member
      exact further _ member
  · rw [(List.cons.inj split).2.symm] at member
    exact further _ member
  · exact further _ (split ▸ List.mem_cons_of_mem first member)

theorem components_of_other {first : String} {rest : List String} (notBlank : first ≠ "")
    (notDot : first ≠ ".") : components ⟨first :: rest⟩ = (first :: rest).filterMap component? := by
  unfold components
  split
  · exact absurd (by assumption) (by simp [notBlank])
  · exact absurd (by assumption) (by simp [notDot])
  · rfl

@[simp]
theorem up_mem_components_iff (path : Path) : .up ∈ path.components ↔ ".." ∈ path.segments := by
  obtain ⟨segments⟩ := path
  unfold components
  split
  next rest whole =>
    obtain rfl : segments = "" :: rest := whole
    by_cases ended : rest = []
    · simp [ended]
    · simpa [ended] using up_mem_filterMap_iff rest
  next rest whole =>
    obtain rfl : segments = "." :: rest := whole
    simpa using up_mem_filterMap_iff rest
  next => exact up_mem_filterMap_iff segments

/-- More pieces behind a path that is not empty only add their own components. -/
theorem components_append {front : List String} (more : List String)
    (nonempty : front ≠ []) (notBlank : front ≠ [""]) :
    components ⟨front ++ more⟩ = components ⟨front⟩ ++ more.filterMap component? := by
  match front, nonempty with
  | first :: rest, _ =>
    by_cases blank : first = ""
    · subst blank
      have continued : rest ≠ [] := fun ended => notBlank (by rw [ended])
      simp [components, continued]
    · by_cases dot : first = "."
      · subst dot
        simp [components]
      · rw [List.cons_append, components_of_other blank dot, components_of_other blank dot,
          ← List.cons_append, List.filterMap_append]

theorem isEmpty_eq_false_iff {path : Path} :
    path.isEmpty = false ↔ path.segments ≠ [] ∧ path.segments ≠ [""] := by
  simp [isEmpty, and_comm]

theorem isEmpty_eq_false_of_ends {path : Path} {outer : List String} {last : String}
    (ends : path.segments = outer ++ [last]) (heard : last ≠ "") : path.isEmpty = false := by
  rw [isEmpty_eq_false_iff, ends]
  refine ⟨by simp, ?_⟩
  intro blank
  exact heard (by simpa using congrArg List.getLast? blank)

theorem splitSlashes_of_unbroken {characters : List Char} (unbroken : '/' ∉ characters) :
    splitSlashes characters = [characters] := by
  induction characters with
  | nil => rfl
  | cons character rest inductionHypothesis =>
    rw [List.mem_cons, not_or] at unbroken
    rw [splitSlashes, inductionHypothesis unbroken.2]
    exact Ne.symm unbroken.1

@[simp]
theorem ofString_of_unbroken {name : String} (unbroken : '/' ∉ name.toList) :
    ofString name = { segments := [name] } := by
  simp [ofString, splitSlashes_of_unbroken unbroken]

/-- Also a child named by dots ends in its name. -/
theorem segments_child_ends_of_unbroken (base : Path) {name : String}
    (unbroken : '/' ∉ name.toList) : ∃ outer, (base.child name).segments = outer ++ [name] := by
  simp only [child, join, ofString_of_unbroken unbroken]
  split
  · exact ⟨[], rfl⟩
  · split
    · exact ⟨base.segments.dropLast, rfl⟩
    · exact ⟨base.segments, rfl⟩

theorem segments_child_ends (base : Path) {name : String} (plain : IsPlain name) :
    ∃ outer, (base.child name).segments = outer ++ [name] :=
  base.segments_child_ends_of_unbroken plain.unbroken

/-- Behind a piece that is not empty a child's name is a further piece. -/
theorem segments_child {base : Path} {outer : List String} {last name : String}
    (ends : base.segments = outer ++ [last]) (heard : last ≠ "") (plain : IsPlain name) :
    (base.child name).segments = base.segments ++ [name] := by
  have nonempty : base.isEmpty = false := isEmpty_eq_false_of_ends ends heard
  have unfinished : base.endsWithSlash = false := by
    simp [endsWithSlash, ends, heard]
  simp [child, join, plain.unbroken, isAbsolute, nonempty, unfinished]

@[simp]
theorem components_of_plain {name : String} (plain : IsPlain name) :
    components ⟨[name]⟩ = [.name name] := by
  have named := plain.named
  have notBlank : name ≠ "" := by
    rintro rfl
    simp [component?, isSilent] at named
  have notDot : name ≠ "." := by
    rintro rfl
    simp [component?, isSilent] at named
  rw [components_of_other notBlank notDot]
  simp [named]

theorem components_of_isEmpty {path : Path} (empty : path.isEmpty = true) :
    path.components = [] := by
  simp only [isEmpty, Bool.or_eq_true, beq_iff_eq] at empty
  rcases empty with blank | none
  · simp [components, blank]
  · simp [components, none]

/-- A slash at the end is a piece of its own, without a component. -/
theorem components_behind_slash {front : List String} (nonempty : front ≠ []) (name : String) :
    components ⟨front ++ [name]⟩ = components ⟨front ++ [""]⟩ ++ [name].filterMap component? := by
  have silent : [""].filterMap component? = [] := by simp [component?, isSilent]
  by_cases blank : front = [""]
  · subst blank
    simp [components, silent]
  · rw [components_append [name] nonempty blank, components_append [""] nonempty blank, silent,
      List.append_nil]

/-- A child adds to a path that is not empty what its name means, which is nothing for a dot. -/
theorem components_child_of_unbroken {base : Path} (filled : base.isEmpty = false) {name : String}
    (unbroken : '/' ∉ name.toList) :
    (base.child name).components = base.components ++ [name].filterMap component? := by
  have nonempty := isEmpty_eq_false_iff.mp filled
  by_cases finished : base.endsWithSlash = true
  · have ended : base.segments = base.segments.dropLast ++ [""] := by
      simp only [endsWithSlash, Bool.and_eq_true, beq_iff_eq] at finished
      exact (List.dropLast_append_getLast? _ finished.1).symm
    have front : base.segments.dropLast ≠ [] := by
      intro none
      rw [none] at ended
      exact nonempty.2 ended
    have joined : base.child name = ⟨base.segments.dropLast ++ [name]⟩ := by
      simp [child, join, unbroken, isAbsolute, filled, finished]
    rw [joined, components_behind_slash front name, ← ended]
  · have joined : base.child name = ⟨base.segments ++ [name]⟩ := by
      simp [child, join, unbroken, isAbsolute, filled, finished]
    rw [joined, components_append [name] nonempty.1 nonempty.2]

/-- A child adds one component to those of its base. -/
@[simp]
theorem components_child (base : Path) {name : String} (plain : IsPlain name) :
    (base.child name).components = base.components ++ [.name name] := by
  by_cases empty : base.isEmpty = true
  · simp only [child, join, ofString_of_unbroken plain.unbroken, empty, Bool.or_true, if_true,
      components_of_plain plain, components_of_isEmpty empty, List.nil_append]
  · rw [components_child_of_unbroken (by simpa using empty) plain.unbroken]
    simp [plain.named]

/-- A dot as a child adds no component, unless it stands in front. -/
@[simp]
theorem components_child_dot (base : Path) :
    (base.child ".").components = if base.isEmpty then [.here] else base.components := by
  have unbroken : '/' ∉ ".".toList := by decide
  by_cases empty : base.isEmpty = true
  · simp [child, join, empty, components]
  · rw [components_child_of_unbroken (by simpa using empty) unbroken, if_neg empty]
    simp [component?, isSilent]

theorem components_ne_nil_of_not_isEmpty {path : Path} (filled : path.isEmpty = false) :
    path.components ≠ [] := by
  obtain ⟨segments⟩ := path
  obtain ⟨some, notBlank⟩ := isEmpty_eq_false_iff.mp filled
  obtain ⟨first, rest, rfl⟩ := List.exists_cons_of_ne_nil some
  by_cases blank : first = ""
  · subst blank
    have continued : rest ≠ [] := fun ended => notBlank (by rw [ended])
    simp [components, continued]
  · by_cases dot : first = "."
    · subst dot
      simp [components]
    · have heard : isSilent first = false := by simp [isSilent, blank, dot]
      obtain ⟨component, read⟩ := Option.isSome_iff_exists.mp (component?_isSome_of_heard heard)
      rw [components_of_other blank dot, List.filterMap_cons_some read]
      exact List.cons_ne_nil _ _

theorem level_child {base : Path} {name : String} (plain : IsPlain name)
    (level : .up ∉ base.components) : .up ∉ (base.child name).components := by
  simp [plain, level]

structure Leads (front path : Path) : Prop where
  some : front.components ≠ []
  begins : front.components <+: path.components

theorem components_ne_nil {outer : List String} {last : String} (heard : isSilent last = false) :
    components ⟨outer ++ [last]⟩ ≠ [] := by
  obtain ⟨component, read⟩ := Option.isSome_iff_exists.mp (component?_isSome_of_heard heard)
  by_cases none : outer = []
  · subst none
    rw [List.nil_append, components_of_other]
    · simp [read]
    · rintro rfl
      simp [isSilent] at heard
    · rintro rfl
      simp [isSilent] at heard
  · by_cases blank : outer = [""]
    · simp [components, blank]
    · rw [components_append [last] none blank]
      simp [read]

/-- Cutting a path short behind a piece that is not silent gives a path that leads to it. -/
theorem leads_of_cut {front path : Path} {outer : List String} {last : String}
    (begins : front.segments <+: path.segments) (ends : front.segments = outer ++ [last])
    (heard : isSilent last = false) : front.Leads path where
  some := by
    have nonempty : components ⟨outer ++ [last]⟩ ≠ [] := components_ne_nil heard
    rw [← ends] at nonempty
    exact nonempty
  begins := by
    obtain ⟨more, whole⟩ := begins
    have notBlank : front.segments ≠ [""] := by
      intro blank
      rw [blank] at ends
      have alone : last = "" := by simpa using (congrArg List.getLast? ends).symm
      simp [alone, isSilent] at heard
    have appended := components_append more (by simp [ends]) notBlank
    rw [whole] at appended
    exact ⟨more.filterMap component?, appended.symm⟩

theorem mem_chain {path : Path} {backwards : List String} (member : path ∈ Disk.chain backwards) :
    path.segments <+: backwards.reverse ∧
      ∃ outer last, path.segments = outer ++ [last] ∧ isSilent last = false := by
  induction backwards with
  | nil => simp [Disk.chain] at member
  | cons segment outer inductionHypothesis =>
    have longer : outer.reverse <+: (segment :: outer).reverse := by simp
    unfold Disk.chain at member
    split at member
    · obtain ⟨begins, heard⟩ := inductionHypothesis member
      exact ⟨begins.trans longer, heard⟩
    · rcases List.mem_cons.mp member with rfl | member
      · exact ⟨List.prefix_rfl, outer.reverse, segment, by simp, by simp_all⟩
      · obtain ⟨begins, heard⟩ := inductionHypothesis member
        exact ⟨begins.trans longer, heard⟩

theorem chain_eq_cons {path : Path} {outer : List String} {last : String}
    (ends : path.segments = outer ++ [last]) (heard : isSilent last = false) :
    Disk.chain path.segments.reverse = path :: Disk.chain outer.reverse := by
  obtain ⟨segments⟩ := path
  obtain rfl : segments = outer ++ [last] := ends
  simp [Disk.chain, heard]

theorem leads_of_mem_chain {path front : Path}
    (member : front ∈ Disk.chain path.segments.reverse) : front.Leads path := by
  obtain ⟨begins, outer, last, ends, heard⟩ := mem_chain member
  rw [List.reverse_reverse] at begins
  exact leads_of_cut begins ends heard

theorem trimEnd_begins (segments : List String) : trimEnd segments <+: segments :=
  List.rdropWhile_prefix isSilent segments

theorem dropComponent?_begins {segments rest : List String}
    (dropped : dropComponent? segments = some rest) : rest <+: segments := by
  unfold dropComponent? at dropped
  split at dropped
  · contradiction
  · rw [← Option.some.inj dropped]
    exact (trimEnd_begins _).trans ((List.dropLast_prefix _).trans (trimEnd_begins segments))

/-- Silent pieces at the end have no components. -/
@[simp]
theorem filterMap_trimEnd (segments : List String) :
    (trimEnd segments).filterMap component? = segments.filterMap component? := by
  have parts : trimEnd segments ++ segments.rtakeWhile isSilent = segments :=
    List.rdropWhile_append_rtakeWhile
  have nothing : (segments.rtakeWhile isSilent).filterMap component? = [] := by
    rw [List.filterMap_eq_nil_iff]
    intro segment member
    simp [component?, List.mem_rtakeWhile_imp member]
  conv_rhs => rw [← parts, List.filterMap_append, nothing, List.append_nil]

theorem filterMap_dropComponent? {segments rest : List String}
    (dropped : dropComponent? segments = some rest) :
    ∃ last, segments.filterMap component? = rest.filterMap component? ++ [last] := by
  unfold dropComponent? at dropped
  split at dropped
  · contradiction
  next nonempty =>
    have heard : ¬isSilent ((trimEnd segments).getLast nonempty) = true :=
      List.rdropWhile_last_not isSilent segments nonempty
    obtain ⟨component, read⟩ :=
      Option.isSome_iff_exists.mp (component?_isSome_of_heard (by simpa using heard))
    have ends := congrArg (List.filterMap component?) (List.dropLast_append_getLast nonempty)
    rw [List.filterMap_append, List.filterMap_cons_some read, filterMap_trimEnd] at ends
    refine ⟨component, ?_⟩
    rw [← Option.some.inj dropped, filterMap_trimEnd, ← ends, List.filterMap_nil]

theorem components_of_parent? {path parent : Path} (found : path.parent? = some parent) :
    ∃ last, path.components = parent.components ++ [last] := by
  obtain ⟨segments⟩ := path
  unfold parent? at found
  split at found
  next rest whole =>
    obtain rfl : segments = "" :: rest := whole
    obtain ⟨shorter, dropped, rfl⟩ := Option.map_eq_some_iff.mp found
    obtain ⟨last, split⟩ := filterMap_dropComponent? dropped
    have further : rest ≠ [] := by
      rintro rfl
      simp at split
    refine ⟨last, ?_⟩
    by_cases none : shorter = []
    · simp [components, further, split, none, component?, isSilent]
    · simp [components, further, split, none]
  next rest whole =>
    obtain rfl : segments = "." :: rest := whole
    split at found
    next shorter dropped =>
      obtain ⟨last, split⟩ := filterMap_dropComponent? dropped
      obtain rfl := Option.some.inj found
      exact ⟨last, by simp [components, split]⟩
    next dropped =>
      have trimmed : trimEnd rest = [] := by
        unfold dropComponent? at dropped
        split at dropped
        · assumption
        · contradiction
      have nothing : rest.filterMap component? = [] := by
        rw [← filterMap_trimEnd, trimmed, List.filterMap_nil]
      obtain rfl := Option.some.inj found
      exact ⟨.here, by simp [components, nothing, empty]⟩
  next notBlank notDot =>
    obtain ⟨shorter, dropped, rfl⟩ := Option.map_eq_some_iff.mp found
    obtain ⟨last, split⟩ := filterMap_dropComponent? dropped
    refine ⟨last, ?_⟩
    match segments with
    | [] => simp at split
    | first :: others =>
      have blank : first ≠ "" := fun same => notBlank others (by rw [same])
      have dot : first ≠ "." := fun same => notDot others (by rw [same])
      rw [components_of_other blank dot, split]
      -- What is left of the path is nothing, or it starts with the same piece.
      rcases List.prefix_cons_iff.mp (dropComponent?_begins dropped) with rfl | ⟨more, rfl, -⟩
      · simp [components, empty]
      · rw [if_neg (List.cons_ne_nil first more), components_of_other blank dot]

theorem leads_of_parent? {front parent path : Path} (found : path.parent? = some parent)
    (leads : front.Leads parent) : front.Leads path where
  some := leads.some
  begins := by
    obtain ⟨last, split⟩ := components_of_parent? found
    rw [split]
    exact leads.begins.trans (List.prefix_append _ _)

theorem length_le_text_size (path : Path) :
    path.segments.length ≤ path.text.utf8ByteSize + 1 := by
  obtain ⟨segments⟩ := path
  unfold text
  induction segments with
  | nil => simp
  | cons first rest inductionHypothesis =>
    cases rest with
    | nil => simp
    | cons second rest =>
      rw [String.intercalate_cons_cons]
      have slash : "/".utf8ByteSize = 1 := rfl
      simp only [List.length_cons, String.utf8ByteSize_append, slash] at inductionHypothesis ⊢
      omega

theorem text_size_le {front path : Path} (nonempty : front.segments ≠ [])
    (begins : front.segments <+: path.segments) :
    front.text.utf8ByteSize ≤ path.text.utf8ByteSize := by
  obtain ⟨more, whole⟩ := begins
  unfold text
  rw [← whole]
  by_cases none : more = []
  · simp [none]
  · rw [String.intercalate_append_of_ne_nil nonempty none]
    simp only [String.utf8ByteSize_append]
    omega

/-- Whether a path is absolute shows in its first pieces. -/
theorem isAbsolute_of_begins {front path : Path} {outer : List String} {last : String}
    (begins : front.segments <+: path.segments) (ends : front.segments = outer ++ [last])
    (heard : last ≠ "") : front.isAbsolute = path.isAbsolute := by
  obtain ⟨more, whole⟩ := begins
  unfold isAbsolute
  rw [← whole, ends]
  cases outer with
  | nil => simp [heard]
  | cons first others =>
    have longer : 0 < others.length + (more.length + 1) := by omega
    simp [longer]

end Datapack.Path
