import Mathlib.Data.List.Forall2

/-!
Lists of keyed values, and lists converted by computations that may fail.
-/

namespace Datapack

section Keys

variable {Key Value : Type} [BEq Key] [LawfulBEq Key]

theorem lookup_of_ne {key other : Key} (different : key ≠ other) (value : Value)
    (entries : List (Key × Value)) :
    ((other, value) :: entries).lookup key = entries.lookup key := by
  rw [List.lookup_cons, beq_false_of_ne different]

theorem lookup_filter_keys (keep : Key → Bool) (entries : List (Key × Value)) (key : Key) :
    (entries.filter fun entry => keep entry.1).lookup key =
      if keep key then entries.lookup key else none := by
  induction entries with
  | nil => simp
  | cons entry entries inductionHypothesis =>
    obtain ⟨other, value⟩ := entry
    by_cases kept : keep other = true
    · rw [List.filter_cons_of_pos (by exact kept)]
      by_cases same : key = other
      · subst same
        simp [kept]
      · rw [lookup_of_ne same, lookup_of_ne same, inductionHypothesis]
    · rw [List.filter_cons_of_neg (by exact kept), inductionHypothesis]
      by_cases same : key = other
      · subst same
        simp [kept]
      · rw [lookup_of_ne same]

end Keys

theorem flatMap_if {First Second : Type} (keep : First → Bool) (parts : First → List Second)
    (values : List First) :
    (values.flatMap fun value => if keep value then parts value else []) =
      (values.filter keep).flatMap parts := by
  induction values with
  | nil => rfl
  | cons value values inductionHypothesis =>
    rw [List.flatMap_cons, inductionHypothesis, List.filter_cons]
    split <;> rfl

/-- The entries of one part stand behind those of the parts before it. -/
theorem getElem?_flatMap {First Second : Type} {values : List First} {parts : First → List Second}
    {index offset : Nat} {value : First} (present : values[index]? = some value)
    (inside : offset < (parts value).length) :
    (values.flatMap parts)[((values.take index).flatMap parts).length + offset]? =
      (parts value)[offset]? := by
  induction values generalizing index with
  | nil => cases present
  | cons first values inductionHypothesis =>
    cases index with
    | zero =>
      obtain rfl := Option.some.inj present
      simp [List.getElem?_append_left, inside]
    | succ index =>
      rw [List.take_succ_cons, List.flatMap_cons, List.flatMap_cons, List.length_append,
        Nat.add_assoc, List.getElem?_append_right (Nat.le_add_right _ _), Nat.add_sub_cancel_left]
      exact inductionHypothesis present

theorem getElem?_of_forall₂ {First Second : Type} {related : First → Second → Prop}
    {inputs : List First} {results : List Second} (all : List.Forall₂ related inputs results)
    {index : Nat} {input : First} (present : inputs[index]? = some input) :
    ∃ result, results[index]? = some result ∧ related input result := by
  induction all generalizing index with
  | nil => cases present
  | cons holds _ inductionHypothesis =>
    cases index with
    | zero =>
      obtain rfl := Option.some.inj present
      exact ⟨_, rfl, holds⟩
    | succ index => exact inductionHypothesis present

@[simp]
theorem forall_mem_zipIdx {Value : Type} {values : List Value} {start : Nat}
    (holds : Value → Prop) :
    (∀ entry ∈ values.zipIdx start, holds entry.1) ↔ ∀ value ∈ values, holds value := by
  rw [← List.forall_mem_map (f := Prod.fst) (P := holds), List.zipIdx_map_fst]

section Failure

variable {Error First Second : Type}

theorem bind_eq_ok_iff {first : Except Error First} {next : First → Except Error Second}
    {result : Second} :
    (first >>= next) = .ok result ↔ ∃ value, first = .ok value ∧ next value = .ok result := by
  cases first with
  | error cause => simp [bind, Except.bind]
  | ok value => simp [bind, Except.bind]

theorem bind_eq_error_iff {first : Except Error First} {next : First → Except Error Second}
    {cause : Error} :
    (first >>= next) = .error cause ↔
      first = .error cause ∨ ∃ value, first = .ok value ∧ next value = .error cause := by
  cases first with
  | error cause => simp [bind, Except.bind]
  | ok value => simp [bind, Except.bind]

theorem mapM_eq_ok_iff {convert : First → Except Error Second} {inputs : List First}
    {results : List Second} :
    inputs.mapM convert = .ok results ↔
      List.Forall₂ (fun input result => convert input = .ok result) inputs results := by
  induction inputs generalizing results with
  | nil => simp [pure, Except.pure, eq_comm]
  | cons input inputs inductionHypothesis =>
    rw [List.mapM_cons, bind_eq_ok_iff]
    constructor
    · rintro ⟨result, converted, rest⟩
      obtain ⟨others, remaining, joined⟩ := bind_eq_ok_iff.mp rest
      obtain rfl := Except.ok.inj joined
      exact .cons converted (inductionHypothesis.mp remaining)
    · intro related
      cases related with
      | cons converted others =>
        exact ⟨_, converted, bind_eq_ok_iff.mpr ⟨_, inductionHypothesis.mpr others, rfl⟩⟩

/-- Converting a list stops at the first entry that cannot be converted. -/
theorem first_of_mapM_eq_error {convert : First → Except Error Second} {inputs : List First}
    {cause : Error} (refused : inputs.mapM convert = .error cause) :
    ∃ before input after, inputs = before ++ input :: after ∧
      (∀ earlier ∈ before, ∃ result, convert earlier = .ok result) ∧
      convert input = .error cause := by
  induction inputs with
  | nil => cases refused
  | cons first inputs inductionHypothesis =>
    rw [List.mapM_cons, bind_eq_error_iff] at refused
    rcases refused with own | ⟨result, converted, rest⟩
    · exact ⟨[], first, inputs, rfl, nofun, own⟩
    · rcases bind_eq_error_iff.mp rest with later | ⟨results, -, never⟩
      · obtain ⟨before, input, after, rfl, earlier, caused⟩ := inductionHypothesis later
        refine ⟨first :: before, input, after, rfl, ?_, caused⟩
        exact List.forall_mem_cons.mpr ⟨⟨result, converted⟩, earlier⟩
      · cases never

/-- In a numbered list that entry comes with its number. -/
theorem first_of_mapM_zipIdx_eq_error {convert : First × Nat → Except Error Second}
    {inputs : List First} {cause : Error}
    (refused : inputs.zipIdx.mapM convert = .error cause) :
    ∃ before input after, inputs = before ++ input :: after ∧
      (∀ entry ∈ before.zipIdx, ∃ result, convert entry = .ok result) ∧
      convert (input, before.length) = .error cause := by
  obtain ⟨earlier, entry, later, split, converted, caused⟩ := first_of_mapM_eq_error refused
  obtain ⟨before, rest, rfl, rfl, numbered⟩ := List.zipIdx_eq_append_iff.mp split
  obtain ⟨input, after, rfl, rfl, -⟩ := List.zipIdx_eq_cons_iff.mp numbered.symm
  rw [Nat.zero_add] at caused
  exact ⟨before, input, after, rfl, converted, caused⟩

theorem exists_mapM_iff {convert : First → Except Error Second} {inputs : List First} :
    (∃ results, inputs.mapM convert = .ok results) ↔
      ∀ input ∈ inputs, ∃ result, convert input = .ok result := by
  constructor
  · rintro ⟨results, converted⟩ input member
    obtain ⟨index, present⟩ := List.mem_iff_getElem?.mp member
    obtain ⟨result, -, own⟩ := getElem?_of_forall₂ (mapM_eq_ok_iff.mp converted) present
    exact ⟨result, own⟩
  · intro each
    cases converted : inputs.mapM convert with
    | ok results => exact ⟨results, rfl⟩
    | error cause =>
      obtain ⟨before, input, after, rfl, -, refused⟩ := first_of_mapM_eq_error converted
      obtain ⟨result, own⟩ := each input (by simp)
      rw [refused] at own
      contradiction

theorem exists_of_mem_mapM {convert : First → Except Error Second} {inputs : List First}
    {results : List Second} (converted : inputs.mapM convert = .ok results) {result : Second}
    (member : result ∈ results) : ∃ input ∈ inputs, convert input = .ok result := by
  obtain ⟨index, found⟩ := List.mem_iff_getElem?.mp member
  obtain ⟨input, present, related⟩ := getElem?_of_forall₂ (mapM_eq_ok_iff.mp converted).flip found
  exact ⟨input, List.mem_of_getElem? present, related⟩

/-- A list whose values can each be read back can be read back. -/
theorem mapM_map_eq_some {write : First → Second} {read? : Second → Option First}
    {values : List First} (each : ∀ value ∈ values, read? (write value) = some value) :
    (values.map write).mapM read? = some values := by
  induction values with
  | nil => rfl
  | cons value values inductionHypothesis =>
    obtain ⟨own, others⟩ := List.forall_mem_cons.mp each
    rw [List.map_cons, List.mapM_cons, own, inductionHypothesis others]
    rfl

end Failure

end Datapack
