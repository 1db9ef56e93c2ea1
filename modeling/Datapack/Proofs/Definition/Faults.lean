import Datapack.Proofs.Lists

/-!
Faults in the order in which they are looked for. A computation made of steps reports the faults of
its first step before those of what follows.
-/

namespace Datapack

variable {Error First Second : Type}

/-- The first kind of fault that there is at all gives the cause. -/
def FirstOf : List (Error → Prop) → Error → Prop
  | [], _ => False
  | fault :: faults, cause => fault cause ∨ (∀ other, ¬fault other) ∧ FirstOf faults cause

def IsFaultless (faults : List (Error → Prop)) : Prop :=
  ∀ fault ∈ faults, ∀ cause, ¬fault cause

theorem isFaultless_cons {fault : Error → Prop} {faults : List (Error → Prop)} :
    IsFaultless (fault :: faults) ↔ (∀ cause, ¬fault cause) ∧ IsFaultless faults :=
  List.forall_mem_cons

theorem firstOf_singleton {fault : Error → Prop} {cause : Error} :
    FirstOf [fault] cause ↔ fault cause := by
  simp [FirstOf]

theorem firstOf_append {earlier later : List (Error → Prop)} {cause : Error} :
    FirstOf (earlier ++ later) cause ↔
      FirstOf earlier cause ∨ IsFaultless earlier ∧ FirstOf later cause := by
  induction earlier with
  | nil => simp [FirstOf, IsFaultless]
  | cons fault faults inductionHypothesis =>
    rw [List.cons_append, FirstOf, FirstOf, inductionHypothesis, isFaultless_cons]
    tauto

theorem isFaultless_iff {faults : List (Error → Prop)} :
    IsFaultless faults ↔ ∀ cause, ¬FirstOf faults cause := by
  induction faults with
  | nil => simp [FirstOf, IsFaultless]
  | cons fault faults inductionHypothesis =>
    rw [isFaultless_cons, inductionHypothesis]
    constructor
    · rintro ⟨free, none⟩ cause (caused | ⟨-, later⟩)
      · exact free cause caused
      · exact none cause later
    · intro none
      have free : ∀ cause, ¬fault cause := fun cause caused => none cause (.inl caused)
      exact ⟨free, fun cause later => none cause (.inr ⟨free, later⟩)⟩

/-- A computation fails by the first of its faults, and only so. -/
def Reports (outcome : Except Error First) (faults : List (Error → Prop)) : Prop :=
  ∀ cause, outcome = .error cause ↔ FirstOf faults cause

namespace Reports

variable {outcome : Except Error First} {faults later : List (Error → Prop)}

theorem of_isFaultless (free : IsFaultless faults) (value : First) :
    Reports (.ok value : Except Error First) faults :=
  fun cause => ⟨nofun, fun first => absurd first (isFaultless_iff.mp free cause)⟩

theorem isFaultless (reports : Reports outcome faults) {value : First}
    (succeeded : outcome = .ok value) : IsFaultless faults := by
  rw [isFaultless_iff]
  intro cause first
  cases succeeded.symm.trans ((reports cause).mpr first)

theorem exists_ok_iff (reports : Reports outcome faults) :
    (∃ value, outcome = .ok value) ↔ IsFaultless faults := by
  constructor
  · rintro ⟨value, succeeded⟩
    exact reports.isFaultless succeeded
  · intro free
    cases ended : outcome with
    | ok value => exact ⟨value, rfl⟩
    | error cause => exact absurd ((reports cause).mp ended) (isFaultless_iff.mp free cause)

theorem bind {next : First → Except Error Second} (reports : Reports outcome faults)
    (follows : ∀ value, outcome = .ok value → Reports (next value) later) :
    Reports (outcome >>= next) (faults ++ later) := by
  intro cause
  rw [bind_eq_error_iff, firstOf_append, reports cause]
  refine or_congr_right ?_
  constructor
  · rintro ⟨value, succeeded, failed⟩
    exact ⟨reports.isFaultless succeeded, (follows value succeeded cause).mp failed⟩
  · rintro ⟨free, first⟩
    obtain ⟨value, succeeded⟩ := reports.exists_ok_iff.mpr free
    exact ⟨value, succeeded, (follows value succeeded cause).mpr first⟩

end Reports

end Datapack
