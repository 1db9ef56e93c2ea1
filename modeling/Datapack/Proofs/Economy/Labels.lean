import Datapack.Proofs.Economy.Resolution

/-!
Which definition of a currency counts. An id may be defined any number of times. The table that is
filled definition by definition ends up with the last one, and so does a label; a layout depends on
the currencies through these labels only.
-/

namespace Datapack.Economy

/-- The currency has the id, and none of those behind it has. -/
def IsLast (currencies : List Currency) (id : String) (currency : Currency) : Prop :=
  currency.id = id ∧
    ∃ before after, currencies = before ++ currency :: after ∧ ∀ later ∈ after, later.id ≠ id

section Search

variable {currencies : List Currency} {id : String}

@[simp]
theorem lookup_enter (table : List (String × Currency)) (currency : Currency) :
    (enter table currency).lookup id =
      if currency.id = id then some currency else table.lookup id := by
  unfold enter
  by_cases own : currency.id = id
  · rw [if_pos own, own, List.lookup_cons_self]
  · have other : id ≠ currency.id := fun same => own same.symm
    rw [if_neg own, lookup_of_ne other,
      lookup_filter_keys (fun key => key != currency.id), if_pos (bne_iff_ne.mpr other)]

/-- What is in the table already stays where no currency replaces it. -/
theorem lookup_foldl_enter (table : List (String × Currency)) :
    (currencies.foldl enter table).lookup id =
      (currencies.reverse.find? fun currency => currency.id == id).or (table.lookup id) := by
  induction currencies generalizing table with
  | nil => rfl
  | cons currency currencies inductionHypothesis =>
    rw [List.foldl_cons, inductionHypothesis, lookup_enter, List.reverse_cons, List.find?_append,
      Option.or_assoc]
    congr 1
    by_cases own : currency.id = id <;> simp [own]

theorem currency?_eq_find? :
    currency? currencies id = currencies.reverse.find? fun currency => currency.id == id := by
  rw [currency?, tabulate, lookup_foldl_enter, List.lookup_nil, Option.or_none]

theorem currency?_eq_some_iff {currency : Currency} :
    currency? currencies id = some currency ↔ IsLast currencies id currency := by
  rw [currency?_eq_find?, IsLast]
  simp only [List.find?_eq_some_iff_append, beq_iff_eq, Bool.not_eq_true', beq_eq_false_iff_ne]
  constructor
  · rintro ⟨own, behind, front, reversed, passed⟩
    refine ⟨own, front.reverse, behind.reverse, ?_, ?_⟩
    · rw [← currencies.reverse_reverse, reversed]
      simp
    · intro later member
      exact passed later (List.mem_reverse.mp member)
  · rintro ⟨own, before, after, rfl, passed⟩
    refine ⟨own, after.reverse, before.reverse, by simp, ?_⟩
    intro later member
    exact passed later (List.mem_reverse.mp member)

theorem currency?_eq_none_iff :
    currency? currencies id = none ↔ ∀ currency ∈ currencies, currency.id ≠ id := by
  simp [currency?_eq_find?]

theorem currency?_eq_getLast? :
    currency? currencies id = (currencies.filter fun currency => currency.id == id).getLast? := by
  rw [currency?_eq_find?, ← List.head?_filter, List.filter_reverse, List.head?_reverse]

theorem currency?_congr {others : List Currency}
    (same : ∀ currency, IsLast others id currency ↔ IsLast currencies id currency) :
    currency? others id = currency? currencies id := by
  apply Option.ext
  intro currency
  rw [currency?_eq_some_iff, currency?_eq_some_iff]
  exact same currency

end Search

theorem label_congr {currencies others : List Currency} {id : String}
    (same : currency? others id = currency? currencies id) :
    label others id = label currencies id := by
  unfold label
  rw [same]

theorem resolve_congr {config : Config} {others : List Currency}
    (same : ∀ id, label others id = label config.currencies id) :
    resolve { config with currencies := others } = resolve config := by
  have offers : makeOffer others = makeOffer config.currencies := by
    funext shop item
    unfold makeOffer
    rw [same]
  unfold resolve placeOffers
  rw [offers]

/-- A currency is shown as it was defined last. Whatever else is defined, the name and the colour
are those of the last definition of the id, which is also what the table holds that is filled
definition by definition; an empty name gives way to the id and an empty colour to white, not to
what an earlier definition says. So definitions of other ids may come, go and change without
touching a label, and where every id keeps its last definition, in whatever order they stand, all
labels and the whole layout stay as they are. -/
theorem labels_follow_last_definitions (config : Config) :
    (∀ id currency, (tabulate config.currencies).lookup id = some currency ↔
        IsLast config.currencies id currency) ∧
      (∀ id currency, IsLast config.currencies id currency →
        label config.currencies id =
          { name := if currency.name = "" then id else currency.name
            color := if currency.color = "" then "white" else currency.color }) ∧
      (∀ id, (∀ currency ∈ config.currencies, currency.id ≠ id) →
        label config.currencies id = { name := id, color := "white" }) ∧
      (∀ (id : String) (others : List Currency),
        (others.filter fun currency => currency.id == id) =
          (config.currencies.filter fun currency => currency.id == id) →
        label others id = label config.currencies id) ∧
      ∀ others : List Currency,
        (∀ id currency, IsLast others id currency ↔ IsLast config.currencies id currency) →
        (∀ id, label others id = label config.currencies id) ∧
          resolve { config with currencies := others } = resolve config := by
  refine ⟨?_, ?_, ?_, ?_, ?_⟩
  · intro id currency
    exact currency?_eq_some_iff
  · intro id currency last
    unfold label
    rw [currency?_eq_some_iff.mpr last]
    rfl
  · intro id unknown
    unfold label
    rw [currency?_eq_none_iff.mpr unknown]
    rfl
  · intro id others kept
    apply label_congr
    rw [currency?_eq_getLast?, currency?_eq_getLast?, kept]
  · intro others same
    have labels : ∀ id, label others id = label config.currencies id :=
      fun id => label_congr (currency?_congr (same id))
    exact ⟨labels, resolve_congr labels⟩

/-- Gold loses its name and its colour to a second definition. -/
def faded : Config where
  currencies := [
    { id := "gold", name := "Gold", color := "yellow" },
    { id := "iron", name := "Iron", color := "gray" },
    { id := "gold", name := "", color := "" }]

theorem faded_gold_is_not_shown_in_yellow :
    IsLast faded.currencies "gold" { id := "gold", name := "", color := "" } ∧
      label faded.currencies "gold" = { name := "gold", color := "white" } ∧
      (∀ id currency, IsLast [faded.currencies[2], faded.currencies[1]] id currency ↔
        IsLast faded.currencies id currency) ∧
      resolve { faded with currencies := [faded.currencies[2], faded.currencies[1]] } =
        resolve faded := by
  obtain ⟨-, shown, -, -, kept⟩ := labels_follow_last_definitions faded
  have last : IsLast faded.currencies "gold" { id := "gold", name := "", color := "" } :=
    currency?_eq_some_iff.mp (by decide)
  have same : ∀ id currency, IsLast [faded.currencies[2], faded.currencies[1]] id currency ↔
      IsLast faded.currencies id currency := by
    intro id currency
    rw [← currency?_eq_some_iff, ← currency?_eq_some_iff]
    by_cases gold : "gold" = id
    · subst gold
      rfl
    · by_cases iron : "iron" = id
      · subst iron
        rfl
      · simp [currency?_eq_find?, faded, gold, iron]
  exact ⟨last, shown _ _ last, same, (kept _ same).2⟩

end Datapack.Economy
