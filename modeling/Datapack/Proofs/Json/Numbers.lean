import Datapack.Json.Reader
import Datapack.Json.Writer
import Datapack.Proofs.Json.Documents
import Datapack.Proofs.Number.Shortest
import Datapack.Proofs.Snbt.Decoding

/-!
Numbers in JSON text. A natural number is spelled by its digits. Of any other number the shortest
decimal is spelled, with all of its digits in their places or with an exponent; either way what is
read has the value of that decimal, and so it is the same number again.
-/

namespace Datapack.Number

def Literal.decimal (literal : Literal) : Decimal :=
  { digits := naturalOfDigits (literal.whole ++ literal.fractionDigits)
    exponent := literal.exponent.getD 0 - literal.fractionDigits.length }

section Parts

def signCharacters (negative : Bool) : List Char :=
  if negative then ['-'] else []

def fractionCharacters : Option (List Char) → List Char
  | none => []
  | some digits => '.' :: digits

theorem takeWhile_isDigit {digits rest : List Char}
    (decimal : ∀ character ∈ digits, character.isDigit = true)
    (stops : Snbt.Stops Char.isDigit rest) :
    (digits ++ rest).takeWhile Char.isDigit = digits ∧
      (digits ++ rest).dropWhile Char.isDigit = rest := by
  rw [List.takeWhile_append_of_pos decimal, List.dropWhile_append_of_pos decimal]
  cases rest with
  | nil => exact ⟨List.append_nil _, rfl⟩
  | cons character rest =>
    have outside := stops character rfl
    simp [outside]

theorem splitSign_signCharacters (negative : Bool) {first : Char} (digit : first.isDigit = true)
    (rest : List Char) :
    splitSign (signCharacters negative ++ first :: rest) =
      (if negative then some '-' else none, first :: rest) := by
  cases negative with
  | true => rfl
  | false =>
    change splitSign (first :: rest) = (none, first :: rest)
    rw [splitSign]
    · rintro _ ⟨⟩
      contradiction
    · rintro _ ⟨⟩
      contradiction

theorem Literal.starts_of_exponent? {tail : List Char} {exponent : Option Int}
    (ending : Literal.exponent? tail = some exponent) :
    ∀ character ∈ tail.head?, character = 'e' ∨ character = 'E' := by
  unfold Literal.exponent? at ending
  split at ending
  · nofun
  · dsimp only at ending
    split at ending
    · next valid =>
      rintro _ ⟨⟩
      exact valid.1
    · cases ending

theorem Literal.stops_of_exponent? {tail : List Char} {exponent : Option Int}
    (ending : Literal.exponent? tail = some exponent) : Snbt.Stops Char.isDigit tail := by
  intro character first
  rcases Literal.starts_of_exponent? ending character first with rfl | rfl <;> rfl

/-- The parts of a number are found again where they were put together. -/
theorem Literal.read?_parts (negative : Bool) {whole tail : List Char}
    {fraction : Option (List Char)} {exponent : Option Int} (nonempty : whole ≠ [])
    (digits : ∀ character ∈ whole, character.isDigit = true)
    (fractionDigits : ∀ character ∈ fraction.getD [], character.isDigit = true)
    (ending : Literal.exponent? tail = some exponent) :
    Literal.read? (signCharacters negative ++ (whole ++ (fractionCharacters fraction ++ tail))) =
      some ⟨if negative then some '-' else none, whole, fraction, exponent⟩ := by
  obtain ⟨first, more, rfl⟩ := List.exists_cons_of_ne_nil nonempty
  have split := splitSign_signCharacters negative (digits first List.mem_cons_self)
    (more ++ (fractionCharacters fraction ++ tail))
  rw [← List.cons_append] at split
  have stops := Literal.stops_of_exponent? ending
  cases fraction with
  | none =>
    have shape : fractionCharacters none ++ tail = tail := rfl
    have run := takeWhile_isDigit digits stops
    rw [shape] at split ⊢
    simp only [Literal.read?, split, run]
    split
    · next rest =>
      have starts := Literal.starts_of_exponent? ending '.' rfl
      simp at starts
    · simp only [ending]
      rfl
  | some fraction =>
    have shape : fractionCharacters (some fraction) ++ tail = '.' :: (fraction ++ tail) := rfl
    have point : Snbt.Stops Char.isDigit ('.' :: (fraction ++ tail)) := by
      rintro _ ⟨⟩
      rfl
    have run := takeWhile_isDigit digits point
    have behind := takeWhile_isDigit fractionDigits stops
    rw [Option.getD_some] at behind
    rw [shape] at split ⊢
    simp only [Literal.read?, split, run, behind, ending]
    rfl

theorem naturalOfDigits_toDigits (value : Nat) :
    naturalOfDigits (Nat.toDigits 10 value) = value :=
  Nat.ofDigitChars_ten_toDigits

theorem head?_toDigits_ne {value : Nat} (nonzero : value ≠ 0) :
    (Nat.toDigits 10 value).head? ≠ some '0' := by
  induction value using Nat.strongRecOn with
  | ind value inductionHypothesis =>
    rw [Nat.toDigits_eq_if (by decide)]
    split
    next single => simpa using nonzero
    next many =>
      have fewer := inductionHypothesis (value / 10) (by omega) (by omega)
      rw [List.head?_append_of_ne_nil _ Nat.toDigits_ne_nil]
      exact fewer

theorem toDigits_append_zeros {value : Nat} (nonzero : value ≠ 0) (count : Nat) :
    Nat.toDigits 10 value ++ List.replicate count '0' = Nat.toDigits 10 (value * 10 ^ count) := by
  induction count with
  | zero => simp
  | succ count inductionHypothesis =>
    have positive : 0 < value * 10 ^ count :=
      Nat.mul_pos (Nat.pos_of_ne_zero nonzero) (Nat.pow_pos (by decide))
    have next := Nat.toDigits_append_toDigits (by decide : 1 < 10) positive (by decide : 0 < 10)
    rw [List.replicate_succ', ← List.append_assoc, inductionHypothesis, ← Nat.toDigits_zero 10,
      next]
    congr 1
    ring

/-- The exponent of a decimal in scientific form, as it is written. -/
theorem Literal.exponent?_signed (exponent : Int) :
    Literal.exponent? ('e' :: (if exponent < 0 then '-' else '+') ::
      Nat.toDigits 10 exponent.natAbs) = some (some exponent) := by
  have digits : (Nat.toDigits 10 exponent.natAbs).all Char.isDigit = true :=
    List.all_eq_true.mpr fun _ => Snbt.isDigit_of_mem_toDigits
  split
  next negative =>
    simp only [Literal.exponent?, splitSign, naturalOfDigits_toDigits]
    rw [if_pos ⟨.inl trivial, Nat.toDigits_ne_nil, digits⟩, if_pos trivial,
      Int.ofNat_natAbs_of_nonpos (by omega), Int.neg_neg]
  next positive =>
    simp only [Literal.exponent?, splitSign, naturalOfDigits_toDigits]
    rw [if_pos ⟨.inl trivial, Nat.toDigits_ne_nil, digits⟩, if_neg (by decide),
      Int.natAbs_of_nonneg (by omega)]

end Parts

end Datapack.Number

namespace Datapack.Json

open Number

/-- The characters are a number of JSON with this sign and the value of this decimal. -/
def Spells (characters : List Char) (negative : Bool) (decimal : Decimal) : Prop :=
  ∃ literal, literal? characters = some literal ∧ literal.isNegative = negative ∧
    literal.decimal.value = decimal.value

theorem Spells.of_value {characters : List Char} {negative : Bool} {decimal other : Decimal}
    (spelled : Spells characters negative decimal) (same : decimal.value = other.value) :
    Spells characters negative other := by
  obtain ⟨literal, read, sign, value⟩ := spelled
  exact ⟨literal, read, sign, value.trans same⟩

section Spelling

/-- Digits of a number in JSON: no zero stands in front of others, and some stand behind a point. -/
structure AreParts (whole : List Char) (fraction : Option (List Char)) : Prop where
  nonempty : whole ≠ []
  digits : ∀ character ∈ whole, character.isDigit = true
  canonical : whole = ['0'] ∨ whole.head? ≠ some '0'
  fractionDigits : ∀ character ∈ fraction.getD [], character.isDigit = true
  fractionNonempty : fraction ≠ some []

variable {whole tail : List Char} {fraction : Option (List Char)} {exponent : Option Int}

theorem literal?_parts (negative : Bool) (parts : AreParts whole fraction)
    (ending : Literal.exponent? tail = some exponent) :
    literal? (signCharacters negative ++ (whole ++ (fractionCharacters fraction ++ tail))) =
      some ⟨if negative then some '-' else none, whole, fraction, exponent⟩ := by
  have read := Literal.read?_parts negative parts.nonempty parts.digits parts.fractionDigits ending
  have canonical : Literal.isCanonical
      ⟨if negative then some '-' else none, whole, fraction, exponent⟩ = true := by
    rcases parts.canonical with zero | leading
    · simp [Literal.isCanonical, zero]
    · simp [Literal.isCanonical, parts.nonempty, leading]
  rw [literal?, read, Option.filter_some_pos]
  rw [canonical]
  cases negative <;> simp [parts.fractionNonempty]

theorem spells_parts (negative : Bool) (parts : AreParts whole fraction)
    (ending : Literal.exponent? tail = some exponent) {decimal : Decimal}
    (same : Decimal.value ⟨naturalOfDigits (whole ++ fraction.getD []),
      exponent.getD 0 - (fraction.getD []).length⟩ = decimal.value) :
    Spells (signCharacters negative ++ (whole ++ (fractionCharacters fraction ++ tail)))
      negative decimal := by
  refine ⟨_, literal?_parts negative parts ending, ?_, same⟩
  cases negative <;> rfl

theorem isDigit_of_mem_replicate {count : Nat} {character : Char}
    (member : character ∈ List.replicate count '0') : character.isDigit = true := by
  rw [List.eq_of_mem_replicate member]
  rfl

theorem forall_isDigit_zero : ∀ character ∈ ['0'], character.isDigit = true :=
  List.forall_mem_singleton.mpr rfl

theorem areParts_zero
    (fractionDigits : ∀ character ∈ fraction.getD [], character.isDigit = true)
    (fractionNonempty : fraction ≠ some []) : AreParts ['0'] fraction where
  nonempty := List.cons_ne_nil _ _
  digits := forall_isDigit_zero
  canonical := .inl rfl
  fractionDigits := fractionDigits
  fractionNonempty := fractionNonempty

theorem areParts_of_toDigits {digits : Nat} (nonzero : digits ≠ 0) {whole more : List Char}
    (split : Nat.toDigits 10 digits = whole ++ more) (nonempty : whole ≠ [])
    (fractionDigits : ∀ character ∈ fraction.getD [], character.isDigit = true)
    (fractionNonempty : fraction ≠ some []) : AreParts whole fraction where
  nonempty := nonempty
  digits := by
    intro character member
    apply Snbt.isDigit_of_mem_toDigits
    rw [split]
    exact List.mem_append_left more member
  canonical := by
    right
    have leading := head?_toDigits_ne nonzero
    rwa [split, List.head?_append_of_ne_nil _ nonempty] at leading
  fractionDigits := fractionDigits
  fractionNonempty := fractionNonempty

theorem toList_zeros (count : Nat) : (zeros count).toList = List.replicate count '0' :=
  String.toList_ofList

section Shapes

variable (negative : Bool) {digits : Nat} (nonzero : digits ≠ 0)

/-- Zeros may stand between the point and the digits. -/
theorem spells_fraction (digits count : Nat) :
    Spells (signCharacters negative ++
        (['0'] ++ (fractionCharacters (some (List.replicate count '0' ++ Nat.toDigits 10 digits)) ++
          [])))
      negative ⟨digits, -(count + (Nat.toDigits 10 digits).length : Nat)⟩ := by
  have parts : AreParts ['0'] (some (List.replicate count '0' ++ Nat.toDigits 10 digits)) := by
    apply areParts_zero
    · exact List.forall_mem_append.mpr
        ⟨fun _ => isDigit_of_mem_replicate, fun _ => Snbt.isDigit_of_mem_toDigits⟩
    · simp [Nat.toDigits_ne_nil]
  refine @spells_parts _ _ _ none negative parts rfl _ ?_
  have all : naturalOfDigits (['0'] ++ (List.replicate count '0' ++ Nat.toDigits 10 digits)) =
      digits := by
    have zero : Nat.ofDigitChars 10 ['0'] 0 = 0 := rfl
    unfold naturalOfDigits
    rw [Nat.ofDigitChars_append, Nat.ofDigitChars_append, zero, Nat.ofDigitChars_replicate_zero,
      Nat.mul_zero, Nat.ofDigitChars_ten_toDigits]
  rw [Option.getD_some, all, List.length_append, List.length_replicate, Option.getD_none,
    Int.zero_sub]

include nonzero

/-- Zeros may stand for the places down to the point, and one behind it. -/
theorem spells_whole (power : Nat) :
    Spells (signCharacters negative ++
        (Nat.toDigits 10 (digits * 10 ^ power) ++ (fractionCharacters (some ['0']) ++ [])))
      negative ⟨digits, power⟩ := by
  have larger : digits * 10 ^ power ≠ 0 :=
    Nat.mul_ne_zero nonzero (Nat.pow_pos (by decide)).ne'
  have parts : AreParts (Nat.toDigits 10 (digits * 10 ^ power)) (some ['0']) :=
    areParts_of_toDigits larger (List.append_nil _).symm Nat.toDigits_ne_nil forall_isDigit_zero
      nofun
  refine @spells_parts _ _ _ none negative parts rfl _ ?_
  have all : naturalOfDigits (Nat.toDigits 10 (digits * 10 ^ power) ++ ['0']) =
      digits * 10 ^ power * 10 := by
    have next := toDigits_append_zeros larger 1
    rw [List.replicate_one] at next
    rw [next, naturalOfDigits_toDigits, Nat.pow_one]
  rw [Option.getD_some, all]
  simp [Decimal.value, zpow_neg]

/-- The point may stand anywhere among the digits, with an exponent that makes up for it. -/
theorem spells_split {place : Nat} {tail : List Char} {exponent : Option Int} (front : 0 < place)
    (back : place < (Nat.toDigits 10 digits).length)
    (ending : Literal.exponent? tail = some exponent) :
    Spells (signCharacters negative ++ ((Nat.toDigits 10 digits).take place ++
        (fractionCharacters (some ((Nat.toDigits 10 digits).drop place)) ++ tail)))
      negative ⟨digits, exponent.getD 0 - ((Nat.toDigits 10 digits).length - place : Nat)⟩ := by
  have cut := (List.take_append_drop place (Nat.toDigits 10 digits)).symm
  have parts : AreParts ((Nat.toDigits 10 digits).take place)
      (some ((Nat.toDigits 10 digits).drop place)) := by
    apply areParts_of_toDigits nonzero cut
    · apply List.ne_nil_of_length_pos
      rw [List.length_take]
      omega
    · exact fun _ member => Snbt.isDigit_of_mem_toDigits (List.mem_of_mem_drop member)
    · simpa using back
  refine spells_parts negative parts ending ?_
  rw [Option.getD_some, ← cut, naturalOfDigits_toDigits, List.length_drop]

/-- A single digit may stand without a point. -/
theorem spells_single {tail : List Char} {exponent : Option Int}
    (ending : Literal.exponent? tail = some exponent) :
    Spells (signCharacters negative ++
        (Nat.toDigits 10 digits ++ (fractionCharacters none ++ tail)))
      negative ⟨digits, exponent.getD 0⟩ := by
  have parts : AreParts (Nat.toDigits 10 digits) none :=
    areParts_of_toDigits nonzero (List.append_nil _).symm Nat.toDigits_ne_nil
      (List.forall_mem_nil _) nofun
  refine spells_parts negative parts ending ?_
  simp [naturalOfDigits_toDigits]

end Shapes

section Decimals

variable {decimal : Decimal} (nonzero : decimal.digits ≠ 0)

include nonzero

/-- With every digit in its place, a whole number may end in a zero behind the point. -/
theorem spells_positional (negative : Bool) {suffix : String}
    (allowed : suffix = "" ∨ suffix = ".0") :
    Spells (signCharacters negative ++ (decimal.positional suffix).toList) negative decimal := by
  obtain ⟨digits, exponent⟩ := decimal
  unfold Decimal.positional
  dsimp only at nonzero ⊢
  split
  next whole =>
    obtain ⟨power, rfl⟩ := Int.eq_ofNat_of_zero_le whole
    have padded : (String.ofList (Nat.toDigits 10 digits) ++ zeros (power : Int).toNat).toList =
        Nat.toDigits 10 (digits * 10 ^ power) := by
      rw [← toDigits_append_zeros nonzero]
      simp [toList_zeros]
    rw [String.toList_append, padded]
    rcases allowed with rfl | rfl
    · have larger : digits * 10 ^ power ≠ 0 :=
        Nat.mul_ne_zero nonzero (Nat.pow_pos (by decide)).ne'
      have spelled := @spells_single negative _ larger [] none rfl
      refine (spelled.of_value ?_)
      simp [Decimal.value]
    · exact spells_whole negative nonzero power
  next small =>
    obtain ⟨count, rfl⟩ : ∃ count : Nat, exponent = -count := ⟨(-exponent).toNat, by omega⟩
    rw [Int.neg_neg, Int.toNat_natCast]
    split
    next fits =>
      have spelled := @spells_split negative digits nonzero _ [] none (Nat.sub_pos_of_lt fits)
        (Nat.sub_lt (by omega) (by omega)) rfl
      rw [Nat.sub_sub_self fits.le, Option.getD_none, Int.zero_sub] at spelled
      simpa [fractionCharacters] using spelled
    next short =>
      have spelled := spells_fraction negative digits (count - (Nat.toDigits 10 digits).length)
      rw [Nat.sub_add_cancel (Nat.le_of_not_lt short)] at spelled
      simpa [fractionCharacters, toList_zeros] using spelled

theorem spells_scientific (negative : Bool) :
    Spells (signCharacters negative ++ decimal.scientific.toList) negative decimal := by
  obtain ⟨digits, exponent⟩ := decimal
  unfold Decimal.scientific
  dsimp only at nonzero ⊢
  have place : Decimal.leading ⟨digits, exponent⟩ =
      (Nat.toDigits 10 digits).length - 1 + exponent := rfl
  generalize Decimal.leading ⟨digits, exponent⟩ = leading at place ⊢
  have ending := Literal.exponent?_signed leading
  have sign : (if leading < 0 then "-" else "+").toList = [if leading < 0 then '-' else '+'] := by
    split <;> rfl
  have number : (toString leading.natAbs).toList = Nat.toDigits 10 leading.natAbs := by
    rw [Nat.toString_eq_repr, Nat.toList_repr]
  have width := @Nat.length_toDigits_pos 10 digits
  by_cases single : (Nat.toDigits 10 digits).length = 1
  · have spelled := spells_single negative nonzero ending
    have exact : (some leading).getD 0 = exponent := by
      rw [Option.getD_some]
      omega
    rw [exact] at spelled
    simpa [single, sign, number, fractionCharacters, List.take_of_length_le single.le,
      List.drop_eq_nil_of_le single.le] using spelled
  · have spelled := spells_split negative nonzero Nat.one_pos (by omega) ending
    have exact : (some leading).getD 0 - ((Nat.toDigits 10 digits).length - 1 : Nat) =
        exponent := by
      rw [Option.getD_some]
      omega
    rw [exact] at spelled
    simpa [single, sign, number, fractionCharacters] using spelled

end Decimals

theorem spells_zero (negative : Bool) :
    Spells (signCharacters negative ++ "0.0".toList) negative ⟨0, 0⟩ := by
  have parts : AreParts ['0'] (some ['0']) := areParts_zero forall_isDigit_zero nofun
  refine @spells_parts _ [] _ none negative parts rfl _ ?_
  have none : naturalOfDigits (['0'] ++ ['0']) = 0 := rfl
  rw [Option.getD_some, none]
  simp [Decimal.value]

theorem toList_render (format : NumberFormat) (negative : Bool) (magnitude : Magnitude) :
    ((Binary64.finite negative magnitude).render format).toList =
      signCharacters negative ++ (magnitude.render format).toList := by
  rw [Binary64.render, String.toList_append]
  cases negative <;> rfl

theorem spells_render (negative : Bool) (magnitude : Magnitude) :
    Spells ((Binary64.finite negative magnitude).render numberFormat).toList negative
      (if magnitude.units = 0 then ⟨0, 0⟩ else magnitude.shortest .toEven) := by
  rw [toList_render, Magnitude.render]
  split
  next => exact spells_zero negative
  next nonzero =>
    have digits := digits_shortest_ne_zero .toEven nonzero
    change Spells (_ ++ (if numberFormat.positional (magnitude.shortest .toEven).leading then
      (magnitude.shortest .toEven).positional ".0"
      else (magnitude.shortest .toEven).scientific).toList) _ _
    by_cases fits : numberFormat.positional (magnitude.shortest .toEven).leading = true
    · rw [if_pos fits]
      exact spells_positional digits negative (.inr rfl)
    · rw [if_neg fits]
      exact spells_scientific digits negative

theorem digits_eq_zero_of_value {decimal : Decimal} (zero : decimal.value = 0) :
    decimal.digits = 0 := by
  rcases mul_eq_zero.mp zero with digits | power
  · exact Nat.cast_eq_zero.mp digits
  · exact absurd power (zpow_ne_zero _ (by norm_num))

/-- What has the value of a number's shortest decimal is that number, a zero with its sign. -/
theorem value_of_shortest {literal : Literal} {negative : Bool} {magnitude : Magnitude}
    {half : Half} (sign : literal.isNegative = negative)
    (same : literal.decimal.value =
      Decimal.value (if magnitude.units = 0 then ⟨0, 0⟩ else magnitude.shortest half)) :
    literal.value = .finite negative magnitude := by
  change Binary64.ofDecimal literal.isNegative literal.decimal.digits literal.decimal.exponent = _
  rw [sign]
  split at same
  next zero =>
    have none : literal.decimal.digits = 0 := by
      apply digits_eq_zero_of_value
      rw [same, Decimal.value, Nat.cast_zero, zero_mul]
    obtain ⟨units, representable⟩ := magnitude
    obtain rfl : units = 0 := zero
    rw [none]
    rfl
  next nonzero => exact ofDecimal_of_shortest negative nonzero same

/-- Every finite number is read back from its JSON text. -/
theorem real?_render (negative : Bool) (magnitude : Magnitude) :
    real? ((Binary64.finite negative magnitude).render numberFormat) =
      some (.finite negative magnitude) := by
  obtain ⟨literal, read, sign, same⟩ := spells_render negative magnitude
  simp only [real?, read, Option.bind_eq_bind, Option.bind_some, value_of_shortest sign same]

section Naturals

variable (value : Nat)

theorem literal?_toString :
    literal? (toString value).toList = some ⟨none, Nat.toDigits 10 value, none, none⟩ := by
  have parts : AreParts (Nat.toDigits 10 value) none := by
    by_cases zero : value = 0
    · rw [zero]
      exact areParts_zero (List.forall_mem_nil _) nofun
    · exact areParts_of_toDigits zero (List.append_nil _).symm Nat.toDigits_ne_nil
        (List.forall_mem_nil _) nofun
  have read := @literal?_parts _ [] _ none false parts rfl
  rw [Nat.toString_eq_repr, Nat.toList_repr]
  simpa [signCharacters, fractionCharacters] using read

theorem natural?_toString : natural? (toString value) = some value := by
  rw [natural?, literal?_toString, Option.bind_eq_bind, Option.bind_some]
  exact congrArg some (naturalOfDigits_toDigits value)

end Naturals

end Spelling

theorem IsJson.natural (value : Nat) : IsJson (.natural value) :=
  .number (Option.isSome_iff_exists.mpr ⟨_, literal?_toString value⟩)

theorem IsJson.real (number : Binary64) : IsJson (Json.real number) := by
  cases number with
  | undefined => exact .other
  | infinite negative => exact .other
  | finite negative magnitude =>
    obtain ⟨literal, read, -⟩ := spells_render negative magnitude
    exact .number (Option.isSome_iff_exists.mpr ⟨literal, read⟩)

end Datapack.Json
