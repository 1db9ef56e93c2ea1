import Datapack.Json.Writer
import Datapack.Proofs.Json.Strings
import Mathlib.Data.List.Chain

/-!
Texts as layouts of tokens. A layout is the characters of some tokens with blanks anywhere between
them. Scanning finds the tokens of every layout again, as long as of two neighbours one is a
punctuation mark: words and numbers could run into each other.
-/

namespace Datapack.Json

open Number

section Escapes

/-- The forms in which a character is found in a string. -/
inductive Piece.StandsFor : Piece → Char → Prop
  | character (value : Char) : StandsFor (.character value) value
  | unit {value : Char} (control : value.toNat < 0x20) : StandsFor (.unit value.toNat) value

theorem hexDigit?_digitChar : ∀ digit < 16, hexDigit? (Nat.digitChar digit) = some digit := by
  decide

theorem step?_unicode (pieces : List Piece) (tokens : List Token) (digits value : Nat)
    {digit : Nat} (single : digit < 16) :
    Scan.step? ⟨.unicode pieces digits value, tokens⟩ (Nat.digitChar digit) =
      some (if digits = 3 then ⟨.string (.unit (16 * value + digit) :: pieces), tokens⟩
        else ⟨.unicode pieces (digits + 1) (16 * value + digit), tokens⟩) := by
  simp only [Scan.step?, hexDigit?_digitChar digit single]
  rfl

theorem foldlM_step?_control {character : Char} (control : character.toNat < 0x20)
    (pieces : List Piece) (tokens : List Token) :
    ['\\', 'u', '0', '0', Nat.digitChar (character.toNat / 16),
        Nat.digitChar (character.toNat % 16)].foldlM Scan.step? ⟨.string pieces, tokens⟩ =
      some ⟨.string (.unit character.toNat :: pieces), tokens⟩ := by
  have third := step?_unicode pieces tokens 2 0 (show character.toNat / 16 < 16 by omega)
  have fourth := step?_unicode pieces tokens 3 (character.toNat / 16)
    (show character.toNat % 16 < 16 by omega)
  have opened : ['\\', 'u', '0', '0'].foldlM Scan.step? ⟨.string pieces, tokens⟩ =
      some ⟨.unicode pieces 2 0, tokens⟩ := rfl
  rw [if_neg (by decide), Nat.mul_zero, Nat.zero_add] at third
  rw [if_pos rfl, Nat.div_add_mod] at fourth
  change (['\\', 'u', '0', '0'] ++ [_, _]).foldlM _ _ = _
  rw [List.foldlM_append, opened]
  simp only [Option.bind_eq_bind, Option.bind_some, List.foldlM_cons, third, fourth,
    List.foldlM_nil]
  rfl

theorem foldlM_step?_escape (character : Char) (pieces : List Piece) (tokens : List Token) :
    ∃ piece, piece.StandsFor character ∧
      (escape character).foldlM Scan.step? ⟨.string pieces, tokens⟩ =
        some ⟨.string (piece :: pieces), tokens⟩ := by
  unfold escape
  split
  case h_8 quote backslash _ _ _ _ _ =>
    split
    next control => exact ⟨_, .unit control, foldlM_step?_control control pieces tokens⟩
    next visible =>
      have plain : isPlain character = true := isPlain_iff.mpr ⟨quote, backslash, visible⟩
      refine ⟨_, .character character, ?_⟩
      rw [List.foldlM_cons, step?_of_isPlain plain]
      rfl
  all_goals exact ⟨_, .character _, rfl⟩

theorem foldlM_step?_escapes (text : List Char) (pieces : List Piece) (tokens : List Token) :
    ∃ found, List.Forall₂ Piece.StandsFor found text ∧
      (text.flatMap escape).foldlM Scan.step? ⟨.string pieces, tokens⟩ =
        some ⟨.string (found.reverse ++ pieces), tokens⟩ := by
  induction text generalizing pieces with
  | nil => exact ⟨[], .nil, rfl⟩
  | cons character text inductionHypothesis =>
    obtain ⟨piece, stands, first⟩ := foldlM_step?_escape character pieces tokens
    obtain ⟨found, others, rest⟩ := inductionHypothesis (piece :: pieces)
    refine ⟨piece :: found, .cons stands others, ?_⟩
    rw [List.flatMap_cons, List.foldlM_append, first, Option.bind_eq_bind, Option.bind_some, rest]
    simp

/-- The number of a control character is no half of a surrogate pair. -/
theorem charactersOfPieces?_unit {value : Nat} (control : value < 0x20) (rest : List Piece) :
    charactersOfPieces? (.unit value :: rest) =
      (charactersOfPieces? rest).map (Char.ofNat value :: ·) := by
  have leading : isLeadingSurrogate value = false := by
    simp [isLeadingSurrogate]
    omega
  have trailing : isTrailingSurrogate value = false := by
    simp [isTrailingSurrogate]
    omega
  cases rest with
  | nil => simp [charactersOfPieces?, leading, trailing]
  | cons piece rest =>
    cases piece with
    | character other => simp [charactersOfPieces?, leading, trailing]
    | unit other =>
      rw [charactersOfPieces?, if_neg (by simp [leading]), if_neg (by simp [trailing])]

theorem charactersOfPieces?_of_standsFor {pieces : List Piece} {text : List Char}
    (stand : List.Forall₂ Piece.StandsFor pieces text) :
    charactersOfPieces? pieces = some text := by
  induction stand with
  | nil => rfl
  | cons stands _ inductionHypothesis =>
    cases stands with
    | character value => rw [charactersOfPieces?, inductionHypothesis, Option.map_some]
    | unit control =>
      rw [charactersOfPieces?_unit control, inductionHypothesis, Option.map_some, Char.ofNat_toNat]

/-- Whatever its characters are, a quoted text is read as that text. -/
theorem foldlM_step?_quoted (text : String) (tokens : List Token) :
    (quoted text).foldlM Scan.step? ⟨.between, tokens⟩ =
      some ⟨.between, .text (some text) :: tokens⟩ := by
  obtain ⟨found, stand, read⟩ := foldlM_step?_escapes text.toList [] tokens
  have start : Scan.step? ⟨.between, tokens⟩ '"' = some ⟨.string [], tokens⟩ := rfl
  have token : textToken found = .text (some text) := by
    rw [textToken, charactersOfPieces?_of_standsFor stand, Option.map_some, String.ofList_toList]
  rw [quoted, List.foldlM_cons, start, Option.bind_eq_bind, Option.bind_some, List.foldlM_append,
    read]
  simp [Scan.step?, token]

theorem lineFeed_not_mem_escape (character : Char) : '\n' ∉ escape character := by
  have digits : ∀ digit < 16, '\n' ≠ Nat.digitChar digit := by decide
  unfold escape
  split
  case h_8 _ _ _ _ lineFeed _ _ =>
    split
    next control =>
      have first := digits (character.toNat / 16) (by omega)
      have second := digits (character.toNat % 16) (by omega)
      simp [first, second]
    next => simpa using Ne.symm lineFeed
  all_goals decide

theorem lineFeed_not_mem_quoted (text : String) : '\n' ∉ quoted text := by
  intro member
  rcases List.mem_cons.mp member with quote | member
  · exact absurd quote (by decide)
  rcases List.mem_append.mp member with escaped | quote
  · obtain ⟨character, -, escaped⟩ := List.mem_flatMap.mp escaped
    exact lineFeed_not_mem_escape character escaped
  · exact absurd quote (by decide)

end Escapes

section Separators

def IsSeparator (character : Char) : Prop :=
  character.isLower = false ∧ isNumberCharacter character = false

theorem isSeparator_of_isBlank {character : Char} (blank : isBlank character = true) :
    IsSeparator character := by
  simp only [isBlank, Bool.or_eq_true, beq_iff_eq] at blank
  rcases blank with ((rfl | rfl) | rfl) | rfl <;> exact ⟨rfl, rfl⟩

theorem isSeparator_of_punctuation? {character : Char} {token : Token}
    (found : punctuation? character = some token) : IsSeparator character := by
  unfold punctuation? at found
  split at found <;> cases found <;> exact ⟨rfl, rfl⟩

end Separators

section Numbers

variable {characters : List Char} {literal : Literal}

theorem isNumberCharacter_of_isDigit {character : Char} (digit : character.isDigit = true) :
    isNumberCharacter character = true := by
  simp [isNumberCharacter, digit]

theorem forall_isNumberCharacter_of_splitSign
    (body : ∀ character ∈ (splitSign characters).2, isNumberCharacter character = true) :
    ∀ character ∈ characters, isNumberCharacter character = true := by
  unfold splitSign at body
  split at body
  · exact List.forall_mem_cons.mpr ⟨rfl, body⟩
  · exact List.forall_mem_cons.mpr ⟨rfl, body⟩
  · exact body

theorem forall_isNumberCharacter_of_exponent? {exponent : Option Int}
    (read : Literal.exponent? characters = some exponent) :
    ∀ character ∈ characters, isNumberCharacter character = true := by
  unfold Literal.exponent? at read
  split at read
  · exact List.forall_mem_nil _
  · next marker rest =>
    dsimp only at read
    split at read
    · next valid =>
      obtain ⟨marked, -, digits⟩ := valid
      refine List.forall_mem_cons.mpr ⟨?_, forall_isNumberCharacter_of_splitSign ?_⟩
      · rcases marked with rfl | rfl <;> rfl
      · intro character member
        exact isNumberCharacter_of_isDigit (List.all_eq_true.mp digits character member)
    · cases read

/-- Behind a run of digits and what follows it there is nothing else. -/
theorem forall_isNumberCharacter_of_dropWhile
    (rest : ∀ character ∈ characters.dropWhile Char.isDigit, isNumberCharacter character = true) :
    ∀ character ∈ characters, isNumberCharacter character = true := by
  rw [← List.takeWhile_append_dropWhile (p := Char.isDigit) (l := characters)]
  refine List.forall_mem_append.mpr ⟨?_, rest⟩
  intro character member
  exact isNumberCharacter_of_isDigit (List.all_eq_true.mp List.all_takeWhile character member)

theorem forall_isNumberCharacter_of_read? (read : Literal.read? characters = some literal) :
    ∀ character ∈ characters, isNumberCharacter character = true := by
  apply forall_isNumberCharacter_of_splitSign
  apply forall_isNumberCharacter_of_dropWhile
  unfold Literal.read? at read
  dsimp only at read
  split at read
  · next rest behind =>
    obtain ⟨exponent, found, -⟩ := Option.bind_eq_some_iff.mp read
    rw [behind]
    refine List.forall_mem_cons.mpr ⟨rfl, ?_⟩
    exact forall_isNumberCharacter_of_dropWhile (forall_isNumberCharacter_of_exponent? found)
  · obtain ⟨exponent, found, -⟩ := Option.bind_eq_some_iff.mp read
    exact forall_isNumberCharacter_of_exponent? found

theorem sign_of_read? (read : Literal.read? characters = some literal) :
    literal.sign = (splitSign characters).1 ∧
      literal.whole = (splitSign characters).2.takeWhile Char.isDigit := by
  unfold Literal.read? at read
  dsimp only at read
  split at read <;> obtain ⟨exponent, -, same⟩ := Option.bind_eq_some_iff.mp read <;>
    cases same <;> exact ⟨rfl, rfl⟩

theorem exists_of_literal? (read : literal? characters = some literal) :
    ∃ first rest, characters = first :: rest ∧ (first.isDigit = true ∨ first = '-') := by
  obtain ⟨read, accepted⟩ := Option.filter_eq_some_iff.mp read
  obtain ⟨sign, whole⟩ := sign_of_read? read
  simp only [Bool.and_eq_true, bne_iff_ne] at accepted
  obtain ⟨⟨unsigned, canonical⟩, -⟩ := accepted
  generalize parts : splitSign characters = split at sign whole
  unfold splitSign at parts
  split at parts <;> subst parts
  · exact absurd sign unsigned
  · exact ⟨'-', _, rfl, .inr rfl⟩
  · -- Without a sign the digits in front of the point come first, and there are some.
    cases characters with
    | nil =>
      rw [Literal.isCanonical, whole] at canonical
      contradiction
    | cons first rest =>
      refine ⟨first, rest, rfl, .inl ?_⟩
      by_contra other
      rw [List.takeWhile_cons_of_neg other] at whole
      rw [Literal.isCanonical, whole] at canonical
      contradiction

theorem foldlM_step?_number {rest : List Char}
    (inside : ∀ character ∈ rest, isNumberCharacter character = true) (read : List Char)
    (tokens : List Token) :
    rest.foldlM Scan.step? ⟨.number read, tokens⟩ =
      some ⟨.number (rest.reverse ++ read), tokens⟩ := by
  induction rest generalizing read with
  | nil => rfl
  | cons character rest inductionHypothesis =>
    rw [List.forall_mem_cons] at inside
    have step : Scan.step? ⟨.number read, tokens⟩ character =
        some ⟨.number (character :: read), tokens⟩ := by
      simp only [Scan.step?, if_pos inside.1]
    rw [List.foldlM_cons, step, Option.bind_eq_bind, Option.bind_some,
      inductionHypothesis inside.2]
    simp

/-- A number that is followed by nothing is read as it is spelled. -/
theorem finish?_of_literal? (read : literal? characters = some literal) (tokens : List Token) :
    (characters.foldlM Scan.step? ⟨.between, tokens⟩).bind Scan.finish? =
      some (tokens.reverse ++ [.number (String.ofList characters)]) := by
  have inside := forall_isNumberCharacter_of_read? (Option.filter_eq_some_iff.mp read).1
  obtain ⟨first, rest, rfl, begins⟩ := exists_of_literal? read
  rw [List.forall_mem_cons] at inside
  have start : Scan.step? ⟨.between, tokens⟩ first = some ⟨.number [first], tokens⟩ := by
    have visible : ¬isBlank first = true := fun blank =>
      Bool.false_ne_true ((isSeparator_of_isBlank blank).2.symm.trans inside.1)
    have unquoted : first ≠ '"' := by
      rintro rfl
      exact absurd inside.1 (by decide)
    simp only [Scan.step?, begin?, if_neg visible, if_neg unquoted, if_pos begins]
  rw [List.foldlM_cons, start, Option.bind_eq_bind, Option.bind_some,
    foldlM_step?_number inside.2, Option.bind_some]
  simp [Scan.finish?, numberToken?, read]

end Numbers

section Tokens

def Token.IsMark (token : Token) : Prop :=
  ∃ character, punctuation? character = some token

/-- Numbers are written as JSON spells numbers, and texts have a content. -/
def Token.IsWritable : Token → Prop
  | .number literal => (literal? literal.toList).isSome
  | .text content => content.isSome
  | _ => True

theorem characters_of_punctuation? {character : Char} {token : Token}
    (found : punctuation? character = some token) : token.characters = [character] := by
  unfold punctuation? at found
  split at found <;> cases found <;> rfl

/-- A separator ends what was being read as the end of the text would. -/
theorem step?_of_finish? {scan : Scan} {read : List Token} {character : Char}
    (settled : scan.finish? = some read) (separator : IsSeparator character) :
    scan.step? character = begin? read.reverse character := by
  obtain ⟨mode, tokens⟩ := scan
  obtain ⟨letter, number⟩ := separator
  cases mode with
  | between =>
    obtain rfl := Option.some.inj settled
    rw [List.reverse_reverse]
    rfl
  | word letters =>
    obtain ⟨token, found, rfl⟩ := Option.map_eq_some_iff.mp settled
    rw [List.reverse_reverse]
    simp only [Scan.step?, letter, found]
    rfl
  | number characters =>
    obtain ⟨token, found, rfl⟩ := Option.map_eq_some_iff.mp settled
    rw [List.reverse_reverse]
    simp only [Scan.step?, number, found]
    rfl
  | string pieces => cases settled
  | escape pieces => cases settled
  | unicode pieces digits value => cases settled

theorem step?_blank {scan : Scan} {read : List Token} {character : Char}
    (settled : scan.finish? = some read) (blank : isBlank character = true) :
    scan.step? character = some ⟨.between, read.reverse⟩ := by
  rw [step?_of_finish? settled (isSeparator_of_isBlank blank), begin?, if_pos blank]

theorem foldlM_step?_mark {scan : Scan} {read : List Token} {token : Token}
    (settled : scan.finish? = some read) (mark : token.IsMark) :
    token.characters.foldlM Scan.step? scan = some ⟨.between, token :: read.reverse⟩ := by
  obtain ⟨character, found⟩ := mark
  have begun : begin? read.reverse character = some ⟨.between, token :: read.reverse⟩ :=
    step?_of_punctuation? found read.reverse
  rw [characters_of_punctuation? found, List.foldlM_cons,
    step?_of_finish? settled (isSeparator_of_punctuation? found), begun]
  rfl

theorem finish?_of_isWritable {token : Token} (writable : token.IsWritable) (tokens : List Token) :
    (token.characters.foldlM Scan.step? ⟨.between, tokens⟩).bind Scan.finish? =
      some (tokens.reverse ++ [token]) := by
  have mark (mark : token.IsMark) :
      (token.characters.foldlM Scan.step? ⟨.between, tokens⟩).bind Scan.finish? =
        some (tokens.reverse ++ [token]) := by
    have settled : Scan.finish? ⟨.between, tokens⟩ = some tokens.reverse := rfl
    rw [foldlM_step?_mark settled mark]
    simp [Scan.finish?]
  have word {letters : List Char} (found : wordToken? letters = some token)
      (scanned : letters.foldlM Scan.step? ⟨.between, tokens⟩ =
        some ⟨.word letters.reverse, tokens⟩) :
      (letters.foldlM Scan.step? ⟨.between, tokens⟩).bind Scan.finish? =
        some (tokens.reverse ++ [token]) := by
    rw [scanned, Option.bind_some]
    simp [Scan.finish?, found]
  cases token with
  | openList => exact mark ⟨'[', rfl⟩
  | closeList => exact mark ⟨']', rfl⟩
  | openRecord => exact mark ⟨'{', rfl⟩
  | closeRecord => exact mark ⟨'}', rfl⟩
  | comma => exact mark ⟨',', rfl⟩
  | colon => exact mark ⟨':', rfl⟩
  | null => exact word rfl rfl
  | flag value =>
    cases value with
    | false => exact word rfl rfl
    | true => exact word rfl rfl
  | number literal =>
    obtain ⟨parts, read⟩ := Option.isSome_iff_exists.mp writable
    rw [Token.characters, finish?_of_literal? read, String.ofList_toList]
  | text content =>
    obtain ⟨content, rfl⟩ := Option.isSome_iff_exists.mp writable
    rw [Token.characters, Option.getD_some, foldlM_step?_quoted]
    simp [Scan.finish?]

theorem lineFeed_not_mem_characters {token : Token} (writable : token.IsWritable) :
    '\n' ∉ token.characters := by
  cases token with
  | flag value => cases value <;> decide
  | number literal =>
    intro member
    obtain ⟨parts, read⟩ := Option.isSome_iff_exists.mp writable
    have inside := forall_isNumberCharacter_of_read? (Option.filter_eq_some_iff.mp read).1
    exact absurd (inside _ member) (by decide)
  | text content => exact lineFeed_not_mem_quoted (content.getD "")
  | _ => decide

end Tokens

/-- The characters of the tokens, with blanks anywhere between them. -/
inductive IsLayout : List Token → List Char → Prop
  | nil : IsLayout [] []
  | blank {tokens : List Token} {text : List Char} {character : Char} :
      isBlank character = true → IsLayout tokens text → IsLayout tokens (character :: text)
  | token {tokens : List Token} {text : List Char} (token : Token) :
      IsLayout tokens text → IsLayout (token :: tokens) (token.characters ++ text)

/-- Tokens that have a text each and cannot run into each other. -/
structure AreReadable (tokens : List Token) : Prop where
  writable : ∀ token ∈ tokens, token.IsWritable
  /-- Of two neighbours one is a punctuation mark. -/
  spaced : tokens.IsChain fun first second => first.IsMark ∨ second.IsMark

section Layouts

variable {tokens : List Token} {text : List Char}

/-- Between tokens a scan goes on with any token, and behind a word or a number with any mark. -/
theorem finish?_of_isLayout (layout : IsLayout tokens text) (readable : AreReadable tokens)
    {scan : Scan} {read : List Token} (settled : scan.finish? = some read)
    (follows : scan.mode = .between ∨ ∀ token ∈ tokens.head?, token.IsMark) :
    (text.foldlM Scan.step? scan).bind Scan.finish? = some (read ++ tokens) := by
  induction layout generalizing scan read with
  | nil => simpa using settled
  | blank blank _ inductionHypothesis =>
    rw [List.foldlM_cons, step?_blank settled blank, Option.bind_eq_bind, Option.bind_some]
    refine inductionHypothesis readable ?_ (.inl rfl)
    simp [Scan.finish?]
  | @token tokens text token _ inductionHypothesis =>
    obtain ⟨own, others⟩ := List.forall_mem_cons.mp readable.writable
    obtain ⟨neighbour, behind⟩ := List.isChain_cons.mp readable.spaced
    have shift : read ++ token :: tokens = read ++ [token] ++ tokens := by simp
    rw [List.foldlM_append, shift]
    by_cases mark : token.IsMark
    · rw [foldlM_step?_mark settled mark, Option.bind_eq_bind, Option.bind_some]
      refine inductionHypothesis ⟨others, behind⟩ ?_ (.inl rfl)
      simp [Scan.finish?]
    · -- A word or a number may end with the text, and otherwise a mark comes next.
      have between : scan.mode = .between :=
        follows.resolve_right fun marks => mark (marks token rfl)
      obtain ⟨mode, earlier⟩ := scan
      obtain rfl : mode = .between := between
      obtain rfl := Option.some.inj settled
      obtain ⟨next, scanned, finished⟩ :=
        Option.bind_eq_some_iff.mp (finish?_of_isWritable own earlier)
      rw [scanned, Option.bind_eq_bind, Option.bind_some]
      refine inductionHypothesis ⟨others, behind⟩ finished (.inr ?_)
      exact fun second first => (neighbour second first).resolve_left mark

theorem tokens?_of_isLayout (layout : IsLayout tokens text) (readable : AreReadable tokens) :
    tokens? text = some tokens := by
  have start : Scan.finish? ⟨.between, []⟩ = some [] := rfl
  exact finish?_of_isLayout layout readable start (.inl rfl)

theorem isWritable_of_isMark {token : Token} (mark : token.IsMark) : token.IsWritable := by
  obtain ⟨character, found⟩ := mark
  unfold punctuation? at found
  split at found <;> cases found <;> trivial

theorem areReadable_singleton {token : Token} (writable : token.IsWritable) :
    AreReadable [token] :=
  ⟨List.forall_mem_singleton.mpr writable, List.isChain_singleton token⟩

theorem AreReadable.append {first second : List Token} {mark : Token}
    (before : AreReadable first) (between : mark.IsMark) (after : AreReadable second) :
    AreReadable (first ++ mark :: second) where
  writable := List.forall_mem_append.mpr
    ⟨before.writable, List.forall_mem_cons.mpr ⟨isWritable_of_isMark between, after.writable⟩⟩
  spaced := by
    refine before.spaced.append (List.isChain_cons.mpr ⟨?_, after.spaced⟩) ?_
    · exact fun _ _ => .inl between
    · rintro _ - _ ⟨⟩
      exact .inr between

theorem isLayout_flatMap (tokens : List Token) :
    IsLayout tokens (tokens.flatMap Token.characters) := by
  induction tokens with
  | nil => exact .nil
  | cons token tokens inductionHypothesis => exact .token token inductionHypothesis

theorem IsLayout.newLine (layout : IsLayout tokens text) (depth : Nat) :
    IsLayout tokens (newLine depth ++ text) := by
  refine .blank rfl ?_
  induction 2 * depth with
  | zero => exact layout
  | succ count inductionHypothesis => exact .blank rfl inductionHypothesis

theorem isLayout_indentedCharacters (depth : Nat) (tokens : List Token) :
    IsLayout tokens (indentedCharacters depth tokens) := by
  fun_induction indentedCharacters depth tokens with
  | case1 => exact .nil
  | case2 depth rest inductionHypothesis =>
    exact .token .openList (.token .closeList inductionHypothesis)
  | case3 depth rest inductionHypothesis =>
    exact .token .openRecord (.token .closeRecord inductionHypothesis)
  | case4 depth rest _ inductionHypothesis =>
    exact .token .openList (inductionHypothesis.newLine _)
  | case5 depth rest _ inductionHypothesis =>
    exact .token .openRecord (inductionHypothesis.newLine _)
  | case6 depth rest inductionHypothesis =>
    exact (IsLayout.token .closeList inductionHypothesis).newLine _
  | case7 depth rest inductionHypothesis =>
    exact (IsLayout.token .closeRecord inductionHypothesis).newLine _
  | case8 depth rest inductionHypothesis => exact .token .comma (inductionHypothesis.newLine _)
  | case9 depth rest inductionHypothesis => exact .token .colon (.blank rfl inductionHypothesis)
  | case10 depth token rest _ _ _ _ _ _ _ _ inductionHypothesis =>
    exact .token token inductionHypothesis

end Layouts

end Datapack.Json
