import Datapack.Json.Reader
import Mathlib.Data.List.Forall2

/-!
Strings in JSON text. A character that needs no escape is read as itself; any other one shortens
what is read, because it ends the string or is used up by an escape. So no string of a text is as
long as a part of the text that has such a character in it.
-/

namespace Datapack.Json

def isPlain (character : Char) : Bool :=
  character != '"' && character != '\\' && 0x20 ≤ character.toNat

theorem isPlain_iff {character : Char} :
    isPlain character = true ↔
      character ≠ '"' ∧ character ≠ '\\' ∧ ¬character.toNat < 0x20 := by
  simp [isPlain, and_assoc]

/-- A text that stands for itself in a string. -/
def IsPlainText (text : String) : Prop :=
  ∀ character ∈ text.toList, isPlain character = true

instance (text : String) : Decidable (IsPlainText text) :=
  List.decidableBAll (fun character => isPlain character = true) text.toList

theorem isPlainText_append {first second : String} :
    IsPlainText (first ++ second) ↔ IsPlainText first ∧ IsPlainText second := by
  simp only [IsPlainText, String.toList_append, List.forall_mem_append]

theorem step?_of_isPlain {character : Char} (plain : isPlain character = true)
    (pieces : List Piece) (tokens : List Token) :
    Scan.step? ⟨.string pieces, tokens⟩ character =
      some ⟨.string (.character character :: pieces), tokens⟩ := by
  obtain ⟨quote, backslash, control⟩ := isPlain_iff.mp plain
  simp only [Scan.step?, if_neg quote, if_neg backslash, if_neg control]

theorem foldlM_step?_of_isPlain {text : List Char}
    (plain : ∀ character ∈ text, isPlain character = true) (pieces : List Piece)
    (tokens : List Token) :
    text.foldlM Scan.step? ⟨.string pieces, tokens⟩ =
      some ⟨.string ((text.map .character).reverse ++ pieces), tokens⟩ := by
  induction text generalizing pieces with
  | nil => rfl
  | cons character text inductionHypothesis =>
    rw [List.forall_mem_cons] at plain
    rw [List.foldlM_cons, step?_of_isPlain plain.1]
    simp [inductionHypothesis plain.2]

theorem charactersOfPieces?_characters (text : List Char) :
    charactersOfPieces? (text.map .character) = some text := by
  induction text with
  | nil => rfl
  | cons character text inductionHypothesis =>
    rw [List.map_cons, charactersOfPieces?, inductionHypothesis, Option.map_some]

/-- Without escapes a string is the characters between its quotes. -/
theorem textToken_characters (text : List Char) :
    textToken (text.map .character) = .text (some (String.ofList text)) := by
  rw [textToken, charactersOfPieces?_characters, Option.map_some]

def enquoted (text : String) : List Char :=
  '"' :: (text.toList ++ ['"'])

theorem foldlM_step?_enquoted {text : String} (plain : IsPlainText text) (tokens : List Token) :
    (enquoted text).foldlM Scan.step? ⟨.between, tokens⟩ =
      some ⟨.between, .text (some text) :: tokens⟩ := by
  have start : Scan.step? ⟨.between, tokens⟩ '"' = some ⟨.string [], tokens⟩ := rfl
  rw [enquoted, List.foldlM_cons, start, Option.bind_eq_bind, Option.bind_some, List.foldlM_append,
    foldlM_step?_of_isPlain plain]
  simp [Scan.step?, textToken_characters]

theorem step?_of_punctuation? {character : Char} {token : Token}
    (found : punctuation? character = some token) (tokens : List Token) :
    Scan.step? ⟨.between, tokens⟩ character = some ⟨.between, token :: tokens⟩ := by
  unfold punctuation? at found
  split at found <;> cases found <;> rfl

/-- Escapes may put several pieces into one character, never the other way round. -/
theorem length_of_charactersOfPieces? {pieces : List Piece} {characters : List Char}
    (read : charactersOfPieces? pieces = some characters) : characters.length ≤ pieces.length := by
  fun_induction charactersOfPieces? pieces generalizing characters with
  | case1 =>
    cases read
    exact Nat.le_refl 0
  | case2 value rest inductionHypothesis =>
    obtain ⟨others, behind, rfl⟩ := Option.map_eq_some_iff.mp read
    exact Nat.succ_le_succ (inductionHypothesis behind)
  | case3 leading trailing rest first second inductionHypothesis =>
    obtain ⟨others, behind, rfl⟩ := Option.map_eq_some_iff.mp read
    exact Nat.succ_le_succ (Nat.le_succ_of_le (inductionHypothesis behind))
  | case4 => cases read
  | case5 => cases read
  | case6 leading trailing rest first second inductionHypothesis =>
    obtain ⟨others, behind, rfl⟩ := Option.map_eq_some_iff.mp read
    exact Nat.succ_le_succ (inductionHypothesis behind)
  | case7 => cases read
  | case8 value rest last half inductionHypothesis =>
    obtain ⟨others, behind, rfl⟩ := Option.map_eq_some_iff.mp read
    exact Nat.succ_le_succ (inductionHypothesis behind)

section Scanning

def Mode.pieces : Mode → List Piece
  | .string pieces => pieces
  | .escape pieces => pieces
  | .unicode pieces _ _ => pieces
  | _ => []

/-- Every string among the tokens is shorter than a bound. -/
def TextsBelow (bound : Nat) (tokens : List Token) : Prop :=
  ∀ content, .text (some content) ∈ tokens → content.length < bound

variable {bound : Nat} {tokens : List Token} {scan next last : Scan} {character : Char}

theorem textsBelow_cons {token : Token}
    (own : ∀ content, token = .text (some content) → content.length < bound)
    (below : TextsBelow bound tokens) : TextsBelow bound (token :: tokens) := by
  intro content member
  rcases List.mem_cons.mp member with same | member
  · exact own content same.symm
  · exact below content member

theorem textsBelow_cons_text {content : String} (short : content.length < bound)
    (below : TextsBelow bound tokens) : TextsBelow bound (.text (some content) :: tokens) := by
  apply textsBelow_cons _ below
  rintro _ ⟨⟩
  exact short

theorem textsBelow_textToken {pieces : List Piece} (short : pieces.length < bound)
    (below : TextsBelow bound tokens) : TextsBelow bound (textToken pieces :: tokens) := by
  apply textsBelow_cons _ below
  intro content same
  obtain ⟨characters, read, rfl⟩ := Option.map_eq_some_iff.mp (Token.text.inj same)
  rw [String.length_ofList]
  exact Nat.lt_of_le_of_lt (length_of_charactersOfPieces? read) short

theorem begin?_spec (begun : begin? tokens character = some next)
    (below : TextsBelow bound tokens) :
    next.mode.pieces = [] ∧ TextsBelow bound next.tokens := by
  unfold begin? at begun
  split at begun
  · cases begun
    exact ⟨rfl, below⟩
  split at begun
  · cases begun
    exact ⟨rfl, below⟩
  split at begun
  · cases begun
    exact ⟨rfl, below⟩
  split at begun
  · cases begun
    exact ⟨rfl, below⟩
  · obtain ⟨token, found, rfl⟩ := Option.map_eq_some_iff.mp begun
    refine ⟨rfl, textsBelow_cons ?_ below⟩
    unfold punctuation? at found
    split at found <;> cases found <;> exact nofun

theorem ne_text_of_wordToken? {letters : List Char} {token : Token}
    (found : wordToken? letters = some token) (content : Option String) :
    token ≠ .text content := by
  unfold wordToken? at found
  split at found
  · cases found
    nofun
  split at found
  · cases found
    nofun
  split at found
  · cases found
    nofun
  · cases found

/-- What one character does: the string that is being read grows by one piece at most, and only
that string becomes one of the texts. -/
theorem step?_spec (taken : scan.step? character = some next)
    (short : scan.mode.pieces.length < bound) (below : TextsBelow bound scan.tokens) :
    next.mode.pieces.length ≤ scan.mode.pieces.length + 1 ∧ TextsBelow bound next.tokens := by
  obtain ⟨mode, tokens⟩ := scan
  cases mode with
  | between =>
    obtain ⟨closed, texts⟩ := begin?_spec taken below
    exact ⟨by simp [closed], texts⟩
  | word letters =>
    simp only [Scan.step?] at taken
    split at taken
    · cases taken
      exact ⟨Nat.zero_le _, below⟩
    · obtain ⟨token, found, begun⟩ := Option.bind_eq_some_iff.mp taken
      obtain ⟨closed, texts⟩ := begin?_spec begun
        (textsBelow_cons (fun _ same => absurd same (ne_text_of_wordToken? found _)) below)
      exact ⟨by simp [closed], texts⟩
  | number characters =>
    simp only [Scan.step?] at taken
    split at taken
    · cases taken
      exact ⟨Nat.zero_le _, below⟩
    · obtain ⟨token, found, begun⟩ := Option.bind_eq_some_iff.mp taken
      obtain ⟨literal, -, rfl⟩ := Option.map_eq_some_iff.mp found
      obtain ⟨closed, texts⟩ := begin?_spec begun (textsBelow_cons nofun below)
      exact ⟨by simp [closed], texts⟩
  | string pieces =>
    simp only [Scan.step?] at taken
    split at taken
    · cases taken
      refine ⟨Nat.zero_le _, textsBelow_textToken ?_ below⟩
      rw [List.length_reverse]
      exact short
    split at taken
    · cases taken
      exact ⟨Nat.le_succ _, below⟩
    split at taken
    · cases taken
    · cases taken
      exact ⟨Nat.le_refl _, below⟩
  | escape pieces =>
    simp only [Scan.step?] at taken
    split at taken
    · cases taken
      exact ⟨Nat.le_succ _, below⟩
    · obtain ⟨value, -, same⟩ := Option.bind_eq_some_iff.mp taken
      cases same
      exact ⟨Nat.le_refl _, below⟩
  | unicode pieces digits value =>
    simp only [Scan.step?] at taken
    obtain ⟨digit, -, same⟩ := Option.bind_eq_some_iff.mp taken
    split at same
    · cases same
      exact ⟨Nat.le_refl _, below⟩
    · cases same
      exact ⟨Nat.le_succ _, below⟩

/-- A string that is being read stays below the bound while the rest of a text is added to it. -/
theorem foldlM_step?_below {text : List Char} (read : text.foldlM Scan.step? scan = some last)
    (room : scan.mode.pieces.length + text.length < bound)
    (below : TextsBelow bound scan.tokens) :
    last.mode.pieces.length < bound ∧ TextsBelow bound last.tokens := by
  induction text generalizing scan with
  | nil =>
    obtain rfl := Option.some.inj read
    exact ⟨room, below⟩
  | cons character text inductionHypothesis =>
    rw [List.foldlM_cons] at read
    obtain ⟨next, taken, read⟩ := Option.bind_eq_some_iff.mp read
    rw [List.length_cons] at room
    obtain ⟨grown, texts⟩ := step?_spec taken (by omega) below
    exact inductionHypothesis read (by omega) texts

/-- A character that needs an escape adds nothing to the string by itself. -/
theorem step?_special {pieces : List Piece} (special : isPlain character = false)
    (taken : Scan.step? ⟨.string pieces, tokens⟩ character = some next) :
    next.mode.pieces.length ≤ pieces.length := by
  simp only [Scan.step?] at taken
  split at taken
  · cases taken
    exact Nat.zero_le _
  split at taken
  · cases taken
    exact Nat.le_refl _
  split at taken
  · cases taken
  · next quote backslash control =>
    rw [isPlain_iff.mpr ⟨quote, backslash, control⟩] at special
    contradiction

/-- Inside a string, a text with a character that needs an escape is read as something shorter. -/
theorem foldlM_step?_special {text : List Char} {pieces : List Piece}
    (read : text.foldlM Scan.step? ⟨.string pieces, tokens⟩ = some last)
    (special : ∃ character ∈ text, isPlain character = false)
    (room : pieces.length + text.length ≤ bound) (below : TextsBelow bound tokens) :
    last.mode.pieces.length < bound ∧ TextsBelow bound last.tokens := by
  -- Up to the first such character the string keeps pace with the text; from there on it is behind.
  induction text generalizing pieces with
  | nil =>
    obtain ⟨character, member, -⟩ := special
    cases member
  | cons character text inductionHypothesis =>
    rw [List.foldlM_cons] at read
    obtain ⟨next, taken, read⟩ := Option.bind_eq_some_iff.mp read
    rw [List.length_cons] at room
    cases plain : isPlain character with
    | true =>
      rw [step?_of_isPlain plain] at taken
      obtain rfl := Option.some.inj taken
      refine inductionHypothesis read ?_ (by rw [List.length_cons]; omega)
      obtain ⟨other, member, special⟩ := special
      rcases List.mem_cons.mp member with rfl | member
      · rw [plain] at special
        contradiction
      · exact ⟨other, member, special⟩
    | false =>
      have kept := step?_special plain taken
      have short : pieces.length < bound := by omega
      obtain ⟨-, texts⟩ := step?_spec taken short below
      exact foldlM_step?_below read (by omega) texts

theorem step?_exclamation (taken : scan.step? '!' = some next) :
    ∃ pieces, next = ⟨.string pieces, scan.tokens⟩ := by
  obtain ⟨mode, tokens⟩ := scan
  have nowhere : ∀ tokens, begin? tokens '!' = none := fun _ => rfl
  cases mode with
  | between => cases taken
  | word letters =>
    obtain ⟨token, -, begun⟩ := Option.bind_eq_some_iff.mp taken
    rw [nowhere] at begun
    cases begun
  | number characters =>
    obtain ⟨token, -, begun⟩ := Option.bind_eq_some_iff.mp taken
    rw [nowhere] at begun
    cases begun
  | string pieces =>
    cases taken
    exact ⟨_, rfl⟩
  | escape pieces => cases taken
  | unicode pieces digits value => cases taken

end Scanning

section Reading

/-- The texts among the values of fields are tokens. -/
def AreReadFrom {Key : Type} (tokens : List Token) (fields : List (Key × Document)) : Prop :=
  ∀ key content, (key, .text content) ∈ fields → .text (some content) ∈ tokens

/-- A text is a token, and the texts of a record are. -/
def IsReadFrom (tokens : List Token) : Document → Prop
  | .text content => .text (some content) ∈ tokens
  | .record _ fields => AreReadFrom tokens fields
  | _ => True

def Frame.IsReadFrom (tokens : List Token) : Frame → Prop
  | .list _ => True
  | .record fields _ => AreReadFrom tokens fields

def Expected.IsReadFrom (tokens : List Token) : Expected → Prop
  | .afterValue document => Json.IsReadFrom tokens document
  | _ => True

structure Progress.IsReadFrom (tokens : List Token) (progress : Progress) : Prop where
  frames : ∀ frame ∈ progress.frames, frame.IsReadFrom tokens
  expected : progress.expected.IsReadFrom tokens

variable {tokens : List Token} {frames : List Frame} {token : Token} {progress next : Progress}

theorem areReadFrom_cons {Key : Type} {key : Key} {value : Document}
    {fields : List (Key × Document)} (known : IsReadFrom tokens value)
    (others : AreReadFrom tokens fields) : AreReadFrom tokens ((key, value) :: fields) := by
  intro other content member
  rcases List.mem_cons.mp member with same | member
  · obtain ⟨-, rfl⟩ := Prod.mk.inj same
    exact known
  · exact others other content member

theorem isReadFrom_recordOf {fields : List (Option String × Document)}
    (known : AreReadFrom tokens fields) : IsReadFrom tokens (recordOf fields) := by
  have kept : ∀ result, (fields.mapM fun entry => entry.1.map fun key => (key, entry.2)) =
      some result → AreReadFrom tokens result := by
    induction fields with
    | nil =>
      intro result read
      cases read
      exact nofun
    | cons field fields inductionHypothesis =>
      intro result read
      rw [List.mapM_cons] at read
      obtain ⟨named, first, read⟩ := Option.bind_eq_some_iff.mp read
      obtain ⟨others, rest, joined⟩ := Option.bind_eq_some_iff.mp read
      obtain ⟨key, -, rfl⟩ := Option.map_eq_some_iff.mp first
      cases joined
      intro other content member
      rcases List.mem_cons.mp member with same | member
      · obtain ⟨-, value⟩ := Prod.mk.inj same
        refine known field.1 content ?_
        rw [value]
        exact List.mem_cons_self
      · have behind : AreReadFrom tokens fields := fun key content member =>
          known key content (List.mem_cons_of_mem _ member)
        exact inductionHypothesis behind others rest other content member
  unfold recordOf
  split
  · next result read => exact kept result read
  · trivial

theorem isReadFrom_value? (begun : value? frames token = some next) (member : token ∈ tokens)
    (known : ∀ frame ∈ frames, frame.IsReadFrom tokens) : next.IsReadFrom tokens := by
  cases token with
  | openList =>
    cases begun
    exact ⟨List.forall_mem_cons.mpr ⟨trivial, known⟩, trivial⟩
  | openRecord =>
    cases begun
    exact ⟨List.forall_mem_cons.mpr ⟨nofun, known⟩, trivial⟩
  | null =>
    cases begun
    exact ⟨known, trivial⟩
  | flag value =>
    cases begun
    exact ⟨known, trivial⟩
  | number literal =>
    cases begun
    exact ⟨known, trivial⟩
  | text content =>
    cases content with
    | none =>
      cases begun
      exact ⟨known, trivial⟩
    | some content =>
      cases begun
      exact ⟨known, member⟩
  | closeList => cases begun
  | closeRecord => cases begun
  | comma => cases begun
  | colon => cases begun

theorem isReadFrom_key? (begun : key? frames token = some next)
    (known : ∀ frame ∈ frames, frame.IsReadFrom tokens) : next.IsReadFrom tokens := by
  unfold key? at begun
  split at begun
  · split at begun
    · cases begun
      rw [List.forall_mem_cons] at known
      exact ⟨List.forall_mem_cons.mpr known, trivial⟩
    · cases begun
  · cases begun

theorem isReadFrom_continue? {value : Document}
    (continued : continue? frames value token = some next)
    (known : ∀ frame ∈ frames, frame.IsReadFrom tokens) (read : IsReadFrom tokens value) :
    next.IsReadFrom tokens := by
  unfold continue? at continued
  split at continued
  · cases continued
    rw [List.forall_mem_cons] at known
    exact ⟨List.forall_mem_cons.mpr ⟨trivial, known.2⟩, trivial⟩
  · cases continued
    rw [List.forall_mem_cons] at known
    exact ⟨known.2, trivial⟩
  · cases continued
    rw [List.forall_mem_cons] at known
    exact ⟨List.forall_mem_cons.mpr ⟨areReadFrom_cons read known.1, known.2⟩, trivial⟩
  · cases continued
    rw [List.forall_mem_cons] at known
    refine ⟨known.2, isReadFrom_recordOf ?_⟩
    intro key content member
    exact areReadFrom_cons read known.1 key content (List.mem_reverse.mp member)
  · cases continued

theorem Progress.IsReadFrom.step? (known : progress.IsReadFrom tokens) (member : token ∈ tokens)
    (taken : progress.step? token = some next) : next.IsReadFrom tokens := by
  obtain ⟨frames, expected⟩ := progress
  cases expected with
  | value => exact isReadFrom_value? taken member known.frames
  | firstItem =>
    simp only [Progress.step?] at taken
    split at taken
    · cases taken
      exact ⟨(List.forall_mem_cons.mp known.frames).2, trivial⟩
    · exact isReadFrom_value? taken member known.frames
  | key => exact isReadFrom_key? taken known.frames
  | firstKey =>
    simp only [Progress.step?] at taken
    split at taken
    · cases taken
      exact ⟨(List.forall_mem_cons.mp known.frames).2, nofun⟩
    · exact isReadFrom_key? taken known.frames
  | colon =>
    simp only [Progress.step?] at taken
    split at taken
    · cases taken
      exact ⟨known.frames, trivial⟩
    · cases taken
  | afterValue value => exact isReadFrom_continue? taken known.frames known.expected

theorem Progress.IsReadFrom.foldlM {rest : List Token} {last : Progress}
    (known : progress.IsReadFrom tokens) (inside : ∀ token ∈ rest, token ∈ tokens)
    (read : rest.foldlM Progress.step? progress = some last) : last.IsReadFrom tokens := by
  induction rest generalizing progress with
  | nil =>
    obtain rfl := Option.some.inj read
    exact known
  | cons token rest inductionHypothesis =>
    rw [List.foldlM_cons] at read
    obtain ⟨next, taken, read⟩ := Option.bind_eq_some_iff.mp read
    rw [List.forall_mem_cons] at inside
    exact inductionHypothesis (known.step? inside.1 taken) inside.2 read

/-- A text that a document has in one of its fields is one of the tokens it was read from. -/
theorem mem_tokens_of_field {fields : List (String × Document)} {key content : String}
    (read : documentOfTokens? tokens = some (.object fields))
    (member : (key, .text content) ∈ fields) : .text (some content) ∈ tokens := by
  obtain ⟨last, steps, finished⟩ := Option.bind_eq_some_iff.mp read
  have start : Progress.IsReadFrom tokens ⟨[], .value⟩ := ⟨nofun, trivial⟩
  have known := (start.foldlM (fun _ => id) steps).expected
  obtain ⟨frames, expected⟩ := last
  unfold Progress.finish? at finished
  split at finished
  · next value same =>
    cases same
    obtain rfl := Option.some.inj finished
    exact known key content member
  · cases finished

end Reading

end Datapack.Json
