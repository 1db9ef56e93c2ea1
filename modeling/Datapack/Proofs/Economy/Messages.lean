import Datapack.Proofs.Economy.Purchasing
import Datapack.Proofs.Json.Strings

/-!
What a player is told about a purchase. The lines that say so take the names from the caller and put
them between the quotes of a JSON string as they are. So a message shows its text exactly if the
name in it needs no escape there.
-/

namespace Datapack.Economy

open Macro
open Json (IsPlainText isPlain isPlainText_append)

section Expanding

variable (namespaceName : Namespace) (offer : Offer)

theorem expand?_affordable {word : String} {deed : Template} (fixed : '$' ∉ word.toList)
    (clean : deed.all Piece.isClean = true) :
    expand? (purchaseArguments offer).entries
        (Template.text (affordable namespaceName word ++ deed)) =
      some (guardText namespaceName word ++ toString offer.priceCount ++ ".. run " ++
        String.join (deed.map (Piece.filledIn offer))) := by
  have whole : List.all (.fixed (guardText namespaceName word) ::
      .hole .priceCount :: .fixed (".." ++ " run ") :: deed) Piece.isClean = true := by
    rw [List.all_cons, isClean_guarded clean, Bool.and_true]
    simpa [Piece.isClean] using dollar_not_mem_guardText namespaceName fixed
  have filled := filled?_template offer (.fixed (guardText namespaceName word) ::
    .hole .priceCount :: .fixed (".." ++ " run ") :: deed) []
  rw [List.append_nil, filled?, Option.map_some, String.append_empty] at filled
  rw [affordable_append, expand?, toList_template]
  simp only [scan_template whole, filled, List.map_cons, String.join_cons, Piece.filledIn,
    Parameter.argument, inserted_int]
  simp only [String.append_assoc]
  rfl

theorem join_tellraw (color : String) (body : Template) :
    String.join ((tellraw color body).map (Piece.filledIn offer)) =
      "tellraw @s " ++ messageText (String.join (body.map (Piece.filledIn offer))) color := by
  have start : "tellraw @s \x7b\"text\":\"" = "tellraw @s " ++ "\x7b\"text\":\"" := rfl
  simp only [tellraw, start, messageText, List.map_cons, List.cons_append, List.map_append,
    List.map_nil, String.join_cons, String.join_append, String.join_nil, Piece.filledIn,
    String.append_assoc, String.append_empty]

theorem expand?_reportPurchase :
    (purchaseLines namespaceName)[2]?.bind (expand? (purchaseArguments offer).entries) =
      some (guardText namespaceName "if" ++ toString offer.priceCount ++ ".. run " ++
        ("tellraw @s " ++ purchasedText offer)) := by
  have line : (purchaseLines namespaceName)[2]? =
      some (Template.text (affordable namespaceName "if" ++ tellraw "green" rewardMessage)) := rfl
  rw [line, Option.bind_some, purchasedText, ← join_rewardMessage, ← join_tellraw]
  exact expand?_affordable namespaceName offer (by decide) (by decide)

theorem expand?_reportShortage :
    (purchaseLines namespaceName)[3]?.bind (expand? (purchaseArguments offer).entries) =
      some (guardText namespaceName "unless" ++ toString offer.priceCount ++ ".. run " ++
        ("tellraw @s " ++ shortageText offer)) := by
  have line : (purchaseLines namespaceName)[3]? =
      some (Template.text (affordable namespaceName "unless" ++ tellraw "red" shortageMessage)) :=
    rfl
  rw [line, Option.bind_some, shortageText, ← join_shortageMessage, ← join_tellraw]
  exact expand?_affordable namespaceName offer (by decide) (by decide)

end Expanding

section Reading

open Json

variable {text color : String}

def openingTokens : List Token :=
  [.colon, .text (some "text"), .openRecord]

theorem toList_messageText (text color : String) :
    (messageText text color).toList =
      "\x7b\"text\":\"".toList ++ (text.toList ++ ('"' :: ',' :: (enquoted "color" ++ ':' ::
        (enquoted color ++ ['\x7d'])))) := by
  simp [messageText, enquoted]

theorem tokens?_messageText (plain : IsPlainText color) {pieces : List Json.Piece}
    {tokens : List Token}
    (scanned : text.toList.foldlM Scan.step? ⟨.string [], openingTokens⟩ =
      some ⟨.string pieces, tokens⟩) :
    tokens? (messageText text color).toList =
      some (.closeRecord :: .text (some color) :: .colon :: .text (some "color") :: .comma ::
        textToken pieces.reverse :: tokens).reverse := by
  have start : "\x7b\"text\":\"".toList.foldlM Scan.step? ⟨.between, []⟩ =
      some ⟨.string [], openingTokens⟩ := rfl
  have closed : Scan.step? ⟨.string pieces, tokens⟩ '"' =
      some ⟨.between, textToken pieces.reverse :: tokens⟩ := rfl
  have key := foldlM_step?_enquoted (show IsPlainText "color" by decide)
  have value := foldlM_step?_enquoted plain
  have comma := step?_of_punctuation? (show punctuation? ',' = some .comma from rfl)
  have colon := step?_of_punctuation? (show punctuation? ':' = some .colon from rfl)
  have brace := step?_of_punctuation? (show punctuation? '\x7d' = some .closeRecord from rfl)
  rw [tokens?, toList_messageText]
  simp only [List.foldlM_append, start, scanned, List.foldlM_cons, closed, comma, key, colon,
    value, brace, Option.bind_eq_bind, Option.bind_some]
  rfl

theorem read?_messageText (plain : IsPlainText text) (plainColor : IsPlainText color) :
    Json.read? (messageText text color) =
      some (.object [("text", .text text), ("color", .text color)]) := by
  have scanned := foldlM_step?_of_isPlain plain [] openingTokens
  rw [Json.read?, tokens?_messageText plainColor scanned, List.append_nil, List.reverse_reverse,
    textToken_characters, String.ofList_toList]
  rfl

/-- A message shows a text if it is an object with that text. -/
def Shows (message text : String) : Prop :=
  ∃ fields, Json.read? message = some (.object fields) ∧ ("text", .text text) ∈ fields

/-- The mark at the end of a text can only be read inside of a string. -/
theorem scanned_of_tokens? {body : String} {tokens : List Token}
    (read : tokens? (messageText (body ++ "!") color).toList = some tokens) :
    ∃ pieces others, (body ++ "!").toList.foldlM Scan.step? ⟨.string [], openingTokens⟩ =
      some ⟨.string pieces, others⟩ := by
  rw [tokens?, toList_messageText, List.foldlM_append] at read
  obtain ⟨last, folded, -⟩ := Option.bind_eq_some_iff.mp read
  obtain ⟨start, opened, folded⟩ := Option.bind_eq_some_iff.mp folded
  obtain rfl : ⟨.string [], openingTokens⟩ = start := Option.some.inj opened
  rw [List.foldlM_append] at folded
  obtain ⟨scan, scanned, -⟩ := Option.bind_eq_some_iff.mp folded
  have marked := scanned
  rw [String.toList_append, List.foldlM_append] at marked
  obtain ⟨inner, -, marked⟩ := Option.bind_eq_some_iff.mp marked
  obtain ⟨next, taken, ended⟩ := Option.bind_eq_some_iff.mp marked
  obtain ⟨pieces, rfl⟩ := step?_exclamation taken
  obtain rfl := Option.some.inj ended
  exact ⟨pieces, inner.tokens, scanned⟩

/-- If a character of the text needs an escape then all strings of the message are shorter than the
text. -/
theorem textsBelow_messageText {pieces : List Json.Piece} {tokens : List Token}
    (scanned : text.toList.foldlM Scan.step? ⟨.string [], openingTokens⟩ =
      some ⟨.string pieces, tokens⟩)
    (escaped : ∃ character ∈ text.toList, isPlain character = false)
    (long : 5 < text.length) (short : color.length < text.length) :
    TextsBelow text.length (.closeRecord :: .text (some color) :: .colon ::
      .text (some "color") :: .comma :: textToken pieces.reverse :: tokens) := by
  have name : "text".length < text.length := by
    rw [show "text".length = 4 from rfl]
    omega
  have opening : TextsBelow text.length openingTokens :=
    textsBelow_cons nofun (textsBelow_cons_text name (textsBelow_cons nofun nofun))
  obtain ⟨unfinished, texts⟩ := foldlM_step?_special scanned escaped
    (by simp [String.length_toList]) opening
  rw [← List.length_reverse] at unfinished
  exact textsBelow_cons nofun (textsBelow_cons_text short (textsBelow_cons nofun
    (textsBelow_cons_text long (textsBelow_cons nofun (textsBelow_textToken unfinished texts)))))

/-- A message shows its text exactly if none of the text's characters needs an escape. -/
theorem shows_messageText_iff {body : String} (plainColor : IsPlainText color)
    (long : 5 ≤ body.length) (short : color.length ≤ body.length) :
    Shows (messageText (body ++ "!") color) (body ++ "!") ↔ IsPlainText (body ++ "!") := by
  constructor
  · rintro ⟨fields, read, member⟩
    obtain ⟨tokens, tokenized, parsed⟩ := Option.bind_eq_some_iff.mp read
    have listed := mem_tokens_of_field parsed member
    obtain ⟨pieces, others, scanned⟩ := scanned_of_tokens? tokenized
    rw [tokens?_messageText plainColor scanned] at tokenized
    obtain rfl := Option.some.inj tokenized
    have size : (body ++ "!").length = body.length + 1 := String.length_append body "!"
    have narrow : color.length < (body ++ "!").length := by omega
    -- The text would have to be one of the strings, and all of them are shorter.
    by_contra special
    have escaped : ∃ character ∈ (body ++ "!").toList, isPlain character = false := by
      simpa [IsPlainText] using special
    have below := textsBelow_messageText scanned escaped (by omega) narrow
    exact Nat.lt_irrefl _ (below _ (List.mem_reverse.mp listed))
  · intro plain
    exact ⟨_, read?_messageText plain plainColor, List.mem_cons_self⟩

end Reading

theorem isPlainText_toString (number : Nat) : IsPlainText (toString number) := by
  intro character member
  rw [Nat.toString_eq_repr, Nat.toList_repr] at member
  have digit := Nat.isDigit_of_mem_toDigits (by decide) (by decide) member
  refine Json.isPlain_iff.mpr ⟨?_, ?_, ?_⟩
  · rintro rfl
    exact absurd digit (by decide)
  · rintro rfl
    exact absurd digit (by decide)
  · rw [Char.isDigit_iff_toNat, show '0'.toNat = 48 from rfl] at digit
    omega

section Texts

variable (offer : Offer)

theorem isPlainText_purchased_iff :
    IsPlainText ("Purchased " ++ toString offer.count ++ " " ++ offer.name ++ "!") ↔
      IsPlainText offer.name := by
  have front : IsPlainText "Purchased " := by decide
  have blank : IsPlainText " " := by decide
  have mark : IsPlainText "!" := by decide
  simp only [isPlainText_append, front, isPlainText_toString, blank, mark, true_and, and_true]

theorem isPlainText_shortage_iff :
    IsPlainText ("Not enough " ++ offer.label.name ++ "!") ↔ IsPlainText offer.label.name := by
  have front : IsPlainText "Not enough " := by decide
  have mark : IsPlainText "!" := by decide
  simp only [isPlainText_append, front, mark, true_and, and_true]

theorem shows_purchasedText_iff :
    Shows (purchasedText offer)
        ("Purchased " ++ toString offer.count ++ " " ++ offer.name ++ "!") ↔
      IsPlainText offer.name := by
  have size : 10 ≤ ("Purchased " ++ toString offer.count ++ " " ++ offer.name).length := by
    rw [String.length_append, String.length_append, String.length_append,
      show "Purchased ".length = 10 from rfl]
    omega
  rw [← isPlainText_purchased_iff]
  apply shows_messageText_iff (by decide) (by omega)
  rw [show "green".length = 5 from rfl]
  omega

theorem shows_shortageText_iff :
    Shows (shortageText offer) ("Not enough " ++ offer.label.name ++ "!") ↔
      IsPlainText offer.label.name := by
  have size : 11 ≤ ("Not enough " ++ offer.label.name).length := by
    rw [String.length_append, show "Not enough ".length = 11 from rfl]
    omega
  rw [← isPlainText_shortage_iff]
  apply shows_messageText_iff (by decide) (by omega)
  rw [show "red".length = 3 from rfl]
  omega

end Texts

/-- The two lines of a purchase that tell the player about it, with their places filled. Each says
its text exactly if the name in it needs no escape in a JSON string, and is then an object with the
text and a colour. -/
theorem purchase_messages_show_texts_iff (namespaceName : Namespace) (offer : Offer) :
    let purchased := "Purchased " ++ toString offer.count ++ " " ++ offer.name ++ "!"
    let shortage := "Not enough " ++ offer.label.name ++ "!"
    let line := fun (place : Nat) =>
      (purchaseLines namespaceName)[place]?.bind (expand? (purchaseArguments offer).entries)
    ∃ success failure : String,
      line 2 = some ("execute if score @s " ++ currencyObjective namespaceName ++ " matches " ++
        toString offer.priceCount ++ ".. run tellraw @s " ++ success) ∧
      line 3 = some ("execute unless score @s " ++ currencyObjective namespaceName ++ " matches " ++
        toString offer.priceCount ++ ".. run tellraw @s " ++ failure) ∧
      (Shows success purchased ↔ IsPlainText offer.name) ∧
      (Shows failure shortage ↔ IsPlainText offer.label.name) ∧
      (Shows success purchased → Json.read? success =
        some (.object [("text", .text purchased), ("color", .text "green")])) ∧
      (Shows failure shortage → Json.read? failure =
        some (.object [("text", .text shortage), ("color", .text "red")])) := by
  intro purchased shortage line
  refine ⟨purchasedText offer, shortageText offer, ?_, ?_, shows_purchasedText_iff offer,
    shows_shortageText_iff offer, ?_, ?_⟩
  · have guard : "execute if score @s " = "execute " ++ ("if" ++ " score @s ") := rfl
    have deed : ".. run tellraw @s " = ".. run " ++ "tellraw @s " := rfl
    rw [guard, deed]
    simpa only [guardText, String.append_assoc] using expand?_reportPurchase namespaceName offer
  · have guard : "execute unless score @s " = "execute " ++ ("unless" ++ " score @s ") := rfl
    have deed : ".. run tellraw @s " = ".. run " ++ "tellraw @s " := rfl
    rw [guard, deed]
    simpa only [guardText, String.append_assoc] using expand?_reportShortage namespaceName offer
  · intro shown
    apply read?_messageText _ (by decide)
    exact (isPlainText_purchased_iff offer).mpr ((shows_purchasedText_iff offer).mp shown)
  · intro shown
    apply read?_messageText _ (by decide)
    exact (isPlainText_shortage_iff offer).mpr ((shows_shortageText_iff offer).mp shown)

/-- Quotes in the name of what the mint sells end the string that the name stands in. -/
theorem mint_does_not_show_its_message :
    let namespaceName : Namespace := ⟨"bw", by decide, List.all_eq_true.mp (by decide)⟩
    let config := mint "Iron \"coins\""
    let offer := mintOffer "Iron \"coins\""
    resolve config = .ok { shops := placeShops config.shops, offers := [offer] } ∧
      ∃ success : String,
        (purchaseLines namespaceName)[2]?.bind (expand? (purchaseArguments offer).entries) =
          some ("execute if score @s " ++ currencyObjective namespaceName ++ " matches " ++
            toString 2 ++ ".. run tellraw @s " ++ success) ∧
        ¬Shows success ("Purchased " ++ toString 3 ++ " " ++ "Iron \"coins\"" ++ "!") := by
  intro namespaceName config offer
  obtain ⟨success, -, line, -, shown, -⟩ := purchase_messages_show_texts_iff namespaceName offer
  refine ⟨rfl, success, line, ?_⟩
  intro shows
  exact absurd (shown.mp shows) (by decide)

end Datapack.Economy
