import Datapack.Economy.Purchase
import Datapack.Proofs.Economy.Resolution
import Datapack.Proofs.Host.Macro

/-!
A purchase happens as a whole or not at all. The lines of the procedure are first read back from
their text, then what each of them does to a player is stated, and last the five are put together:
the score that the first line stores is not touched by the others, so their guards agree.
-/

namespace Datapack.Economy

open Macro

def Piece.marks : Piece → List Mark
  | .fixed text => literal text
  | .hole parameter => [.hole parameter.key]

/-- Whether a piece starts no place but its own. -/
def Piece.isClean : Piece → Bool
  | .fixed text => !text.toList.contains '$'
  | .hole _ => true

theorem scan_piece {piece : Piece} (clean : piece.isClean = true) (rest : List Char) :
    scan none (piece.text.toList ++ rest) = piece.marks ++ scan none rest := by
  cases piece with
  | fixed text =>
    have fixed : '$' ∉ text.toList := by simpa [Piece.isClean] using clean
    exact scan_fixed fixed rest
  | hole parameter => cases parameter <;> rfl

/-- Places are found where the template has them. -/
theorem scan_template {template : Template} (clean : template.all Piece.isClean = true) :
    scan none (Template.text template).toList = template.flatMap Piece.marks := by
  unfold Template.text
  rw [String.toList_join, List.flatMap_map]
  induction template with
  | nil => rfl
  | cons piece template inductionHypothesis =>
    rw [List.all_cons, Bool.and_eq_true] at clean
    rw [List.flatMap_cons, List.flatMap_cons, scan_piece clean.1, inductionHypothesis clean.2]

theorem toList_template (text : String) (template : Template) :
    (Template.text (.fixed ("$" ++ text) :: template)).toList =
      '$' :: (Template.text (.fixed text :: template)).toList := by
  simp [Template.text, Piece.text, String.toList_join]

theorem read?_template {text : String} {template : Template} (fixed : '$' ∉ text.toList)
    (clean : template.all Piece.isClean = true) :
    read? (Template.text (.fixed ("$" ++ text) :: template)) =
      readCommand? (literal text ++ template.flatMap Piece.marks) := by
  have whole : List.all (.fixed text :: template) Piece.isClean = true := by
    simp [Piece.isClean, fixed, clean]
  rw [read?, toList_template]
  simp only [scan_template whole, List.flatMap_cons, Piece.marks]

section Lines

variable (namespaceName : Namespace)

theorem not_mem_currencyObjective (character : Char)
    (other : isNamespaceCharacter character = false) (foreign : character ∉ "_currency".toList) :
    character ∉ (currencyObjective namespaceName).toList := by
  have shape : (currencyObjective namespaceName).toList =
      namespaceName.text.toList ++ "_currency".toList := by
    simp [currencyObjective, Namespace.prefixed]
  rw [shape, List.mem_append]
  rintro (own | fixed)
  · rw [namespaceName.allowed character own] at other
    contradiction
  · exact foreign fixed

theorem plain_not_mem_literal {character : Char} {text : String}
    (missing : character ∉ text.toList) : Mark.plain character ∉ literal text := by
  simpa [literal] using missing

theorem word_objective (rest : List Mark) (blank : rest.head? = some (.plain ' ')) :
    word (literal (currencyObjective namespaceName) ++ rest) =
      (literal (currencyObjective namespaceName), rest) := by
  apply word_append _ _ _ blank
  apply plain_not_mem_literal
  exact not_mem_currencyObjective namespaceName ' ' rfl (by decide)

def priceRange : List Mark :=
  [.hole Parameter.priceCount.key, .plain '.', .plain '.']

theorem readGuarded?_affordable (inside : Bool) (deed : List Mark) :
    readGuarded? inside (literal (currencyObjective namespaceName) ++ (literal " matches " ++
        (priceRange ++ (literal " run " ++ deed)))) =
      (readDeed? deed).map
        (.guarded inside (literal (currencyObjective namespaceName)) priceRange) := by
  have objective := word_objective namespaceName
    (literal " matches " ++ (priceRange ++ (literal " run " ++ deed))) rfl
  have range := word_append priceRange (literal " run " ++ deed) (by decide) rfl
  unfold readGuarded?
  simp only [objective, after?_literal, range, Option.bind_eq_bind, Option.bind_some]
  cases readDeed? deed <;> rfl

theorem readCount?_items (item : List Mark) :
    readCount? (literal (currencyObjective namespaceName) ++
        (literal " if items entity @s container.* " ++ item)) =
      some (.count (literal (currencyObjective namespaceName)) item) := by
  have objective := word_objective namespaceName
    (literal " if items entity @s container.* " ++ item) rfl
  unfold readCount?
  simp only [objective, after?_literal, Option.bind_eq_bind, Option.bind_some]
  rfl

theorem readDeed?_give (item count : Parameter) :
    readDeed? (literal "give @s " ++ (.hole item.key :: (literal " " ++ [.hole count.key]))) =
      some (.give [.hole item.key] [.hole count.key]) := by
  unfold readDeed?
  rw [after?_literal]
  rfl

theorem readDeed?_clear (item count : Parameter) :
    readDeed? (literal "clear @s " ++ (.hole item.key :: (literal " " ++ [.hole count.key]))) =
      some (.clear [.hole item.key] [.hole count.key]) := by
  have other : after? "give @s ".toList
      (literal "clear @s " ++ (.hole item.key :: (literal " " ++ [.hole count.key]))) = none := rfl
  unfold readDeed?
  rw [other]
  simp only
  rw [after?_literal]
  rfl

theorem readDeed?_tellraw (message : List Mark) :
    readDeed? (literal "tellraw @s " ++ message) = some (.tell message) := by
  have noGift : after? "give @s ".toList (literal "tellraw @s " ++ message) = none := rfl
  have noLoss : after? "clear @s ".toList (literal "tellraw @s " ++ message) = none := rfl
  unfold readDeed?
  rw [noGift, noLoss]
  simp only [after?_literal]
  rfl

theorem readCommand?_if (line : List Mark) :
    readCommand? (literal "execute " ++ (literal "if score @s " ++ line)) =
      readGuarded? true line := by
  have other : after? "store result score @s ".toList (literal "if score @s " ++ line) = none := rfl
  unfold readCommand?
  simp only [after?_literal, other, Option.bind_eq_bind, Option.bind_some]

theorem readCommand?_unless (line : List Mark) :
    readCommand? (literal "execute " ++ (literal "unless score @s " ++ line)) =
      readGuarded? false line := by
  have noCount : after? "store result score @s ".toList (literal "unless score @s " ++ line) =
    none := rfl
  have noIf : after? "if score @s ".toList (literal "unless score @s " ++ line) = none := rfl
  unfold readCommand?
  simp only [after?_literal, noCount, noIf, Option.bind_eq_bind, Option.bind_some]

theorem readCommand?_store (line : List Mark) :
    readCommand? (literal "execute " ++ (literal "store result score @s " ++ line)) =
      readCount? line := by
  unfold readCommand?
  simp only [after?_literal, Option.bind_eq_bind, Option.bind_some]

/-- What stands in front of the price in a line that it guards. -/
def guardText (word : String) : String :=
  "execute " ++ ((word ++ " score @s ") ++ (currencyObjective namespaceName ++ " matches "))

theorem affordable_append (word : String) (deed : Template) :
    affordable namespaceName word ++ deed =
      .fixed ("$" ++ guardText namespaceName word) ::
        .hole .priceCount :: .fixed (".." ++ " run ") :: deed := by
  have start : "$execute " = "$" ++ "execute " := rfl
  have ending : ".. run " = ".." ++ " run " := rfl
  simp only [affordable, guardText, start, ending, String.append_assoc, List.cons_append,
    List.nil_append]

theorem dollar_not_mem_guardText {word : String} (fixed : '$' ∉ word.toList) :
    '$' ∉ (guardText namespaceName word).toList := by
  have objective := not_mem_currencyObjective namespaceName '$' rfl (by decide)
  simp only [guardText, String.toList_append, List.mem_append, not_or]
  exact ⟨by decide, ⟨fixed, by decide⟩, objective, by decide⟩

theorem isClean_guarded {deed : Template} (clean : deed.all Piece.isClean = true) :
    List.all (.hole .priceCount :: .fixed (".." ++ " run ") :: deed) Piece.isClean = true := by
  rw [List.all_cons, List.all_cons, clean]
  decide

/-- A line that is guarded by the price is read as its guard and its deed. -/
theorem read?_affordable {word : String} {deed : Template} (fixed : '$' ∉ word.toList)
    (clean : deed.all Piece.isClean = true) :
    read? (Template.text (affordable namespaceName word ++ deed)) =
      readCommand? (literal "execute " ++ (literal (word ++ " score @s ") ++
        (literal (currencyObjective namespaceName) ++ (literal " matches " ++
          (priceRange ++ (literal " run " ++ deed.flatMap Piece.marks)))))) := by
  rw [affordable_append, read?_template (dollar_not_mem_guardText namespaceName fixed)
    (isClean_guarded clean)]
  simp only [guardText, literal_append, List.flatMap_cons, Piece.marks, List.append_assoc]
  rfl

def messageMarks (color : String) (body : Template) : List Mark :=
  literal "\x7b\"text\":\"" ++ (body.flatMap Piece.marks ++
    literal ("\",\"color\":\"" ++ color ++ "\"\x7d"))

theorem tellraw_marks (color : String) (body : Template) :
    (tellraw color body).flatMap Piece.marks =
      literal "tellraw @s " ++ messageMarks color body := by
  have start : "tellraw @s \x7b\"text\":\"" = "tellraw @s " ++ "\x7b\"text\":\"" := rfl
  simp only [tellraw, start, messageMarks, literal_append, List.flatMap_cons, List.flatMap_append,
    List.flatMap_nil, Piece.marks, List.append_assoc, List.append_nil, List.cons_append]

def rewardMessage : Template :=
  [.fixed "Purchased ", .hole .rewardCount, .fixed " ", .hole .rewardName, .fixed "!"]

def shortageMessage : Template :=
  [.fixed "Not enough ", .hole .priceName, .fixed "!"]

def Step.line : Step → Line
  | .countPrice =>
    .count (literal (currencyObjective namespaceName)) [.hole Parameter.priceId.key]
  | .giveReward =>
    .guarded true (literal (currencyObjective namespaceName)) priceRange
      (.give [.hole Parameter.rewardId.key] [.hole Parameter.rewardCount.key])
  | .reportPurchase =>
    .guarded true (literal (currencyObjective namespaceName)) priceRange
      (.tell (messageMarks "green" rewardMessage))
  | .reportShortage =>
    .guarded false (literal (currencyObjective namespaceName)) priceRange
      (.tell (messageMarks "red" shortageMessage))
  | .takePrice =>
    .guarded true (literal (currencyObjective namespaceName)) priceRange
      (.clear [.hole Parameter.priceId.key] [.hole Parameter.priceCount.key])

/-- Each line of the procedure is read as the step that it was written for. -/
theorem read?_step (step : Step) :
    read? (step.template namespaceName).text = some (step.line namespaceName) := by
  have ifScore : "if" ++ " score @s " = "if score @s " := rfl
  cases step with
  | countPrice =>
    have shape : Step.countPrice.template namespaceName =
        [.fixed ("$" ++ ("execute " ++ ("store result score @s " ++
          (currencyObjective namespaceName ++ " if items entity @s container.* ")))),
          .hole .priceId] := by
      have start : "$execute store result score @s " =
        "$" ++ ("execute " ++ "store result score @s ") := rfl
      simp only [Step.template, start, String.append_assoc]
    have objective := not_mem_currencyObjective namespaceName '$' rfl (by decide)
    rw [shape, read?_template _ rfl]
    · simp only [literal_append, List.append_assoc]
      rw [readCommand?_store, readCount?_items]
      rfl
    · simp only [String.toList_append, List.mem_append, not_or]
      exact ⟨by decide, by decide, objective, by decide⟩
  | giveReward =>
    rw [Step.template, read?_affordable namespaceName (by decide) (by decide), ifScore,
      readCommand?_if, readGuarded?_affordable]
    exact congrArg _ (readDeed?_give .rewardId .rewardCount)
  | reportPurchase =>
    rw [Step.template, read?_affordable namespaceName (by decide) (by decide), ifScore,
      readCommand?_if, readGuarded?_affordable, tellraw_marks, readDeed?_tellraw]
    rfl
  | reportShortage =>
    have unlessScore : "unless" ++ " score @s " = "unless score @s " := rfl
    rw [Step.template, read?_affordable namespaceName (by decide) (by decide), unlessScore,
      readCommand?_unless, readGuarded?_affordable, tellraw_marks, readDeed?_tellraw]
    rfl
  | takePrice =>
    rw [Step.template, read?_affordable namespaceName (by decide) (by decide), ifScore,
      readCommand?_if, readGuarded?_affordable]
    exact congrArg _ (readDeed?_clear .priceId .priceCount)

end Lines

section Offers

theorem score_le_largestScore {shop : Id} {item : String} {count : UInt32} {value : Nat}
    (fits : score shop item count = .ok value) : value ≤ largestScore := by
  unfold score at fits
  split at fits
  next small =>
    rw [← Except.ok.inj fits]
    exact small
  next => cases fits

/-- The counts of an accepted offer are scores. -/
theorem counts_of_mem_offers {config : Config} {layout : Layout} {offer : Offer}
    (resolved : resolve config = .ok layout) (offered : offer ∈ layout.offers) :
    offer.count ≤ largestScore ∧ offer.priceCount ≤ largestScore := by
  obtain ⟨generators, -, resolved⟩ := bind_eq_ok_iff.mp resolved
  obtain ⟨offers, placed, resolved⟩ := bind_eq_ok_iff.mp resolved
  obtain rfl := Except.ok.inj resolved
  obtain ⟨groups, grouped, joined⟩ := bind_eq_ok_iff.mp placed
  obtain rfl := Except.ok.inj joined
  obtain ⟨group, listed, member⟩ := List.mem_flatten.mp offered
  obtain ⟨shop, -, converted⟩ := exists_of_mem_mapM grouped listed
  obtain ⟨item, -, made⟩ := exists_of_mem_mapM converted member
  obtain ⟨count, counted, made⟩ := bind_eq_ok_iff.mp made
  obtain ⟨priceCount, priced, made⟩ := bind_eq_ok_iff.mp made
  obtain rfl := Except.ok.inj made
  exact ⟨score_le_largestScore counted, score_le_largestScore priced⟩

end Offers

section Filling

variable (offer : Offer)

theorem entry?_argument (parameter : Parameter) :
    Snbt.entry? (purchaseArguments offer).entries parameter.key =
      some (parameter.argument offer) := by
  cases parameter <;> rfl

theorem filled?_hole (parameter : Parameter) (rest : List Mark) :
    filled? (purchaseArguments offer).entries (.hole parameter.key :: rest) =
      (filled? (purchaseArguments offer).entries rest).map
        ((parameter.argument offer).inserted ++ ·) := by
  rw [filled?, entry?_argument]
  cases filled? (purchaseArguments offer).entries rest <;> rfl

/-- What an offer makes of a piece. -/
def Piece.filledIn : Piece → String
  | .fixed text => text
  | .hole parameter => (parameter.argument offer).inserted

theorem filled?_template (template : Template) (rest : List Mark) :
    filled? (purchaseArguments offer).entries (template.flatMap Piece.marks ++ rest) =
      (filled? (purchaseArguments offer).entries rest).map
        (String.join (template.map (Piece.filledIn offer)) ++ ·) := by
  induction template with
  | nil => simp
  | cons piece template inductionHypothesis =>
    rw [List.flatMap_cons, List.map_cons, String.join_cons, List.append_assoc]
    cases piece with
    | fixed text =>
      rw [Piece.marks, filled?_literal, inductionHypothesis, Option.map_map]
      simp [Function.comp_def, Piece.filledIn, String.append_assoc]
    | hole parameter =>
      rw [Piece.marks, List.singleton_append, filled?_hole, inductionHypothesis, Option.map_map]
      simp [Function.comp_def, Piece.filledIn, String.append_assoc]

/-- A place for a name is filled with the whole name, whatever its characters. -/
theorem filled?_name (parameter : Parameter) {text : String}
    (passed : parameter.argument offer = .string text) :
    filled? (purchaseArguments offer).entries [.hole parameter.key] = some text := by
  rw [filled?_hole, passed, filled?, Option.map_some, String.append_empty, Snbt.inserted]

/-- A place for a number is filled with a count that is a score. -/
theorem number?_hole (parameter : Parameter) {count : Nat}
    (passed : parameter.argument offer = .int count) (small : count ≤ largestScore) :
    number? (purchaseArguments offer).entries [.hole parameter.key] = some count := by
  have fits : 0 ≤ (count : Int) ∧ (count : Int) ≤ largestScore := by omega
  rw [number?, entry?_argument, passed]
  simp only [if_pos fits, Int.toNat_natCast]

theorem inserted_int (count : Nat) : (Snbt.int count).inserted = toString count := by
  rw [Nat.toString_eq_repr, ← String.toList_inj, Nat.toList_repr]
  simp [Snbt.inserted, Snbt.text, Snbt.characters, Snbt.intCharacters]

def messageText (text color : String) : String :=
  "\x7b\"text\":\"" ++ text ++ ("\",\"color\":\"" ++ color ++ "\"\x7d")

def purchasedText : String :=
  messageText ("Purchased " ++ toString offer.count ++ " " ++ offer.name ++ "!") "green"

def shortageText : String :=
  messageText ("Not enough " ++ offer.label.name ++ "!") "red"

theorem filled?_message (color : String) (body : Template) :
    filled? (purchaseArguments offer).entries (messageMarks color body) =
      some (messageText (String.join (body.map (Piece.filledIn offer))) color) := by
  rw [messageMarks, filled?_literal, filled?_template, filled?_text, messageText]
  simp only [Option.map_some, String.append_assoc]

theorem join_rewardMessage :
    String.join (rewardMessage.map (Piece.filledIn offer)) =
      "Purchased " ++ toString offer.count ++ " " ++ offer.name ++ "!" := by
  rw [← inserted_int]
  simp [rewardMessage, Piece.filledIn, Parameter.argument, Snbt.inserted, String.append_assoc]

theorem join_shortageMessage :
    String.join (shortageMessage.map (Piece.filledIn offer)) =
      "Not enough " ++ offer.label.name ++ "!" := by
  simp [shortageMessage, Piece.filledIn, Parameter.argument, Snbt.inserted, String.append_assoc]

theorem filled?_purchased :
    filled? (purchaseArguments offer).entries (messageMarks "green" rewardMessage) =
      some (purchasedText offer) := by
  rw [filled?_message, join_rewardMessage, purchasedText]

theorem filled?_shortage :
    filled? (purchaseArguments offer).entries (messageMarks "red" shortageMessage) =
      some (shortageText offer) := by
  rw [filled?_message, join_shortageMessage, shortageText]

end Filling

section Acting

variable (namespaceName : Namespace) (offer : Offer)

/-- What a step does to the player who buys. -/
def Step.act (player : Player) : Step → Player
  | .countPrice => player.setScore (currencyObjective namespaceName) (player.holdings offer.priceId)
  | .giveReward =>
    if player.reaches (currencyObjective namespaceName) offer.priceCount then
      player.give offer.itemId offer.count
    else player
  | .reportPurchase =>
    if player.reaches (currencyObjective namespaceName) offer.priceCount then
      player.tell (purchasedText offer)
    else player
  | .reportShortage =>
    if player.reaches (currencyObjective namespaceName) offer.priceCount then player
    else player.tell (shortageText offer)
  | .takePrice =>
    if player.reaches (currencyObjective namespaceName) offer.priceCount then
      player.clear offer.priceId offer.priceCount
    else player

variable {offer}

theorem run?_step (counted : offer.count ≤ largestScore) (priced : offer.priceCount ≤ largestScore)
    (step : Step) (player : Player) :
    (step.line namespaceName).run? (purchaseArguments offer).entries player =
      some (step.act namespaceName offer player) := by
  have range : least? (purchaseArguments offer).entries priceRange = some offer.priceCount :=
    number?_hole offer .priceCount rfl priced
  have currency : filled? (purchaseArguments offer).entries [.hole Parameter.priceId.key] =
      some offer.priceId := filled?_name offer .priceId rfl
  cases step with
  | countPrice =>
    simp [Step.line, Line.run?, Step.act, currency]
  | giveReward =>
    have item : filled? (purchaseArguments offer).entries [.hole Parameter.rewardId.key] =
        some offer.itemId := filled?_name offer .rewardId rfl
    have count : number? (purchaseArguments offer).entries [.hole Parameter.rewardCount.key] =
        some offer.count := number?_hole offer .rewardCount rfl counted
    simp [Step.line, Line.run?, Deed.run?, Step.act, range, item, count]
  | reportPurchase =>
    simp [Step.line, Line.run?, Deed.run?, Step.act, range, filled?_purchased]
  | reportShortage =>
    cases afforded : player.reaches (currencyObjective namespaceName) offer.priceCount <;>
      simp [Step.line, Line.run?, Deed.run?, Step.act, range, filled?_shortage, afforded]
  | takePrice =>
    have price : number? (purchaseArguments offer).entries [.hole Parameter.priceCount.key] =
        some offer.priceCount := number?_hole offer .priceCount rfl priced
    simp [Step.line, Line.run?, Deed.run?, Step.act, range, currency, price]

/-- The procedure does what its steps do, one after the other. -/
theorem call?_purchase (counted : offer.count ≤ largestScore)
    (priced : offer.priceCount ≤ largestScore) (player : Player) :
    call? (purchaseLines namespaceName) (purchaseArguments offer) player =
      some (purchaseSteps.foldl (Step.act namespaceName offer) player) := by
  unfold call? purchaseLines
  rw [List.foldlM_map]
  generalize purchaseSteps = steps
  induction steps generalizing player with
  | nil => rfl
  | cons step steps inductionHypothesis =>
    rw [List.foldlM_cons, List.foldl_cons, read?_step]
    simp only [Option.bind_eq_bind, Option.bind_some, run?_step namespaceName counted priced]
    exact inductionHypothesis _

/-- A player who can pay gets the reward and the news, and pays. Giving and telling leave the score
as it was counted, so all guards agree. -/
theorem foldl_act_of_afforded {player : Player} (small : player.holdings offer.priceId < 2 ^ 31)
    (afforded : offer.priceCount ≤ player.holdings offer.priceId) :
    purchaseSteps.foldl (Step.act namespaceName offer) player =
      (((player.setScore (currencyObjective namespaceName)
        (player.holdings offer.priceId)).give offer.itemId offer.count).tell
          (purchasedText offer)).clear offer.priceId offer.priceCount := by
  have counted := player.reaches_setScore (currencyObjective namespaceName) small offer.priceCount
  rw [decide_eq_true afforded] at counted
  simp only [purchaseSteps, List.foldl_cons, List.foldl_nil, Step.act, counted, if_true,
    Player.reaches_give, Player.reaches_tell]

theorem foldl_act_of_short {player : Player} (small : player.holdings offer.priceId < 2 ^ 31)
    (short : player.holdings offer.priceId < offer.priceCount) :
    purchaseSteps.foldl (Step.act namespaceName offer) player =
      (player.setScore (currencyObjective namespaceName)
        (player.holdings offer.priceId)).tell (shortageText offer) := by
  have counted := player.reaches_setScore (currencyObjective namespaceName) small offer.priceCount
  rw [decide_eq_false (Nat.not_le.mpr short)] at counted
  simp only [purchaseSteps, List.foldl_cons, List.foldl_nil, Step.act, counted, Bool.false_eq_true,
    if_false, Player.reaches_tell]

variable (offer)

/-- Giving first and taking afterwards changes holdings by both, also of one and the same item. -/
theorem holdings_after_trade (player : Player) (reward : String) (count : Nat) {price : String}
    {cost : Nat} (afforded : cost ≤ player.holdings price) (item : String) :
    (((player.give reward count).clear price cost).holdings item : Int) =
      player.holdings item + (if item = reward then (count : Int) else 0) -
        (if item = price then (cost : Int) else 0) := by
  have given : ((player.give reward count).holdings item : Int) =
      player.holdings item + if item = reward then (count : Int) else 0 := by
    by_cases same : item = reward
    · subst same
      simp [Player.give]
    · simp [Player.give, same]
  rw [← given]
  by_cases paid : item = price
  · subst paid
    have enough : cost ≤ (player.give reward count).holdings item := by
      split at given <;> omega
    have left : ((player.give reward count).clear item cost).holdings item =
        (player.give reward count).holdings item - cost := by
      simp [Player.clear, Nat.min_eq_left enough]
    rw [left, if_pos rfl, Int.ofNat_sub enough]
  · simp [Player.clear, paid]

theorem purchasedText_ne_shortageText : purchasedText offer ≠ shortageText offer := by
  intro same
  have characters := congrArg (fun text => text.toList[9]?) same
  simp [purchasedText, shortageText, messageText] at characters

end Acting

/-- A purchase is all or nothing. A player who holds the price is given the reward, told so once and
left with that much less of the price, also if reward and price are the same item; any other player
is told once that the price is too high and keeps everything. -/
theorem purchase_is_all_or_nothing (namespaceName : Namespace) (config : Config) (layout : Layout)
    (offer : Offer) (player : Player) (resolved : resolve config = .ok layout)
    (offered : offer ∈ layout.offers) (small : ∀ item, player.holdings item < 2 ^ 31) :
    ∃ after, call? (purchaseLines namespaceName) (purchaseArguments offer) player = some after ∧
      ((offer.priceCount ≤ player.holdings offer.priceId ∧
          (∀ item, (after.holdings item : Int) = player.holdings item +
            (if item = offer.itemId then (offer.count : Int) else 0) -
            (if item = offer.priceId then (offer.priceCount : Int) else 0)) ∧
          after.messages = player.messages ++ [purchasedText offer]) ∨
        (player.holdings offer.priceId < offer.priceCount ∧
          after.holdings = player.holdings ∧
          after.messages = player.messages ++ [shortageText offer])) ∧
      purchasedText offer ≠ shortageText offer := by
  obtain ⟨counted, priced⟩ := counts_of_mem_offers resolved offered
  refine ⟨_, call?_purchase namespaceName counted priced player, ?_,
    purchasedText_ne_shortageText offer⟩
  by_cases afforded : offer.priceCount ≤ player.holdings offer.priceId
  · left
    rw [foldl_act_of_afforded namespaceName (small offer.priceId) afforded]
    refine ⟨afforded, ?_, rfl⟩
    intro item
    exact holdings_after_trade _ offer.itemId offer.count afforded item
  · right
    have short := Nat.lt_of_not_le afforded
    rw [foldl_act_of_short namespaceName (small offer.priceId) short]
    exact ⟨short, rfl, rfl⟩

/-- A shop where iron is sold for iron, under another name. -/
def mint (name : String) : Config where
  shops := [{ items := [
    { id := "iron", count := 3, name, slot := 0, price := { id := "iron", count := 2 } }] }]

def mintOffer (name : String) : Offer where
  shop := 0
  slot := 0
  itemId := "iron"
  count := 3
  name
  priceId := "iron"
  priceCount := 2
  label := { name := "iron", color := "white" }

def buyer : Player where
  holdings := fun item => if item = "iron" then 2 else 0
  scores := fun _ => none
  messages := []

theorem last_iron_buys_more_iron :
    let namespaceName : Namespace := ⟨"bw", by decide, List.all_eq_true.mp (by decide)⟩
    let config := mint "Coins"
    let offer := mintOffer "Coins"
    resolve config = .ok { shops := placeShops config.shops, offers := [offer] } ∧
      (∀ item, buyer.holdings item < 2 ^ 31) ∧
      ∃ after, call? (purchaseLines namespaceName) (purchaseArguments offer) buyer = some after ∧
        after.holdings "iron" = 3 ∧ after.messages = [purchasedText offer] := by
  intro namespaceName config offer
  have resolved : resolve config =
    .ok { shops := placeShops config.shops, offers := [offer] } := rfl
  have small : ∀ item, buyer.holdings item < 2 ^ 31 := by
    intro item
    change (if item = "iron" then 2 else 0) < 2 ^ 31
    split <;> omega
  refine ⟨resolved, small, ?_⟩
  obtain ⟨after, called, outcome, -⟩ := purchase_is_all_or_nothing namespaceName config _ offer
    buyer resolved (.head _) small
  refine ⟨after, called, ?_⟩
  rcases outcome with ⟨-, holdings, messages⟩ | ⟨short, -⟩
  · have iron : (after.holdings "iron" : Int) = 2 + 3 - 2 := holdings "iron"
    exact ⟨by omega, messages⟩
  · exact absurd short (by decide)

end Datapack.Economy
