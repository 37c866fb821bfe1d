import DeckBuilder.Catalog.Steps

/-!
The kingdom cards, by cost.
-/
namespace DeckBuilder.Catalog

open Script

/-- Discards any number of cards and draws as many. -/
def discardAndRedraw (ctx : EffectContext) : Script Unit := do
  let cards ← hand ctx.player
  let chosen ← chooseCards ctx.player {
    prompt := "Discard any number of cards, then draw that many"
    cards, min := 0, max := cards.length, source := some ctx.card }
  let discarded ← chosen.filterM fun card => discard card ctx.player
  let _ ← draw ctx.player discarded.length

def cellar : CardDefinition where
  name := "Cellar"
  cost := 2
  types := [.action]
  onPlay := [.gainActions 1, .scripted "discard and redraw" discardAndRedraw]
  text := "+1 Action. Discard any number of cards, then draw that many."

/-- Trashes up to four cards from the hand. -/
def trashUpToFour (ctx : EffectContext) : Script Unit := do
  let cards ← hand ctx.player
  let chosen ← chooseCards ctx.player {
    prompt := "Trash up to 4 cards from your hand"
    cards, min := 0, max := 4, source := some ctx.card }
  chosen.forM fun card => do
    let _ ← trash card ctx.player

def chapel : CardDefinition where
  name := "Chapel"
  cost := 2
  types := [.action]
  onPlay := [.scripted "trash up to 4" trashUpToFour]
  text := "Trash up to 4 cards from your hand."

def moat : CardDefinition where
  name := "Moat"
  cost := 2
  types := [.action, .reaction]
  onPlay := [.drawCards 2]
  immunity := some .revealFromHand
  text := "+2 Cards. When another player plays an Attack card, you may first reveal this from your " ++
    "hand, to be unaffected by it."

def pawn : CardDefinition where
  name := "Pawn"
  cost := 2
  types := [.action]
  onPlay := [
    .choose "Choose two different options"
      ([.drawCards 1, .gainActions 1, .gainBuys 1, .gainMoney 1].map Effect.asOption) 2 2]
  text := "Choose two: +1 Card; +1 Action; +1 Buy; +$1. The choices must be different."

/-- The top card of the deck goes onto the mat. -/
def toNativeVillage (ctx : EffectContext) : Script Unit := do
  if let some card := (← topCards ctx.player 1).head? then
    let _ ← move card ctx.player nativeVillageMat

/-- All cards on the mat go into the hand. -/
def fromNativeVillage (ctx : EffectContext) : Script Unit := do
  let cards := ((← tableau ctx.player).zones.get? nativeVillageMat).getD []
  cards.forM fun card => do
    let _ ← move card ctx.player .hand

def nativeVillage : CardDefinition where
  name := "Native Village"
  cost := 2
  types := [.action]
  onPlay := [
    .gainActions 2,
    .choose "Choose one"
      [⟨"Put the top card of your deck on your Native Village mat",
          .scripted "to mat" toNativeVillage⟩,
        ⟨"Put all the cards from your Native Village mat into your hand",
          .scripted "from mat" fromNativeVillage⟩] 1 1]
  text := "+2 Actions. Choose one: Put the top card of your deck face down on your Native Village " ++
    "mat; or put all the cards from your mat into your hand."

/-- The card lies aside until the player's next turn, gives its money then and comes back into play. -/
def standWatch (ctx : EffectContext) : Script Unit := do
  let _ ← move ctx.card ctx.player .setAside
  addDuration ctx.card fun ctx => once do
    credit ctx.player .money 1
    let _ ← move ctx.card ctx.player .inPlay

def lighthouse : CardDefinition where
  name := "Lighthouse"
  cost := 2
  types := [.action, .duration]
  onPlay := [.gainActions 1, .gainMoney 1, .scripted "stand watch" standWatch]
  immunity := some .whileSetAside
  text := "+1 Action, +$1. At the start of your next turn: +$1. Until then, when another player " ++
    "plays an Attack card, it doesn't affect you."

def village : CardDefinition where
  name := "Village"
  cost := 3
  types := [.action]
  onPlay := [.drawCards 1, .gainActions 2]
  text := "+1 Card, +2 Actions."

def workshop : CardDefinition where
  name := "Workshop"
  cost := 3
  types := [.action]
  onPlay := [.scripted "gain up to 4" fun ctx => gainCostingUpTo ctx 4]
  text := "Gain a card costing up to $4."

/-- The first Silver played after this gives one money more. -/
def silverBonus (ctx : EffectContext) : Script Unit :=
  addPlayTrigger ctx.player fun player card => keeping do
    if (← look).cardName card = "Silver" then
      credit player .money 1
      return false
    else return true

def merchant : CardDefinition where
  name := "Merchant"
  cost := 3
  types := [.action]
  onPlay := [.drawCards 1, .gainActions 1, .scripted "silver bonus" silverBonus]
  text := "+1 Card, +1 Action. The first time you play a Silver this turn, +$1."

def fishingVillage : CardDefinition where
  name := "Fishing Village"
  cost := 3
  types := [.action, .duration]
  onPlay := [
    .gainActions 2,
    .gainMoney 1,
    nextTurn "fishing village next turn" [.gainActions 1, .gainMoney 1]]
  text := "+2 Actions, +$1. At the start of your next turn: +1 Action and +$1."

/-- Draws card by card until there are six in the hand or there is none to draw; `n` bounds the
cards drawn. -/
def drawToSix (ctx : EffectContext) : Nat → Script Unit
  | 0 => pure ()
  | n + 1 => do
    if (← hand ctx.player).length < 6 then
      unless (← draw ctx.player 1).isEmpty do drawToSix ctx n

/-- A card that its owner gains may be trashed or put onto the deck. -/
def watch (ctx : ReactionContext) : Script Unit := do
  if let .gain info := ctx.trigger then
    if info.player = ctx.owner then
      let gained ← face info.card
      let junk := gained.is .curse || (gained.isVictory && gained.cost ≤ 2)
      let prompt := s!"Reveal Watchtower to trash the gained {gained.name}?"
      if ← chooseBoolean ctx.owner prompt junk (some ctx.card) then
        reveal [ctx.card] ctx.owner
        let _ ← trash info.card ctx.owner
      else offerTopdeck ctx.owner info.card ctx.card

def watchtower : CardDefinition where
  name := "Watchtower"
  cost := 3
  types := [.action, .reaction]
  onPlay := [.scripted "draw to 6" fun ctx => drawToSix ctx 6]
  reactions := { onGain := some ⟨.hand, fun ctx => (watch ctx).once⟩ }
  text := "Draw until you have 6 cards in hand. When you gain a card, you may reveal this from your " ++
    "hand, to either trash that card or put it onto your deck."

/-- A card that is itself discarded before clean-up may bring a Gold. -/
def findGold (ctx : ReactionContext) : Script Unit := do
  if let .discard _ card := ctx.trigger then
    if card = ctx.card ∧ (← look).phase ≠ .cleanUp then
      if ← chooseBoolean ctx.owner "Reveal Tunnel to gain a Gold?" true (some card) then
        reveal [card] ctx.owner
        let _ ← call (.gainIfAvailable "Gold" ctx.owner .discard)

def tunnel : CardDefinition where
  name := "Tunnel"
  cost := 3
  types := [.victory, .reaction]
  points := 2
  reactions := { onDiscard := some ⟨.discard, fun ctx => (findGold ctx).once⟩ }
  text := "2 VP. When you discard this other than during Clean-up, you may reveal it to gain a Gold."

def smithy : CardDefinition where
  name := "Smithy"
  cost := 4
  types := [.action]
  onPlay := [.drawCards 3]
  text := "+3 Cards."

/-- Discards down to three cards in hand. -/
def discardToThree (ctx : EffectContext) : Script Unit := do
  let cards ← hand ctx.player
  if 3 < cards.length then
    let chosen ← chooseCards ctx.player {
      prompt := "Discard down to 3 cards in hand"
      cards, min := cards.length - 3, max := cards.length - 3, source := some ctx.card }
    chosen.forM fun card => do
      let _ ← discard card ctx.player

def militia : CardDefinition where
  name := "Militia"
  cost := 4
  types := [.action, .attack]
  onPlay := [.gainMoney 2, .attack (.scripted "discard down to 3" discardToThree)]
  text := "+$2. Each other player discards down to 3 cards in hand."

/-- Trashes a Copper from the hand for money. -/
def lend (ctx : EffectContext) : Script Unit := do
  if let some copper := (← handWhere ctx.player (·.name == "Copper")).head? then
    if ← chooseBoolean ctx.player "Trash a Copper for +$3?" true (some ctx.card) then
      if ← trash copper ctx.player then
        credit ctx.player .money 3

def moneylender : CardDefinition where
  name := "Moneylender"
  cost := 4
  types := [.action]
  onPlay := [.scripted "lend" lend]
  text := "You may trash a Copper from your hand for +$3."

/-- Trashes a card and gains one that costs up to two more. -/
def exchange (ctx : EffectContext) : Script Unit := do
  let cards ← hand ctx.player
  let chosen ← chooseCard ctx.player "Trash a card from your hand" cards (some ctx.card)
  if let some card := chosen then
    let cost ← call (.costOf card)
    let _ ← trash card ctx.player
    gainCostingUpTo ctx (cost + 2)

def remodel : CardDefinition where
  name := "Remodel"
  cost := 4
  types := [.action]
  onPlay := [.scripted "remodel" exchange]
  text := "Trash a card from your hand. Gain a card costing up to $2 more than it."

/-- Plays an action from the hand and carries it out twice. -/
def playTwice (ctx : EffectContext) : Script Unit := do
  let actions ← handWhere ctx.player CardFace.isAction
  let chosen ← chooseCards ctx.player {
    prompt := "You may play an Action card from your hand twice"
    cards := actions, min := 0, max := 1, source := some ctx.card }
  if let some card := chosen.head? then
    play card ctx.player
    resolve card ctx.player
    resolve card ctx.player

def throneRoom : CardDefinition where
  name := "Throne Room"
  cost := 4
  types := [.action]
  onPlay := [.scripted "play twice" playTwice]
  text := "You may play an Action card from your hand twice."

def bridge : CardDefinition where
  name := "Bridge"
  cost := 4
  types := [.action]
  onPlay := [
    .gainBuys 1,
    .gainMoney 1,
    .scripted "cheaper this turn" fun _ => call (.addCostModifier fun _ => -1)]
  text := "+1 Buy, +$1. This turn, cards (everywhere) cost $1 less."

/-- With three actions in play, this one counted, a card and an action. -/
def conspire (ctx : EffectContext) : Script Unit := do
  if 3 ≤ (← look).countInPlay ctx.player CardFace.isAction then
    Effect.steps [.drawCards 1, .gainActions 1] ctx

def conspirator : CardDefinition where
  name := "Conspirator"
  cost := 4
  types := [.action]
  onPlay := [.gainMoney 2, .scripted "conspire" conspire]
  text := "+$2. If you've played 3 or more Actions this turn (counting this), +1 Card and +1 Action."

/-- Trashes the card itself for one that costs up to five. -/
def consume (ctx : EffectContext) : Script Unit := do
  let _ ← trash ctx.card ctx.player
  gainCostingUpTo ctx 5

def feast : CardDefinition where
  name := "Feast"
  cost := 4
  types := [.action]
  onPlay := [.scripted "feast" consume]
  text := "Trash this card. Gain a card costing up to $5."

def gardens : CardDefinition where
  name := "Gardens"
  cost := 4
  types := [.victory]
  pointsRule := some fun o player =>
    match o.tableau? player with
    | some t => ((t.allCards.length / 10 : Nat) : Int)
    | none => 0
  text := "Worth 1 VP per 10 cards you have (round down)."

/-- This card and one from the hand go onto the mat. -/
def toIsland (ctx : EffectContext) : Script Unit := do
  let cards ← hand ctx.player
  let chosen ← chooseCard ctx.player "Set aside a card from your hand on your Island mat" cards
    (some ctx.card)
  let _ ← move ctx.card ctx.player islandMat
  if let some card := chosen then
    let _ ← move card ctx.player islandMat

def island : CardDefinition where
  name := "Island"
  cost := 4
  types := [.action, .victory]
  points := 2
  onPlay := [.scripted "to island" toIsland]
  text := "2 VP. Put this and a card from your hand onto your Island mat."

def caravan : CardDefinition where
  name := "Caravan"
  cost := 4
  types := [.action, .duration]
  onPlay := [.drawCards 1, .gainActions 1, nextTurn "caravan next turn" [.drawCards 1]]
  text := "+1 Card, +1 Action. At the start of your next turn, +1 Card."

def fortress : CardDefinition where
  name := "Fortress"
  cost := 4
  types := [.action]
  onPlay := [.drawCards 1, .gainActions 2]
  onTrash := [.scripted "return to hand" fun ctx => call (.recover ctx.card ctx.player)]
  text := "+1 Card, +2 Actions. When you trash this, put it into your hand."

/-- A victory card from the hand goes onto the deck, or the hand is shown to have none. -/
def topdeckVictory (ctx : EffectContext) : Script Unit := do
  let victories ← handWhere ctx.player CardFace.isVictory
  if victories.isEmpty then
    let cards ← hand ctx.player
    reveal cards ctx.player
  else
    let chosen ← chooseCard ctx.player "Put a Victory card from your hand onto your deck" victories
      (some ctx.card)
    if let some card := chosen then
      reveal [card] ctx.player
      let _ ← move card ctx.player .deck

def bureaucrat : CardDefinition where
  name := "Bureaucrat"
  cost := 4
  types := [.action, .attack]
  onPlay := [
    .gainCard "Silver" .deckTop,
    .attack (.scripted "topdeck a victory card" topdeckVictory)]
  text := "Gain a Silver onto your deck. Each other player reveals a Victory card from their hand " ++
    "and puts it onto their deck (or reveals a hand with no Victory cards)."

def market : CardDefinition where
  name := "Market"
  cost := 5
  types := [.action]
  onPlay := [.drawCards 1, .gainActions 1, .gainBuys 1, .gainMoney 1]
  text := "+1 Card, +1 Action, +1 Buy, +$1."

def laboratory : CardDefinition where
  name := "Laboratory"
  cost := 5
  types := [.action]
  onPlay := [.drawCards 2, .gainActions 1]
  text := "+2 Cards, +1 Action."

def festival : CardDefinition where
  name := "Festival"
  cost := 5
  types := [.action]
  onPlay := [.gainActions 2, .gainBuys 1, .gainMoney 2]
  text := "+2 Actions, +1 Buy, +$2."

def councilRoom : CardDefinition where
  name := "Council Room"
  cost := 5
  types := [.action]
  onPlay := [.drawCards 4, .gainBuys 1, .eachOtherPlayer (.drawCards 1)]
  text := "+4 Cards, +1 Buy. Each other player draws a card."

def witch : CardDefinition where
  name := "Witch"
  cost := 5
  types := [.action, .attack]
  onPlay := [.drawCards 2, .attack (.gainCard "Curse" .discard)]
  text := "+2 Cards. Each other player gains a Curse."

/-- Whether the player has bought a victory card this turn. -/
def boughtVictory (o : Outlook) (player : PlayerId) : Bool :=
  o.turnEvents.any fun e => match e.kind with
    | .gainCard card _ true _ => e.player = player && (o.face? card).any CardFace.isVictory
    | _ => false

/-- Unless a victory card was bought, the card may go onto the deck. -/
def returnToDeck (ctx : EffectContext) : Script Unit := do
  unless boughtVictory (← look) ctx.player do
    if ← chooseBoolean ctx.player "Put Treasury on top of your deck?" true (some ctx.card) then
      let _ ← move ctx.card ctx.player .deck

def treasury : CardDefinition where
  name := "Treasury"
  cost := 5
  types := [.action]
  onPlay := [.drawCards 1, .gainActions 1, .gainMoney 1]
  onCleanUp := [.scripted "return to deck" returnToDeck]
  text := "+1 Card, +1 Action, +$1. At the end of your Buy phase, if you didn't buy a Victory card " ++
    "this turn, you may put this onto your deck."

/-- Every card gained this turn may go onto the deck. -/
def sealGains (ctx : EffectContext) : Script Unit :=
  addGainTrigger ctx.player fun info => (offerTopdeck info.player info.card ctx.card).once

def royalSeal : CardDefinition where
  name := "Royal Seal"
  cost := 5
  types := [.treasure]
  worth := 2
  onPlay := [.scripted "seal" sealGains]
  text := "$2. While you have this in play, when you gain a card, you may put that card onto your " ++
    "deck."

/-- Gains a card that costs less than this one. -/
def gainCheaper (ctx : EffectContext) : Script Unit := do
  let own ← call (.costOf ctx.card)
  let pile ← choosePile ctx.player s!"Gain a card costing less than ${own}" (some ctx.card)
    fun offer => 0 < offer.count && offer.cost < own
  if let some pile := pile then
    let _ ← gain pile ctx.player

def borderVillage : CardDefinition where
  name := "Border Village"
  cost := 6
  types := [.action]
  onPlay := [.drawCards 1, .gainActions 2]
  onGain := [.scripted "gain cheaper" gainCheaper]
  text := "+1 Card, +2 Actions. When you gain this, gain a card costing less than it."

def grandMarket : CardDefinition where
  name := "Grand Market"
  cost := 6
  types := [.action]
  onPlay := [.drawCards 1, .gainActions 1, .gainBuys 1, .gainMoney 2]
  buyRule := some fun o player => o.countInPlay player (·.name == "Copper") == 0
  text := "+1 Card, +1 Action, +1 Buy, +$2. You can't buy this if you have any Coppers in play."

def peddler : CardDefinition where
  name := "Peddler"
  cost := 8
  types := [.action]
  onPlay := [.drawCards 1, .gainActions 1, .gainMoney 1]
  costRule := some fun o active =>
    if o.phase = .buy then -2 * (o.countInPlay active CardFace.isAction : Int) else 0
  text := "+1 Card, +1 Action, +$1. During your Buy phase, this costs $2 less per Action card you " ++
    "have in play."

def kingdomCards : List CardDefinition :=
  [ cellar, chapel, moat, pawn, nativeVillage, lighthouse, village, workshop, merchant,
    fishingVillage, watchtower, tunnel, smithy, militia, moneylender, remodel, throneRoom, bridge,
    conspirator, feast, gardens, island, caravan, fortress, bureaucrat, market, laboratory,
    festival, councilRoom, witch, treasury, royalSeal, borderVillage, grandMarket, peddler ]

end DeckBuilder.Catalog
