import DeckBuilder.Card.Definition

/-!
Steps that several kingdom cards share.
-/
namespace DeckBuilder.Catalog

open Script

/-- The player gains a card that costs at most the given amount, if there is one to choose. -/
def gainCostingUpTo (ctx : EffectContext) (maxCost : Nat) : Script Unit := do
  let pile ← choosePile ctx.player s!"Gain a card costing up to ${maxCost}" (some ctx.card)
    fun offer => 0 < offer.count && offer.cost ≤ maxCost
  if let some pile := pile then
    let _ ← gain pile ctx.player

/-- The effects happen when the player's next turn starts. -/
def nextTurn (label : String) (effects : List Effect) : Effect :=
  Effect.scripted label fun ctx => addDuration ctx.card fun ctx => (Effect.steps effects ctx).once

/-- The player may put a card just gained from the discard pile onto the deck. -/
def offerTopdeck (player : PlayerId) (gained source : CardId) : Script Unit := do
  if (← tableau player).zones.locate gained = some .discard then
    let card ← face gained
    let wanted := card.isAction || card.isTreasure
    let prompt := s!"Put the gained {card.name} on top of your deck?"
    if ← chooseBoolean player prompt wanted (some source) then
      let _ ← move gained player .deck

def nativeVillageMat : Zone := .mat "Native Village"

def islandMat : Zone := .mat "Island"

end DeckBuilder.Catalog
