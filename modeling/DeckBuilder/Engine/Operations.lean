import DeckBuilder.Engine.Choices

/-!
The operations on a game that cards and the turn loop call.  An operation moves cards, publishes an
event, and then runs what the move provokes: hooks of the card, triggers of the player and reactions
of other cards, in that order.  All these are programs, and `provoke` is how a program is run.
-/
namespace DeckBuilder

/-- How many cards a new hand has. -/
def handSize : Nat := 5

/-- A card that may react: its owner and its reaction. -/
structure Candidate where
  card : CardId
  owner : PlayerId
  reaction : Reaction

namespace GameState

/-- The cards that have a reaction of the kind and are where they react from: by seat, then by zone,
then by place in the zone. -/
def candidates (s : GameState) (kind : ReactionKind) : Except GameError (List Candidate) := do
  let found ← s.players.mapM fun p =>
    p.zones.inOrder.mapM fun (zone, cards) =>
      cards.filterMapM fun id => do
        match s.card? id with
        | none => .error (.cardNotFound id)
        | some card =>
          match card.definition.reactions.get? kind with
          | some reaction =>
            return if reaction.zone = zone then some ⟨id, p.id, reaction⟩ else none
          | none => return none
  return found.flatten.flatten

/-- Whether the card gives the kind of immunity. -/
def grants (s : GameState) (kind : AttackImmunity) (id : CardId) : Bool :=
  match s.face? id with
  | some face => face.immunity == some kind
  | none => false

end GameState

namespace Engine

variable {M : Type}

/-- Runs each program in turn and gives those that are kept. -/
def keepers {α : Type} (run : α → Engine M Bool) : List α → Engine M (List α)
  | [] => pure []
  | a :: as => do
    let kept ← run a
    let rest ← keepers run as
    return if kept then a :: rest else rest

def draw (id : PlayerId) (count : Nat) : Engine M (List CardId) := step (·.draw id count)

def topCards (id : PlayerId) (n : Nat) : Engine M (List CardId) := step (·.topCards id n)

def move (card : CardId) (id : PlayerId) (target : Zone) (position : Position) :
    Engine M (Option Zone) :=
  step (·.move card id target position)

/-- Makes cards known to all. -/
def reveal (cards : List CardId) (id : PlayerId) : Engine M Unit := do
  if cards.isEmpty then return
  else publish id (.revealCards cards (cards.map (← state).cardName))

/-- Takes a card out of the trash into a player's hand; nothing happens if it is not there. -/
def recover (card : CardId) (id : PlayerId) : Engine M Unit := do
  if (← state).trash.contains card then
    modifyPlayer id (·.onTableau (·.put card .hand .top))
    modifyState fun s => { s with trash := s.trash.erase card }
    publish id (.moveCard card ((← state).cardName card) .trash .hand)
  else return

/-- Whether a player is kept from an attack.  A card shown from the hand is shown; a card set aside
protects silently. -/
def blocksAttack (target : PlayerId) (attack : CardId) : Engine M Bool := do
  let p ← player target
  let s ← state
  match p.hand.find? (s.grants .revealFromHand) with
  | some card =>
    reveal [card] target
    publish target (.attackBlocked (s.cardName attack))
    return true
  | none =>
    if p.zones.setAside.any (s.grants .whileSetAside) then
      verbose (s!"{target} is protected from " ++ s.cardName attack)
      return true
    else return false

def addCostModifier (modifier : CardFace → Int) : Engine M Unit :=
  modifyState fun s => { s with costModifiers := s.costModifiers ++ [modifier] }

/-- Hangs a program on a card. -/
def addDuration (id : CardId) (callback : EffectContext → Program) : Engine M Unit := do
  let _ ← card id
  modifyState fun s =>
    { s with cards := s.cards.modify id fun c => { c with durations := c.durations ++ [callback] } }

def addGainTrigger (id : PlayerId) (callback : GainInfo → Program) : Engine M Unit :=
  modifyPlayer id fun p => { p with gainTriggers := p.gainTriggers ++ [callback] }

def addPlayTrigger (id : PlayerId) (callback : PlayerId → CardId → Program) : Engine M Unit :=
  modifyPlayer id fun p => { p with playTriggers := p.playTriggers ++ [callback] }

section Provoking

variable (provoke : Program → Engine M Bool)

/-- Carries out effects in order. -/
def executeAll (effects : List Effect) (ctx : EffectContext) : Engine M Unit := do
  if effects.isEmpty then return
  else let _ ← provoke (Effect.programAll ctx effects (.finish false))

/-- Runs the reactions to a trigger.  The cards that may react are found first; one that has left its
zone by the time it is its turn does not react. -/
def fireReactions (trigger : ReactionTrigger) : Engine M Unit := do
  let found ← lift ((← state).candidates trigger.kind)
  found.forM fun c => do
    if (← player c.owner).zones.locate c.card = some c.reaction.zone then
      let _ ← provoke (c.reaction.effect ⟨c.card, c.owner, trigger⟩)

/-- Runs a player's play triggers.  While they run the player has none; those that are kept come
before the ones installed meanwhile. -/
def firePlayTriggers (id : PlayerId) (card : CardId) : Engine M Unit := do
  let triggers := (← player id).playTriggers
  modifyPlayer id fun p => { p with playTriggers := [] }
  let kept ← keepers (fun trigger => provoke (trigger id card)) triggers
  modifyPlayer id fun p => { p with playTriggers := kept ++ p.playTriggers }

/-- Runs the programs waiting on a player's cards in play and set aside.  Those that are kept come
before the ones installed meanwhile. -/
def fireDurations (id : PlayerId) : Engine M Unit := do
  let p ← player id
  let s ← state
  let waiting (card : CardId) : Bool := (s.card? card).any fun c => !c.durations.isEmpty
  ((p.inPlay ++ p.zones.setAside).filter waiting).forM fun holder => do
    let durations := (← card holder).durations
    modifyState fun s =>
      { s with cards := s.cards.modify holder fun c => { c with durations := [] } }
    let kept ← keepers (fun callback => provoke (callback ⟨holder, id⟩)) durations
    let _ ← card holder
    modifyState fun s =>
      { s with
        cards := s.cards.modify holder fun c => { c with durations := kept ++ c.durations } }

/-- Puts a card into play from wherever the player has it; a treasure gives its money. -/
def play (id : CardId) (owner : PlayerId) : Engine M Unit := do
  let d ← definition id
  let p ← player owner
  match p.toTableau.remove? id with
  | none => warn (s!"{owner} cannot play " ++ d.name ++ ": not held")
  | some (_, tableau) =>
    let tableau := tableau.put id .inPlay .top
    let tableau := if d.isTreasure then tableau.credit d.worth .money else tableau
    modifyState (·.setPlayer owner { p with toTableau := tableau })
    publish owner (.playCard id d.name)
    firePlayTriggers provoke owner id

/-- Carries out what a card does when it is played. -/
def resolve (id : CardId) (owner : PlayerId) : Engine M Unit := do
  executeAll provoke (← definition id).onPlay ⟨id, owner⟩

/-- Takes the top card of a pile and gives it to a player. -/
def gain (pile : String) (owner : PlayerId) (bought : Bool) (destination : GainDestination) :
    Engine M CardId := do
  match (← state).supply.pile? pile with
  | none => fail (.unknownPile pile)
  | some p =>
    match p.top? with
    | none => fail (.emptyPile pile)
    | some id =>
      modifyState fun s => { s with supply := s.supply.updatePile pile Pile.pop }
      modifyPlayer owner (·.onTableau (·.put id destination.zone destination.position))
      publish owner (.gainCard id pile bought destination)
      executeAll provoke (← definition id).onGain ⟨id, owner⟩
      let info : GainInfo := ⟨owner, id, bought, destination⟩
      (← player owner).gainTriggers.forM fun trigger => do
        let _ ← provoke (trigger info)
      fireReactions provoke (.gain info)
      return id

def gainIfAvailable (pile : String) (owner : PlayerId) (destination : GainDestination) :
    Engine M (Option CardId) := do
  if (← state).supply.count pile = 0 then
    verbose s!"{owner} cannot gain {pile}: pile is empty"
    return none
  else return some (← gain provoke pile owner false destination)

/-- Gains a card and pays for it with a buy and with what it cost before it was gained. -/
def buy (pile : String) (owner : PlayerId) : Engine M CardId := do
  match (← state).pileCost? pile with
  | none => fail (.unknownPile pile)
  | some cost =>
    let id ← gain provoke pile owner true .discard
    modifyPlayer owner (·.onTableau fun t => { t with buys := t.buys - 1, money := t.money - cost })
    return id

/-- Puts a card that the player has onto the discard pile, and tells whether there was one. -/
def discard (id : CardId) (owner : PlayerId) : Engine M Bool := do
  let name := (← state).cardName id
  let p ← player owner
  match p.toTableau.remove? id with
  | none =>
    warn s!"{owner} cannot discard {name} {id}: not found"
    return false
  | some (_, tableau) =>
    modifyState (·.setPlayer owner { p with toTableau := tableau.put id .discard .top })
    publish owner (.discardCard id name)
    fireReactions provoke (.discard owner id)
    return true

/-- Puts a card that the player has into the trash, and tells whether there was one. -/
def trash (id : CardId) (owner : PlayerId) : Engine M Bool := do
  let d ← definition id
  let p ← player owner
  match p.toTableau.remove? id with
  | none =>
    warn (s!"{owner} cannot trash " ++ d.name ++ s!" {id}: not found")
    return false
  | some (_, tableau) =>
    modifyState fun s =>
      { s.setPlayer owner { p with toTableau := tableau } with trash := s.trash ++ [id] }
    publish owner (.trashCard id d.name)
    executeAll provoke d.onTrash ⟨id, owner⟩
    return true

end Provoking

end Engine

end DeckBuilder
