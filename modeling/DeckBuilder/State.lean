import DeckBuilder.Log
import DeckBuilder.Player
import DeckBuilder.Store
import DeckBuilder.Supply
import DeckBuilder.Winners

/-!
The state of a game: the cards, the players, the supply and the trash, whose turn it is and in which
phase, the cost modifiers of the turn, the generator, the events and the log book.  Here are the
questions one can ask of a state, and the moves that provoke nothing.
-/
namespace DeckBuilder

open DeckBuilder.Random

structure GameState where
  cards : Store Card
  players : List Player
  supply : Supply
  trash : List CardId := []
  /-- The seat of the player whose turn it is. -/
  active : Nat := 0
  phase : Phase := .action
  turn : Nat := 0
  /-- The number of the last event before the turn began. -/
  turnStart : Nat := 0
  costModifiers : List (CardFace → Int) := []
  rng : Generator
  events : EventLog := {}
  logger : Logger := {}

namespace GameState

def activePlayer (s : GameState) : PlayerId := ⟨s.active⟩

def player? (s : GameState) (id : PlayerId) : Option Player := s.players[id.seat]?

def playerIds (s : GameState) : List PlayerId := (List.range s.players.length).map PlayerId.mk

/-- The other players in table order, beginning to the left of the given one. -/
def opponentsOf (s : GameState) (player : PlayerId) : List PlayerId :=
  let n := s.players.length
  (List.range (n - 1)).map fun i => ⟨(player.seat + (i + 1)) % n⟩

def card? (s : GameState) (id : CardId) : Option Card := s.cards.get? id

def face? (s : GameState) (id : CardId) : Option CardFace := (s.card? id).map Card.face

/-- The name on a card; a number that is no card in this game is shown as it is. -/
def cardName (s : GameState) (id : CardId) : String :=
  match s.card? id with
  | some card => card.definition.name
  | none => s!"card {id}"

def outlook (s : GameState) : Outlook where
  active := s.activePlayer
  phase := s.phase
  turn := s.turn
  tableau? := fun id => (s.player? id).map (·.toTableau)
  face? := s.face?
  trash := s.trash
  turnStart := s.turnStart
  log := s.events

/-- What a card costs now: the printed cost with the card's own rule and all modifiers of the turn,
never below zero. -/
def cost (s : GameState) (d : CardDefinition) : Nat :=
  let own := match d.costRule with
    | some rule => rule s.outlook s.activePlayer
    | none => 0
  let turn := (s.costModifiers.map fun m => m d.toCardFace).foldr (· + ·) 0
  (d.cost + own + turn).toNat

def pileCost? (s : GameState) (pile : String) : Option Nat :=
  (s.supply.pile? pile).map fun p => s.cost p.definition

def offer (s : GameState) (p : Pile) : PileOffer :=
  { face := p.definition.toCardFace, count := p.size, cost := s.cost p.definition }

def canBuy (s : GameState) (player : PlayerId) (pile : String) : Bool :=
  match s.player? player, s.supply.pile? pile with
  | some p, some pile =>
    0 < p.buys && !pile.isEmpty && s.cost pile.definition ≤ p.money &&
      match pile.definition.buyRule with
      | some rule => rule s.outlook player
      | none => true
  | _, _ => false

def buyable (s : GameState) (player : PlayerId) : List String :=
  (s.supply.piles.map Pile.name).filter (s.canBuy player)

/-- The points that a card is worth to its owner. -/
def cardPoints (s : GameState) (d : CardDefinition) (player : PlayerId) : Int :=
  match d.pointsRule with
  | some rule => rule s.outlook player
  | none => d.points

/-- The points of all the player's cards, added to the tokens. -/
def points (s : GameState) (player : PlayerId) : Except GameError Int :=
  match s.player? player with
  | none => .error (.playerNotFound player)
  | some p =>
    p.allCards.foldlM (fun total id =>
      match s.card? id with
      | some card => .ok (total + s.cardPoints card.definition player)
      | none => .error (.cardNotFound id)) (p.victoryTokens : Int)

def countInPlay (s : GameState) (player : PlayerId) (p : CardFace → Bool) : Nat :=
  s.outlook.countInPlay player p

/-- The Provinces are gone, or three piles are empty. -/
def isFinished (s : GameState) : Bool :=
  ((s.supply.pile? "Province").any Pile.isEmpty) || 3 ≤ s.supply.emptyCount

/-- Players with their points and turns, in seat order. -/
def standings (s : GameState) : Except GameError (List Standing) :=
  s.players.mapM fun p => do
    return { player := p.id, name := p.name, points := ← s.points p.id, turns := p.turns }

/-- The players who would win now; what they are called does not matter. -/
def winners (s : GameState) : Except GameError (List PlayerId) := do
  let standings ← s.players.mapM fun p => do
    return { player := p.id, points := ← s.points p.id, turns := p.turns }
  return determineWinners standings

/-- The state in which nothing of the log book is left. -/
def withoutLog (s : GameState) : GameState := { s with logger := s.logger.fresh }

def onLogger (s : GameState) (f : Logger → Logger) : GameState := { s with logger := f s.logger }

def warn (s : GameState) (message : String) : GameState := s.onLogger (·.warn message)

/-- Adds an event, stamped with the number of the turn, and logs it. -/
def publish (s : GameState) (player : PlayerId) (kind : EventKind) : GameState :=
  let event := s.events.next player s.turn kind
  { s with
    events := s.events.publish player s.turn kind
    logger := s.logger.event event }

def setPlayer (s : GameState) (id : PlayerId) (p : Player) : GameState :=
  { s with players := s.players.set id.seat p }

def onTableau (s : GameState) (id : PlayerId) (f : Tableau → Tableau) : GameState :=
  { s with players := s.players.modify id.seat (·.onTableau f) }

/-- Draws one card for a player, and publishes the shuffle if there was one. -/
def drawOne (s : GameState) (id : PlayerId) (p : Player) : Option CardId × GameState :=
  let shuffled := if p.zones.deck.isEmpty then p.zones.discard.length else 0
  let (card, tableau, rng) := p.toTableau.draw s.rng
  let s := { s.setPlayer id { p with toTableau := tableau } with rng }
  (card, if 0 < shuffled then s.publish id (.shuffle shuffled) else s)

/-- Draws cards until `count` are drawn or none is left.  The player must exist if there is a card
to draw. -/
def drawEach (id : PlayerId) : Nat → GameState → Except GameError (List CardId × GameState)
  | 0, s => .ok ([], s)
  | count + 1, s =>
    match s.player? id with
    | none => .error (.playerNotFound id)
    | some p =>
      match s.drawOne id p with
      | (none, s) => .ok ([], s)
      | (some card, s) => do
        let (cards, s) ← drawEach id count s
        return (card :: cards, s)

/-- Draws cards and publishes how many. -/
def draw (s : GameState) (id : PlayerId) (count : Nat) : Except GameError (List CardId × GameState) :=
  do
    let (cards, s) ← drawEach id count s
    return (cards, if cards.isEmpty then s else s.publish id (.drawCards cards.length))

/-- Looks at the top cards of a deck; the discard pile is shuffled under a deck that has fewer. -/
def topCards (s : GameState) (id : PlayerId) (n : Nat) :
    Except GameError (List CardId × GameState) :=
  match s.player? id with
  | none => .error (.playerNotFound id)
  | some p =>
    let shuffled := if p.zones.deck.length < n then p.zones.discard.length else 0
    let (cards, tableau, rng) := p.toTableau.topCards n s.rng
    let s := { s.setPlayer id { p with toTableau := tableau } with rng }
    .ok (cards, if 0 < shuffled then s.publish id (.shuffle shuffled) else s)

/-- Moves a card of a player to another of the player's zones, and tells where it was.  If that
cannot be done, there is a warning in the log book. -/
def move (s : GameState) (card : CardId) (id : PlayerId) (target : Zone) (position : Position) :
    Except GameError (Option Zone × GameState) :=
  let name := s.cardName card
  match s.player? id with
  | none => .error (.playerNotFound id)
  | some p =>
    match p.zones.locate card with
    | none => .ok (none, s.warn s!"{id} cannot move {name} {card}: not found in any zone")
    | some source =>
      let (moved, tableau) := p.toTableau.transfer card source target position
      let s := s.setPlayer id { p with toTableau := tableau }
      if moved then .ok (some source, s.publish id (.moveCard card name source target))
      else .ok (none, s.warn s!"{id} cannot move {name} {card} to {target}")

end GameState

end DeckBuilder
