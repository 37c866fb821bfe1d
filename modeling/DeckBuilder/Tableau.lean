import DeckBuilder.Random.Shuffle
import DeckBuilder.Zone

/-!
What one player has on the table: cards in zones, the counters of the turn, and the tokens and turns
counted over the game.  Drawing takes cards from the deck and, when the deck is short, first puts the
shuffled discard pile under it.
-/
namespace DeckBuilder

open DeckBuilder.Random

structure Tableau where
  id : PlayerId
  name : String
  zones : PlayerZones := {}
  actions : Nat := 1
  buys : Nat := 1
  money : Nat := 0
  victoryTokens : Nat := 0
  turns : Nat := 0
deriving DecidableEq, Repr, Inhabited

/-- The numbers of a player that effects add to. -/
inductive Counter
  | actions
  | buys
  | money
  | victoryTokens
deriving DecidableEq, Repr, Inhabited

namespace Tableau

def hand (t : Tableau) : List CardId := t.zones.hand

def inPlay (t : Tableau) : List CardId := t.zones.inPlay

def allCards (t : Tableau) : List CardId := t.zones.allCards

/-- Puts the shuffled discard pile under the deck, and tells whether there was one. -/
def reshuffle (t : Tableau) (g : Generator) : Bool × Tableau × Generator :=
  if t.zones.discard.isEmpty then (false, t, g)
  else
    let (cards, g) := shuffle t.zones.discard g
    (true, { t with zones := { t.zones with discard := [], deck := cards ++ t.zones.deck } }, g)

/-- The state before a draw or a look at `n` cards: reshuffled if the deck has fewer. -/
def prepare (t : Tableau) (n : Nat) (g : Generator) : Tableau × Generator :=
  if t.zones.deck.length < n then (t.reshuffle g).2 else (t, g)

/-- Moves the top card of the deck to the hand, if there is one after a reshuffle. -/
def draw (t : Tableau) (g : Generator) : Option CardId × Tableau × Generator :=
  let (t, g) := t.prepare 1 g
  match CardRow.draw t.zones.deck with
  | (some card, deck) =>
    (some card, { t with zones := { t.zones with deck, hand := t.zones.hand ++ [card] } }, g)
  | (none, _) => (none, t, g)

/-- The `n` top cards of the deck, the top one first; they stay where they are. -/
def topCards (t : Tableau) (n : Nat) (g : Generator) : List CardId × Tableau × Generator :=
  let (t, g) := t.prepare n g
  (CardRow.topCards t.zones.deck n, t, g)

/-- Takes a card out of the zone it is in. -/
def remove? (t : Tableau) (card : CardId) : Option (Zone × Tableau) :=
  (t.zones.remove? card).map fun (zone, zones) => (zone, { t with zones })

/-- Puts a card into a zone of the player. -/
def put (t : Tableau) (card : CardId) (zone : Zone) (position : Position) : Tableau :=
  { t with zones := t.zones.update zone (·.insert card position) }

def transfer (t : Tableau) (card : CardId) (source target : Zone) (position : Position) :
    Bool × Tableau :=
  let (moved, zones) := t.zones.transfer card source target position
  (moved, { t with zones })

/-- One action, one buy and no money. -/
def resetCounters (t : Tableau) : Tableau := { t with actions := 1, buys := 1, money := 0 }

def credit (t : Tableau) (n : Nat) : Counter → Tableau
  | .actions => { t with actions := t.actions + n }
  | .buys => { t with buys := t.buys + n }
  | .money => { t with money := t.money + n }
  | .victoryTokens => { t with victoryTokens := t.victoryTokens + n }

end Tableau

end DeckBuilder
