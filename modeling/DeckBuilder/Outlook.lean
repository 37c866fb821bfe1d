import DeckBuilder.Card.Face
import DeckBuilder.Event
import DeckBuilder.Tableau

/-!
What the rules printed on a card may look at: the table as every player sees it, with neither the
generator nor the log book, so that no rule can depend on a shuffle to come or on what is logged.
-/
namespace DeckBuilder

inductive Phase
  | action
  | buy
  | cleanUp
deriving DecidableEq, Repr, Inhabited

namespace Phase

/-- The phase after this one in the same turn. -/
def next : Phase → Option Phase
  | .action => some .buy
  | .buy => some .cleanUp
  | .cleanUp => none

def text : Phase → String
  | .action => "Action"
  | .buy => "Buy"
  | .cleanUp => "Clean-up"

/-- The phase as one word, as it stands in data. -/
def word : Phase → String
  | .action => "Action"
  | .buy => "Buy"
  | .cleanUp => "CleanUp"

def ofWord? (s : String) : Option Phase := [action, buy, cleanUp].find? (·.word == s)

end Phase

structure Outlook where
  active : PlayerId
  phase : Phase
  turn : Nat
  tableau? : PlayerId → Option Tableau
  face? : CardId → Option CardFace
  trash : List CardId
  /-- The number of the last event before the turn began. -/
  turnStart : Nat
  log : EventLog

namespace Outlook

/-- The name on a card; a number that is no card in this game is shown as it is. -/
def cardName (o : Outlook) (card : CardId) : String :=
  match o.face? card with
  | some face => face.name
  | none => s!"card {card}"

/-- The number of cards that a player has in play and that have the property. -/
def countInPlay (o : Outlook) (player : PlayerId) (p : CardFace → Bool) : Nat :=
  match o.tableau? player with
  | some t => t.inPlay.countP fun card => (o.face? card).any p
  | none => 0

/-- The number of cards that a player owns and that have the property. -/
def countOwned (o : Outlook) (player : PlayerId) (p : CardFace → Bool) : Nat :=
  match o.tableau? player with
  | some t => t.allCards.countP fun card => (o.face? card).any p
  | none => 0

/-- The events since the turn began. -/
def turnEvents (o : Outlook) : List GameEvent := o.log.after o.turnStart

end Outlook

end DeckBuilder
