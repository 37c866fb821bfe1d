/-!
What is printed on a card: everything about it except what it does.
-/
namespace DeckBuilder

inductive CardType
  | action
  | attack
  | curse
  | duration
  | reaction
  | treasure
  | victory
deriving DecidableEq, Repr, Inhabited

def CardType.text : CardType → String
  | .action => "Action"
  | .attack => "Attack"
  | .curse => "Curse"
  | .duration => "Duration"
  | .reaction => "Reaction"
  | .treasure => "Treasure"
  | .victory => "Victory"

def CardType.all : List CardType :=
  [.action, .attack, .curse, .duration, .reaction, .treasure, .victory]

def CardType.ofText? (s : String) : Option CardType := all.find? (·.text == s)

/-- How a card keeps attacks from its owner: by being shown from the hand, or by lying set aside. -/
inductive AttackImmunity
  | revealFromHand
  | whileSetAside
deriving DecidableEq, Repr, Inhabited

def AttackImmunity.text : AttackImmunity → String
  | .revealFromHand => "RevealFromHand"
  | .whileSetAside => "WhileSetAside"

/-- The cards that are in every game, and the cards that may be picked for a kingdom. -/
inductive CardSet
  | base
  | kingdom
deriving DecidableEq, Repr, Inhabited

def CardSet.text : CardSet → String
  | .base => "Base"
  | .kingdom => "Kingdom"

structure CardFace where
  name : String
  types : List CardType := []
  set : CardSet := .kingdom
  cost : Int
  /-- The money that a treasure gives when it is played. -/
  worth : Nat := 0
  points : Int := 0
  immunity : Option AttackImmunity := none
  text : String := ""
deriving DecidableEq, Repr, Inhabited

namespace CardFace

def is (face : CardFace) (type : CardType) : Bool := face.types.contains type

def isAction (face : CardFace) : Bool := face.is .action

def isTreasure (face : CardFace) : Bool := face.is .treasure

def isVictory (face : CardFace) : Bool := face.is .victory

/-- The types with dashes between them. -/
def typeLine (face : CardFace) : String := " - ".intercalate (face.types.map CardType.text)

end CardFace

end DeckBuilder
