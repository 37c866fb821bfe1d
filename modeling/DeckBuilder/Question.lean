import DeckBuilder.Ident

/-!
The questions that a game asks a player, and what an answer to each of them is.
-/
namespace DeckBuilder

/-- Choose from `min` to `max` of the cards; `source` is the card that asks. -/
structure CardChoice where
  prompt : String
  cards : List CardId
  min : Nat
  max : Nat
  source : Option CardId := none
deriving DecidableEq, Repr, Inhabited

/-- Choose one of the supply piles, or none. -/
structure PileChoice where
  prompt : String
  piles : List String
  source : Option CardId := none
deriving DecidableEq, Repr, Inhabited

structure BooleanChoice where
  prompt : String
  default : Bool
  source : Option CardId := none
deriving DecidableEq, Repr, Inhabited

/-- Choose from `min` to `max` of the options by their places in the list. -/
structure OptionChoice where
  prompt : String
  options : List String
  min : Nat
  max : Nat
  source : Option CardId := none
deriving DecidableEq, Repr, Inhabited

structure IntegerChoice where
  prompt : String
  default : Int
  min : Int
  max : Int
deriving DecidableEq, Repr, Inhabited

inductive Question
  /-- Which action card to play next, or none. -/
  | action (playable : List CardId)
  /-- Which treasures to play, or none. -/
  | treasures (playable : List CardId)
  /-- Which pile to buy from, or none. -/
  | purchase (buyable : List String)
  | cards (choice : CardChoice)
  | pile (choice : PileChoice)
  | boolean (choice : BooleanChoice)
  | options (choice : OptionChoice)
  | integer (choice : IntegerChoice)
deriving DecidableEq, Repr, Inhabited

@[reducible] def Question.Answer : Question → Type
  | .action _ => Option CardId
  | .treasures _ => Option (List CardId)
  | .purchase _ => Option String
  | .cards _ => List CardId
  | .pile _ => Option String
  | .boolean _ => Bool
  | .options _ => List Nat
  | .integer _ => Int

end DeckBuilder
