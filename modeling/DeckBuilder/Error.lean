import DeckBuilder.Ident

/-!
The ways in which setting up or playing a game can fail, and what is said of each.
-/
namespace DeckBuilder

inductive GameError
  | emptyPile (pile : String)
  | unknownCard (name : String)
  | unknownPile (name : String)
  | duplicateCard (name : String)
  | duplicatePile (name : String)
  | cardNotFound (card : CardId)
  | playerNotFound (player : PlayerId)
  | invalidSetup (reason : String)
  | invalidChoice (reason : String)
  /-- A text or a JSON value that does not have the form asked for. -/
  | malformed (what : String)
deriving DecidableEq, Repr, Inhabited

/-- The kind of error in one word. -/
def GameError.kind : GameError → String
  | .emptyPile _ => "EmptyPile"
  | .unknownCard _ => "UnknownCard"
  | .unknownPile _ => "UnknownPile"
  | .duplicateCard _ => "DuplicateCard"
  | .duplicatePile _ => "DuplicatePile"
  | .cardNotFound _ => "CardNotFound"
  | .playerNotFound _ => "PlayerNotFound"
  | .invalidSetup _ => "InvalidSetup"
  | .invalidChoice _ => "InvalidChoice"
  | .malformed _ => "SerializationError"

def GameError.message : GameError → String
  | .emptyPile pile => s!"Cannot gain from empty pile: {pile}"
  | .unknownCard name => s!"Unknown card: {name}"
  | .unknownPile name => s!"No such supply pile: {name}"
  | .duplicateCard name => s!"Card already registered: {name}"
  | .duplicatePile name => s!"Supply already contains a pile named {name}"
  | .cardNotFound card => s!"Card not found: {card}"
  | .playerNotFound player => s!"Player not found: {player}"
  | .invalidSetup reason => s!"Invalid game setup: {reason}"
  | .invalidChoice reason => s!"Invalid choice: {reason}"
  | .malformed what => s!"Serialization error: {what}"

end DeckBuilder
