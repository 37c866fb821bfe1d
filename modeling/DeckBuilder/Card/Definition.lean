import DeckBuilder.Effect

/-!
A card as a whole: its face and its rules.  Effects are carried out when the card is played, gained,
trashed or cleaned up; reactions answer what happens to other cards; and up to three rules replace
the printed cost, the printed points and the freedom to buy the card.
-/
namespace DeckBuilder

/-- What a reaction answers to. -/
inductive ReactionTrigger
  | gain (info : GainInfo)
  | discard (player : PlayerId) (card : CardId)
  | startTurn (player : PlayerId)
deriving DecidableEq, Repr, Inhabited

inductive ReactionKind
  | gain
  | discard
  | startTurn
deriving DecidableEq, Repr, Inhabited

def ReactionKind.text : ReactionKind → String
  | .gain => "Gain"
  | .discard => "Discard"
  | .startTurn => "StartTurn"

namespace ReactionTrigger

def kind : ReactionTrigger → ReactionKind
  | .gain _ => .gain
  | .discard .. => .discard
  | .startTurn _ => .startTurn

/-- The player to whom it happens. -/
def player : ReactionTrigger → PlayerId
  | .gain info => info.player
  | .discard player _ => player
  | .startTurn player => player

end ReactionTrigger

/-- The reacting card, its owner, and what it reacts to. -/
structure ReactionContext where
  card : CardId
  owner : PlayerId
  trigger : ReactionTrigger
deriving DecidableEq, Repr, Inhabited

def ReactionContext.effectContext (ctx : ReactionContext) : EffectContext := ⟨ctx.card, ctx.owner⟩

/-- A reaction of a card while it is in a certain zone of its owner. -/
structure Reaction where
  zone : Zone
  effect : ReactionContext → Program

structure Reactions where
  onGain : Option Reaction := none
  onDiscard : Option Reaction := none
  onStartTurn : Option Reaction := none

namespace Reactions

def get? (r : Reactions) : ReactionKind → Option Reaction
  | .gain => r.onGain
  | .discard => r.onDiscard
  | .startTurn => r.onStartTurn

def isEmpty (r : Reactions) : Bool :=
  r.onGain.isNone && r.onDiscard.isNone && r.onStartTurn.isNone

end Reactions

structure CardDefinition extends CardFace where
  /-- Added to the cost, for the player whose turn it is. -/
  costRule : Option (Outlook → PlayerId → Int) := none
  /-- Takes the place of the printed points. -/
  pointsRule : Option (Outlook → PlayerId → Int) := none
  buyRule : Option (Outlook → PlayerId → Bool) := none
  onPlay : List Effect := []
  onGain : List Effect := []
  onTrash : List Effect := []
  onCleanUp : List Effect := []
  reactions : Reactions := {}

/-- A card in a game: its definition, and the programs waiting for its owner's next turn. -/
structure Card where
  definition : CardDefinition
  durations : List (EffectContext → Program) := []

namespace Card

def face (c : Card) : CardFace := c.definition.toCardFace

/-- Whether the card is discarded at the end of the turn: nothing waits on it. -/
def cleansUp (c : Card) : Bool := c.durations.isEmpty

end Card

end DeckBuilder
