import DeckBuilder.Engine.Operations

/-!
Running programs.  A call is carried out by the operation of its name; what an operation provokes is
a further program, run one level deeper.  The depth is bounded by a number that grows with the number
of cards in the game: a card that provokes another one moves it, and a gain takes a card from the
supply for good, so that a chain of this length can only be a circle.
-/
namespace DeckBuilder

namespace GameState

/-- How deep one card may provoke another, and how many steps a phase of a turn may have. -/
def patience (s : GameState) : Nat := 16 * s.cards.size + 256

end GameState

namespace Engine

variable {M : Type} [Controllers M]

/-- The operation of a call. -/
def perform (provoke : Program → Engine M Bool) : (c : Call) → Engine M c.Answer
  | .draw id count => draw id count
  | .topCards id count => topCards id count
  | .move card id target position => move card id target position
  | .discard card id => discard provoke card id
  | .trash card id => trash provoke card id
  | .recover card id => recover card id
  | .reveal cards id => reveal cards id
  | .play card id => play provoke card id
  | .resolve card id => resolve provoke card id
  | .gain pile id bought destination => gain provoke pile id bought destination
  | .gainIfAvailable pile id destination => gainIfAvailable provoke pile id destination
  | .buy pile id => buy provoke pile id
  | .credit id counter n => modifyPlayer id (·.onTableau (·.credit n counter))
  | .addCostModifier modifier => addCostModifier modifier
  | .costOf card => do return (← state).cost (← definition card)
  | .opponents id => do return (← state).opponentsOf id
  | .blocksAttack target attack => blocksAttack target attack
  | .chooseCards id choice => chooseCards id choice
  | .choosePile id prompt source eligible => choosePile id prompt source eligible
  | .chooseBoolean id choice => chooseBoolean id choice
  | .chooseOptions id choice => chooseOptions id choice
  | .chooseInteger id choice => chooseInteger id choice
  | .note message => verbose message

/-- Runs a program whose calls are carried out by `call`. -/
def interpret (call : (c : Call) → Engine M c.Answer) : Program → Engine M Bool
  | .finish keep => pure keep
  | .fail e => fail e
  | .look next => do interpret call (next (← state).outlook)
  | .call c next => do interpret call (next (← call c))
  | .addDuration card callback next => do
    addDuration card callback
    interpret call next
  | .addGainTrigger id callback next => do
    addGainTrigger id callback
    interpret call next
  | .addPlayTrigger id callback next => do
    addPlayTrigger id callback
    interpret call next

/-- Runs a program in which no chain of provoked programs is longer than the depth. -/
def runWithin : Nat → Program → Engine M Bool
  | 0, _ => throw .endless
  | depth + 1, p => interpret (perform (runWithin depth)) p

/-- Runs a program. -/
def run (p : Program) : Engine M Bool := do runWithin (← state).patience p

end Engine

end DeckBuilder
