import DeckBuilder.Controllers

/-!
The engine: computations on a game that may stop.  A computation that stops leaves the game as it is
at that moment.
-/
namespace DeckBuilder

/-- A state together with what the controllers of its players remember. -/
structure Game (M : Type) where
  state : GameState
  memory : M

/-- Why a computation stopped before its end. -/
inductive Halt
  | error (error : GameError)
  /-- What one card provoked from another, or the plays of one turn, went on beyond every bound. -/
  | endless
deriving DecidableEq, Repr, Inhabited

/-- What is said of a computation that stopped. -/
def Halt.message : Halt → String
  | .error e => e.message
  | .endless => "The game went on beyond every bound"

abbrev Engine (M : Type) := ExceptT Halt (StateM (Game M))

namespace Engine

variable {M : Type}

/-- Runs a computation: its value or why it stopped, and the game after it. -/
def runOn {α : Type} (e : Engine M α) (g : Game M) : Except Halt α × Game M := e.run.run g

def fail {α : Type} (error : GameError) : Engine M α := throw (.error error)

def state : Engine M GameState := do return (← get).state

def setState (s : GameState) : Engine M Unit := modify fun g => { g with state := s }

def modifyState (f : GameState → GameState) : Engine M Unit :=
  modify fun g => { g with state := f g.state }

/-- The value, or the error in its place. -/
def lift {α : Type} : Except GameError α → Engine M α
  | .ok a => pure a
  | .error e => fail e

/-- A step that gives a value and a new state, or fails and changes nothing. -/
def step {α : Type} (f : GameState → Except GameError (α × GameState)) : Engine M α := do
  let (a, s) ← lift (f (← state))
  setState s
  return a

def player (id : PlayerId) : Engine M Player := do
  match (← state).player? id with
  | some p => return p
  | none => fail (.playerNotFound id)

def card (id : CardId) : Engine M Card := do
  match (← state).card? id with
  | some c => return c
  | none => fail (.cardNotFound id)

def definition (id : CardId) : Engine M CardDefinition := do return (← card id).definition

/-- Changes a player who must exist. -/
def modifyPlayer (id : PlayerId) (f : Player → Player) : Engine M Unit := do
  let p ← player id
  modifyState (·.setPlayer id (f p))

def publish (id : PlayerId) (kind : EventKind) : Engine M Unit := modifyState (·.publish id kind)

def warn (message : String) : Engine M Unit := modifyState (·.warn message)

def verbose (message : String) : Engine M Unit := modifyState (·.onLogger (·.verbose message))

/-- Puts a question to the player's controller. -/
def ask [Controllers M] (id : PlayerId) (question : Question) : Engine M question.Answer := do
  let g ← get
  if id.seat < g.state.players.length then
    let (answer, desk) :=
      Controllers.answer g.state id question { memory := g.memory, rng := g.state.rng }
    set { state := { g.state with rng := desk.rng }.enterAll id desk.notes, memory := desk.memory
          : Game M }
    return answer
  else fail (.playerNotFound id)

/-- Tells the controllers at all seats that the game is over, one after the other. -/
def notifyGameOver [Controllers M] (winners : List PlayerId) : Engine M Unit := do
  (← state).playerIds.forM fun id =>
    modify fun g =>
      let ((), desk) :=
        Controllers.gameOver g.state id (winners.contains id)
          { memory := g.memory, rng := g.state.rng }
      { state := { g.state with rng := desk.rng }.enterAll id desk.notes, memory := desk.memory }

end Engine

end DeckBuilder
