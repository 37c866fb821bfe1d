import DeckBuilder.State

/-!
The interface between a game and those who decide for its players.  A controller is asked a question,
sees the whole state, may draw from the game's generator and leave notes, and gives an answer; it
cannot change anything else.  What the controllers remember is one value for the whole table, so that
they may share it.
-/
namespace DeckBuilder

/-- What a controller leaves behind when it answers: an entry for the log book, or text for the
player at its seat. -/
inductive Note
  | log (entry : LogEntry)
  | screen (text : String)
deriving DecidableEq, Repr, Inhabited

namespace Note

/-- A note about what was decided. -/
def choice (message : String) : Note := .log ⟨.verbose, message, some .choice⟩

def verbose (message : String) : Note := .log ⟨.verbose, message, none⟩

end Note

/-- What a controller works with while it decides. -/
structure Desk (M : Type) where
  memory : M
  rng : Generator
  notes : Array Note := #[]

abbrev Think (M : Type) := StateM (Desk M)

namespace Think

variable {M : Type}

def note (n : Note) : Think M Unit := modify fun d => { d with notes := d.notes.push n }

/-- Notes what was decided. -/
def log (message : String) : Think M Unit := note (.choice message)

/-- Draws from the game's generator. -/
def random {α : Type} (f : Generator → α × Generator) : Think M α :=
  modifyGet fun d => let (a, rng) := f d.rng; (a, { d with rng })

def memory : Think M M := do return (← get).memory

def setMemory (m : M) : Think M Unit := modify fun d => { d with memory := m }

/-- Thinks with a part of the memory. -/
def within {N α : Type} (part : N) (put : M → N → M) (t : Think N α) : Think M α :=
  fun d =>
    let (a, d') := t { memory := part, rng := d.rng, notes := d.notes }
    (a, { memory := put d.memory d'.memory, rng := d'.rng, notes := d'.notes })

end Think

class Controllers (M : Type) where
  /-- The answer of the player's controller to a question. -/
  answer (state : GameState) (player : PlayerId) (question : Question) : Think M question.Answer
  /-- Told once when the game is over. -/
  gameOver (state : GameState) (player : PlayerId) (won : Bool) : Think M Unit

namespace GameState

/-- Enters a controller's note. -/
def enter (player : PlayerId) (s : GameState) : Note → GameState
  | .log entry => s.onLogger (·.log entry)
  | .screen text => s.onLogger (·.display player text)

def enterAll (s : GameState) (player : PlayerId) (notes : Array Note) : GameState :=
  notes.foldl (enter player) s

end GameState

end DeckBuilder
