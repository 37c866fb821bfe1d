import DeckBuilder.Engine.Operations
import DeckBuilder.KingdomChoice

/-!
Setting up a game: the supply is built, every player gets ten cards and draws five of them, and a
first player is picked.  The generator that decides all this goes on deciding during the game.
-/
namespace DeckBuilder

open DeckBuilder.Random

structure GameConfig where
  players : List String
  kingdom : KingdomChoice := default
  /-- Whether the supply has Platinum and Colony. -/
  colony : Bool := false
  seed : UInt64 := 0
  verbosity : Verbosity := .normal
  format : LogFormat := .text
  output : LogOutput := .stdout
deriving DecidableEq, Repr

namespace GameConfig

def toJson (c : GameConfig) : Json :=
  .obj [
    ("players", .arr (c.players.map .str)),
    ("kingdom", c.kingdom.toJson),
    ("colony", .bool c.colony),
    ("seed", .int c.seed.toNat),
    ("verbosity", .str c.verbosity.word),
    ("log_format", .str c.format.word),
    ("log_output", .str c.output.word)]

/-- Reads the value of a field that may be left out. -/
def optional {α : Type} (default : α) (read : String → Option α) : Option Json → Option α
  | none => some default
  | some j => do read (← j.emptyVariant?)

/-- Reads a configuration; the three settings of the log book may be left out. -/
def ofJson (j : Json) : Except GameError GameConfig :=
  let read : Option GameConfig := do
    let [some players, some kingdom, some colony, some seed, verbosity, format, output] ←
      j.record? ["players", "kingdom", "colony", "seed", "verbosity", "log_format", "log_output"]
      | none
    return {
      players := ← players.strings?
      kingdom := ← KingdomChoice.ofJson? kingdom
      colony := ← colony.bool?
      seed := UInt64.ofNat (← seed.word?)
      verbosity := ← optional .normal Verbosity.ofWord? verbosity
      format := ← optional .text LogFormat.ofWord? format
      output := ← optional .stdout LogOutput.ofWord? output }
  match read with
  | some c => .ok c
  | none => .error (.malformed "not a game configuration")

end GameConfig

namespace Setup

def minPlayers : Nat := 2

def maxPlayers : Nat := 6

def startingCoppers : Nat := 7

def startingEstates : Nat := 3

/-- The size of a kingdom pile that holds no victory cards. -/
def pileSize : Nat := 10

/-- The size of a pile of victory cards. -/
def victoryPileSize (players : Nat) : Nat := if players = 2 then 8 else 12

/-- Puts new cards of a name into the store. -/
def newCards (r : Registry) (name : String) :
    Nat → Store Card → Except GameError (List CardId × Store Card)
  | 0, cards => .ok ([], cards)
  | n + 1, cards => do
    let (id, cards) ← r.newCard name cards
    let (ids, cards) ← newCards r name n cards
    return (id :: ids, cards)

def newPile (r : Registry) (name : String) (size : Nat) (cards : Store Card) :
    Except GameError (Pile × Store Card) := do
  let definition ← r.lookup name
  let (ids, cards) ← newCards r name size cards
  return ({ definition, cards := ids }, cards)

/-- Makes piles of the given names and sizes. -/
def newPiles (r : Registry) :
    List (String × Nat) → Store Card → Except GameError (List Pile × Store Card)
  | [], cards => .ok ([], cards)
  | (name, size) :: rest, cards => do
    let (pile, cards) ← newPile r name size cards
    let (piles, cards) ← newPiles r rest cards
    return (pile :: piles, cards)

/-- The base piles and their sizes. -/
def basePiles (players : Nat) (colony : Bool) : List (String × Nat) :=
  let victory := victoryPileSize players
  [("Copper", 60 - startingCoppers * players), ("Silver", 40), ("Gold", 30)] ++
    (if colony then [("Platinum", 12)] else []) ++
    [("Estate", victory), ("Duchy", victory), ("Province", victory)] ++
    (if colony then [("Colony", victory)] else []) ++
    [("Curse", 10 * (players - 1))]

/-- Makes the piles of the kingdom cards. -/
def kingdomPiles (r : Registry) (players : Nat) :
    List String → Store Card → Except GameError (List Pile × Store Card)
  | [], cards => .ok ([], cards)
  | name :: names, cards => do
    let size := if (← r.lookup name).isVictory then victoryPileSize players else pileSize
    let (pile, cards) ← newPile r name size cards
    let (piles, cards) ← kingdomPiles r players names cards
    return (pile :: piles, cards)

def supply (r : Registry) (players : Nat) (colony : Bool) (kingdom : List String)
    (cards : Store Card) : Except GameError (Supply × Store Card) := do
  let (base, cards) ← newPiles r (basePiles players colony) cards
  let (kingdom, cards) ← kingdomPiles r players kingdom cards
  return (← Supply.build base kingdom, cards)

/-- A player with a shuffled deck of the starting cards. -/
def newPlayer (r : Registry) (id : PlayerId) (name : String) (cards : Store Card)
    (g : Generator) : Except GameError (Player × Store Card × Generator) := do
  let (coppers, cards) ← newCards r "Copper" startingCoppers cards
  let (estates, cards) ← newCards r "Estate" startingEstates cards
  let (deck, g) := shuffle (coppers ++ estates) g
  return ({ id, name, zones := { deck } }, cards, g)

/-- The players of the given names, in seat order from a seat on. -/
def newPlayers (r : Registry) : Nat → List String → Store Card → Generator →
    Except GameError (List Player × Store Card × Generator)
  | _, [], cards, g => .ok ([], cards, g)
  | seat, name :: names, cards, g => do
    let (player, cards, g) ← newPlayer r ⟨seat⟩ name cards g
    let (players, cards, g) ← newPlayers r (seat + 1) names cards g
    return (player :: players, cards, g)

/-- The opening hands of the players, in order. -/
def drawHands : List PlayerId → GameState → Except GameError GameState
  | [], s => .ok s
  | id :: ids, s => do
    let (_, s) ← s.draw id handSize
    drawHands ids s

end Setup

open Setup in
/-- Sets up a game with the cards of a registry. -/
def initGame (r : Registry) (config : GameConfig) : Except GameError GameState := do
  let n := config.players.length
  if n < minPlayers ∨ maxPlayers < n then
    .error (.invalidSetup s!"{n} players; a game needs {minPlayers} to {maxPlayers}")
  else
    let (kingdom, g) ← config.kingdom.cardNames r (Generator.ofSeed config.seed)
    let (supply, cards) ← supply r n config.colony kingdom {}
    let (players, cards, g) ← newPlayers r 0 config.players cards g
    let (first, g) := g.index n
    let logger : Logger :=
      { verbosity := config.verbosity, format := config.format, output := config.output }
    let s : GameState := { cards, players, supply, active := first, rng := g, logger }
    drawHands s.playerIds (s.publish ⟨first⟩ (.gameStart kingdom))

end DeckBuilder
