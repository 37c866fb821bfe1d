import DeckBuilder.Controller.Table
import DeckBuilder.Setup
import DeckBuilder.Text.FixedPlaces

/-!
Batches of games between players that need no input, and a report of what came out of them.  Every
game has a seed of its own, made from the seed of the batch and the number of the game.
-/
namespace DeckBuilder.Simulation

/-- The kinds of players that can be simulated. -/
inductive Ai
  | random
  | heuristic
deriving DecidableEq, Repr, Inhabited

namespace Ai

def text : Ai → String
  | .random => "random"
  | .heuristic => "heuristic"

def mind : Ai → Mind
  | .random => .random
  | .heuristic => .heuristic 1

end Ai

structure Config where
  /-- The players in table order. -/
  seats : List Ai
  games : Nat
  seed : UInt64 := 0
  kingdom : KingdomChoice := default
  colony : Bool := false
  maxTurns : Nat := 1000
deriving DecidableEq, Repr

/-- The seed of a game: the odd factor spreads neighbouring numbers over all seeds. -/
def Config.gameSeed (c : Config) (index : Nat) : UInt64 :=
  c.seed + UInt64.ofNat index * 0x9E3779B97F4A7C15

def Config.gameConfig (c : Config) (index : Nat) : GameConfig where
  players := (List.range c.seats.length).map fun i => s!"Player {i + 1}"
  kingdom := c.kingdom
  colony := c.colony
  seed := c.gameSeed index
  verbosity := .silent

/-- Sets up one game of the batch and plays it. -/
def runOne (r : Registry) (c : Config) (index : Nat) : Except Halt GameResult := do
  let state ← (initGame r (c.gameConfig index)).mapError Halt.error
  let game ← (Game.start state state.playerIds (Table.ofMinds (c.seats.map Ai.mind))).mapError
    Halt.error
  ((Engine.playGame c.maxTurns).runOn game).1

structure Report where
  seats : List Ai
  games : Nat := 0
  /-- The games that stopped with an error. -/
  failed : Nat := 0
  /-- The games won alone, by seat. -/
  wins : List Nat := []
  /-- The games with more than one winner. -/
  ties : Nat := 0
  turnLimitHits : Nat := 0
  totalTurns : Nat := 0
  /-- How long the batch took, in billionths of a second. -/
  nanoseconds : Nat := 0
deriving DecidableEq, Repr, Inhabited

namespace Report

/-- Counts the result of a game that was played to its end. -/
def recordResult (r : Report) (result : GameResult) : Report :=
  let r := match result.winners with
    | [] => r
    | [winner] => { r with wins := r.wins.modify winner.seat (· + 1) }
    | _ => { r with ties := r.ties + 1 }
  { r with
    turnLimitHits := r.turnLimitHits + (if result.reason = .turnLimit then 1 else 0)
    totalTurns := r.totalTurns + result.turns }

/-- Counts a game. -/
def record (r : Report) : Except Halt GameResult → Report
  | .ok result => r.recordResult result
  | .error _ => { r with failed := r.failed + 1 }

/-- The report of a batch in which nothing has been counted. -/
def empty (c : Config) : Report :=
  { seats := c.seats, games := c.games, wins := List.replicate c.seats.length 0 }

/-- The report of a batch with these results. -/
def ofResults (c : Config) (results : List (Except Halt GameResult)) : Report :=
  results.foldl Report.record (.empty c)

def completed (r : Report) : Nat := r.games - r.failed

/-- The part of the completed games, zero if there are none. -/
def share (r : Report) (n : Nat) : Float :=
  if r.completed = 0 then 0 else Float.ofNat n / Float.ofNat r.completed

def winsOf (r : Report) (seat : Nat) : Nat := (r.wins[seat]?).getD 0

def winRate (r : Report) (seat : Nat) : Float := r.share (r.winsOf seat)

def averageTurns (r : Report) : Float := r.share r.totalTurns

def seconds (r : Report) : Float :=
  Float.ofNat (r.nanoseconds / 1000000000) + Float.ofNat (r.nanoseconds % 1000000000) / 1e9

/-- How long the batch took, unless no time is given. -/
def elapsedLines (r : Report) : List String :=
  if r.nanoseconds = 0 then []
  else
    ["Elapsed: " ++ Text.fixedPlaces 2 r.seconds ++ "s (" ++
      Text.fixedPlaces 1 (Float.ofNat r.games / r.seconds) ++ " games/s)"]

def seatLine (r : Report) (seat : Nat) (ai : Ai) : String :=
  s!"  Seat {seat + 1} ({ai.text}): {r.winsOf seat} wins (" ++
    Text.fixedPlaces 1 (100 * r.winRate seat) ++ "%)"

def lines (r : Report) : List String :=
  ["=== Simulation Complete ===", s!"Games: {r.games} ({r.failed} failed)"] ++
    r.elapsedLines ++
    ["Average turns per game: " ++ Text.fixedPlaces 1 r.averageTurns] ++
    r.seats.mapIdx r.seatLine ++
    [s!"Ties: {r.ties}"] ++
    (if 0 < r.turnLimitHits then [s!"Stopped at turn limit: {r.turnLimitHits}"] else [])

def text (r : Report) : String := String.join (r.lines.map (· ++ "\n"))

end Report

/-- The results of all games of a batch, by their numbers. -/
def results (r : Registry) (c : Config) : List (Except Halt GameResult) :=
  (List.range c.games).map (runOne r c)

/-- The report of a batch. -/
def report (r : Registry) (c : Config) : Report := .ofResults c (results r c)

/-- What is said of the games that failed. -/
def warnings (results : List (Except Halt GameResult)) : List String :=
  (results.zipIdx.filterMap fun (result, index) => match result with
    | .error e => some (s!"Warning: game {index} failed: " ++ e.message)
    | .ok _ => none)

end DeckBuilder.Simulation
