import DeckBuilder.CommandLine.Command
import DeckBuilder.Simulation

/-!
What comes of a command line: what is printed, what is said of errors, and the exit code.  A command
is carried out as a function of the input at the terminal, so that a game played there can be carried
out again with more input: what was printed before the input first ran out stays the same.
-/
namespace DeckBuilder.CommandLine

structure Outcome where
  exit : Nat := 0
  /-- What is printed, piece by piece. -/
  printed : List String := []
  /-- A report that is printed after all else. -/
  report : Option Simulation.Report := none
  /-- The lines about errors. -/
  errors : List String := []
  /-- The number of pieces that are printed before a player waits for input that is not there. -/
  waiting : Option Nat := none

namespace Outcome

/-- All that is printed by a command that took the given time. -/
def output (o : Outcome) (nanoseconds : Nat) : String :=
  String.join o.printed ++ match o.report with
    | some report => { report with nanoseconds }.text
    | none => ""

def errorOutput (o : Outcome) : String := String.join (o.errors.map (· ++ "\n"))

/-- The end of a command by an error. -/
def failure (printed : List String) (message : String) (waiting : Option Nat := none) : Outcome :=
  { exit := 1, printed, errors := ["Error: " ++ message], waiting }

end Outcome

def printedText : Printed → String
  | .line text => text ++ "\n"
  | .screen _ text => text

/-- What a state has printed. -/
def printedBy (s : GameState) : List String := s.logger.printed.toList.map printedText

def checkSeats (seats : List SeatKind) : Except String Unit :=
  let n := seats.length
  if n < Setup.minPlayers ∨ Setup.maxPlayers < n then
    .error (s!"{n} seats given; a game needs {Setup.minPlayers} to {Setup.maxPlayers} " ++
      "--player options")
  else .ok ()

def orMessage {α : Type} (e : Except GameError α) : Except String α := e.mapError (·.message)

/-- The minds at the seats from the given one on; each scripted seat takes a script. -/
def mindsFrom (seat : Nat) : List SeatKind → List String → Except String (List Mind)
  | [], _ => .ok []
  | .heuristic :: kinds, scripts => do return .heuristic 1 :: (← mindsFrom (seat + 1) kinds scripts)
  | .random :: kinds, scripts => do return .random :: (← mindsFrom (seat + 1) kinds scripts)
  | .tui :: kinds, scripts => do return .terminal [] :: (← mindsFrom (seat + 1) kinds scripts)
  | .scripted :: _, [] =>
    .error s!"seat {seat + 1} is scripted but no --script is left for it"
  | .scripted :: kinds, script :: scripts => do
    let player ← orMessage (ScriptedPlayer.ofScript ⟨seat⟩ script)
    return .scripted player :: (← mindsFrom (seat + 1) kinds scripts)

/-- The name of a player by seat. -/
def playerName (names : List String) (seat : Nat) : String :=
  (names[seat]?).getD s!"Player {seat + 1}"

def PlayOptions.gameConfig (o : PlayOptions) (seed : Nat) (kingdom : KingdomChoice) :
    GameConfig where
  players := (List.range o.seats.length).map (playerName o.names)
  kingdom := kingdom
  colony := o.colony
  seed := UInt64.ofNat seed
  verbosity := o.verbosity
  format := o.format

/-- The sentence about the reason for which a game ended. -/
def reasonLines : EndReason → List String
  | .provincesGone => ["The Provinces are gone."]
  | .pilesEmptied n => [s!"{n} supply piles are empty."]
  | .turnLimit => ["Turn limit reached."]
  | .stopped => []

/-- The lines about the end of a game. -/
def closingLines (seed : Nat) (result : GameResult) : List String :=
  ["", s!"=== Game Over (seed {seed}) ==="] ++ reasonLines result.reason ++
    result.standings.map fun s =>
      s!"  {s.name}: {s.points} VP in {s.turns} turns" ++
        if result.winners.contains s.player then " *" else ""

/-- The game before its first turn, or the state in which the seats could not be taken. -/
def openGame (r : Registry) (o : PlayOptions) (seed : Nat) (input : Input) :
    Except String (GameState × Except String (Game Table)) := do
  checkSeats o.seats
  let kingdom ← orMessage (KingdomChoice.ofText o.kingdom)
  let state ← orMessage (initGame r (o.gameConfig seed kingdom))
  let game := do
    let minds ← mindsFrom 0 o.seats o.scripts
    orMessage (Game.start state state.playerIds { Table.ofMinds minds with input })
  return (state, game)

/-- Plays one game. -/
def play (r : Registry) (o : PlayOptions) (seed : Nat) (input : Input) : Outcome :=
  match openGame r o seed input with
  | .error message => .failure [] message
  | .ok (state, .error message) => .failure (printedBy state) message
  | .ok (_, .ok game) =>
    let (result, game) := (Engine.playGame o.maxTurns).runOn game
    let printed := printedBy game.state
    let waiting := game.memory.input.dryAt
    match result with
    | .error halt => .failure printed halt.message waiting
    | .ok result =>
      let closing := if o.verbosity = .silent then [] else closingLines seed result
      { printed := printed ++ closing.map (· ++ "\n"), waiting }

/-- The simulated player of a kind of seat. -/
def aiOf : SeatKind → Except String Simulation.Ai
  | .heuristic => .ok .heuristic
  | .random => .ok .random
  | kind => .error s!"{kind.title} players can't be simulated"

def SimulateOptions.config (o : SimulateOptions) : Except String Simulation.Config := do
  checkSeats o.seats
  let seats ← o.seats.mapM aiOf
  let kingdom ← orMessage (KingdomChoice.ofText o.kingdom)
  return {
    seats, kingdom
    games := o.games
    seed := UInt64.ofNat o.seed
    colony := o.colony
    maxTurns := o.maxTurns }

/-- Simulates games and reports on them. -/
def simulate (r : Registry) (o : SimulateOptions) : Outcome :=
  match o.config with
  | .error message => .failure [] message
  | .ok config =>
    let results := Simulation.results r config
    { printed := [s!"Running {o.games} games from seed {o.seed}...\n"]
      report := some (Simulation.Report.ofResults config results)
      errors := Simulation.warnings results }

/-- The text filled up with spaces to a width. -/
def padded (width : Nat) (text : String) : String :=
  text ++ String.ofList (List.replicate (width - text.length) ' ')

/-- A line of the list of cards: name, cost, types and what the card does. -/
def cardLine (d : CardDefinition) : String :=
  padded 16 d.name ++ " $" ++ padded 2 (toString d.cost) ++ " " ++ padded 24 d.typeLine ++ " " ++
    d.text

/-- Lists the cards of a registry. -/
def listCards (r : Registry) (kingdomOnly : Bool) : Outcome :=
  let cards := r.definitions.toList.filter fun d => !kingdomOnly || d.set == .kingdom
  { printed := cards.map fun d => cardLine d ++ "\n" }

def usage : String :=
  "Dominion-style deck-building game engine\n\n" ++
  "Usage: dominion play [--player KIND]... [--names NAME,...] [--kingdom CARDS] [--colony]\n" ++
  "                     [--seed N] [--max-turns N] [-v LEVEL] [--log-format text|json]\n" ++
  "                     [--script ANSWERS]...\n" ++
  "       dominion simulate [-g N] [--player KIND]... [--kingdom CARDS] [--colony] [--seed N]\n" ++
  "                     [--max-turns N]\n" ++
  "       dominion cards [--kingdom-only]\n"

/-- Carries out a command; `clock` is the seed of a game that is given none. -/
def Command.run (r : Registry) (clock : Nat) (input : Input) : Command → Outcome
  | .play o => CommandLine.play r o (o.seed.getD clock) input
  | .simulate o => CommandLine.simulate r o
  | .cards kingdomOnly => listCards r kingdomOnly

/-- What comes of the words of a command line. -/
def outcome (words : List String) (clock : Nat) (input : Input) : Outcome :=
  match Command.ofWords words with
  | .ok command => command.run .catalog clock input
  | .error .help => { printed := [usage] }
  | .error .misuse => { exit := 2, errors := [usage] }

end DeckBuilder.CommandLine
