import DeckBuilder.CommandLine.Options
import DeckBuilder.Log
import DeckBuilder.Text.Blank
import DeckBuilder.Text.LowerCase
import DeckBuilder.Text.Numeral

/-!
The commands that a command line can give: to play one game, to simulate many games, and to list the
cards.
-/
namespace DeckBuilder.CommandLine

/-- Who sits at a seat. -/
inductive SeatKind
  | heuristic
  | random
  /-- A person at the terminal. -/
  | tui
  | scripted
deriving DecidableEq, Repr, Inhabited

namespace SeatKind

def word : SeatKind → String
  | .heuristic => "heuristic"
  | .random => "random"
  | .tui => "tui"
  | .scripted => "scripted"

def ofWord? (s : String) : Option SeatKind :=
  [heuristic, random, tui, scripted].find? (·.word == s)

/-- The kind as it stands at the beginning of a sentence. -/
def title : SeatKind → String
  | .heuristic => "Heuristic"
  | .random => "Random"
  | .tui => "Tui"
  | .scripted => "Scripted"

end SeatKind

structure PlayOptions where
  seats : List SeatKind := [.tui, .heuristic]
  /-- The names of the first players; the others are numbered. -/
  names : List String := []
  kingdom : String := "first-game"
  colony : Bool := false
  seed : Option Nat := none
  maxTurns : Nat := 1000
  verbosity : Verbosity := .normal
  format : LogFormat := .text
  /-- The scripts for the scripted seats, in seat order. -/
  scripts : List String := []
deriving DecidableEq, Repr, Inhabited

structure SimulateOptions where
  games : Nat := 1000
  seats : List SeatKind := [.heuristic, .heuristic]
  kingdom : String := "first-game"
  colony : Bool := false
  seed : Nat := 42
  maxTurns : Nat := 1000
deriving DecidableEq, Repr, Inhabited

inductive Command
  | play (options : PlayOptions)
  | simulate (options : SimulateOptions)
  | cards (kingdomOnly : Bool)
deriving DecidableEq, Repr, Inhabited

/-- A number of 64 bits. -/
def wordValue? (s : String) : Option Nat := Text.word? s.toList

/-- A number of turns: 32 bits, and any sign that leaves it so. -/
def turnsValue? (s : String) : Option Nat :=
  (Text.integer? 0 0xFFFFFFFF s.toList).map Int.toNat

/-- A level by its name in any case, or by its rank. -/
def verbosityValue? (s : String) : Option Verbosity :=
  let s := Text.lowerCase s
  [.silent, .minimal, .normal, .verbose].find? fun (v : Verbosity) =>
    Text.lowerCase v.word == s || toString v.rank == s

def formatValue? (s : String) : Option LogFormat :=
  [.text, .json].find? fun (f : LogFormat) => Text.lowerCase f.word == s

/-- The values between the commas. -/
def commaSeparated (s : String) : List String :=
  (Text.fieldsBy (· == ',') s.toList).map String.ofList

def seatRule : OptionRule :=
  { name := "player", arity := .repeatable, accepts := fun s => (SeatKind.ofWord? s).isSome }

def seedRule : OptionRule := { name := "seed", accepts := fun s => (wordValue? s).isSome }

def maxTurnsRule : OptionRule := { name := "max-turns", accepts := fun s => (turnsValue? s).isSome }

def playRules : List OptionRule :=
  [ seatRule,
    { name := "names", arity := .repeatable },
    { name := "kingdom" },
    { name := "colony", arity := .switch },
    seedRule,
    maxTurnsRule,
    { name := "verbosity", letter := some 'v', accepts := fun s => (verbosityValue? s).isSome },
    { name := "log-format", accepts := fun s => (formatValue? s).isSome },
    { name := "script", arity := .repeatable } ]

def simulateRules : List OptionRule :=
  [ { name := "games", letter := some 'g', accepts := fun s => (wordValue? s).isSome },
    seatRule,
    { name := "kingdom" },
    { name := "colony", arity := .switch },
    seedRule,
    maxTurnsRule ]

def cardsRules : List OptionRule := [{ name := "kingdom-only", arity := .switch }]

/-- The seats given, or the usual ones. -/
def seatsOr (usual : List SeatKind) (uses : List Use) : List SeatKind :=
  let seats := (valuesOf uses "player").filterMap SeatKind.ofWord?
  if seats.isEmpty then usual else seats

/-- The value given for an option, or the usual one. -/
def valueOr {α : Type} (usual : α) (read : String → Option α) (uses : List Use)
    (option : String) : α :=
  ((valueOf? uses option).bind read).getD usual

def PlayOptions.ofUses (uses : List Use) : PlayOptions :=
  let usual : PlayOptions := {}
  { seats := seatsOr usual.seats uses
    names := (valuesOf uses "names").flatMap commaSeparated
    kingdom := valueOr usual.kingdom some uses "kingdom"
    colony := isUsed uses "colony"
    seed := (valueOf? uses "seed").bind wordValue?
    maxTurns := valueOr usual.maxTurns turnsValue? uses "max-turns"
    verbosity := valueOr usual.verbosity verbosityValue? uses "verbosity"
    format := valueOr usual.format formatValue? uses "log-format"
    scripts := valuesOf uses "script" }

def SimulateOptions.ofUses (uses : List Use) : SimulateOptions :=
  let usual : SimulateOptions := {}
  { games := valueOr usual.games wordValue? uses "games"
    seats := seatsOr usual.seats uses
    kingdom := valueOr usual.kingdom some uses "kingdom"
    colony := isUsed uses "colony"
    seed := valueOr usual.seed wordValue? uses "seed"
    maxTurns := valueOr usual.maxTurns turnsValue? uses "max-turns" }

/-- The command that a command line gives. -/
def Command.ofWords : List String → Except Refusal Command
  | [] => .error .misuse
  | word :: words =>
    if word = "play" then return .play (.ofUses (← readOptions playRules words))
    else if word = "simulate" then return .simulate (.ofUses (← readOptions simulateRules words))
    else if word = "cards" then return .cards (isUsed (← readOptions cardsRules words) "kingdom-only")
    else if word = "help" then
      match words with
      | [] => .error .help
      | [topic] =>
        .error (if ["play", "simulate", "cards", "help"].contains topic then .help else .misuse)
      | _ => .error .misuse
    else match Word.ofText word with
      | .long "help" none => .error .help
      | .short 'h' _ => .error .help
      | _ => .error .misuse

end DeckBuilder.CommandLine
