import DeckBuilder.Event

/-!
The log book of a game.  An entry may be kept, printed, both or neither: what is kept depends on the
output chosen alone, and what is printed also on the level of the entry and on the format.
-/
namespace DeckBuilder

/-- How much is printed; each level adds to the one before. -/
inductive Verbosity
  | silent
  | minimal
  | normal
  | verbose
deriving DecidableEq, Repr, Inhabited

namespace Verbosity

def rank : Verbosity → Nat
  | .silent => 0
  | .minimal => 1
  | .normal => 2
  | .verbose => 3

def word : Verbosity → String
  | .silent => "Silent"
  | .minimal => "Minimal"
  | .normal => "Normal"
  | .verbose => "Verbose"

def ofWord? (s : String) : Option Verbosity :=
  [silent, minimal, normal, verbose].find? (·.word == s)

end Verbosity

inductive LogFormat
  | text
  | json
deriving DecidableEq, Repr, Inhabited

namespace LogFormat

def word : LogFormat → String
  | .text => "Text"
  | .json => "Json"

def ofWord? (s : String) : Option LogFormat := [text, json].find? (·.word == s)

end LogFormat

/-- Where entries go: to the terminal, into memory, or both ways. -/
inductive LogOutput
  | stdout
  | memory
  | both
deriving DecidableEq, Repr, Inhabited

namespace LogOutput

def word : LogOutput → String
  | .stdout => "Stdout"
  | .memory => "Memory"
  | .both => "Both"

def ofWord? (s : String) : Option LogOutput := [stdout, memory, both].find? (·.word == s)

def keeps : LogOutput → Bool
  | .stdout => false
  | _ => true

def prints : LogOutput → Bool
  | .memory => false
  | _ => true

end LogOutput

inductive LogCategory
  | choice
  | event
  | warning
deriving DecidableEq, Repr, Inhabited

structure LogEntry where
  level : Verbosity
  message : String
  category : Option LogCategory := none
deriving DecidableEq, Repr, Inhabited

namespace LogEntry

/-- One letter for the category, a dash for none. -/
def mark : Option LogCategory → String
  | none => "-"
  | some .choice => "c"
  | some .event => "e"
  | some .warning => "w"

/-- The entry on one line, with its level and its category as two letters before it. -/
def compact (e : LogEntry) : String :=
  String.ofList (e.level.word.toList.take 1) ++ mark e.category ++ "|" ++ e.message

end LogEntry

/-- What the people at the terminal get to see. -/
inductive Printed
  /-- A line of the log book. -/
  | line (text : String)
  /-- Text for the player at a seat. -/
  | screen (player : PlayerId) (text : String)
deriving DecidableEq, Repr, Inhabited

structure Logger where
  verbosity : Verbosity := .normal
  format : LogFormat := .text
  output : LogOutput := .stdout
  entries : Array LogEntry := #[]
  printed : Array Printed := #[]
deriving DecidableEq, Repr, Inhabited

namespace Logger

/-- Keeps the entry if entries are kept. -/
def keep (l : Logger) (entry : LogEntry) : Logger :=
  if l.output.keeps then { l with entries := l.entries.push entry } else l

/-- Prints a line if lines are printed. -/
def print (l : Logger) (line : String) : Logger :=
  if l.output.prints then { l with printed := l.printed.push (.line line) } else l

/-- Logs an entry.  A line above the lowest level is set in; in the JSON format only events are
printed, so that what is printed stays JSON. -/
def log (l : Logger) (entry : LogEntry) : Logger :=
  let l := l.keep entry
  if entry.level.rank ≤ l.verbosity.rank && l.format = .text then
    l.print (if entry.level = .minimal then entry.message else "  " ++ entry.message)
  else l

def minimal (l : Logger) (message : String) : Logger := l.log ⟨.minimal, message, none⟩

def normal (l : Logger) (message : String) : Logger := l.log ⟨.normal, message, none⟩

def verbose (l : Logger) (message : String) : Logger := l.log ⟨.verbose, message, none⟩

def warn (l : Logger) (message : String) : Logger :=
  l.log ⟨.minimal, "warning: " ++ message, some .warning⟩

/-- Logs what a controller decided. -/
def choice (l : Logger) (message : String) : Logger := l.log ⟨.verbose, message, some .choice⟩

/-- The level of an event that is logged as a sentence. -/
def eventLevel : EventKind → Verbosity
  | .gameEnd .. => .minimal
  | .drawCards _ => .verbose
  | .shuffle _ => .verbose
  | _ => .normal

def event (l : Logger) (e : GameEvent) : Logger :=
  match l.format with
  | .text => l.log ⟨eventLevel e.kind, e.text, some .event⟩
  | .json =>
    let line := e.toJson.render
    let l := l.keep ⟨.normal, line, some .event⟩
    if l.verbosity = .silent then l else l.print line

/-- Shows text to the player at a seat. -/
def display (l : Logger) (player : PlayerId) (text : String) : Logger :=
  { l with printed := l.printed.push (.screen player text) }

def clear (l : Logger) : Logger := { l with entries := #[] }

/-- A logger with the same settings in which nothing has been logged. -/
def fresh (l : Logger) : Logger := { l with entries := #[], printed := #[] }

end Logger

end DeckBuilder
