import DeckBuilder.Random.Shuffle
import DeckBuilder.Registry
import DeckBuilder.Supply
import DeckBuilder.Text.Ascii
import DeckBuilder.Text.Blank

/-!
The choice of the ten kingdom cards of a game: a preset, ten cards at random, or ten cards by name.
-/
namespace DeckBuilder

inductive KingdomChoice
  | preset (name : String)
  | random
  | custom (cards : List String)
deriving DecidableEq, Repr

namespace KingdomChoice

instance : Inhabited KingdomChoice := ⟨.preset "first-game"⟩

def presets : List (String × List String) :=
  [ ("first-game",
      ["Cellar", "Market", "Merchant", "Militia", "Moat", "Remodel", "Smithy", "Village",
        "Workshop", "Feast"]),
    ("big-money-test",
      ["Smithy", "Laboratory", "Market", "Festival", "Council Room", "Moneylender", "Chapel",
        "Witch", "Gardens", "Grand Market"]),
    ("interaction",
      ["Moat", "Militia", "Witch", "Bureaucrat", "Watchtower", "Tunnel", "Royal Seal", "Treasury",
        "Border Village", "Throne Room"]),
    ("durations",
      ["Lighthouse", "Fishing Village", "Caravan", "Island", "Native Village", "Fortress", "Pawn",
        "Bridge", "Conspirator", "Peddler"]) ]

def presetNames : List String := presets.map (·.1)

def preset? (name : String) : Option (List String) :=
  (presets.find? fun p => Text.sameAscii p.1 name).map (·.2)

/-- Reads `random`, the name of a preset, or names of cards with commas between them. -/
def ofText (text : String) : Except GameError KingdomChoice :=
  let s := Text.trimmed text
  if Text.sameAscii s "random" then .ok .random
  else if (preset? s).isSome then .ok (.preset (Text.asciiLower s))
  else if s.toList.contains ',' then .ok (.custom (Text.commaList s.toList))
  else .error (.invalidSetup (s!"unknown kingdom preset '{s}' (expected one of " ++
    ", ".intercalate presetNames ++ ", 'random' or a card list)"))

def text : KingdomChoice → String
  | .preset name => name
  | .random => "random"
  | .custom cards => ",".intercalate cards

def toJson : KingdomChoice → Json
  | .preset name => .obj [("Preset", .str name)]
  | .random => .str "Random"
  | .custom cards => .obj [("Custom", .arr (cards.map .str))]

def ofJson? (j : Json) : Option KingdomChoice := do
  if j.emptyVariant? = some "Random" then return .random
  let (name, some content) ← j.variant? | none
  match name with
  | "Preset" => return .preset (← content.str?)
  | "Custom" => return .custom (← content.strings?)
  | _ => none

/-- Ten distinct kingdom cards at random. -/
def randomCards (r : Registry) (g : Generator) : Except GameError (List String × Generator) :=
  let names := r.kingdomNames
  if names.length < kingdomSize then
    .error (.invalidSetup s!"registry has {names.length} kingdom cards, need {kingdomSize}")
  else
    let (names, g) := Random.shuffle names g
    .ok (names.take kingdomSize, g)

/-- The names that the choice stands for, as they are written in the choice. -/
def namesIn (r : Registry) (g : Generator) :
    KingdomChoice → Except GameError (List String × Generator)
  | .preset name =>
    match preset? name with
    | some cards => .ok (cards, g)
    | none => .error (.invalidSetup s!"unknown kingdom preset '{name}'")
  | .random => randomCards r g
  | .custom cards => .ok (cards, g)

/-- The ten cards of the kingdom, by the names under which they are registered. -/
def cardNames (choice : KingdomChoice) (r : Registry) (g : Generator) :
    Except GameError (List String × Generator) := do
  let (names, g) ← choice.namesIn r g
  if names.length ≠ kingdomSize then
    .error (.invalidSetup s!"a kingdom needs {kingdomSize} cards, got {names.length}")
  else
    return (← names.mapM fun name => do return (← r.lookup name).name, g)

end KingdomChoice

end DeckBuilder
