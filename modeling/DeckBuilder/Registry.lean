import DeckBuilder.Catalog.Base
import DeckBuilder.Catalog.Kingdom
import DeckBuilder.Store
import DeckBuilder.Text.LowerCase

/-!
The cards that a game can be set up with.  A card is found by its name in any case; the order of
registration is kept, so that a list of names does not depend on how they are looked up.
-/
namespace DeckBuilder

structure Registry where
  definitions : Array CardDefinition := #[]
  /-- The place of each definition under its name in lower case. -/
  places : Std.TreeMap String Nat := {}

namespace Registry

/-- Adds a definition; a name that is there in any case already is an error. -/
def register (r : Registry) (d : CardDefinition) : Except GameError Registry :=
  let key := Text.lowerCase d.name
  if r.places.contains key then .error (.duplicateCard d.name)
  else .ok {
    definitions := r.definitions.push d
    places := r.places.insert key r.definitions.size }

/-- Adds definitions in order up to the first that cannot be added, and gives that one's error. -/
def registerAll (r : Registry) : List CardDefinition → Registry × Option GameError
  | [] => (r, none)
  | d :: ds =>
    match r.register d with
    | .ok r => r.registerAll ds
    | .error e => (r, some e)

def allCards : List CardDefinition := Catalog.baseCards ++ Catalog.kingdomCards

/-- The registry of the given cards, up to the first that cannot be added. -/
def ofCards (ds : List CardDefinition) : Registry := (registerAll {} ds).1

/-- The registry of the base cards and the kingdom cards. -/
def catalog : Registry := ofCards allCards

def get? (r : Registry) (name : String) : Option CardDefinition := do
  r.definitions[← r.places[Text.lowerCase name]?]?

def lookup (r : Registry) (name : String) : Except GameError CardDefinition :=
  match r.get? name with
  | some d => .ok d
  | none => .error (.unknownCard name)

def contains (r : Registry) (name : String) : Bool := r.places.contains (Text.lowerCase name)

/-- Puts a new card of the name into a store. -/
def newCard (r : Registry) (name : String) (cards : Store Card) :
    Except GameError (CardId × Store Card) := do
  return cards.add { definition := ← r.lookup name }

def size (r : Registry) : Nat := r.definitions.size

/-- The names of the cards that may be picked for a kingdom. -/
def kingdomNames (r : Registry) : List String :=
  (r.definitions.toList.filter fun d => d.set == .kingdom).map (·.name)

end Registry

end DeckBuilder
