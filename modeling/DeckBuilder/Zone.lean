import DeckBuilder.Ident
import DeckBuilder.Json.Value

/-!
Where a card can be.  Each player has a hand, a deck, a discard pile, cards in play, cards set aside
and any number of named mats; the trash belongs to nobody.  A zone holds its cards in order, the
bottom card first and the top card last.
-/
namespace DeckBuilder

inductive Zone
  | hand
  | deck
  | discard
  | inPlay
  | setAside
  | mat (name : String)
  | trash
deriving DecidableEq, Repr, Inhabited

def Zone.text : Zone → String
  | .hand => "hand"
  | .deck => "deck"
  | .discard => "discard pile"
  | .inPlay => "play"
  | .setAside => "set-aside zone"
  | .mat name => s!"{name} mat"
  | .trash => "trash"

instance : ToString Zone := ⟨Zone.text⟩

def Zone.toJson : Zone → Json
  | .hand => .str "Hand"
  | .deck => .str "Deck"
  | .discard => .str "Discard"
  | .inPlay => .str "InPlay"
  | .setAside => .str "SetAside"
  | .mat name => .obj [("Mat", .str name)]
  | .trash => .str "Trash"

/-- The end of a zone at which a card is put. -/
inductive Position
  | top
  | bottom
deriving DecidableEq, Repr, Inhabited

def Position.text : Position → String
  | .top => "Top"
  | .bottom => "Bottom"

/-- The cards of a zone, bottom first. -/
abbrev CardRow := List CardId

namespace CardRow

def insert (cards : CardRow) (card : CardId) : Position → CardRow
  | .top => cards ++ [card]
  | .bottom => card :: cards

def top? (cards : CardRow) : Option CardId := cards.getLast?

/-- The top card and the cards below it. -/
def draw (cards : CardRow) : Option CardId × CardRow := (cards.getLast?, cards.dropLast)

/-- The `n` topmost cards, the top one first. -/
def topCards (cards : CardRow) (n : Nat) : List CardId := cards.reverse.take n

end CardRow

/-- All the zones of one player.  The mats are kept in the order of their names, and a mat that was
once used stays, even when it is empty. -/
structure PlayerZones where
  hand : CardRow := []
  deck : CardRow := []
  discard : CardRow := []
  inPlay : CardRow := []
  setAside : CardRow := []
  mats : List (String × CardRow) := []
deriving DecidableEq, Repr, Inhabited

namespace PlayerZones

def mat? (z : PlayerZones) (name : String) : Option CardRow :=
  (z.mats.find? (·.1 == name)).map (·.2)

def mat (z : PlayerZones) (name : String) : CardRow := (z.mat? name).getD []

/-- The cards in a zone of this player; nothing for the trash and for a mat never used. -/
def get? (z : PlayerZones) : Zone → Option CardRow
  | .hand => some z.hand
  | .deck => some z.deck
  | .discard => some z.discard
  | .inPlay => some z.inPlay
  | .setAside => some z.setAside
  | .mat name => z.mat? name
  | .trash => none

/-- Changes the mat of a name, or adds it at its place in the order. -/
def updateMat (name : String) (f : CardRow → CardRow) :
    List (String × CardRow) → List (String × CardRow)
  | [] => [(name, f [])]
  | (other, cards) :: rest =>
    if other = name then (name, f cards) :: rest
    else if name < other then (name, f []) :: (other, cards) :: rest
    else (other, cards) :: updateMat name f rest

/-- Changes the cards of a zone; a mat comes into being by this.  The trash is left alone. -/
def update (z : PlayerZones) (zone : Zone) (f : CardRow → CardRow) : PlayerZones :=
  match zone with
  | .hand => { z with hand := f z.hand }
  | .deck => { z with deck := f z.deck }
  | .discard => { z with discard := f z.discard }
  | .inPlay => { z with inPlay := f z.inPlay }
  | .setAside => { z with setAside := f z.setAside }
  | .mat name => { z with mats := updateMat name f z.mats }
  | .trash => z

/-- Whether a player can have cards there. -/
def holds : Zone → Bool
  | .trash => false
  | _ => true

/-- Every zone with its cards, in the order in which cards are looked for. -/
def inOrder (z : PlayerZones) : List (Zone × CardRow) :=
  [(.hand, z.hand), (.deck, z.deck), (.inPlay, z.inPlay), (.discard, z.discard),
    (.setAside, z.setAside)] ++ z.mats.map fun m => (.mat m.1, m.2)

/-- The first zone that holds the card. -/
def locate (z : PlayerZones) (card : CardId) : Option Zone :=
  (z.inOrder.find? fun entry => entry.2.contains card).map (·.1)

def allCards (z : PlayerZones) : List CardId := z.inOrder.flatMap (·.2)

/-- Takes the card out of the first zone that holds it, and tells which one that was. -/
def remove? (z : PlayerZones) (card : CardId) : Option (Zone × PlayerZones) :=
  (z.locate card).map fun zone => (zone, z.update zone (·.erase card))

/-- Moves a card between two zones and tells whether it did.  If the card is not where it is taken
from, nothing is moved; if the other zone is no zone of a player, the card goes on top of the zone it
came from. -/
def transfer (z : PlayerZones) (card : CardId) (source target : Zone) (position : Position) :
    Bool × PlayerZones :=
  let z := z.update source id
  if ((z.get? source).getD []).contains card then
    let z := z.update source (·.erase card)
    if holds target then (true, z.update target (·.insert card position))
    else (false, z.update source (·.insert card .top))
  else (false, z)

/-- The zones of a player as JSON, every zone with its name and its owner. -/
def toJson (z : PlayerZones) (owner : PlayerId) : Json :=
  let row (zone : Zone) (cards : CardRow) : Json :=
    .obj [
      ("zone_type", zone.toJson),
      ("owner", .int owner.seat),
      ("cards", .arr (cards.map fun c => .int c.number))]
  .obj [
    ("hand", row .hand z.hand),
    ("deck", row .deck z.deck),
    ("discard", row .discard z.discard),
    ("in_play", row .inPlay z.inPlay),
    ("set_aside", row .setAside z.setAside),
    ("mats", .obj (z.mats.map fun m => (m.1, row (.mat m.1) m.2)))]

end PlayerZones

end DeckBuilder
