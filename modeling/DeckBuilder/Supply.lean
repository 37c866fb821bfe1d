import DeckBuilder.Card.Definition

/-!
The supply: piles of cards with distinct names, those of the base cards first and those of the
kingdom after them.  Cards are taken from the top of a pile, which is the end of its list.
-/
namespace DeckBuilder

structure Pile where
  definition : CardDefinition
  cards : List CardId

namespace Pile

def name (p : Pile) : String := p.definition.name

def size (p : Pile) : Nat := p.cards.length

def isEmpty (p : Pile) : Bool := p.cards.isEmpty

def top? (p : Pile) : Option CardId := p.cards.getLast?

/-- The pile without its top card. -/
def pop (p : Pile) : Pile := { p with cards := p.cards.dropLast }

end Pile

/-- The number of piles in a kingdom. -/
def kingdomSize : Nat := 10

structure Supply where
  piles : List Pile
  baseCount : Nat

namespace Supply

/-- The first name that an earlier pile has already, with the names before it given. -/
def repeatedName? (seen : List String) : List Pile → Option String
  | [] => none
  | p :: ps => if seen.contains p.name then some p.name else repeatedName? (p.name :: seen) ps

def build (base kingdom : List Pile) : Except GameError Supply :=
  match repeatedName? [] (base ++ kingdom) with
  | some name => .error (.duplicatePile name)
  | none => .ok ⟨base ++ kingdom, base.length⟩

def basePiles (s : Supply) : List Pile := s.piles.take s.baseCount

def kingdomPiles (s : Supply) : List Pile := s.piles.drop s.baseCount

def pile? (s : Supply) (name : String) : Option Pile := s.piles.find? (·.name == name)

/-- Changes the first pile of the name. -/
def updatePile (s : Supply) (name : String) (f : Pile → Pile) : Supply :=
  { s with piles := s.piles.modify (s.piles.findIdx (·.name == name)) f }

def nonEmpty (s : Supply) : List Pile := s.piles.filter (!·.isEmpty)

def empty (s : Supply) : List Pile := s.piles.filter (·.isEmpty)

def emptyCount (s : Supply) : Nat := s.empty.length

/-- The number of cards left of a name; none if there is no such pile. -/
def count (s : Supply) (name : String) : Nat := ((s.pile? name).map Pile.size).getD 0

/-- The number of cards in all piles. -/
def size (s : Supply) : Nat := (s.piles.map Pile.size).foldr (· + ·) 0

end Supply

end DeckBuilder
