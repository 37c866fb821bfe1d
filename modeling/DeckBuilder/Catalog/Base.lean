import DeckBuilder.Card.Definition

/-!
The base cards: treasures, victory cards and the Curse.  They do nothing but count.
-/
namespace DeckBuilder.Catalog

def baseTreasure (name : String) (cost : Int) (worth : Nat) : CardDefinition :=
  { name, cost, worth, types := [.treasure], set := .base }

def baseVictory (name : String) (cost points : Int) : CardDefinition :=
  { name, cost, points, types := [.victory], set := .base }

def baseCards : List CardDefinition :=
  [ baseTreasure "Copper" 0 1,
    baseTreasure "Silver" 3 2,
    baseTreasure "Gold" 6 3,
    baseTreasure "Platinum" 9 5,
    baseVictory "Estate" 2 1,
    baseVictory "Duchy" 5 3,
    baseVictory "Province" 8 6,
    baseVictory "Colony" 11 10,
    { name := "Curse", cost := 0, points := -1, types := [.curse], set := .base } ]

end DeckBuilder.Catalog
