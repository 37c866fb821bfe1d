import DeckBuilder.Card.Definition

/-!
A player in a game: the tableau, and the programs that answer this player's gains and plays.
-/
namespace DeckBuilder

structure Player extends Tableau where
  gainTriggers : List (GainInfo → Program) := []
  playTriggers : List (PlayerId → CardId → Program) := []

/-- A change of the tableau; the triggers stay. -/
def Player.onTableau (p : Player) (f : Tableau → Tableau) : Player :=
  { p with toTableau := f p.toTableau }

end DeckBuilder
