/-!
The names of card instances and of players.  A card instance keeps its number for the whole game; a
player is the number of a seat at the table, counted from zero and shown counted from one.
-/
namespace DeckBuilder

structure CardId where
  number : Nat
deriving DecidableEq, Repr, Inhabited, Hashable

structure PlayerId where
  seat : Nat
deriving DecidableEq, Repr, Inhabited, Hashable

instance : ToString CardId := ⟨fun c => "#" ++ toString c.number⟩

instance : ToString PlayerId := ⟨fun p => "P" ++ toString (p.seat + 1)⟩

end DeckBuilder
