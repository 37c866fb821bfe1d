import DeckBuilder.Ident

/-!
Who wins: the most points, and among those the fewest turns.  Players who are equal in both share the
win.
-/
namespace DeckBuilder

structure Standing where
  player : PlayerId
  name : String := ""
  points : Int
  turns : Nat
deriving DecidableEq, Repr, Inhabited

/-- The winners in the order of the list. -/
def determineWinners (standings : List Standing) : List PlayerId :=
  match (standings.map (·.points)).max? with
  | none => []
  | some best =>
    let leaders := standings.filter (·.points == best)
    let fewest := ((leaders.map (·.turns)).min?).getD 0
    (leaders.filter (·.turns == fewest)).map (·.player)

end DeckBuilder
