import DeckBuilder.Proofs.ReckonedTurns

/-!
What cards cost through a turn. The modifiers of a turn are those that Bridges have added, one for each
time that one of them was carried out, and all of them are summed up before the cost is cut off at zero.
Only the Peddler has a rule of its own.
-/
namespace DeckBuilder

open Catalog Happening

namespace Registry

theorem eq_peddler {d : CardDefinition} (hd : d ∈ allCards) (h : d.costRule.isSome) : d = peddler :=
  eq_of_filter (p := fun d => d.costRule.isSome) rfl hd h

end Registry

namespace GameState

/-- What the Peddler's own rule adds to its cost: in the buy phase two less for each action that the
player whose turn it is has in play. -/
def peddling (s : GameState) (d : CardDefinition) : Int :=
  if d.name = peddler.name ∧ s.phase = .buy then
    -2 * (s.countInPlay s.activePlayer CardFace.isAction : Int)
  else 0

variable {s : GameState} {d : CardDefinition}

theorem peddling_of_some (hd : d ∈ Registry.allCards) {rule : Outlook → PlayerId → Int}
    (hrule : d.costRule = some rule) : rule s.outlook s.activePlayer = s.peddling d := by
  obtain rfl := Registry.eq_peddler hd (by rw [hrule]; rfl)
  rw [← Option.some.inj hrule]
  simp only [peddling, true_and]
  rfl

theorem peddling_of_none (hd : d ∈ Registry.allCards) (hrule : d.costRule = none) :
    s.peddling d = 0 := by
  refine if_neg fun h => ?_
  have heq : d = peddler :=
    Registry.eq_of_filter (p := fun d => d.name == peddler.name) rfl hd (by simpa using h.1)
  rw [heq] at hrule
  cases hrule

theorem foldr_cheaper (k : Nat) (face : CardFace) :
    ((List.replicate k (fun _ : CardFace => (-1 : Int))).map fun m => m face).foldr (· + ·) 0 =
      -(k : Int) := by
  induction k with
  | zero => rfl
  | succ k ih =>
    rw [List.replicate_succ, List.map_cons, List.foldr_cons, ih]
    dsimp only
    omega

/-- All that makes a card cheaper is summed up before the cost is cut off. -/
theorem cost_eq (hd : d ∈ Registry.allCards) {k : Nat}
    (hprices : s.costModifiers = List.replicate k fun _ => -1) :
    (s.cost d : Int) = max 0 (d.cost + s.peddling d - k) := by
  have hsum := foldr_cheaper k d.toCardFace
  cases hrule : d.costRule with
  | some rule =>
    rw [← peddling_of_some hd hrule]
    simp only [cost, hprices, hrule, hsum]
    omega
  | none =>
    rw [peddling_of_none hd hrule]
    simp only [cost, hprices, hrule, hsum]
    omega

end GameState

end DeckBuilder
