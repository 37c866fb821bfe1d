import DeckBuilder.Controller.Table
import DeckBuilder.Proofs.Reachable
import DeckBuilder.Proofs.Recording

/-!
What can make a game with the catalog fail. A pile is never gained from when it is empty or not there,
and no card or player is looked up that is not in the game; so the only failure left is a player who
goes on giving unacceptable answers to one question.
-/
namespace DeckBuilder

open Engine

variable {M : Type} [Controllers M] {g : Game M}

/-- If the recorded run may stop over refusals only then so may the run. -/
theorem stubborn_of_error {α : Type} {e : Engine (Recorded M) α} {e' : Engine M α}
    {Q : α → Game (Recorded M) → Prop} (hagrees : Agrees Recorded.memory e e')
    (hends : Ensures e g.recorded Q (Contract.any (Recorded M)).halts) {r : Halt} {g' : Game M}
    (hr : e'.runOn g = (.error r, g')) : Stubborn r (exchanges e g) := by
  rw [hagrees.recorded g] at hr
  have hresult : (e.runOn g.recorded).1 = .error r := congrArg Prod.fst hr
  have hrecorded : e.runOn g.recorded = (.error r, (e.runOn g.recorded).2) :=
    Prod.ext hresult rfl
  obtain ⟨-, id, q, g₀, hrefused, rfl⟩ := hends.stopped hrecorded
  exact hrefused.stubborn

/-- A turn or a game with the catalog, from any reachable state and with any controllers, either comes
to its end, or it is given up because a player answered one question sixteen times in a row and never
acceptably. There is no other error. -/
theorem fails_only_over_refusals {config : GameConfig} {s₀ : GameState}
    (hinit : initGame Registry.catalog config = .ok s₀) (hg : g.Reachable s₀)
    (maxTurns elapsed : Nat) :
    (∀ r g', (playTurn maxTurns elapsed).runOn g = (.error r, g') →
      Stubborn r (exchanges (playTurn maxTurns elapsed) g)) ∧
    ∀ r g', (playGame maxTurns).runOn g = (.error r, g') →
      Stubborn r (exchanges (playGame maxTurns) g) := by
  obtain ⟨hcatalog, -⟩ := hg.ofCatalog (initGame_opened hinit).ofCatalog
  have hfit : (Contract.any (Recorded M)).Fit g.recorded := Contract.fit_any hcatalog
  constructor
  · intro r g' hr
    exact stubborn_of_error (Agrees.playTurn Recorded.alike maxTurns elapsed)
      (Catalog.playTurn_ends maxTurns elapsed hfit) hr
  · intro r g' hr
    exact stubborn_of_error (Agrees.playGame Recorded.alike maxTurns)
      (Catalog.playGame_ends maxTurns hfit) hr

/-- The second turn of two players at random, and a whole game after it. -/
theorem fails_only_over_refusals_at_random :
    ∃ s₀, initGame Registry.catalog { players := ["Player 1", "Player 2"] } = .ok s₀ ∧
      let g := ((playTurn 10 0).runOn ⟨s₀, Table.ofMinds [.random, .random]⟩).2
      (∀ r g', (playTurn 10 1).runOn g = (.error r, g') →
        Stubborn r (exchanges (playTurn 10 1) g)) ∧
      ∀ r g', (playGame 10).runOn g = (.error r, g') → Stubborn r (exchanges (playGame 10) g) := by
  obtain ⟨s₀, h⟩ := initGame_catalog
  exact ⟨s₀, h, fails_only_over_refusals h (.turn 10 0 (.opening _)) 10 1⟩

end DeckBuilder
