import DeckBuilder.Controller.Table
import DeckBuilder.Proofs.CatalogTurns
import DeckBuilder.Proofs.Licensed
import DeckBuilder.Proofs.TurnParts

/-!
What becomes of the triggers when a turn ends. The clean-up takes away those of one player, of the one
whose turn it was. Whatever waits on another player's gains and plays waits on: triggers that an effect
installed for an opponent are still there when that opponent's own turn begins, and go at its end.
-/
namespace DeckBuilder

/-- What waits on the player's gains, and what waits on the player's plays. -/
def Player.triggers (p : Player) :
    List (GainInfo → Program) × List (PlayerId → CardId → Program) :=
  (p.gainTriggers, p.playTriggers)

namespace GameState

variable {s s' : GameState} {id other : PlayerId} {p p' : Player}

def triggers? (s : GameState) (id : PlayerId) :
    Option (List (GainInfo → Program) × List (PlayerId → CardId → Program)) :=
  (s.player? id).map Player.triggers

theorem triggers?_setPlayer (hp : s.player? id = some p) (other : PlayerId) :
    (s.setPlayer id p').triggers? other = if id = other then some p'.triggers else s.triggers? other := by
  rw [triggers?, player?_setPlayer (seat_lt_of_player? hp), apply_ite (Option.map Player.triggers)]
  rfl

/-- What is done to the player's cards leaves the triggers of all. -/
theorem triggers?_setPlayer_of_same (hp : s.player? id = some p) (h : p'.triggers = p.triggers)
    (other : PlayerId) : (s.setPlayer id p').triggers? other = s.triggers? other := by
  rw [triggers?_setPlayer hp]
  split
  · next hother => rw [← hother, triggers?, hp, Option.map_some, h]
  · rfl

/-- Where nobody is paid, the triggers stay. -/
theorem triggers?_of_allows (h : (Licence.modest noCard).Allows s s') : s'.triggers? = s.triggers? := by
  funext id
  cases hp : s.player? id with
  | some p =>
    obtain ⟨p', hp', hplayer⟩ := h.players id p hp
    rw [triggers?, triggers?, hp, hp', hplayer.rest not_false]
    rfl
  | none =>
    have hseat : s'.player? id = none := by
      rw [player?, List.getElem?_eq_none_iff] at hp ⊢
      rwa [h.seats]
    rw [triggers?, triggers?, hp, hseat]

end GameState

namespace Engine

variable {M : Type} {g : Game M} {id : PlayerId}

/-- Of the rest of the clean-up only the clearing touches the triggers. -/
theorem cleanUpRest_clears :
    Ensures (cleanUpRest id) g
      (fun _ g' => ∀ other, g'.state.triggers? other =
        if id = other then some ([], []) else g.state.triggers? other) fun _ _ => True := by
  refine ensures_cleanUpRest fun p done cards s p' hp hdraw hp' other => ?_
  have hsame : (p.onTableau (·.layDown done)).triggers = p.triggers := rfl
  have hlaid := funext (GameState.triggers?_setPlayer_of_same hp hsame)
  refine (GameState.triggers?_setPlayer hp' other).trans ?_
  rw [GameState.triggers?_of_allows (.draw hdraw)]
  exact congrArg (ite _ _) (congrFun hlaid other)

variable [Controllers M]

/-- Whatever the cards do and whoever answers: after a clean-up the player whose turn it was has no
triggers, and the others have those which what the cards in play do at the end of the turn left them. -/
theorem cleanUp_clears (g : Game M) :
    Ensures cleanUp g
      (fun _ g' => ∃ g₁ : Game M,
        (cleanUpHooks run g.state.activePlayer).runOn ⟨{ g.state with phase := .cleanUp }, g.memory⟩ =
          (.ok (), g₁) ∧
        ∀ id, g'.state.triggers? id =
          if g.state.activePlayer = id then some ([], []) else g₁.state.triggers? id)
      fun _ _ => True := by
  rw [← cleanUpBy_run]
  refine ensures_bind.mpr (Catalog.ensures_active.mpr ?_)
  refine ensures_bind.mpr (ensures_modifyState.mpr (ensures_bind.mpr ?_))
  have hhooks : Ensures (cleanUpHooks run g.state.activePlayer : Engine M Unit)
      ⟨{ g.state with phase := .cleanUp }, g.memory⟩ (fun _ _ => True) fun _ _ => True := by
    unfold Ensures
    split <;> trivial
  refine hhooks.ran.imp ?_
  rintro _ g₁ ⟨-, hran⟩
  exact cleanUpRest_clears.imp fun _ g₂ h₂ => ⟨g₁, hran, h₂⟩

/-! ### A trigger that stays -/

/-- Two players at a table without any card; these programs wait on the second one's gains. -/
def bareTable (waiting : List (GainInfo → Program)) : Game Table where
  state :=
    { cards := {}
      players := [{ id := ⟨0⟩, name := "Ann" }, { id := ⟨1⟩, name := "Ben", gainTriggers := waiting }]
      supply := { piles := [], baseCount := 0 }
      rng := default }
  memory := Table.ofMinds [.random, .random]

/-- A program that does nothing when a card is gained. -/
def idleTrigger : GainInfo → Program := fun _ => .finish false

/-- A step that has every other player watch for gains. -/
def watchOthers : Effect :=
  .eachOtherPlayer (.custom "watch" fun ctx =>
    .addGainTrigger ctx.player idleTrigger (.finish false))

theorem runOn_run (p : Program) (g : Game M) :
    (run p).runOn g = (runWithin g.state.patience p).runOn g := by
  rw [run, runOn_bind, runOn_state]

theorem runOn_watchOthers :
    (execute watchOthers ⟨⟨0⟩, ⟨0⟩⟩).runOn (bareTable []) = (.ok (), bareTable [idleTrigger]) := by
  have hprogram : ∀ depth,
      (runWithin (depth + 1) (watchOthers.program ⟨⟨0⟩, ⟨0⟩⟩ (.finish false))).runOn (bareTable []) =
        (.ok false, bareTable [idleTrigger]) := fun _ => rfl
  have hpatience : (bareTable []).state.patience = 255 + 1 := rfl
  rw [execute, runOn_bind, runOn_run, hpatience, hprogram]
  rfl

/-- The first player carries out the step, and the turn ends: the second one still watches. -/
theorem trigger_outlives_turn :
    ∃ g g₁ g₂ : Game Table,
      g.state.activePlayer = ⟨0⟩ ∧ (∀ p ∈ g.state.players, p.triggers = ([], [])) ∧
        (execute watchOthers ⟨⟨0⟩, ⟨0⟩⟩).runOn g = (.ok (), g₁) ∧
        cleanUp.runOn g₁ = (.ok (), g₂) ∧
        g₂.state.triggers? ⟨1⟩ = some ([idleTrigger], []) := by
  refine ⟨bareTable [], bareTable [idleTrigger], _, rfl, ?_, runOn_watchOthers, rfl, rfl⟩
  intro p hp
  rcases List.mem_pair.mp hp with rfl | rfl
  · rfl
  · rfl

end Engine

end DeckBuilder
