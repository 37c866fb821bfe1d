import DeckBuilder.Proofs.Deliberation
import DeckBuilder.Proofs.Telling
import DeckBuilder.Proofs.Witnessing

/-!
The log accounts for all that is random. Between players who leave nothing to chance only shuffles draw
from the generator, and each of them is told of with the number of cards that went into it. So from the
log alone one can tell where the generator stands, in every state that anyone gets to see, whatever is
printed on the cards.
-/
namespace DeckBuilder

/-- The generator stands where the shuffles that were told of since have moved it. -/
def GameState.Accounts (s₀ s : GameState) : Prop :=
  ∃ events, s.log = s₀.log ++ events ∧ s.rng = s₀.rng.after (events.map (·.kind.calls)).sum

namespace GameState.Accounts

variable {s₀ s s' : GameState}

theorem refl (s : GameState) : s.Accounts s := ⟨[], (List.append_nil _).symm, rfl⟩

/-- Nothing is told and nothing is drawn. -/
theorem aside (h : s₀.Accounts s) (hlog : s'.log = s.log) (hrng : s'.rng = s.rng) :
    s₀.Accounts s' := by
  obtain ⟨events, hevents, hgenerator⟩ := h
  exact ⟨events, hlog.trans hevents, hrng.trans hgenerator⟩

theorem tell (h : s₀.Accounts s) {e : GameEvent} (hlog : s'.log = s.log ++ [e])
    (hrng : s'.rng = s.rng.after e.kind.calls) : s₀.Accounts s' := by
  obtain ⟨events, hevents, hgenerator⟩ := h
  refine ⟨events ++ [e], by rw [hlog, hevents, List.append_assoc], ?_⟩
  rw [hrng, hgenerator, ← Generator.after_add, List.map_append, List.sum_append]
  rfl

theorem touched (h : s₀.Accounts s) (ht : s.Touched s') : s₀.Accounts s' := by
  rcases ht.log with ⟨hlog, hrng⟩ | ⟨id, kind, hlog, hrng⟩
  · exact h.aside hlog hrng
  · exact h.tell hlog hrng

theorem passage (h : s₀.Accounts s) (hp : Passage s s') : s₀.Accounts s' := by
  cases hp with
  | begin | count | pass => exact h.aside rfl rfl
  | start | finish => exact h.tell (GameState.log_publish s _ _) rfl

end GameState.Accounts

namespace Engine

variable {M : Type} [Controllers M] {n : Nat} {P : M → Prop} {s₀ : GameState}

/-- The controllers of all `n` players leave nothing to chance, and the log accounts for the
generator. -/
structure Reckoned (n : Nat) (P : M → Prop) (s₀ : GameState) (g : Game M) : Prop where
  memory : P g.memory
  seats : g.state.players.length = n
  accounts : s₀.Accounts g.state

theorem lasting_reckoned (h : Controllers.Deliberate n P) (s₀ : GameState) :
    Lasting (Reckoned n P s₀) where
  touch {g s} hg htouch := by
    have ht := htouch.touched
    have hseats := (GameState.length_players_of_ids ht.ids).trans hg.seats
    exact ⟨hg.memory, hseats, hg.accounts.touched ht⟩
  passage {g s} hg hpassage := by
    have hseats := (GameState.length_players_of_ids hpassage.ids.1).trans hg.seats
    exact ⟨hg.memory, hseats, hg.accounts.passage hpassage⟩
  asked {g id} q hg hid := by
    obtain ⟨hrng, hmemory⟩ := h.answer g.state id q (hg.seats ▸ hid) ⟨g.memory, g.state.rng, #[]⟩
      hg.memory
    obtain ⟨logger, hstate⟩ := asked_state g id q
    refine ⟨hmemory, ?_, ?_⟩
    · rw [hstate]
      exact hg.seats
    · rw [hstate]
      exact hg.accounts.aside rfl hrng
  told {g id} won hg hid := by
    obtain ⟨hrng, hmemory⟩ := h.gameOver g.state id won (hg.seats ▸ hid)
      ⟨g.memory, g.state.rng, #[]⟩ hg.memory
    obtain ⟨logger, hstate⟩ := told_state g id won
    refine ⟨hmemory, ?_, ?_⟩
    · rw [hstate]
      exact hg.seats
    · rw [hstate]
      exact hg.accounts.aside rfl hrng

end Engine

open Engine

/-- The shuffles that are told of account for all that is drawn from the generator. Whatever is done
with a game that was set up, and if it is then played to its end, in each state that anyone sees and in
the states after, the generator is the one that the set-up left, moved on by one call for every card
but one of each shuffle that was told of since. -/
theorem shuffles_account_for_generator {r : Registry} {config : GameConfig} {s₀ : GameState}
    (hinit : initGame r config = .ok s₀) {table : Table}
    (hseats : config.players.length ≤ table.seats.length)
    (hminds : ∀ seat ∈ table.seats, seat.mind ≠ .random) (operations : List Operation)
    (maxTurns : Nat) :
    let g := Operation.applyAll operations (Game.witnessed ⟨s₀, table⟩)
    ∀ s ∈ g.states ++ ((playGame maxTurns).runOn g).2.states,
      ∃ events, s.log = s₀.log ++ events ∧
        s.rng = s₀.rng.after (events.map (·.kind.calls)).sum := by
  have hlasting := lasting_reckoned (Table.deliberate (n := config.players.length)) s₀
  have hstart : Reckoned config.players.length (Table.Deliberate config.players.length) s₀
      ⟨s₀, table⟩ := ⟨⟨hseats, hminds⟩, (initGame_opened hinit).seats, .refl s₀⟩
  exact hlasting.throughout (J := s₀.Accounts) (fun _ hg => hg.accounts) hstart operations maxTurns

/-- A player by values against one at a terminal where nothing is typed: they play a turn, the first of
them draws twenty cards, and the game is played to its end. -/
theorem shuffles_account_for_generator_by_values :
    ∃ s₀, initGame Registry.catalog { players := ["Player 1", "Player 2"] } = .ok s₀ ∧
      let g := Operation.applyAll [.playTurn 10 0, .call (.draw ⟨0⟩ 20)]
        (Game.witnessed ⟨s₀, Table.ofMinds [.heuristic 1, .terminal []]⟩)
      ∀ s ∈ g.states ++ ((playGame 10).runOn g).2.states,
        ∃ events, s.log = s₀.log ++ events ∧
          s.rng = s₀.rng.after (events.map (·.kind.calls)).sum := by
  obtain ⟨s₀, hinit⟩ := initGame_catalog
  have hminds : ∀ seat ∈ (Table.ofMinds [.heuristic 1, .terminal []]).seats, seat.mind ≠ .random := by
    simp [Table.ofMinds]
  exact ⟨s₀, hinit, shuffles_account_for_generator hinit (by decide) hminds _ _⟩

end DeckBuilder
