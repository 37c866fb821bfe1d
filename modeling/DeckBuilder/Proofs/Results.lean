import DeckBuilder.Proofs.GameEnd
import Mathlib.Algebra.Ring.Int.Defs

/-!
What the result of a game says. Its standings are those of the players when the last turn was over: all
their points, tokens and rules of cards included, and the turns that they have started. Its winners are
those of the standings that no other one beats, whether a game was played to its end or turn by turn.
-/
namespace DeckBuilder

open Standing

/-! ### Points -/

namespace GameState

/-- What a card is worth to a player, by its rule or as it is printed. -/
def worth (s : GameState) (id : PlayerId) (card : CardId) : Int :=
  match s.card? card with
  | some c => s.cardPoints c.definition id
  | none => 0

/-- The standing is that of the player: the points are the tokens and what all the cards are worth. -/
structure Stands (s : GameState) (p : Player) (a : Standing) : Prop where
  player : a.player = p.id
  name : a.name = p.name
  turns : a.turns = p.turns
  points : ∃ q, s.player? p.id = some q ∧ (∀ card ∈ q.allCards, (s.card? card).isSome) ∧
    a.points = q.victoryTokens + (q.allCards.map (s.worth p.id)).sum

variable {s : GameState}

theorem points_foldlM {id : PlayerId} {cards : List CardId} {start total : Int}
    (h : cards.foldlM (fun total card =>
      match s.card? card with
      | some c => .ok (total + s.cardPoints c.definition id)
      | none => .error (.cardNotFound card)) start = (.ok total : Except GameError Int)) :
    (∀ card ∈ cards, (s.card? card).isSome) ∧ total = start + (cards.map (s.worth id)).sum := by
  induction cards generalizing start with
  | nil =>
    cases h
    simp
  | cons card rest ih =>
    rw [List.foldlM_cons] at h
    cases hc : s.card? card with
    | none =>
      rw [hc] at h
      cases h
    | some c =>
      rw [hc] at h
      obtain ⟨hrest, htotal⟩ := ih h
      have hworth : s.worth id card = s.cardPoints c.definition id := by rw [worth, hc]
      refine ⟨List.forall_mem_cons.mpr ⟨by rw [hc]; rfl, hrest⟩, ?_⟩
      rw [htotal, List.map_cons, List.sum_cons, hworth, Int.add_assoc]

theorem points_eq {id : PlayerId} {total : Int} (h : s.points id = .ok total) :
    ∃ q, s.player? id = some q ∧ (∀ card ∈ q.allCards, (s.card? card).isSome) ∧
      total = q.victoryTokens + (q.allCards.map (s.worth id)).sum := by
  unfold points at h
  cases hq : s.player? id with
  | none =>
    rw [hq] at h
    cases h
  | some q =>
    rw [hq] at h
    exact ⟨q, rfl, points_foldlM h⟩

theorem standings_eq {standings : List Standing} (h : s.standings = .ok standings) :
    List.Forall₂ s.Stands s.players standings := by
  refine (mapM_eq_ok_iff.mp h).imp fun p a ha => ?_
  obtain ⟨total, htotal, ha⟩ := ok_bind ha
  cases ha
  exact ⟨rfl, rfl, rfl, points_eq htotal⟩

end GameState

/-! ### Winners -/

/-- The result of a game that came to its end in a state. -/
structure GameResult.Settles (result : GameResult) (s : GameState) : Prop where
  standings : List.Forall₂ s.Stands s.players result.standings
  winners : result.winners =
    (result.standings.filter fun a => decide (Unbeaten result.standings a)).map (·.player)

theorem GameResult.settles {result : GameResult} {s : GameState} {standings : List Standing}
    (hstate : s.standings = .ok standings) (hstandings : result.standings = standings)
    (hwinners : result.winners = determineWinners standings) : result.Settles s := by
  subst hstandings
  exact ⟨GameState.standings_eq hstate, hwinners.trans (determineWinners_eq _)⟩

namespace Engine

variable {M : Type} [Controllers M] {g : Game M}

theorem playTurn_settles (maxTurns elapsed : Nat) :
    Ensures (playTurn maxTurns elapsed) g
      (fun result? _ => ∀ result, result? = some result →
        ∃ last, (turnTimes 1).runOn g = (.ok (), last) ∧ result.Settles last.state)
      fun _ _ => True := by
  rw [ensures_playTurn]
  refine turn_turned.ran.imp ?_
  intro _ last hturn
  cases last.state.ending? maxTurns (elapsed + 1) with
  | none => exact fun result h => absurd h (Option.some_ne_none result).symm
  | some reason =>
    dsimp only
    rw [ensures_finish]
    cases hstandings : last.state.standings with
    | error e => exact trivial
    | ok standings =>
      intro result h
      cases h
      exact ⟨last, runOn_turnTimes_succ hturn.2 rfl, GameResult.settles hstandings rfl rfl⟩

theorem playGame_settles (maxTurns : Nat) :
    Ensures (playGame maxTurns) g
      (fun result _ => ∃ last, (turnTimes result.turns).runOn g = (.ok (), last) ∧
        result.Settles last.state) fun _ _ => True := by
  refine (playOn_stops maxTurns (max 1 maxTurns) 0).imp ?_
  intro result _ hstopped
  obtain ⟨k, hstopped⟩ := hstopped
  obtain ⟨last, standings, hlast, -, hstate, hstandings, hwinners, -⟩ := hstopped.last
  have hturns : result.turns = k := by rw [hstopped.turns, Nat.zero_add]
  rw [← hturns] at hlast
  exact ⟨last, hlast, GameResult.settles hstate hstandings hwinners⟩

end Engine

open Engine

end DeckBuilder
