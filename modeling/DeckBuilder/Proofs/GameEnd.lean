import DeckBuilder.Proofs.AiGames
import DeckBuilder.Proofs.Conservation
import DeckBuilder.Proofs.Turns
import Mathlib.Data.List.Chain

/-!
The end of a game. A game that is played to its end stops after the first turn after which the
Provinces are gone, three piles are empty or the turns are used up; the reason that it gives is the
first of these that holds, and the end is told of last and once. Piles are never filled again, so a
game that is over stays over, whatever is done with it afterwards.
-/
namespace DeckBuilder

/-! ### Over stays over -/

/-- The single steps in which the state of a game changes: the writes of a turn, and what happens
between turns. -/
inductive Step : GameState → GameState → Prop
  | write {s s' : GameState} (h : Write s s') : Step s s'
  | begin (s : GameState) :
      Step s { s with turn := s.turn + 1, phase := .action, turnStart := s.events.lastSeq }
  | count (s : GameState) (id : PlayerId) (p : Player) :
      Step s (s.setPlayer id (p.onTableau fun t => { t with turns := t.turns + 1 }))
  | tell (s : GameState) (id : PlayerId) (kind : EventKind) : Step s (s.publish id kind)
  | pass (s : GameState) : Step s s.passed

theorem Step.lowered {s s' : GameState} (h : Step s s') : s.supply.Lowered s'.supply := by
  cases h with
  | write h => exact h.meanwhile.supply
  | _ => exact .refl _

theorem Step.isFinished {s s' : GameState} (h : Step s s') (hs : s.isFinished) : s'.isFinished :=
  GameState.isFinished_of_lowered h.lowered hs

abbrev Steps : GameState → GameState → Prop := Relation.ReflTransGen Step

theorem Steps.isFinished {s s' : GameState} (h : Steps s s') (hs : s.isFinished) :
    s'.isFinished := by
  induction h with
  | refl => exact hs
  | tail _ hstep ih => exact hstep.isFinished ih

/-- The states of a run, from the first to the last: once the game is over in one of them, it is in all
that come later. -/
theorem Steps.exists_states {s s' : GameState} (h : Steps s s') :
    ∃ states, List.IsChain Step (s :: states) ∧ (s :: states).getLast? = some s' ∧
      (s :: states).Pairwise fun before later => before.isFinished → later.isFinished := by
  obtain ⟨states, hchain, hlast⟩ := List.exists_isChain_cons_of_relationReflTransGen h
  refine ⟨states, hchain, ?_, ?_⟩
  · rw [List.getLast?_eq_getLast_of_ne_nil (List.cons_ne_nil _ _), hlast]
  · have htrans : IsTrans GameState fun before later => before.isFinished → later.isFinished :=
      ⟨fun _ _ _ h h' hs => h' (h hs)⟩
    exact List.isChain_iff_pairwise.mp (hchain.imp fun _ _ hstep => hstep.isFinished)

theorem Passage.step {s s' : GameState} (h : Passage s s') : Step s s' := by
  cases h with
  | begin => exact .begin s
  | count id p => exact .count s id p
  | start | finish => exact .tell s _ _
  | pass => exact .pass s

namespace Engine

variable {M : Type} [Controllers M]

theorem lasting_along_step (g₀ : Game M) : Lasting (Along Step g₀) where
  touch hg htouch := hg.tail (.write htouch.write)
  asked _ hg _ := hg.tail (.write (.think (.mk _ _ _ _)))
  passage hg hpassage := hg.tail hpassage.step
  told _ hg _ := hg.tail (.write (.think (.mk _ _ _ _)))

theorem Follows.playOn (maxTurns n elapsed : Nat) :
    Follows Step (Engine.playOn maxTurns n elapsed : Engine M GameResult) :=
  .of_upholds fun g₀ => .playOn (lasting_along_step g₀) maxTurns n elapsed

end Engine

/-- Whatever is done with a game changes it in such steps only. -/
theorem Operation.applyAll_along {M : Type} [Controllers M] (operations : List Operation)
    (g : Game M) : Engine.Along Step g (applyAll operations g) :=
  applyAll_upholds (Engine.lasting_along_step g) operations .refl

/-! ### When a game stops -/

namespace GameState

/-- There is a pile of Provinces, and it is empty. -/
def ProvincesGone (s : GameState) : Prop := ∃ p, s.supply.pile? "Province" = some p ∧ p.cards = []

/-- The game is to stop after so many turns. -/
def Stops (s : GameState) (maxTurns turns : Nat) : Prop :=
  s.ProvincesGone ∨ 3 ≤ s.supply.emptyCount ∨ turns = maxTurns

variable {s : GameState} {maxTurns turns : Nat}

theorem provincesGone_iff :
    s.ProvincesGone ↔ (s.supply.pile? "Province").any Pile.isEmpty = true := by
  simp only [ProvincesGone, Option.any_eq_true, Pile.isEmpty, List.isEmpty_iff]

theorem ending?_eq_none (h : s.ending? maxTurns turns = none) :
    ¬ s.ProvincesGone ∧ s.supply.emptyCount < 3 ∧ turns < maxTurns := by
  unfold ending? at h
  by_cases hfinished : s.isFinished
  · rw [if_pos hfinished] at h
    exact absurd h (Option.some_ne_none _)
  · rw [if_neg hfinished] at h
    rw [isFinished_iff, ← provincesGone_iff] at hfinished
    by_cases hlimit : maxTurns ≤ turns
    · rw [if_pos hlimit] at h
      exact absurd h (Option.some_ne_none _)
    · exact ⟨fun hgone => hfinished (Or.inl hgone), by omega, by omega⟩

/-- The reason of an end, told from the piles alone. -/
structure EndsBy (s : GameState) (maxTurns turns : Nat) (reason : EndReason) : Prop where
  stops : s.ProvincesGone ∨ 3 ≤ s.supply.emptyCount ∨ maxTurns ≤ turns
  provincesGone : reason = .provincesGone ↔ s.ProvincesGone
  pilesEmptied : ∀ m, reason = .pilesEmptied m ↔
    ¬ s.ProvincesGone ∧ 3 ≤ m ∧ m = s.supply.emptyCount
  turnLimit : reason = .turnLimit ↔ ¬ s.ProvincesGone ∧ s.supply.emptyCount < 3

theorem endsBy_of_ending? {reason : EndReason} (h : s.ending? maxTurns turns = some reason) :
    s.EndsBy maxTurns turns reason := by
  unfold ending? at h
  by_cases hfinished : s.isFinished
  · rw [if_pos hfinished] at h
    rw [isFinished_iff, ← provincesGone_iff] at hfinished
    by_cases hgone : s.ProvincesGone
    · rw [if_pos (provincesGone_iff.mp hgone)] at h
      cases h
      exact ⟨Or.inl hgone, by simp [hgone], by simp [hgone], by simp [hgone]⟩
    · rw [if_neg (mt provincesGone_iff.mpr hgone)] at h
      cases h
      have hcount : 3 ≤ s.supply.emptyCount := hfinished.resolve_left hgone
      refine ⟨Or.inr (Or.inl hcount), by simp [hgone], fun m => ?_, ?_⟩
      · simp only [EndReason.pilesEmptied.injEq, hgone, not_false_eq_true, true_and]
        omega
      · simp [hgone, hcount]
  · rw [if_neg hfinished] at h
    rw [isFinished_iff, ← provincesGone_iff, not_or, not_le] at hfinished
    obtain ⟨hgone, hcount⟩ := hfinished
    by_cases hlimit : maxTurns ≤ turns
    · rw [if_pos hlimit] at h
      cases h
      refine ⟨Or.inr (Or.inr hlimit), by simp [hgone], fun m => ?_, by simp [hgone, hcount]⟩
      simp only [reduceCtorEq, false_iff]
      omega
    · rw [if_neg hlimit] at h
      exact absurd h.symm (Option.some_ne_none _)

end GameState

namespace Engine

variable {M : Type} [Controllers M] {g g' : Game M}

/-- So many turns, one after the other, without a look whether the game is over. -/
def turnTimes : Nat → Engine M Unit
  | 0 => pure ()
  | k + 1 => do
    turn
    turnTimes k

theorem Upholds.turnTimes {I : Game M → Prop} (hI : Lasting I) (k : Nat) :
    Upholds I (Engine.turnTimes k : Engine M Unit) := by
  induction k with
  | zero => exact .pure ()
  | succ k ih => exact .bind (.turn hI) fun _ => ih

theorem runOn_turnTimes_succ {k : Nat} {g₁ g₂ : Game M} (hturn : turn.runOn g = (.ok (), g₁))
    (hrest : (turnTimes k).runOn g₁ = (.ok (), g₂)) :
    (turnTimes (k + 1)).runOn g = (.ok (), g₂) := by
  rw [turnTimes, runOn_bind, hturn]
  exact hrest

/-- A run that stopped with a result after `k` turns: there was a reason to stop then, and none after
any of the turns before. -/
structure StoppedAfter (maxTurns elapsed k : Nat) (g : Game M) (result : GameResult)
    (g' : Game M) : Prop where
  played : 1 ≤ k
  turns : result.turns = elapsed + k
  before : ∀ j, 1 ≤ j → j < k → ∃ mid, (turnTimes j).runOn g = (.ok (), mid) ∧
    mid.state.ending? maxTurns (elapsed + j) = none
  last : ∃ last standings, (turnTimes k).runOn g = (.ok (), last) ∧
    last.state.ending? maxTurns (elapsed + k) = some result.reason ∧
    last.state.standings = .ok standings ∧ result.standings = standings ∧
    result.winners = determineWinners standings ∧
    Along Thought { last with state := last.state.concluded standings } g'

theorem StoppedAfter.next {maxTurns elapsed k : Nat} {g₁ : Game M} {result : GameResult}
    (hturn : turn.runOn g = (.ok (), g₁))
    (hmore : g₁.state.ending? maxTurns (elapsed + 1) = none)
    (h : StoppedAfter maxTurns (elapsed + 1) k g₁ result g') :
    StoppedAfter maxTurns elapsed (k + 1) g result g' := by
  have hshift : ∀ j, elapsed + (j + 1) = elapsed + 1 + j := by omega
  obtain ⟨last, standings, hlast, hending, hrest⟩ := h.last
  refine ⟨by omega, h.turns.trans (hshift k).symm, ?_, last, standings, ?_, ?_, hrest⟩
  · intro j hj hlt
    cases j with
    | zero => omega
    | succ j =>
      by_cases hfirst : j = 0
      · subst hfirst
        exact ⟨g₁, runOn_turnTimes_succ hturn rfl, hmore⟩
      · obtain ⟨mid, hmid, hnone⟩ := h.before j (by omega) (by omega)
        rw [hshift]
        exact ⟨mid, runOn_turnTimes_succ hturn hmid, hnone⟩
  · exact runOn_turnTimes_succ hturn hlast
  · rw [hshift]
    exact hending

theorem playOn_stops (maxTurns n elapsed : Nat) :
    Ensures (playOn maxTurns n elapsed) g
      (fun result g' => ∃ k, StoppedAfter maxTurns elapsed k g result g') fun _ _ => True := by
  induction n generalizing g elapsed with
  | zero => exact trivial
  | succ n ih =>
    refine ensures_bind.mpr (ensures_playTurn.mpr (turn_turned.ran.imp ?_))
    intro _ g₁ hturn
    cases hending : g₁.state.ending? maxTurns (elapsed + 1) with
    | none =>
      refine (ih (elapsed + 1)).imp ?_
      intro result g' hstopped
      obtain ⟨k, hstopped⟩ := hstopped
      exact ⟨k + 1, hstopped.next hturn.2 hending⟩
    | some reason =>
      dsimp only
      rw [ensures_finish]
      cases hstandings : g₁.state.standings with
      | error e => exact trivial
      | ok standings =>
        dsimp only
        refine ensures_bind.mpr ((Follows.notifyGameOver _ _).mono ?_ fun _ _ _ => trivial)
        intro _ g' hthoughts
        refine ⟨1, Nat.le_refl 1, rfl, fun j hj hlt => absurd hj (by omega), ?_⟩
        exact ⟨g₁, standings, runOn_turnTimes_succ hturn.2 rfl, hending, hstandings, rfl, rfl,
          hthoughts⟩

end Engine

/-! ### What is told of the end -/

def EventKind.EndsGame : EventKind → Prop
  | .gameEnd .. => True
  | _ => False

theorem EventKind.Inner.not_endsGame {kind : EventKind} (h : kind.Inner) : ¬ kind.EndsGame := by
  cases kind with
  | gameEnd => exact h.elim
  | _ => exact id

theorem Thought.events {s s' : GameState} (h : Relation.ReflTransGen Thought s s') :
    s'.events = s.events := by
  induction h with
  | refl => rfl
  | tail _ hthought ih =>
    obtain ⟨rng, logger, heq⟩ := hthought.eq
    rw [heq]
    exact ih

namespace Engine

variable {M : Type} [Controllers M] {g g' : Game M}

/-- No turn tells of the end of the game. -/
theorem turnTimes_log (k : Nat) :
    Ensures (turnTimes k) g
      (fun _ g' => ∃ events, g'.state.log = g.state.log ++ events ∧
        ∀ e ∈ events, ¬ e.kind.EndsGame) fun _ _ => True := by
  induction k generalizing g with
  | zero => exact ⟨[], (List.append_nil _).symm, List.forall_mem_nil _⟩
  | succ k ih =>
    refine ensures_bind.mpr (turn_turned.imp ?_)
    intro _ g₁ hturned
    obtain ⟨events, hinner, hlog⟩ := hturned.log
    refine ih.imp ?_
    intro _ g' hrest
    obtain ⟨events', hlog', hnone⟩ := hrest
    refine ⟨_, hlog'.trans (by rw [hlog, List.append_assoc]), ?_⟩
    refine List.forall_mem_append.mpr ⟨List.forall_mem_cons.mpr ⟨id, ?_⟩, hnone⟩
    exact fun e he => (hinner e he).not_endsGame

namespace StoppedAfter

variable {maxTurns k : Nat} {result : GameResult}

/-- After a turn before the last there was no reason to stop, and the limit was not reached. -/
theorem not_stops (h : StoppedAfter maxTurns 0 k g result g') {j : Nat} (hj : 1 ≤ j) (hlt : j < k) :
    ∃ mid, (turnTimes j).runOn g = (.ok (), mid) ∧ ¬ mid.state.Stops maxTurns j ∧
      j < maxTurns := by
  obtain ⟨mid, hmid, hnone⟩ := h.before j hj hlt
  rw [Nat.zero_add] at hnone
  obtain ⟨hgone, hcount, hmore⟩ := GameState.ending?_eq_none hnone
  refine ⟨mid, hmid, ?_, hmore⟩
  intro hstops
  rcases hstops with hprovinces | hpiles | hlimit
  · exact hgone hprovinces
  · omega
  · omega

/-- There are no more turns than there may be. -/
theorem le_limit (h : StoppedAfter maxTurns 0 k g result g') (hmax : 1 ≤ maxTurns) :
    k ≤ maxTurns := by
  have hplayed := h.played
  by_cases hone : k = 1
  · omega
  · obtain ⟨_, _, _, hmore⟩ := h.not_stops (j := k - 1) (by omega) (by omega)
    omega

theorem log (h : StoppedAfter maxTurns 0 k g result g') :
    ∃ events e, g'.state.log = g.state.log ++ events ++ [e] ∧
      (∀ e' ∈ events, ¬ e'.kind.EndsGame) ∧
      e.kind = .gameEnd result.winners (result.standings.map (·.points)) := by
  obtain ⟨last, standings, hlast, -, -, hstandings, hwinners, hthoughts⟩ := h.last
  have hlog := turnTimes_log (g := g) k
  rw [Ensures, hlast] at hlog
  obtain ⟨events, hlog, hnone⟩ := hlog
  have htold : g'.state.log = (last.state.concluded standings).log :=
    congrArg (·.events.toList) (Thought.events hthoughts)
  rw [GameState.concluded, GameState.log_publish, hlog, ← hwinners, ← hstandings] at htold
  exact ⟨events, _, htold, hnone, rfl⟩

end StoppedAfter

end Engine

open Engine

/-- A game that was played to its end stopped after the first turn after which there was reason to,
and not after any before. Its result has the number of the turns and the reason, which is the first
that applies; the log tells last of the end, with the winners and the points of the result, and of no
other end. Along the run a game that is over in one state is over in every later one; and whatever game
is over stays so, whatever is done with it. -/
theorem game_stops {M : Type} [Controllers M] {maxTurns : Nat} (hmax : 1 ≤ maxTurns) {g g' : Game M}
    {result : GameResult} (h : (playGame maxTurns).runOn g = (.ok result, g')) :
    (1 ≤ result.turns ∧ ∃ last, (turnTimes result.turns).runOn g = (.ok (), last) ∧
      last.state.Stops maxTurns result.turns ∧
      (result.reason = .provincesGone ↔ last.state.ProvincesGone) ∧
      (∀ m, result.reason = .pilesEmptied m ↔
        ¬ last.state.ProvincesGone ∧ 3 ≤ m ∧ m = last.state.supply.emptyCount) ∧
      (result.reason = .turnLimit ↔
        ¬ last.state.ProvincesGone ∧ last.state.supply.emptyCount < 3)) ∧
    (∀ k, 1 ≤ k → k < result.turns → ∃ mid, (turnTimes k).runOn g = (.ok (), mid) ∧
      ¬ mid.state.Stops maxTurns k) ∧
    (∃ events e, g'.state.log = g.state.log ++ events ++ [e] ∧
      (∀ e' ∈ events, ¬ e'.kind.EndsGame) ∧
      e.kind = .gameEnd result.winners (result.standings.map (·.points))) ∧
    (∃ states, List.IsChain Step (g.state :: states) ∧
      (g.state :: states).getLast? = some g'.state ∧
      (g.state :: states).Pairwise fun before later => before.isFinished → later.isFinished) ∧
    ∀ (finished : Game M) (operations : List Operation), finished.state.isFinished →
      (Operation.applyAll operations finished).state.isFinished := by
  have hstopped := playOn_stops (g := g) maxTurns (max 1 maxTurns) 0
  have hsteps := Follows.playOn (M := M) maxTurns (max 1 maxTurns) 0 g
  rw [playGame] at h
  rw [Ensures, h] at hstopped hsteps
  obtain ⟨k, hstopped⟩ := hstopped
  have hturns : result.turns = k := by rw [hstopped.turns, Nat.zero_add]
  obtain ⟨last, _, hlast, hending, -⟩ := hstopped.last
  rw [Nat.zero_add] at hending
  have hends := GameState.endsBy_of_ending? hending
  have hlimit := hstopped.le_limit hmax
  rw [hturns]
  refine ⟨⟨hstopped.played, last, hlast, ?_, hends.provincesGone, hends.pilesEmptied,
    hends.turnLimit⟩, ?_, hstopped.log, Steps.exists_states hsteps, ?_⟩
  · exact hends.stops.imp_right (Or.imp_right fun hle => Nat.le_antisymm hlimit hle)
  · intro j hj hlt
    obtain ⟨mid, hmid, hnot, -⟩ := hstopped.not_stops hj hlt
    exact ⟨mid, hmid, hnot⟩
  · exact fun finished operations =>
      Steps.isFinished (Operation.applyAll_along operations finished)

/-- Two players who answer at random, for at most ten turns: the game stops with a reason, and the last
that the log tells of is its end. -/
theorem game_stops_at_random :
    ∃ s₀ result g', initGame Registry.catalog { players := ["Player 1", "Player 2"] } = .ok s₀ ∧
      (playGame 10).runOn (Game.recorded ⟨s₀, Table.ofMinds [.random, .random]⟩) =
        (.ok result, g') ∧
      (∃ last, (turnTimes result.turns).runOn
          (Game.recorded ⟨s₀, Table.ofMinds [.random, .random]⟩) = (.ok (), last) ∧
        last.state.Stops 10 result.turns) ∧
      ∃ events e, g'.state.log = s₀.log ++ events ++ [e] ∧ e.kind.EndsGame := by
  obtain ⟨s₀, hinit, hfit⟩ := exists_random_pair
  obtain ⟨result, g', hrun, -⟩ := (Catalog.playGame_ends 10 hfit).total
  obtain ⟨⟨-, last, hlast, hstops, -⟩, -, ⟨events, e, hlog, -, hkind⟩, -⟩ :=
    game_stops (by decide) hrun
  refine ⟨s₀, result, g', hinit, hrun, ⟨last, hlast, hstops⟩, events, e, hlog, ?_⟩
  rw [hkind]
  exact trivial

end DeckBuilder
