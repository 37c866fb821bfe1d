import DeckBuilder.Proofs.AiGames
import DeckBuilder.Proofs.CleanUp

/-!
Between two turns. A game that is set up with the catalog and played turn by turn is at rest whenever
no turn is going on, whoever answers in each of the turns: nothing waits but on cards in play and on
Lighthouses that are set aside. The start of the next turn runs what waits on the cards of the player
whose turn it is, each program once, and nothing that waits for the others.
-/
namespace DeckBuilder

open Engine

/-- Dealing the hands is within every licence. -/
theorem Setup.Dealing.allows {L : Licence} {s s' : GameState} (h : Setup.Dealing s s') :
    L.Allows s s' := by
  cases h with
  | draw id p hp => exact .drawOne hp
  | tell id n => exact .publish s id (fun _ => rfl) rfl

theorem Setup.Dealt.allows {L : Licence} {s s' : GameState} (h : Setup.Dealt s s') : L.Allows s s' := by
  induction h with
  | refl => exact .refl s
  | tail _ hstep ih => exact ih.trans hstep.allows

namespace GameState

variable {s s' : GameState}

/-- The table between two turns: the players rest, and nothing waits on a card that lies elsewhere
than in front of a player. -/
structure AtRest (s : GameState) : Prop where
  players : ∀ p ∈ s.players, s.Resting p
  elsewhere : ∀ p ∈ s.players, ∀ card ∈ p.zones.elsewhere, ¬ s.Pending card
  supply : ∀ q ∈ s.supply.piles, ∀ card ∈ q.cards, ¬ s.Pending card
  trash : ∀ card ∈ s.trash, ¬ s.Pending card

theorem Rested.atRest (h : s.Rested) : s.AtRest where
  players := by
    intro p hp
    obtain ⟨seat, hseat⟩ := List.mem_iff_getElem?.mp hp
    exact h.resting ⟨seat⟩ p hseat not_false
  elsewhere _ hp _ hcard := h.elsewhere hp hcard
  supply := by
    intro q hq card hcard hpending
    obtain ⟨id, hlies⟩ := h.onTable card hpending
    exact (h.seated.sound.apart hlies).2.1 q hq hcard
  trash := by
    intro card hcard hpending
    obtain ⟨id, hlies⟩ := h.onTable card hpending
    exact (h.seated.sound.apart hlies).2.2 hcard

/-! ### The opening -/

theorem Laid.rested {n : Nat} (h : s.Laid Registry.catalog n) : s.Rested := by
  have hcatalog := h.toOpened.ofCatalog
  have hnone : ∀ card, s.durations card = [] := by
    intro card
    rw [GameState.durations]
    cases hc : s.card? card with
    | none => rfl
    | some c => exact h.durations card c hc
  refine ⟨hcatalog.seated, hcatalog.registered, ?_, ?_, ?_, ?_, fun _ _ _ h => h.elim⟩
  · exact hcatalog.ready (fun _ _ _ _ h => h) (fun _ _ _ _ h => h) fun _ _ h => h
  · intro card d _ t ht
    rw [hnone] at ht
    exact absurd ht List.not_mem_nil
  · exact fun card hcard => absurd (hnone card) hcard
  · intro id p hp _
    have hnew := (h.players id.seat p hp).eq
    refine ⟨?_, ?_, ?_, ?_, ?_⟩ <;> rw [hnew]
    · exact fun _ hcard => absurd hcard List.not_mem_nil
    · exact fun _ hcard => absurd hcard List.not_mem_nil

/-- Dealing the hands disturbs nobody. -/
theorem Rested.dealt (h : s.Rested) (hdealt : Setup.Dealt s s') : s'.Rested := by
  induction hdealt with
  | refl => exact h
  | @tail s₁ s₂ _ hstep ih =>
    have hseated := Changes.seated (.single hstep.change) ih.seated
    rw [← hseated.seats] at hseated
    have hallows : (Licence.turn s₁ fun _ => False).Allows s₁ s₂ := hstep.allows
    exact Midway.allows ih hallows hseated

end GameState

theorem initGame_rested {config : GameConfig} {s₀ : GameState}
    (hinit : initGame Registry.catalog config = .ok s₀) : s₀.Rested := by
  obtain ⟨s₁, hlaid, hdealt⟩ := initGame_laid hinit
  exact hlaid.rested.dealt hdealt

/-! ### A turn -/

namespace Engine

variable {M : Type} {g : Game M}

theorem finish_rests (h : g.state.Rested) (turns : Nat) (reason : EndReason) :
    Ensures (finish turns reason) g (fun _ g' => g'.state.Rested) fun _ _ => True := by
  rw [ensures_finish]
  cases g.state.standings with
  | error e => exact trivial
  | ok standings =>
    have hseated := h.seated
    exact GameState.Midway.congr h (hseated.congr rfl (fun _ => rfl) rfl rfl rfl) (fun _ => rfl)
      rfl rfl rfl

variable [Controllers M]

/-- From rest to rest: a turn that comes to its end. -/
theorem playTurn_rests (h : g.state.Rested) (maxTurns elapsed : Nat) :
    Ensures (playTurn maxTurns elapsed) g (fun _ g' => g'.state.Rested) fun _ _ => True := by
  generalize hactive : g.state.activePlayer = id
  have hid : id.seat < g.state.players.length := hactive ▸ h.seated.sound.active
  obtain ⟨p, hp⟩ := GameState.player?_of_lt hid
  have hmidway : g.state.Midway (· = id) noCard := h.weaken (fun _ h => h.elim) fun _ h => h
  refine ensures_bind.mpr ((startTurn_settles hactive hmidway hp).mono ?_ fun _ _ h => h.elim)
  rintro _ g₁ ⟨h₁, -⟩
  have hactive₁ : g₁.state.activePlayer = id := by
    rw [← hactive, GameState.activePlayer, h₁.keeps.active]
    rfl
  have hid₁ := h₁.keeps.seated hid
  refine ensures_bind.mpr (Catalog.ensures_active.mpr (ensures_bind.mpr (ensures_state.mpr ?_)))
  rw [hactive₁]
  refine ensures_bind.mpr ((actionPhase_underway _ h₁.midway hid₁).imp fun _ g₂ h₂ => ?_)
  have hid₂ := h₂.keeps.seated hid₁
  refine ensures_bind.mpr ((buyPhase_underway h₂.midway hid₂).imp fun _ g₃ h₃ => ?_)
  have hactive₃ : g₃.state.activePlayer = id := by
    rw [← hactive₁, GameState.activePlayer, (h₂.trans h₃).keeps.active]
    rfl
  refine ensures_bind.mpr ((cleanUp_rests hactive₃ h₃.midway).imp fun _ g₄ h₄ => ?_)
  refine ensures_bind.mpr (ensures_state.mpr ?_)
  rw [ensures_ite]
  refine ⟨fun _ => ?_, fun _ => ensures_ite.mpr ⟨fun _ => ?_, fun _ => h₄⟩⟩
  · exact ensures_bind.mpr ((finish_rests h₄ _ _).imp fun _ _ h₅ => h₅)
  · exact ensures_bind.mpr ((finish_rests h₄ _ _).imp fun _ _ h₅ => h₅)

end Engine

/-- The states between the turns of a game: the opening, and what a turn leaves that comes to its end,
whoever answers in it. -/
inductive GameState.Between (s₀ : GameState) : GameState → Prop
  | opening : Between s₀ s₀
  | turn {M : Type} [Controllers M] {g g' : Game M} {result : Option GameResult}
      (maxTurns elapsed : Nat) (before : Between s₀ g.state)
      (h : (playTurn maxTurns elapsed).runOn g = (.ok result, g')) : Between s₀ g'.state

theorem GameState.Between.rested {s₀ s : GameState} (h₀ : s₀.Rested) (h : s₀.Between s) :
    s.Rested := by
  induction h with
  | opening => exact h₀
  | @turn M _ g g' result maxTurns elapsed before h ih =>
    have hturn := playTurn_rests ih maxTurns elapsed
    rw [Ensures, h] at hturn
    exact hturn

/-- Whoever answers: between two turns the table is at rest. From there the start of a turn comes to
its end. It runs the programs that wait on the cards of the player whose turn it is, each of them once;
nothing waits on this player's cards then, and the cards of the others are as they were. -/
theorem turn_boundaries {config : GameConfig} {s₀ s : GameState}
    (hinit : initGame Registry.catalog config = .ok s₀) (hs : s₀.Between s) :
    s.AtRest ∧
      ∀ {M : Type} [Controllers M] (memory : M), ∃ p p' g',
        s.player? s.activePlayer = some p ∧ g'.state.player? s.activePlayer = some p' ∧
        startTurn.runOn ⟨s, memory⟩ = (.ok (), g') ∧
        Firing s.activePlayer (s.due s.activePlayer) ⟨s.begun s.activePlayer p, memory⟩ g' ∧
        (∀ card ∈ p'.allCards, ¬ g'.state.Pending card) ∧
        ∀ id q, id ≠ s.activePlayer → s.player? id = some q →
          ∀ card ∈ q.allCards, g'.state.card? card = s.card? card := by
  have hrested := hs.rested (initGame_rested hinit)
  refine ⟨hrested.atRest, fun {M} _ memory => ?_⟩
  generalize hactive : s.activePlayer = active
  have hseat : active.seat < s.players.length := hactive ▸ hrested.seated.sound.active
  obtain ⟨p, hp⟩ := GameState.player?_of_lt hseat
  have hmidway : s.Midway (· = active) noCard := hrested.weaken (fun _ h => h.elim) fun _ h => h
  have hstart := startTurn_settles (g := ⟨s, memory⟩) hactive hmidway hp
  obtain ⟨_, g', hrun, hunderway, hfiring, hnone, hothers⟩ := hstart.total
  have hseat' := hunderway.keeps.seated hseat
  obtain ⟨p', hp'⟩ := GameState.player?_of_lt hseat'
  refine ⟨p, p', g', hp, hp', hrun, hfiring, ?_, ?_⟩
  · intro card hcard
    rcases PlayerZones.mem_allCards.mp hcard with htable | helse
    · exact hnone card ⟨p', hp', htable⟩
    · exact hunderway.midway.elsewhere (GameState.player?_mem hp') helse
  · intro id q hid hq card hcard
    refine hothers card ?_
    rintro ⟨p₁, hp₁, hmem⟩
    exact hid (hrested.seated.sound.owner_unique hq hp₁ hcard (PlayerZones.mem_allCards_of_table hmem))

/-- Two players who answer at random: the state after the first turn, and the start of the second. -/
theorem turn_boundaries_at_random :
    ∃ s₀ s : GameState, initGame Registry.catalog { players := ["Player 1", "Player 2"] } = .ok s₀ ∧
      s₀.Between s ∧ s.AtRest ∧
      ∃ g', startTurn.runOn ⟨s, Table.ofMinds [.random, .random]⟩ = (.ok (), g') := by
  obtain ⟨s₀, hinit⟩ := initGame_catalog
  have hminds : (Table.ofMinds [.random, .random]).Automatic :=
    Table.automatic_ofMinds (by simp [Mind.Automatic])
  have hfit : Contract.automatic.Fit (Game.recorded ⟨s₀, Table.ofMinds [.random, .random]⟩) :=
    ⟨(initGame_opened hinit).ofCatalog, hminds, by simp [Game.recorded]⟩
  obtain ⟨result, g, hturn, -⟩ := (Catalog.playTurn_ends 10 0 hfit).total
  have hbetween : s₀.Between g.state := .turn 10 0 .opening hturn
  obtain ⟨hrest, hstart⟩ := turn_boundaries hinit hbetween
  obtain ⟨_, _, g', -, -, hrun, -⟩ := hstart (Table.ofMinds [.random, .random])
  exact ⟨s₀, g.state, hinit, hbetween, hrest, g', hrun⟩

end DeckBuilder
