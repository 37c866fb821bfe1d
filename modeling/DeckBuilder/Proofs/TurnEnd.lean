import DeckBuilder.Controller.Table
import DeckBuilder.Proofs.Reachable

/-!
Every turn of a game with the catalog comes to an end. How deep cards may provoke one another and how
many rounds a phase may have is bounded by a number that grows with the cards of the game only, and no
turn reaches the bound. The one loop within a card, the Watchtower's, ends for its own reason: there
are six cards in the hand, or there is none left to draw.
-/
namespace DeckBuilder

open Engine

/-- Six cards in the hand, or none left to draw. -/
def Tableau.FullHand (t : Tableau) : Prop :=
  6 ≤ t.hand.length ∨ t.zones.deck = [] ∧ t.zones.discard = []

/-- A deck made ready for a draw is empty only if the discard pile is, too. -/
theorem Tableau.discard_of_prepare (t : Tableau) (rng : Generator)
    (h : (t.prepare 1 rng).1.zones.deck = []) : (t.prepare 1 rng).1.zones.discard = [] := by
  unfold prepare at h ⊢
  by_cases hdeck : t.zones.deck.length < 1
  · rw [if_pos hdeck] at h ⊢
    unfold reshuffle at h ⊢
    by_cases hdiscard : t.zones.discard.isEmpty = true
    · rw [if_pos hdiscard]
      exact List.isEmpty_iff.mp hdiscard
    · rw [if_neg hdiscard]
  · rw [if_neg hdeck] at h
    exact absurd (congrArg List.length h) (by simpa using hdeck)

/-- A draw takes a card into the hand, or there was none left to draw. -/
theorem Tableau.draw_hand (t : Tableau) (rng : Generator) :
    if (t.draw rng).1.isSome then (t.draw rng).2.1.hand.length = t.hand.length + 1
    else (t.draw rng).2.1.FullHand := by
  obtain ⟨deck, discard, hprepare⟩ := prepare_eq t 1 rng
  have hdiscard := discard_of_prepare t rng
  unfold draw
  generalize t.prepare 1 rng = prepared at hprepare hdiscard ⊢
  obtain ⟨t', rng'⟩ := prepared
  dsimp only at hprepare hdiscard ⊢
  cases htop : t'.zones.deck.getLast? with
  | none =>
    have hempty := List.getLast?_eq_none_iff.mp htop
    simp only [CardRow.draw, htop]
    exact Or.inr ⟨hempty, hdiscard hempty⟩
  | some card =>
    simp only [CardRow.draw, htop, Option.isSome_some, if_true]
    rw [hprepare]
    simp [hand]

namespace Catalog

variable {M : Type} [Controllers M] {g : Game M} {id : PlayerId}

omit [Controllers M] in
theorem ensures_drawOne {p : Player} (hp : g.state.player? id = some p)
    {E : Halt → Game M → Prop} :
    Ensures (Engine.draw id 1) g
      (fun cards g' => ∃ p', g'.state.player? id = some p' ∧
        if cards.isEmpty then p'.FullHand else p'.hand.length = p.hand.length + 1) E := by
  obtain ⟨rng, events, logger, hstate⟩ := GameState.drawOne_eq g.state id p
  have hdraw := p.toTableau.draw_hand g.state.rng
  have hcard : (g.state.drawOne id p).1 = (p.toTableau.draw g.state.rng).1 := rfl
  have hplayer : (g.state.drawOne id p).2.player? id =
      some { p with toTableau := (p.toTableau.draw g.state.rng).2.1 } := by
    rw [hstate]
    exact GameState.player?_setPlayer_self _ hp
  simp only [Engine.draw, ensures_step, GameState.draw, GameState.drawEach, hp]
  generalize g.state.drawOne id p = drawn at hcard hplayer ⊢
  obtain ⟨card, s⟩ := drawn
  dsimp only at hcard hplayer
  rw [← hcard] at hdraw
  cases card with
  | none => exact ⟨_, hplayer, hdraw⟩
  | some card => exact ⟨_, hplayer, hdraw⟩

theorem drawToSix_leads {provoke : Program → Engine M Bool} {ctx : EffectContext} {n : Nat}
    {p : Player} (hp : g.state.player? ctx.player = some p) (hn : 6 ≤ p.hand.length + n)
    {E : Halt → Game M → Prop} :
    (drawToSix ctx n).Leads (perform provoke) g
      (fun _ g' => ∃ p', g'.state.player? ctx.player = some p' ∧ p'.FullHand) E := by
  induction n generalizing g p with
  | zero => exact Script.Leads.pure ⟨p, hp, Or.inl hn⟩
  | succ n ih =>
    refine Script.Leads.bind (Script.Leads.hand hp ?_)
    refine Script.Leads.ite (fun _ => ?_) fun hfull => ?_
    · refine Script.Leads.callBind ((ensures_drawOne hp).imp ?_)
      rintro cards g' ⟨p', hp', hdrawn⟩
      refine Script.Leads.ite (fun hnone => ?_) fun hsome => ?_
      · rw [if_pos hnone] at hdrawn
        exact Script.Leads.pure ⟨p', hp', hdrawn⟩
      · rw [if_neg hsome] at hdrawn
        exact ih hp' (by omega)
    · exact Script.Leads.pure ⟨p, hp, Or.inl (Nat.not_lt.mp hfull)⟩

end Catalog

variable {M : Type} [Controllers M] {g : Game M}

/-- Refusals are no reason for going on for ever. -/
theorem ne_endless {α : Type} {e : Engine M α} {Q : α → Game M → Prop}
    (h : Ensures e g Q (Contract.any M).halts) : (e.runOn g).1 ≠ .error .endless := by
  intro hendless
  have hrun : e.runOn g = (.error .endless, (e.runOn g).2) := Prod.ext hendless rfl
  obtain ⟨-, id, q, g₀, -, hhalt⟩ := h.stopped hrun
  simp [keptAnswering] at hhalt

/-- A turn of a game with the catalog, from any reachable state and with any controllers, comes to
its end within a depth and a number of rounds that the number of cards gives; the loops of its phases
take at most two rounds for each card, and the Watchtower stops when the hand is full or nothing is
left to draw. -/
theorem turn_ends {config : GameConfig} {s₀ : GameState}
    (hinit : initGame Registry.catalog config = .ok s₀) (hg : g.Reachable s₀)
    (maxTurns elapsed : Nat) :
    ((playTurn maxTurns elapsed).runOn g).1 ≠ .error .endless ∧
      g.state.patience = 16 * s₀.cards.size + 256 ∧
      (∀ id : PlayerId, id.seat < g.state.players.length → ∀ n, 2 * s₀.cards.size < n →
        ((actionPhase id n).runOn g).1 ≠ .error .endless ∧
        ((treasurePhase id n).runOn g).1 ≠ .error .endless ∧
        ((purchases id n).runOn g).1 ≠ .error .endless) ∧
      ∀ ctx : EffectContext, ctx.player.seat < g.state.players.length →
        Ensures (run (Catalog.drawToSix ctx 6).once) g
          (fun _ g' => ∃ p, g'.state.player? ctx.player = some p ∧ p.FullHand)
          (fun _ _ => False) := by
  obtain ⟨hcatalog, hkept⟩ := hg.ofCatalog (initGame_opened hinit).ofCatalog
  have hfit : (Contract.any M).Fit g := Contract.fit_any hcatalog
  have hstore := hkept.store
  have hstamina := hcatalog.sound.stamina_le
  have hsupply := hcatalog.sound.supply_le
  refine ⟨ne_endless (Catalog.playTurn_ends maxTurns elapsed hfit), ?_, ?_, ?_⟩
  · rw [GameState.patience, hstore]
  · intro id hid n hn
    refine ⟨ne_endless (Catalog.actionPhase_ends hfit hid ?_),
      ne_endless (Catalog.treasurePhase_ends hfit hid ?_),
      ne_endless (Catalog.purchases_ends hfit hid ?_)⟩ <;> omega
  · intro ctx hctx
    obtain ⟨p, hp⟩ := GameState.player?_of_lt hctx
    obtain ⟨depth, hpatience, -⟩ := Catalog.patience_eq hcatalog.sound
    refine Catalog.ensures_run fun d hd => ?_
    obtain rfl : d = depth + 3 := hd.symm.trans hpatience
    exact Script.Leads.once (Catalog.drawToSix_leads hp (Nat.le_add_left 6 _))

/-- The second turn of two players who answer at random. -/
theorem turn_ends_at_random :
    ∃ s₀, initGame Registry.catalog { players := ["Player 1", "Player 2"] } = .ok s₀ ∧
      let g := ((playTurn 10 0).runOn ⟨s₀, Table.ofMinds [.random, .random]⟩).2
      ((playTurn 10 1).runOn g).1 ≠ .error .endless ∧
        g.state.patience = 16 * s₀.cards.size + 256 := by
  obtain ⟨s₀, h⟩ := initGame_catalog
  have hends := turn_ends h (.turn 10 0 (.opening (Table.ofMinds [.random, .random]))) 10 1
  exact ⟨s₀, h, hends.1, hends.2.1⟩

end DeckBuilder
