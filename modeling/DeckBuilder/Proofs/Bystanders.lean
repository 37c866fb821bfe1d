import DeckBuilder.Proofs.CatalogInside
import DeckBuilder.Proofs.Confined
import DeckBuilder.Proofs.Delegation
import DeckBuilder.Proofs.Reachable
import DeckBuilder.Proofs.Watched
import DeckBuilder.Proofs.Witnessing

/-!
Who is not attacked is left alone. What is done for a player is done to the player's own cards, counters and
triggers, and it hangs nothing on the cards of others, as long as no attack is carried out and no other player
is made to do something; also where reactions of others come between, and where it ends in an error.
-/
namespace DeckBuilder

open Engine

variable {M : Type} [Controllers M]

namespace Scope

variable {S : Scope} {J : Game M → Prop}

/-- What is watched for the calls that leave the scope is stopped before it goes beyond. -/
theorem Regards.runUntil (hJ : S.Regards J)
    (hreach : ∀ {n : Game M} {s}, S.Suits n.state → J n → S.Reach n.state s → J { n with state := s })
    {alarm : GameState → (c : Call) → c.Answer → Bool}
    (halarm : ∀ s c a, S.leaves c → alarm s c a = true) (halt : Halt) {p : Program}
    (hp : p.Inside S) : Upholds (S.Keeps J) (Engine.runUntil alarm halt p) := by
  have hwithin (depth : Nat) {p : Program} (hp : p.Inside S) :
      Upholds (S.Keeps J) (runWithinUntil alarm halt depth p) := by
    induction depth generalizing p with
    | zero => exact .throw _
    | succ depth ih =>
      refine hJ.interpret (fun c hc n hn => ensures_performUntil.mpr ?_) hp
      refine (hJ.perform (fun _ hq => ih hq) hc (fun _ _ _ => hreach) hn).imp fun a n' h => ?_
      by_cases halarmed : alarm n'.state c a = true
      · rw [if_pos halarmed]
        exact h.1
      · rw [if_neg halarmed]
        exact ⟨h.1, fun hleaves => halarmed (halarm _ _ _ hleaves), h.2⟩
  exact .bind .state fun s => hwithin s.patience hp

theorem regards_spares (s : GameState) : S.Regards fun n : Game M => S.Spares s n.state where
  stroke _ h h' := h.trans h'.toSpares
  asked {n id} q h _ := by
    obtain ⟨logger, hstate⟩ := asked_state n id q
    rw [hstate]
    exact ⟨h.players, h.cards⟩

/-- A player alone, and the cards of the others, in a state of the game. What each other player does is
beyond it. -/
def alone (s : GameState) (id : PlayerId) : Scope where
  table := s.players.length
  seats := (· = id)
  foreign card := ∃ other p, other ≠ id ∧ s.player? other = some p ∧ card ∈ p.allCards
  leaves c := ∃ player, c = .opponents player

end Scope

/-- Attacks, and what each other player does, begin with the call of the other players. -/
def outward : GameState → (c : Call) → c.Answer → Bool
  | _, .opponents _, _ => true
  | _, _, _ => false

namespace Operation

/-- What is done for a player: calls for the player, of which none carries out a card that another player
has, and the start and the end of the player's turn. -/
def For (s : GameState) (id : PlayerId) : Operation → Prop
  | .call c => c.Inside (.alone s id)
  | .startTurn | .cleanUp => s.activePlayer = id
  | .execute .. | .playTurn .. => False

/-- Nothing would change if the operation were stopped, for whatever reason, as soon as an attack is carried
out or other players are made to do something: this does not happen in its course. -/
def Inoffensive (g : Game M) (o : Operation) : Prop :=
  ∀ halt, (o.via (runUntil outward halt)).runOn g = (o.via run).runOn g

theorem spares {g : Game M} (hg : g.state.OfCatalog) {id : PlayerId}
    (hid : id.seat < g.state.players.length) {o : Operation} (ho : o.For g.state id) (halt : Halt) :
    (Scope.alone g.state id).Spares g.state ((o.via (runUntil outward halt)).runOn g).2.state := by
  let S := Scope.alone g.state id
  have hregards : S.Regards fun n : Game M => S.Spares g.state n.state := S.regards_spares g.state
  have hkeeps : S.Keeps (fun n : Game M => S.Spares g.state n.state) g :=
    ⟨hg.suits (fun player => ⟨player, rfl⟩) rfl fun card => Iff.rfl, .refl _⟩
  have halarm (s : GameState) (c : Call) (a : c.Answer) (hleaves : S.leaves c) : outward s c a = true := by
    obtain ⟨player, rfl⟩ := hleaves
    rfl
  have hprovoke (p : Program) (hp : p.Inside S) :=
    hregards.runUntil (fun _ h h' => h.trans h'.toSpares) halarm halt hp
  refine (Ensures.after (P := S.Keeps fun n => S.Spares g.state n.state) ?_).2
  cases o with
  | call c =>
    refine ensures_bind.mpr ((hregards.perform hprovoke ho ?_ hkeeps).imp fun _ _ h => h.1)
    exact fun _ _ _ _ _ _ h h' => h.trans h'.toSpares
  | startTurn => exact hregards.startTurnBy hprovoke hkeeps ⟨ho, ho ▸ hid⟩
  | cleanUp => exact hregards.cleanUpBy hprovoke hkeeps ⟨ho, ho ▸ hid⟩
  | execute => exact ho.elim
  | playTurn => exact ho.elim

end Operation

/-! ### Runs that provoke nothing -/

/-- Programs that draw and count, hang something on cards, and do nothing else. -/
def Program.Calm : Program → Prop
  | .finish _ | .fail _ => True
  | .call (.draw ..) next | .call (.credit ..) next => ∀ a, (next a).Calm
  | .addDuration _ _ next => next.Calm
  | _ => False

namespace Engine

/-- A call that gives no cause for alarm is carried out as if nobody watched. -/
theorem performUntil_of_quiet {alarm : GameState → (c : Call) → c.Answer → Bool} {c : Call}
    (h : ∀ s a, alarm s c a = false) (halt : Halt) (provoke : Program → Engine M Bool) :
    performUntil alarm halt provoke c = perform provoke c := by
  rw [performUntil, ← bind_pure (perform provoke c), bind_assoc]
  refine bind_congr fun a => ?_
  simp only [h, pure_bind]
  rfl

/-- Such a program runs the same under watch. -/
theorem runUntil_outward_of_calm (halt : Halt) {p : Program} (hp : p.Calm) :
    (runUntil outward halt p : Engine M Bool) = run p := by
  refine bind_congr fun s => ?_
  change (interpret (performUntil outward halt (runWithinUntil outward halt _)) p : Engine M Bool) =
    interpret (perform (runWithin _)) p
  induction p with
  | finish | fail => rfl
  | call c next ih =>
    cases c <;> first | exact hp.elim | skip
    all_goals
      rw [interpret, interpret, performUntil_of_quiet fun _ _ => rfl]
      exact bind_congr fun a => ih a (hp a)
  | addDuration card callback next _ ih => exact bind_congr fun _ => ih hp
  | look | addGainTrigger | addPlayTrigger => exact hp.elim

end Engine

theorem Operation.inoffensive_resolve {g : Game M} {card : CardId} {id : PlayerId} {c : Card}
    (hc : g.state.card? card = some c)
    (hcalm : (Effect.programAll ⟨card, id⟩ c.definition.onPlay (.finish false)).Calm) :
    (Operation.call (.resolve card id)).Inoffensive g := by
  intro halt
  change (resolve _ card id >>= _).runOn g = (resolve _ card id >>= _).runOn g
  rw [runOn_bind, runOn_bind, resolve, resolve, runOn_bind_of_ok (runOn_definition hc),
    runOn_bind_of_ok (runOn_definition hc), executeAll, executeAll, runUntil_outward_of_calm halt hcalm]

/-! ### Who is not attacked is left alone -/

/-- In every game with the catalog that can be reached, whoever answers: an operation for a player, in the
course of which no attack is carried out and no other players are made to do something, leaves the others and
what waits on their cards as they are, be it done or given up. -/
theorem others_left_alone {config : GameConfig} {s₀ : GameState} {g : Game M}
    (hinit : initGame Registry.catalog config = .ok s₀) (hg : g.Reachable s₀) {id : PlayerId}
    (hid : id.seat < g.state.players.length) {o : Operation} (ho : o.For g.state id)
    (hquiet : o.Inoffensive g) {other : PlayerId} (hother : other ≠ id) :
    (o.apply g).state.player? other = g.state.player? other ∧
      ∀ p, g.state.player? other = some p → ∀ card ∈ p.allCards,
        (o.apply g).state.card? card = g.state.card? card := by
  have hcatalog := (hg.ofCatalog (initGame_opened hinit).ofCatalog).1
  have hspares := Operation.spares hcatalog hid ho .endless
  rw [hquiet .endless, ← Operation.apply_eq_via] at hspares
  exact ⟨hspares.players other hother, fun p hp card hcard =>
    hspares.cards card ⟨other, p, hother, hp, hcard⟩⟩

theorem Catalog.caravan_calm (ctx : EffectContext) :
    (Effect.programAll ctx caravan.onPlay (.finish false)).Calm :=
  fun _ _ => trivial

/-- What follows by changes on a game that can be reached can be reached. -/
theorem Game.Reachable.later {s₀ s : GameState} {g : Game M} (hg : g.Reachable s₀) (memory : M)
    (h : Changes Hooks.catalog g.state s) : Game.Reachable s₀ ⟨s, memory⟩ := by
  induction h with
  | refl => exact .change memory hg (.enter g.state g.state.phase)
  | tail _ h ih => exact .change memory ih h

/-- A card is played by a player who has just gained it, in a game that can be reached. -/
theorem Game.Reachable.played {s₀ : GameState} (hcatalog : s₀.OfCatalog) {pile : String} {q : Pile}
    {card : CardId} {c : Card} {id : PlayerId} {p : Player} (hpile : s₀.supply.pile? pile = some q)
    (htop : q.top? = some card) (hc : s₀.card? card = some c) (hp : s₀.player? id = some p)
    {memory : M} {u : Unit} :
    let g : Game M := ⟨s₀.gained pile id p card false .hand, memory⟩
    ((play run card id).runOn g).1 = .ok u → Game.Reachable s₀ ((play run card id).runOn g).2 := by
  intro g hplayed
  have hgained : Change Hooks.catalog s₀ (s₀.gained pile id p card false .hand) :=
    .gain s₀ _ q card id p false .hand hpile htop hp
  have hfit : (Contract.any M).Fit g := Contract.fit_any ((Changes.single hgained).ofCatalog hcatalog)
  have hid : id.seat < g.state.players.length :=
    (GameState.seat_lt_of_player? hp).trans_eq hgained.kept.seats.symm
  have hprovokes : ProvokesAt (g.state.patience - 1 + 1) g run := run_provokesAt g
  have hplay := Catalog.calmly_play hprovokes hfit hid hc
  have hcalm := hplay.ended (runOn_eq_of_ok hplayed)
  exact .later (.change memory (.opening memory) hgained) _ hcalm.state.changes

/-- A game in which a player has gained a Caravan and played it, and what is left to be done later when it is
then carried out for the first player, whoever has it. -/
theorem exists_caravan_played (seat : Nat) (hseat : seat < 2) :
    ∃ s₀ g card c c' p, initGame Registry.catalog
        { players := ["Player 1", "Player 2"], kingdom := .preset "durations" } = .ok s₀ ∧
      Game.Reachable (M := Table) s₀ g ∧ g.state.players.length = 2 ∧
      g.state.player? ⟨seat⟩ = some p ∧ card ∈ p.inPlay ∧
      g.state.card? card = some c ∧ c.definition = Catalog.caravan ∧ c.durations.length = 0 ∧
      ((Operation.call (.resolve card ⟨0⟩)).apply g).state.card? card = some c' ∧
      c'.durations.length = 1 := by
  have hplays : ∀ seat < 2, (initGame Registry.catalog
      { players := ["Player 1", "Player 2"], kingdom := .preset "durations" }).toOption.any
      fun s => (s.supply.pile? "Caravan").any fun q => q.top?.any fun card =>
        (s.card? card).isSome && (s.player? ⟨seat⟩).any fun p =>
        let (played, g) := (play run card ⟨seat⟩).runOn (M := Table)
          ⟨s.gained "Caravan" ⟨seat⟩ p card false .hand, Table.ofMinds [.random, .random]⟩
        played.toOption.any (fun _ => true) && g.state.players.length == 2 &&
          (g.state.player? ⟨seat⟩).any (card ∈ ·.inPlay) &&
          (g.state.card? card).any fun c =>
            c.definition.name == "Caravan" && c.durations.length == 0 &&
            (((Operation.call (.resolve card ⟨0⟩)).apply g).state.card? card).any fun c =>
              c.durations.length == 1 := by
    decide +kernel
  obtain ⟨s₀, hinit, hplays⟩ := exists_ok_of_any (hplays seat hseat)
  obtain ⟨q, hpile, hplays⟩ := (Option.any_eq_true _ _).mp hplays
  obtain ⟨card, htop, hplays⟩ := (Option.any_eq_true _ _).mp hplays
  obtain ⟨hstored, hplays⟩ := Bool.and_eq_true_iff.mp hplays
  obtain ⟨p, hp, hplays⟩ := (Option.any_eq_true _ _).mp hplays
  simp only [Bool.and_eq_true] at hplays
  obtain ⟨⟨⟨hplayed, hseats⟩, hholds⟩, hcarries⟩ := hplays
  obtain ⟨c₀, hc₀⟩ := Option.isSome_iff_exists.mp hstored
  obtain ⟨_, hplayed, -⟩ := exists_ok_of_any hplayed
  obtain ⟨p', hp', hinPlay⟩ := (Option.any_eq_true _ _).mp hholds
  obtain ⟨c, hc, hcarries⟩ := (Option.any_eq_true _ _).mp hcarries
  simp only [Bool.and_eq_true] at hcarries
  obtain ⟨⟨hname, hnone⟩, hwaits⟩ := hcarries
  obtain ⟨c', hc', hone⟩ := (Option.any_eq_true _ _).mp hwaits
  have hcatalog := (initGame_opened hinit).ofCatalog
  have hg := Game.Reachable.played hcatalog hpile htop hc₀ hp hplayed
  have hcaravan : c.definition = Catalog.caravan :=
    Registry.eq_of_filter (p := fun d => d.name == "Caravan") rfl
      ((hg.ofCatalog hcatalog).1.registered _ c hc) hname
  exact ⟨s₀, _, card, c, c', p', hinit, hg, beq_iff_eq.mp hseats, hp', of_decide_eq_true hinPlay, hc,
    hcaravan, beq_iff_eq.mp hnone, hc', beq_iff_eq.mp hone⟩

/-- A player who has played a Caravan and carries it out: the other player keeps everything. -/
theorem others_left_alone_by_caravan : ∃ s₀ g card p₀ p₁, initGame Registry.catalog
      { players := ["Player 1", "Player 2"], kingdom := .preset "durations" } = .ok s₀ ∧
    let o : Operation := .call (.resolve card ⟨0⟩)
    Game.Reachable (M := Table) s₀ g ∧ o.For g.state ⟨0⟩ ∧ o.Inoffensive g ∧
    g.state.player? ⟨0⟩ = some p₀ ∧ card ∈ p₀.inPlay ∧
    g.state.player? ⟨1⟩ = some p₁ ∧ (o.apply g).state.player? ⟨1⟩ = some p₁ ∧
    ∀ held ∈ p₁.allCards, (o.apply g).state.card? held = g.state.card? held := by
  obtain ⟨s₀, g, card, c, -, p₀, hinit, hg, hseats, hp₀, hcard, hc, hcaravan, -⟩ :=
    exists_caravan_played 0 (by decide)
  have hsound := (hg.ofCatalog (initGame_opened hinit).ofCatalog).1.sound
  have hseat (i : Nat) (hi : i < 2) : i < g.state.players.length := hi.trans_eq hseats.symm
  obtain ⟨p₁, hp₁⟩ : ∃ p₁, g.state.player? ⟨1⟩ = some p₁ := GameState.player?_of_lt (hseat 1 (by decide))
  have hfor : (Operation.call (.resolve card ⟨0⟩)).For g.state ⟨0⟩ := by
    refine ⟨⟨rfl, hseat 0 (by decide)⟩, ?_⟩
    rintro ⟨other, p, hother, hp, hmem⟩
    exact hother (hsound.owner_unique hp hp₀ hmem
      (PlayerZones.mem_allCards_of_mem_row (show card ∈ p₀.zones.row .inPlay from hcard)))
  have hquiet : (Operation.call (.resolve card ⟨0⟩)).Inoffensive g :=
    Operation.inoffensive_resolve hc (hcaravan ▸ Catalog.caravan_calm _)
  have hother : (⟨1⟩ : PlayerId) ≠ ⟨0⟩ := by decide
  have halone := others_left_alone hinit hg (hseat 0 (by decide)) hfor hquiet hother
  exact ⟨s₀, g, card, p₀, p₁, hinit, hg, hfor, hquiet, hp₀, hcard, hp₁, halone.1.trans hp₁,
    halone.2 p₁ hp₁⟩

/-- Carrying out a card that the other player has in play is another matter: what a Caravan leaves to be done
later waits on the other's card. -/
theorem not_left_alone_by_others_card : ∃ s₀ g card p₁, initGame Registry.catalog
      { players := ["Player 1", "Player 2"], kingdom := .preset "durations" } = .ok s₀ ∧
    let o : Operation := .call (.resolve card ⟨0⟩)
    Game.Reachable (M := Table) s₀ g ∧ g.state.players.length = 2 ∧ o.Inoffensive g ∧
    g.state.player? ⟨1⟩ = some p₁ ∧ card ∈ p₁.inPlay ∧
    (g.state.card? card).map (·.durations.length) = some 0 ∧
    ((o.apply g).state.card? card).map (·.durations.length) = some 1 := by
  obtain ⟨s₀, g, card, c, c', p₁, hinit, hg, hseats, hp₁, hcard, hc, hcaravan, hnone, hc', hone⟩ :=
    exists_caravan_played 1 (by decide)
  refine ⟨s₀, g, card, p₁, hinit, hg, hseats,
    Operation.inoffensive_resolve hc (hcaravan ▸ Catalog.caravan_calm _), hp₁, hcard, ?_, ?_⟩
  · rw [hc, Option.map_some, hnone]
  · rw [hc', Option.map_some, hone]

end DeckBuilder
