import DeckBuilder.Proofs.ReckonedCards
import DeckBuilder.Proofs.TurnBoundary
import DeckBuilder.Proofs.TurnEnd

/-!
Reckoned turns. All moments of a game with the catalog are reckoned, from the opening on, whoever
answers and however many turns are played, be they done or given up. The phases of a turn lead from one
reckoned moment to another; the clean-up clears prices and what waits on plays, and passes the turn on,
so that nothing of what has happened counts any more.
-/
namespace DeckBuilder

open Catalog Happening

namespace Engine

variable {M : Type} [Controllers M] {id : PlayerId}

/-! ### The phases -/

theorem reckoning_askUntil {β : Type} (other : PlayerId) (q : Question) (what : String)
    (accept : q.Answer → Option β) :
    Reckoning id (askUntil other q what accept : Engine (Chronicled M) β) :=
  .of_discreet (discreet_of_heeds
    (askUntil_heeds (Q := fun _ => True) other what fun _ _ _ => trivial) fun _ hI =>
    .askTimes hI.abiding other q what accept attempts)

theorem reckoning_playOut (card : CardId) :
    Reckoning id (playOutTold (M := Chronicled M) .faithful id card) :=
  (reckoning_play telling_runTold card).bind fun _ => reckoning_resolve runTold_reckonsSteps card

theorem reckoning_buy (pile : String) :
    Reckoning id (buy (runTold (M := Chronicled M) .faithful) pile id) :=
  .of_discreet (discreet_buy trivial trivial pile)

theorem reckoning_actionPhase (n : Nat) :
    Reckoning id (actionPhaseTold (M := Chronicled M) .faithful id n) := by
  induction n with
  | zero => exact .endless
  | succ n ih =>
    refine Reckoning.look.bind fun _ => (Reckoning.player id).bind fun p => ?_
    refine .ite (fun _ => .pure _) fun _ => ?_
    refine Reckoning.bind (.of_upholds (Upholds.handWhere id _)) fun playable => ?_
    refine .ite (fun _ => .pure _) fun _ => (reckoning_askUntil _ _ _ _).bind fun choice => ?_
    cases choice with
    | none => exact .pure _
    | some card =>
      exact (Reckoning.onTableau id _).bind fun _ => (reckoning_playOut card).bind fun _ => ih

theorem reckoning_treasurePhase (n : Nat) :
    Reckoning id (treasurePhaseTold (M := Chronicled M) .faithful id n) := by
  induction n with
  | zero => exact .endless
  | succ n ih =>
    refine Reckoning.look.bind fun _ => ?_
    refine Reckoning.bind (.of_upholds (Upholds.handWhere id _)) fun playable => ?_
    refine .ite (fun _ => .pure _) fun _ => (reckoning_askUntil _ _ _ _).bind fun choice => ?_
    cases choice with
    | none => exact .pure _
    | some cards =>
    cases cards with
    | nil => exact .pure _
    | cons first rest =>
      exact (Reckoning.forM reckoning_playOut (first :: rest)).bind fun _ => ih

theorem reckoning_purchases (n : Nat) :
    Reckoning id (purchasesTold (M := Chronicled M) .faithful id n) := by
  induction n with
  | zero => exact .endless
  | succ n ih =>
    refine Reckoning.look.bind fun _ => Reckoning.state.bind fun s => ?_
    refine .ite (fun _ => .pure _) fun _ => (reckoning_askUntil _ _ _ _).bind fun choice => ?_
    cases choice with
    | none => exact .pure _
    | some pile =>
      refine (reckoning_buy pile).bind fun _ => (Reckoning.player id).bind fun p => ?_
      exact Reckoning.bind (.modifyState fun _ => .aside rfl rfl rfl fun _ => rfl) fun _ => ih

theorem reckoning_buyPhase :
    Reckoning id (buyPhaseTold (M := Chronicled M) .faithful id) := by
  refine Reckoning.bind (.modifyState fun _ => .aside rfl rfl rfl fun _ => rfl) fun _ => ?_
  refine Reckoning.state.bind fun s => (reckoning_treasurePhase s.patience).bind fun _ => ?_
  exact Reckoning.state.bind fun s => reckoning_purchases (s.supply.size + 1)

/-! ### The start of a turn -/

/-- What waits on a card is run: it may pay, draw, and bring its card back into play. -/
theorem reckoning_callback {callback : EffectContext → Program}
    (hcallback : Hooks.catalog.duration callback) (holder : CardId) :
    Reckoning id (runTold (M := Chronicled M) .faithful (callback ⟨holder, id⟩)) := by
  rcases hcallback with rfl | ⟨effects, hplain, rfl⟩
  · intro n hn
    refine telling_runTold.ensures (fun hne => absurd rfl hne) fun depth => ?_
    have hmove := reckoning_lookBoth (M := M)
      (show Reckoning id _ from reckoning_move holder id .inPlay .top)
    refine Script.Leads.once (Script.Leads.callBind ?_)
    refine (reckoning_lookBoth (Reckoning.onTableau id _) n hn).imp fun _ n₁ hn₁ => ?_
    exact Script.Leads.callBind ((hmove n₁ hn₁).imp fun _ _ h => Script.Leads.pure h)
  · have hwithin : (doLater effects ⟨holder, id⟩).Within .unswayed :=
      Script.Within.once (.steps (plainAll_within trivial hplain))
    exact fun n hn => telling_runTold.within fun depth =>
      Reckoning.of_discreet (discreet_runToldWithin hwithin depth) n hn

theorem reckoning_fireDurations :
    Reckoning id (fireDurations (runTold (M := Chronicled M) .faithful) id) := by
  refine (Reckoning.player id).bind fun p => Reckoning.state.bind fun s => ?_
  refine Reckoning.forM (fun holder n hn => ?_) _
  rw [ensures_bind, ensures_card]
  cases hc : n.state.card? holder with
  | none => exact fun _ => hn
  | some c =>
    have hdurations := hn.now.tame.hooks holder c hc
    have hcleared : n.state.Unswayed { n.state with
        cards := n.state.cards.modify holder fun c => { c with durations := [] } } :=
      .hang n.state holder (fun _ => rfl) fun _ _ => List.forall_mem_nil _
    refine ensures_bind.mpr (ensures_modifyState.mpr (ensures_bind.mpr ?_))
    refine (ensures_keepers (I := fun n' => n'.Reckons id) (hn.unsway hcleared) ?_).imp ?_
    · intro callback hcallback n₁ hn₁
      exact reckoning_callback (hdurations callback hcallback) holder n₁ hn₁
    · rintro kept n₁ ⟨hn₁, hkept⟩
      have hheld : Reckoning id (Engine.card holder : Engine (Chronicled M) Card) :=
        .of_upholds (Upholds.card holder)
      refine hheld.bind (fun _ => .modifyState fun s => ?_) n₁ hn₁
      refine .hang s holder (fun _ => rfl) fun c hc => List.forall_mem_append.mpr ⟨?_, hc⟩
      exact fun callback hcallback => hdurations callback (hkept.mem hcallback)

/-- Nothing reacts to the start of a turn. -/
theorem reckoning_fireStart (player : PlayerId) :
    Reckoning id (fireReactions (runTold (M := Chronicled M) .faithful) (.startTurn player)) := by
  intro n hn
  rw [fireReactions, ensures_bind, ensures_state, ensures_bind]
  cases hfound : n.state.candidates (ReactionTrigger.startTurn player).kind with
  | error e => exact fun _ => hn
  | ok found =>
    have hnone : found = [] := by
      refine List.eq_nil_iff_forall_not_mem.mpr fun k hk => ?_
      obtain ⟨c, hc, hreaction⟩ := GameState.candidates_card hfound hk
      have hstart := Registry.onStartTurn_eq_none (hn.now.tame.registered k.card c hc)
      rw [show c.definition.reactions.get? _ = c.definition.reactions.onStartTurn from rfl, hstart]
        at hreaction
      cases hreaction
    rw [hnone]
    exact hn

theorem reckoning_startTurn {n : Game (Chronicled M)} (hn : n.Reckons id) :
    Ensures (startTurnBy (runTold .faithful)) n (fun _ n' => n'.Reckons id) (Game.GivenUp id) := by
  refine ensures_bind.mpr (ensures_active.mpr ?_)
  rw [hn.turn]
  have hrest : Reckoning id (do
      modifyState fun s =>
        { s with turn := s.turn + 1, phase := .action, turnStart := s.events.lastSeq }
      modifyPlayer id (·.onTableau fun t => { t with turns := t.turns + 1 })
      publish id .startTurn
      fireDurations (runTold (M := Chronicled M) .faithful) id
      fireReactions (runTold (M := Chronicled M) .faithful) (.startTurn id)) :=
    Reckoning.bind (.modifyState fun _ => .aside rfl rfl rfl fun _ => rfl) fun _ =>
      (Reckoning.onTableau id _).bind fun _ => (Reckoning.publish id .startTurn).bind fun _ =>
        reckoning_fireDurations.bind fun _ => reckoning_fireStart id
  exact hrest n hn

/-! ### The clean-up -/

/-- What a card does at the end of a turn moves cards only. -/
theorem reckoning_cleanUpHook (card : CardId) :
    Reckoning id (cleanUpHook (runTold (M := Chronicled M) .faithful) id card) := by
  intro n hn
  refine ensures_bind.mpr (ensures_definition.mpr ?_)
  cases hc : n.state.card? card with
  | none => exact fun _ => hn
  | some c =>
    have hmild := (hn.now.tame.ready.cards card c hc).cleanUp noCard ⟨card, id⟩ not_false
    refine Reckoning.bind (.player id) (fun p => .ite (fun _ => ?_) fun _ => .pure _) n hn
    exact .of_discreet (discreet_executeAll (M := M) hmild).of_modest

theorem reckoning_draw (count : Nat) :
    Reckoning id (draw id count : Engine (Chronicled M) (List CardId)) :=
  .of_discreet (discreet_of_heeds (draw_heeds id count) fun _ hI => .draw hI.abiding id count)

end Engine

namespace GameState

variable {s : GameState} {id : PlayerId} {past : List Happening}

/-- The turn is passed on, and nothing waits on plays any more. -/
theorem reckoned_passed (h : Moment.Reckoned ⟨past, s⟩) (hid : s.activePlayer = id) {p : Player}
    (hp : s.player? id = some p) (tableau : Tableau) :
    Moment.Reckoned ⟨.passed :: past, (s.setPlayer id { toTableau := tableau }).passed⟩ := by
  have hnone : ∀ other, ∀ triggers ∈ (s.setPlayer id { toTableau := tableau }).passed.plays? other,
      triggers = [] := by
    intro other triggers htriggers
    change triggers ∈ (s.setPlayer id { toTableau := tableau }).plays? other at htriggers
    rw [plays?_setPlayer hp] at htriggers
    by_cases hother : id = other
    · rw [if_pos hother] at htriggers
      exact (Option.some.inj htriggers).symm
    · rw [if_neg hother] at htriggers
      exact h.others other (hid ▸ Ne.symm hother) triggers htriggers
  have hpos : 0 < (s.setPlayer id { toTableau := tableau }).players.length := by
    rw [length_players_setPlayer]
    exact Nat.zero_lt_of_lt (seat_lt_of_player? hp)
  obtain ⟨next, hnext⟩ : ∃ next, (s.setPlayer id { toTableau := tableau }).passed.player?
      (s.setPlayer id { toTableau := tableau }).passed.activePlayer = some next :=
    player?_of_lt (Nat.mod_lt _ hpos)
  refine ⟨?_, rfl, fun _ => ?_, fun other _ => hnone other⟩
  · have htame : (s.setPlayer id { toTableau := tableau }).Tame :=
      h.tame.setPlayer ⟨fun _ _ hlocked => hlocked, by simp, by simp⟩
    exact htame.congr (fun _ => rfl) htame.ready.players
  · have hplays := hnone _ next.playTriggers (Option.map_eq_some_iff.mpr ⟨next, hnext, rfl⟩)
    rw [plays?, hnext, Option.map_some, hplays]
    rfl

end GameState

namespace Engine

variable {M : Type} [Controllers M] {id : PlayerId} {n : Game (Chronicled M)}

theorem reckoning_cleanUpRest (hn : n.Reckons id) :
    Ensures (cleanUpRest id) n (fun _ n' => (n'.heard .passed).Reckons n'.state.activePlayer)
      (Game.GivenUp id) := by
  refine ensures_bind.mpr ?_
  refine (Reckoning.player id n hn).imp fun p n₁ hn₁ => ensures_bind.mpr ?_
  have hdone : Reckoning id (p.inPlay.filterM fun c => do
      return (← card c).cleansUp : Engine (Chronicled M) (List CardId)) :=
    .of_upholds (Upholds.filterM (fun c => .bind (.card c) fun _ => .pure _) _)
  refine (hdone n₁ hn₁).imp fun done n₂ hn₂ => ensures_bind.mpr ?_
  refine (Reckoning.onTableau id _ n₂ hn₂).imp fun _ n₃ hn₃ => ensures_bind.mpr ?_
  refine (Reckoning.publish id .cleanUp n₃ hn₃).imp fun _ n₄ hn₄ => ensures_bind.mpr ?_
  refine (reckoning_draw handSize n₄ hn₄).imp fun _ n₅ hn₅ => ensures_bind.mpr ?_
  obtain ⟨q, hq, -⟩ := hn₅.player
  rw [ensures_modifyPlayer, hq]
  have hnow := GameState.reckoned_passed hn₅.now hn₅.turn hq q.toTableau.resetCounters
  exact Game.reckons_heard rfl hnow nofun hn₅.ever

theorem reckoning_cleanUp (hn : n.Reckons id) :
    Ensures (cleanUpTold (M := Chronicled M) .faithful) n
      (fun _ n' => n'.Reckons n'.state.activePlayer) (Game.GivenUp id) := by
  refine ensures_bind.mpr (ensures_bind.mpr (ensures_active.mpr ?_))
  rw [hn.turn]
  refine ensures_bind.mpr (ensures_modifyState.mpr (ensures_bind.mpr ?_))
  have hhooks : Reckoning id (cleanUpHooks (runTold (M := Chronicled M) .faithful) id) :=
    (Reckoning.player id).bind fun p => .forM reckoning_cleanUpHook p.inPlay
  have hentered : Game.Reckons id ⟨{ n.state with phase := .cleanUp }, n.memory⟩ :=
    hn.unsway (.aside rfl rfl rfl fun _ => rfl)
  refine (hhooks _ hentered).imp fun _ n₁ hn₁ => ?_
  exact (reckoning_cleanUpRest hn₁).imp fun _ _ h => h

/-! ### Turns -/

theorem reckoning_turn (hn : n.Reckons id) :
    Ensures (turnTold (M := Chronicled M) .faithful) n
      (fun _ n' => n'.Reckons n'.state.activePlayer) (Game.GivenUp id) := by
  refine ensures_bind.mpr ((reckoning_startTurn hn).imp fun _ n₁ hn₁ => ?_)
  refine ensures_bind.mpr (ensures_active.mpr ?_)
  rw [hn₁.turn, ensures_bind, ensures_state]
  refine ensures_bind.mpr ((reckoning_actionPhase _ n₁ hn₁).imp fun _ n₂ hn₂ => ?_)
  refine ensures_bind.mpr ((reckoning_buyPhase n₂ hn₂).imp fun _ n₃ hn₃ => ?_)
  exact reckoning_cleanUp hn₃

omit [Controllers M] in
theorem reckoning_finish (turns : Nat) (reason : EndReason) :
    Reckoning id (finish turns reason : Engine (Chronicled M) GameResult) := by
  refine Reckoning.state.bind fun s => Reckoning.bind (.of_upholds (Upholds.lift _)) fun winners => ?_
  refine Reckoning.state.bind fun s => Reckoning.bind (.of_upholds (Upholds.lift _)) fun standings => ?_
  exact (Reckoning.publish _ _).bind fun _ => .pure _

theorem reckoning_playTurn (hn : n.Reckons n.state.activePlayer) (maxTurns elapsed : Nat) :
    Ensures (playTurnTold (M := Chronicled M) .faithful maxTurns elapsed) n
      (fun _ n' => n'.Reckons n'.state.activePlayer)
      (fun r n' => r ≠ .endless → n'.Reckons n'.state.activePlayer) := by
  have hown : ∀ {id} {n' : Game (Chronicled M)}, n'.Reckons id → n'.Reckons n'.state.activePlayer :=
    fun h => h.turn.symm ▸ h
  refine ensures_bind.mpr ((reckoning_turn hn).mono (fun _ n₁ hn₁ => ?_) fun r _ h hne => hown (h hne))
  rw [ensures_bind, ensures_state]
  cases n₁.state.ending? maxTurns (elapsed + 1) with
  | none => exact hn₁
  | some reason =>
    have hfinish : Reckoning n₁.state.activePlayer (do
        return some (← finish (elapsed + 1) reason) : Engine (Chronicled M) (Option GameResult)) :=
      (reckoning_finish _ _).bind fun _ => .pure _
    exact (hfinish n₁ hn₁).mono (fun _ _ h => hown h) fun _ _ h hne => hown (h hne)

end Engine

/-! ### Games -/

open Engine

variable {M : Type} [Controllers M]

/-- A turn of a game with the catalog, done or given up, leads from a reckoned moment to another. -/
theorem Game.turnChronicled_reckons {n : Game (Chronicled M)} (hcatalog : n.state.OfCatalog)
    (hn : n.Reckons n.state.activePlayer) (turn : Nat × Nat) :
    (n.turnChronicled turn).state.OfCatalog ∧
      (n.turnChronicled turn).Reckons (n.turnChronicled turn).state.activePlayer := by
  have hagrees := Agrees.playTurnTold turn.1 turn.2 n
  constructor
  · have hreached : (n.map Chronicled.memory).Reachable n.state := .opening n.memory.memory
    have hafter := ((hreached.turn turn.1 turn.2).ofCatalog hcatalog).1
    rw [hagrees] at hafter
    exact hafter
  · have hfit : (Contract.any M).Fit (n.map Chronicled.memory) := Contract.fit_any hcatalog
    have hends := ne_endless (Catalog.playTurn_ends turn.1 turn.2 hfit)
    rw [hagrees] at hends
    have hturn := reckoning_playTurn hn turn.1 turn.2
    rw [Game.turnChronicled]
    cases hrun : (playTurnTold (M := Chronicled M) .faithful turn.1 turn.2).runOn n with
    | mk value n' =>
    rw [hrun] at hends
    cases value with
    | ok result => exact (hturn.ended hrun).seen
    | error r => exact (hturn.stopped hrun fun heq => hends (congrArg Except.error heq)).seen

/-- No card has been played yet, and no price has been changed. -/
theorem initGame_reckoned {config : GameConfig} {s₀ : GameState}
    (hinit : initGame Registry.catalog config = .ok s₀) : Moment.Reckoned { state := s₀ } := by
  have hcatalog := (initGame_opened hinit).ofCatalog
  obtain ⟨s₁, hlaid, hdealt⟩ := initGame_laid hinit
  have hprices : s₀.costModifiers = [] := by
    have hallows : Licence.unswayed.Allows s₁ s₀ := Setup.Dealt.allows hdealt
    rw [hallows.prices not_false, hlaid.costModifiers]
  -- nothing waits on any player, so what waits does whatever one wants
  have hnone : ∀ other, ∀ triggers ∈ s₀.plays? other, triggers = [] := by
    intro other triggers htriggers
    obtain ⟨p, hp, rfl⟩ := Option.map_eq_some_iff.mp htriggers
    have hunhooked := (initGame_opened hinit).unhooked ⟨fun _ => True, fun _ => False, fun _ => True⟩
    exact List.eq_nil_iff_forall_not_mem.mpr
      (hunhooked.players p (GameState.player?_mem hp)).play
  obtain ⟨p, hp⟩ : ∃ p, s₀.player? s₀.activePlayer = some p :=
    GameState.player?_of_lt hcatalog.sound.active
  refine ⟨⟨hcatalog.registered, hcatalog.hooks.cards, ?_⟩, hprices, fun _ => ?_, fun other _ =>
    hnone other⟩
  · exact hcatalog.ready (fun _ _ _ _ h => h) (fun _ _ _ _ h => h) fun _ _ h => h
  · have hplays := hnone _ p.playTriggers (Option.map_eq_some_iff.mpr ⟨p, hp, rfl⟩)
    change s₀.plays? s₀.activePlayer = some []
    rw [GameState.plays?, hp, Option.map_some, hplays]

/-- All moments of a chronicle are reckoned. -/
theorem Game.chronicle_reckons {config : GameConfig} {s₀ : GameState}
    (hinit : initGame Registry.catalog config = .ok s₀) (memory : M) (turns : List (Nat × Nat)) :
    let n := Game.chronicle ⟨s₀, memory⟩ turns
    n.Reckons n.state.activePlayer := by
  have hplay : ∀ (turns : List (Nat × Nat)) (n : Game (Chronicled M)), n.state.OfCatalog →
      n.Reckons n.state.activePlayer →
      let n' := turns.foldl Game.turnChronicled n
      n'.Reckons n'.state.activePlayer := by
    intro turns
    induction turns with
    | nil => exact fun _ _ hn => hn
    | cons turn rest ih =>
      intro n hcatalog hn
      obtain ⟨hcatalog', hn'⟩ := turnChronicled_reckons hcatalog hn turn
      exact ih _ hcatalog' hn'
  have hfirst := initGame_reckoned hinit
  refine hplay turns _ (initGame_opened hinit).ofCatalog ⟨rfl, hfirst, nofun, ?_⟩
  exact List.forall_mem_singleton.mpr hfirst

end DeckBuilder
