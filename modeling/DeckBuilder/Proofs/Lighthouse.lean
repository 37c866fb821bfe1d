import DeckBuilder.Proofs.OnGuard
import DeckBuilder.Proofs.TurnBoundary
import DeckBuilder.Proofs.Turns

/-!
The Lighthouse keeps attacks off. A turn is played under watch, and it is stopped as soon as an attack
is about to be carried out against a player who is on guard. Part by part it is shown that the turn goes
on as if nobody watched: in the phases and at the end of the turn the guards stay where they are, and at
the start of a turn those of the player whose turn it is are relieved before their cards come back into
play.
-/
namespace DeckBuilder

namespace GameState

variable {s s' : GameState} {id : PlayerId}

namespace Guarding

/-- Nothing but players, cards and what was played matters to the guards. -/
theorem congr (h : s.Guarding noCard) (hcards : ∀ card, s'.definition? card = s.definition? card)
    (hplayers : s'.players = s.players) (hdeeds : s'.deeds = s.deeds) : s'.Guarding noCard := by
  refine h.step hcards ?_ ?_
  · intro id card hcard
    rw [played_congr hdeeds] at hcard
    exact Or.inl hcard
  · rintro id card - - ⟨p, hp, hcard⟩
    refine ⟨p, ?_, hcard.imp_right fun h => h.1.elim⟩
    rw [player?, hplayers]
    exact hp

/-- A player's cards are arranged anew, and those that are set aside stay where they are unless the
player's guards have been relieved. -/
theorem setPlayer (h : s.Guarding noCard) {p : Player} (hp : s.player? id = some p) (p' : Player)
    (haside : s.played id ≠ [] → ∀ card ∈ p.zones.setAside, card ∈ p'.zones.setAside) :
    (s.setPlayer id p').Guarding noCard := by
  refine h.step (fun _ => rfl) (fun _ _ hcard => Or.inl hcard) ?_
  rintro other card hcard - ⟨q, hq, hmem⟩
  have hmem := hmem.resolve_right fun h => h.1
  rw [Posted, player?_setPlayer (seat_lt_of_player? hp)]
  by_cases hother : id = other
  · rw [← hother, hp] at hq
    obtain rfl := Option.some.inj hq
    rw [if_pos hother]
    rw [← hother] at hcard
    exact ⟨p', rfl, Or.inl (haside (List.ne_nil_of_mem hcard) card hmem)⟩
  · rw [if_neg hother]
    exact ⟨q, hq, Or.inl hmem⟩

theorem startTurn (h : s.Guarding noCard) (id : PlayerId) :
    (s.publish id .startTurn).Guarding noCard := by
  refine h.step (fun _ => rfl) ?_ fun _ _ _ _ hposted => hposted
  intro other card hcard
  rw [played_publish_startTurn] at hcard
  by_cases hother : id = other
  · rw [if_pos hother] at hcard
    exact absurd hcard List.not_mem_nil
  · rw [if_neg hother] at hcard
    exact Or.inl hcard

end Guarding

/-- Another phase of the turn begins. -/
theorem Watchful.enter (h : s.Watchful id) (phase : Phase) : s.Warded id { s with phase } :=
  h.step (.of_and (h.midway.aside rfl (fun _ => rfl) rfl rfl rfl))
    (h.guarding.congr (fun _ => rfl) rfl rfl)

/-! ### When the guards are relieved -/

/-- The player's turn has begun: nothing that the player has played before is a guard any more. What
waits on cards is what cards of the game hang on themselves. -/
structure Relieved (id : PlayerId) (s : GameState) : Prop where
  guarding : s.Guarding noCard
  played : s.played id = []
  hung : ∀ card, ∀ t ∈ s.durations card, ∃ d : CardDefinition, d.Hangs t

namespace Relieved

theorem frozen (h : s.Relieved id) (hallows : Licence.frozen.Allows s s') : s'.Relieved id where
  guarding := h.guarding.frozen hallows
  played := (played_congr hallows.deeds id).trans h.played
  hung card t ht := by
    obtain ⟨hung, hall, heq⟩ := hallows.durations card
    rw [heq] at ht
    rcases List.mem_append.mp ht with ht | ht
    · exact h.hung card t ht
    · exact (hall t ht).elim

theorem setPlayer (h : s.Relieved id) {p : Player} (hp : s.player? id = some p) (p' : Player) :
    (s.setPlayer id p').Relieved id where
  guarding := h.guarding.setPlayer hp p' fun hplayed => absurd h.played hplayed
  played := h.played
  hung := h.hung

/-- Other programs wait on a card. -/
theorem hang (h : s.Relieved id) (card : CardId) {f : Card → Card}
    (hf : ∀ c, (f c).definition = c.definition)
    (hhangs : ∀ c, s.card? card = some c → ∀ t ∈ (f c).durations, ∃ d : CardDefinition, d.Hangs t) :
    ({ s with cards := s.cards.modify card f } : GameState).Relieved id := by
  have hget : ∀ other, GameState.card? { s with cards := s.cards.modify card f } other =
      if card = other then (s.card? other).map f else s.card? other :=
    fun other => s.cards.get?_modify card other f
  refine ⟨h.guarding.congr ?_ rfl rfl, h.played, ?_⟩
  · intro other
    rw [definition?, hget, definition?]
    by_cases hother : card = other
    · rw [if_pos hother, Option.map_map]
      cases s.card? other with
      | none => rfl
      | some c => exact congrArg some (hf c)
    · rw [if_neg hother]
  · intro other t ht
    rw [durations, hget] at ht
    by_cases hother : card = other
    · rw [if_pos hother, ← hother] at ht
      cases hc : s.card? card with
      | none => simp [hc] at ht
      | some c =>
        rw [hc] at ht
        exact hhangs c hc t ht
    · rw [if_neg hother] at ht
      exact h.hung other t ht

end Relieved

/-- The state in which the turn has begun, and nothing is run yet. -/
theorem Watchful.begun (h : s.Watchful id) {p : Player} (hp : s.player? id = some p) :
    (s.begun id p).Relieved id where
  guarding := by
    have hcounted : ({ s with
        turn := s.turn + 1, phase := .action, turnStart := s.events.lastSeq } :
          GameState).Guarding noCard := h.guarding.congr (fun _ => rfl) rfl rfl
    exact (hcounted.setPlayer hp (p.onTableau fun t => { t with turns := t.turns + 1 })
      fun _ _ hcard => hcard).startTurn id
  played := by
    rw [GameState.begun, played_publish_startTurn, if_pos rfl]
  hung card t ht := by
    have hpending : s.Pending card := List.ne_nil_of_mem ht
    obtain ⟨d, hd, -⟩ := h.midway.lasting hpending
    exact ⟨d, h.midway.hung card d hd t ht⟩

end GameState

namespace Engine

variable {M : Type} {id : PlayerId} {card : CardId} {g : Game M}

/-- What a part of the turn does under watch: it goes on as if nobody watched, if the guards stay where
they are. -/
theorem sameRun_watched {α : Type} {e e' : Engine M α} (h : g.state.Watchful id)
    (hcoupled : Coupled Eq (fun _ g => ¬ g.state.Shielded) e e')
    (hwatched : Ensures e' g (fun _ g' => g'.state.Guarding noCard) fun _ g' => g'.state.Shielded)
    (hrun : Ensures e g (fun _ g' => g.state.Underway id g'.state) fun _ _ => True) :
    SameRun e e' g fun _ g' => g.state.Warded id g'.state :=
  ((hcoupled.sameRun hwatched).and hrun).imp fun _ _ h' => h.step h'.2 h'.1

/-! ### The start of a turn -/

theorem move_relieved (h : g.state.Relieved id) (card : CardId) (target : Zone) (position : Position) :
    Ensures (move card id target position) g (fun _ g' => g'.state.Relieved id)
      fun _ g' => g'.state.Relieved id := by
  rw [move, ensures_step, GameState.move]
  cases hp : g.state.player? id with
  | none => exact h
  | some p =>
  dsimp only
  cases p.zones.locate card with
  | none => exact h.frozen (.onLogger _ _)
  | some source =>
    have hmoved := h.setPlayer hp
      { p with toTableau := (p.toTableau.transfer card source target position).2 }
    dsimp only
    by_cases hdone : (p.toTableau.transfer card source target position).1 = true
    · rw [if_pos hdone]
      exact hmoved.frozen (.publish _ id (fun _ => rfl) rfl)
    · rw [if_neg hdone]
      exact hmoved.frozen (.onLogger _ _)

theorem draw_relieved (h : g.state.Relieved id) (n : Nat) :
    Ensures (draw id n) g (fun _ g' => g'.state.Relieved id) fun _ g' => g'.state.Relieved id := by
  rw [draw, ensures_step]
  cases hdraw : g.state.draw id n with
  | error e => exact h
  | ok drawn => exact h.frozen (.draw hdraw)

theorem credit_relieved (h : g.state.Relieved id) (counter : Counter) (n : Nat) :
    Ensures (modifyPlayer id (·.onTableau (·.credit n counter))) g
      (fun _ g' => g'.state.Relieved id) fun _ g' => g'.state.Relieved id := by
  rw [ensures_modifyPlayer]
  cases hp : g.state.player? id with
  | none => exact h
  | some p => exact h.setPlayer hp _

variable [Controllers M] (halt : Halt)

/-- What waited on a card is run under watch. -/
theorem callback_relieved (h : g.state.Relieved id) {d : CardDefinition}
    {callback : EffectContext → Program} (hhangs : d.Hangs callback) (card : CardId) :
    Ensures (runUntil unshielded halt (callback ⟨card, id⟩)) g (fun _ g' => g'.state.Relieved id)
      fun _ g' => g'.state.Relieved id := by
  simp only [runUntil, ensures_bind, ensures_state]
  generalize g.state.patience = depth
  cases depth with
  | zero => exact h
  | succ depth =>
  have hcredit : ∀ counter n (g : Game M), g.state.Relieved id →
      Ensures (performUntil unshielded halt (runWithinUntil unshielded halt depth)
        (.credit id counter n)) g (fun _ g' => g'.state.Relieved id) fun _ g' => g'.state.Relieved id :=
    fun counter n g h => ensures_performUntil.mpr (credit_relieved h counter n)
  rcases hhangs.2 with ⟨-, rfl⟩ | ⟨-, effects, hplain, rfl⟩
  · refine (ensures_once (.callBind ((hcredit .money 1 g h).imp fun _ g₁ h₁ => ?_))).imp fun _ _ h => h.2
    refine .callBind (ensures_performUntil.mpr ((move_relieved h₁ card .inPlay .top).imp ?_))
    exact fun _ _ h₂ => .pure h₂
  · refine (ensures_once (plain_leads ?_ hcredit hplain h)).imp fun _ _ h => h.2
    exact fun n g h => ensures_performUntil.mpr (draw_relieved h n)

theorem fireDurations_relieved (h : g.state.Relieved id) :
    Ensures (fireDurations (runUntil unshielded halt) id) g (fun _ g' => g'.state.Relieved id)
      fun _ g' => g'.state.Relieved id := by
  simp only [fireDurations, ensures_bind, ensures_player]
  cases g.state.player? id with
  | none => exact h
  | some p =>
  simp only [ensures_state]
  refine ensures_forM h fun holder _ g₁ h₁ => ?_
  simp only [ensures_bind, ensures_card]
  cases hc : g₁.state.card? holder with
  | none => exact h₁
  | some c =>
  have hhangs : ∀ t ∈ c.durations, ∃ d : CardDefinition, d.Hangs t := by
    intro t ht
    refine h₁.hung holder t ?_
    rw [GameState.durations, hc]
    exact ht
  simp only [ensures_modifyState]
  refine (ensures_keepers (I := fun g' => g'.state.Relieved id) ?_ ?_).imp ?_
  · exact h₁.hang holder (fun _ => rfl) fun _ _ _ ht => absurd ht List.not_mem_nil
  · intro t ht g₂ h₂
    obtain ⟨d, hd⟩ := hhangs t ht
    exact callback_relieved halt h₂ hd holder
  · rintro kept g₂ ⟨h₂, hsub⟩
    cases hc₂ : g₂.state.card? holder with
    | none => exact h₂
    | some c₂ =>
      refine h₂.hang holder (fun _ => rfl) fun c₃ hc₃ t ht => ?_
      rcases List.mem_append.mp ht with ht | ht
      · exact hhangs t (hsub.mem ht)
      · refine h₂.hung holder t ?_
        rw [GameState.durations, hc₃]
        exact ht

/-! ### The parts of a turn -/

/-- When a turn starts, the player's guards are relieved, and all others stay. -/
theorem startTurn_relieves (h : g.state.Watchful id) :
    SameRun (startTurnBy run) (startTurnBy (runUntil unshielded halt)) g
      fun _ g' => g'.state.Guarding noCard := by
  have hwatch := watch_run (M := M) halt
  obtain ⟨p, hp⟩ := GameState.player?_of_lt h.seated
  refine SameRun.after (Catalog.ensures_active.mpr ?_)
  rw [h.active]
  refine SameRun.after (ensures_modifyState.mpr ?_)
  refine SameRun.after (ensures_modifyPlayer.mpr ?_)
  rw [show GameState.player? { g.state with
    turn := g.state.turn + 1, phase := .action, turnStart := g.state.events.lastSeq } id =
    some p from hp]
  refine SameRun.after (ensures_publish.mpr ?_)
  change SameRun _ _ (⟨g.state.begun id p, g.memory⟩ : Game M) _
  have hmidway := (h.midway.begun hp).midway
  have hfire := (fireDurations_relieved halt (g := ⟨g.state.begun id p, g.memory⟩)
    (h.begun hp)).mono (fun _ _ h => h) fun _ _ h => h.guarding.shielded
  refine SameRun.bind ((((Coupled.fireDurations coupling_eq hwatch.coupled id).sameRun hfire).and
    (fireDurations_settles hmidway (GameState.player?_begun hp))).imp ?_)
  rintro _ g₁ ⟨hrelieved, hmidway₁, -⟩
  exact (Coupled.fireReactions coupling_eq hwatch.coupled _).sameRun
    (ensures_fireReactions_startTurn _ hmidway₁ id hrelieved.guarding)

theorem startTurn_watched (h : g.state.Watchful id) :
    SameRun (startTurnBy run) (startTurnBy (runUntil unshielded halt)) g
      fun _ g' => g.state.Warded id g'.state := by
  obtain ⟨p, hp⟩ := GameState.player?_of_lt h.seated
  have hsettles := startTurn_settles h.active h.midway hp
  rw [← startTurnBy_run] at hsettles
  exact ((startTurn_relieves halt h).and hsettles).imp fun _ _ h' => h.step h'.2.1 h'.1

/-- A card is played and carried out. -/
theorem playOut_watched (h : g.state.Watchful id)
    (hcard : g.state.Lasting card → ∃ p, g.state.player? id = some p ∧ card ∈ p.allCards) :
    SameRun (playOut run id card) (playOut (runUntil unshielded halt) id card) g
      fun _ g' => g.state.Warded id g'.state := by
  have hwatch := watch_run (M := M) halt
  have hcoupled := Coupled.bind (Coupled.play coupling_eq hwatch.coupled card id) fun _ =>
    Coupled.resolve coupling_eq hwatch.coupled card id
  refine sameRun_watched h hcoupled ?_ (playAndResolve_underway h.midway h.seated hcard)
  refine ensures_bind.mpr ((play_guards hwatch h card).imp ?_)
  rintro _ g₁ ⟨hguarding₁, h₁, hlies⟩
  refine (resolve_guards hwatch run_resolves (runUntil_guards halt) h₁.midway
    (h₁.keeps.activePlayer.trans h.active) ?_ hguarding₁).imp fun _ _ h₂ => h₂.1
  intro hlasting
  rw [GameState.Lasting, h₁.keeps.definitions] at hlasting
  obtain ⟨p, hp, hmem⟩ := hcard hlasting
  exact hlies p hp hmem hlasting

theorem actionPhase_watched (n : Nat) (h : g.state.Watchful id) :
    SameRun (actionPhaseBy run id n) (actionPhaseBy (runUntil unshielded halt) id n) g
      fun _ g' => g.state.Warded id g'.state := by
  induction n generalizing g with
  | zero => exact .refl trivial
  | succ n ih =>
    obtain ⟨p, hp⟩ := GameState.player?_of_lt h.seated
    refine SameRun.after (ensures_player.mpr ?_)
    rw [hp]
    refine .ite (fun _ => .refl h.warded) fun _ => ?_
    refine SameRun.after ((ensures_handWhere_eq id _ g).mono ?_ fun _ _ _ => trivial)
    rintro playable g ⟨rfl, q, hq, hplayable⟩
    obtain rfl := Option.some.inj (hp.symm.trans hq)
    refine .ite (fun _ => .refl h.warded) fun _ => ?_
    refine SameRun.after ((chooseAction_ponders id playable _).mono ?_ fun _ _ _ => trivial)
    rintro choice g₁ ⟨hpondered, hchoice⟩
    have h₁ := h.pondered hpondered
    cases choice with
    | none => exact .refl h₁
    | some card =>
      have hcard : card ∈ p.hand := by
        have hmem := hchoice card rfl
        rw [hplayable] at hmem
        exact (List.mem_filter.mp hmem).1
      have hp₁ : g₁.state.player? id = some p := by
        obtain ⟨rng, logger, heq⟩ := hpondered
        rw [heq]
        exact hp
      refine SameRun.after (ensures_modifyPlayer.mpr ?_)
      rw [hp₁]
      dsimp only
      generalize hg₂ : (⟨GameState.setPlayer _ _ _, g₁.memory⟩ : Game M) = g₂
      have h₂ : g₁.state.Warded id g₂.state := by
        rw [← hg₂]
        refine h₁.watchful.step (.of_and (h₁.watchful.midway.recount hp₁ (fun _ => rfl) fun _ => rfl)) ?_
        exact h₁.watchful.guarding.setPlayer hp₁ _ fun _ _ hcard => hcard
      have hheld : ∃ q, g₂.state.player? id = some q ∧ card ∈ q.allCards := by
        rw [← hg₂]
        refine ⟨_, GameState.player?_setPlayer_self _ hp₁, ?_⟩
        exact PlayerZones.mem_allCards_of_mem_row (show card ∈ p.zones.row .hand from hcard)
      refine SameRun.bind ((playOut_watched halt h₂.watchful fun _ => hheld).imp fun _ g₃ h₃ => ?_)
      exact (ih h₃.watchful).imp fun _ _ h₄ => ((h₁.trans h₂).trans h₃).trans h₄

theorem treasurePhase_watched (n : Nat) (h : g.state.Watchful id) :
    SameRun (treasurePhaseBy run id n) (treasurePhaseBy (runUntil unshielded halt) id n) g
      fun _ g' => g.state.Warded id g'.state := by
  induction n generalizing g with
  | zero => exact .refl trivial
  | succ n ih =>
    refine SameRun.after ((ensures_handWhere_eq id _ g).mono ?_ fun _ _ _ => trivial)
    rintro playable g ⟨rfl, p, -, hplayable⟩
    refine .ite (fun _ => .refl h.warded) fun _ => ?_
    refine SameRun.after ((chooseTreasures_ponders id playable _).mono ?_ fun _ _ _ => trivial)
    rintro choice g₁ ⟨hpondered, hchoice⟩
    have h₁ := h.pondered hpondered
    cases choice with
    | none => exact .refl h₁
    | some cards =>
    cases cards with
    | nil => exact .refl h₁
    | cons first rest =>
    refine SameRun.bind ((SameRun.forM (I := fun g' => g.state.Warded id g'.state) h₁
      fun card hcard g₂ h₂ => ?_).imp fun _ g₃ h₃ => ?_)
    · have hmem := hchoice _ rfl card hcard
      rw [hplayable] at hmem
      have hnot := treasure_not_lasting h.midway (List.mem_filter.mp hmem).2
      refine (playOut_watched halt h₂.watchful fun hlasting => ?_).imp fun _ _ h₃ => h₂.trans h₃
      rw [GameState.Lasting, h₂.keeps.definitions] at hlasting
      exact absurd hlasting hnot
    · exact (ih h₃.watchful).imp fun _ _ h₄ => h₃.trans h₄

theorem buy_watched (h : g.state.Watchful id) (pile : String) :
    SameRun (buy run pile id) (buy (runUntil unshielded halt) pile id) g
      fun _ g' => g.state.Warded id g'.state := by
  have hwatch := watch_run (M := M) halt
  have hbuys : (Licence.turn g.state (· = id)).buys := trivial
  have hheeds := buy_heeds (fun _ hp => (hwatch.heeds_watched hp).of_modest) pile hbuys rfl
  exact sameRun_watched h (Coupled.buy coupling_eq hwatch.coupled pile id)
    (hheeds.guards h.midway h.guarding) (buy_underway h.midway h.seated pile)

theorem purchases_watched (n : Nat) (h : g.state.Watchful id) :
    SameRun (purchasesBy run id n) (purchasesBy (runUntil unshielded halt) id n) g
      fun _ g' => g.state.Warded id g'.state := by
  induction n generalizing g with
  | zero => exact .refl trivial
  | succ n ih =>
    refine SameRun.after (ensures_state.mpr ?_)
    refine .ite (fun _ => .refl h.warded) fun _ => ?_
    refine SameRun.after ((choosePurchase_ponders id _ g).mono ?_ fun _ _ _ => trivial)
    rintro choice g₁ ⟨hpondered, -⟩
    have h₁ := h.pondered hpondered
    cases choice with
    | none => exact .refl h₁
    | some pile =>
      refine SameRun.bind ((buy_watched halt h₁.watchful pile).imp fun _ g₂ h₂ => ?_)
      refine SameRun.after (ensures_player.mpr ?_)
      cases g₂.state.player? id with
      | none => exact trivial
      | some p =>
      refine SameRun.after (ensures_verbose.mpr ?_)
      generalize hg₃ : (⟨g₂.state.onLogger _, g₂.memory⟩ : Game M) = g₃
      have hlogged : g₂.state.Pondered g₃.state := by
        rw [← hg₃]
        exact ⟨_, _, rfl⟩
      have h₃ := h₂.trans (h₂.watchful.pondered hlogged)
      exact (ih h₃.watchful).imp fun _ _ h₄ => (h₁.trans h₃).trans h₄

theorem buyPhase_watched (h : g.state.Watchful id) :
    SameRun (buyPhaseBy run id) (buyPhaseBy (runUntil unshielded halt) id) g
      fun _ g' => g.state.Warded id g'.state := by
  refine SameRun.after (ensures_modifyState.mpr ?_)
  generalize hg₁ : (⟨{ g.state with phase := _ }, g.memory⟩ : Game M) = g₁
  have h₁ : g.state.Warded id g₁.state := by
    rw [← hg₁]
    exact h.enter _
  refine SameRun.after (ensures_state.mpr ?_)
  refine SameRun.bind ((treasurePhase_watched halt _ h₁.watchful).imp fun _ g₂ h₂ => ?_)
  refine SameRun.after (ensures_state.mpr ?_)
  exact (purchases_watched halt _ h₂.watchful).imp fun _ _ h₃ => (h₁.trans h₂).trans h₃

theorem onCleanUp_watched (h : g.state.Watchful id) {c : Card} (hc : g.state.card? card = some c)
    (hhook : c.definition.onCleanUp ≠ []) :
    SameRun (executeAll run c.definition.onCleanUp ⟨card, id⟩)
      (executeAll (runUntil unshielded halt) c.definition.onCleanUp ⟨card, id⟩) g
      fun _ g' => g.state.Warded id g'.state := by
  have hwatch := watch_run (M := M) halt
  have hheeds := executeAll_heeds (L := .turn g.state (· = id))
    (fun _ hp => (hwatch.heeds_watched hp).of_modest) (onCleanUp_within h.midway hc hhook)
  exact sameRun_watched h (Coupled.executeAll hwatch.coupled _ _)
    (hheeds.guards h.midway h.guarding) (onCleanUp_underway h.midway h.seated hc hhook)

theorem cleanUpHooks_watched (h : g.state.Watchful id) :
    SameRun (cleanUpHooks run id) (cleanUpHooks (runUntil unshielded halt) id) g
      fun _ g' => g.state.Warded id g'.state := by
  obtain ⟨p, hp⟩ := GameState.player?_of_lt h.seated
  refine SameRun.after (ensures_player.mpr ?_)
  rw [hp]
  refine SameRun.forM (I := fun g' => g.state.Warded id g'.state) h.warded fun card _ g₁ h₁ => ?_
  obtain ⟨p₁, hp₁⟩ := GameState.player?_of_lt h₁.watchful.seated
  refine SameRun.after (ensures_definition.mpr ?_)
  cases hc : g₁.state.card? card with
  | none => exact trivial
  | some c =>
  refine SameRun.after (ensures_player.mpr ?_)
  rw [hp₁]
  refine .ite (fun hhook => ?_) fun _ => .refl h₁
  have hnonempty : c.definition.onCleanUp ≠ [] := by
    have hand := (Bool.and_eq_true_iff.mp hhook).1
    simpa using hand
  exact (onCleanUp_watched halt h₁.watchful hc hnonempty).imp fun _ _ h₂ => h₁.trans h₂

omit [Controllers M] in
/-- The cards that are set aside are not cleaned up. -/
theorem cleanUpRest_guards (h : g.state.Guarding noCard) (id : PlayerId) :
    Ensures (cleanUpRest id) g (fun _ g' => g'.state.Guarding noCard) fun _ _ => True := by
  refine ensures_cleanUpRest fun p done cards s p' hp hdraw hp' => ?_
  have hlaid := h.setPlayer hp (p.onTableau (·.layDown done)) fun _ card hcard => by
    rw [← (p.toTableau.layDown_inPlay done).2] at hcard
    exact hcard
  have hdrawn := (hlaid.frozen (.publish _ id (fun _ => rfl) rfl)).frozen (.draw hdraw)
  have hcleared := hdrawn.setPlayer hp' { toTableau := p'.toTableau.resetCounters }
    fun _ _ hcard => hcard
  exact hcleared.congr (fun _ => rfl) rfl rfl

theorem cleanUp_watched (h : g.state.Watchful id) :
    SameRun (cleanUpBy run) (cleanUpBy (runUntil unshielded halt)) g
      fun _ g' => g'.state.Guarding noCard := by
  refine SameRun.after (Catalog.ensures_active.mpr ?_)
  rw [h.active]
  refine SameRun.after (ensures_modifyState.mpr ?_)
  generalize hg₁ : (⟨{ g.state with phase := _ }, g.memory⟩ : Game M) = g₁
  have h₁ : g.state.Warded id g₁.state := by
    rw [← hg₁]
    exact h.enter _
  refine SameRun.bind ((cleanUpHooks_watched halt h₁.watchful).imp fun _ g₂ h₂ => ?_)
  exact .refl (cleanUpRest_guards h₂.watchful.guarding id)

theorem turn_watched (h : g.state.Watchful id) :
    SameRun (turnBy run) (turnBy (runUntil unshielded halt)) g
      fun _ g' => g'.state.Guarding noCard := by
  refine SameRun.bind ((startTurn_watched halt h).imp fun _ g₁ h₁ => ?_)
  refine SameRun.after (Catalog.ensures_active.mpr ?_)
  rw [h₁.watchful.active]
  refine SameRun.after (ensures_state.mpr ?_)
  refine SameRun.bind ((actionPhase_watched halt _ h₁.watchful).imp fun _ g₂ h₂ => ?_)
  refine SameRun.bind ((buyPhase_watched halt h₂.watchful).imp fun _ g₃ h₃ => ?_)
  exact cleanUp_watched halt h₃.watchful

omit [Controllers M] in
theorem finish_guards (h : g.state.Guarding noCard) (turns : Nat) (reason : EndReason) :
    Ensures (finish turns reason) g (fun _ g' => g'.state.Guarding noCard) fun _ _ => True := by
  rw [ensures_finish]
  cases g.state.standings with
  | error e => exact trivial
  | ok standings => exact h.frozen (.publish _ _ (fun _ => rfl) rfl)

theorem turnBy_run : (turnBy run : Engine M Unit) = turn := by
  simp only [turnBy, turn, startTurnBy_run, actionPhaseBy_run, buyPhaseBy_run, cleanUpBy_run]

/-- A turn, and a look whether the game is over. -/
def playTurnBy (provoke : Program → Engine M Bool) (maxTurns elapsed : Nat) :
    Engine M (Option GameResult) := do
  turnBy provoke
  match (← state).ending? maxTurns (elapsed + 1) with
  | some reason => return some (← finish (elapsed + 1) reason)
  | none => return none

theorem playTurnBy_run (maxTurns elapsed : Nat) :
    (playTurnBy run maxTurns elapsed : Engine M (Option GameResult)) = playTurn maxTurns elapsed := by
  rw [playTurnBy, turnBy_run]
  exact (playTurn_eq maxTurns elapsed).symm

/-- A turn goes on under watch as if nobody watched, and leaves the guards where they are. -/
theorem playTurn_watched (h : g.state.Rested) (hguarding : g.state.Guarding noCard)
    (maxTurns elapsed : Nat) :
    SameRun (playTurn maxTurns elapsed) (playTurnBy (runUntil unshielded halt) maxTurns elapsed) g
      fun _ g' => g'.state.Guarding noCard := by
  rw [← playTurnBy_run]
  have hwatchful : g.state.Watchful g.state.activePlayer :=
    ⟨h.weaken (fun _ h => h.elim) fun _ h => h, rfl, hguarding⟩
  refine SameRun.bind ((turn_watched halt hwatchful).imp fun _ g₁ h₁ => ?_)
  refine SameRun.after (ensures_state.mpr ?_)
  refine .refl ?_
  cases g₁.state.ending? maxTurns (elapsed + 1) with
  | none => exact h₁
  | some reason => exact ensures_map.mpr (finish_guards h₁ _ _)

end Engine

namespace GameState

variable {s s' : GameState}

/-! ### Between the turns -/

theorem Laid.guarding {n : Nat} (h : s.Laid Registry.catalog n) : s.Guarding noCard where
  registered := h.toOpened.ofCatalog.registered
  posted := by
    obtain ⟨kingdom, hevents⟩ := h.events
    intro id card hcard
    rw [played, deeds, hevents] at hcard
    exact absurd hcard List.not_mem_nil

theorem Guarding.dealt (h : s.Guarding noCard) (hdealt : Setup.Dealt s s') : s'.Guarding noCard :=
  h.frozen (Setup.Dealt.allows hdealt)

theorem Between.guarding {s₀ : GameState} (h₀ : s₀.Rested) (hguarding : s₀.Guarding noCard)
    (h : s₀.Between s) : s.Guarding noCard := by
  induction h with
  | opening => exact hguarding
  | @turn M _ g g' result maxTurns elapsed before h ih =>
    have hturn := (Engine.playTurn_watched .endless (before.rested h₀) ih maxTurns elapsed).2
    rw [Engine.Ensures, h] at hturn
    exact hturn

end GameState

open Engine

theorem initGame_guarding {config : GameConfig} {s₀ : GameState}
    (hinit : initGame Registry.catalog config = .ok s₀) : s₀.Guarding noCard := by
  obtain ⟨s₁, hlaid, hdealt⟩ := initGame_laid hinit
  exact hlaid.guarding.dealt hdealt

/-- Ann holds a Lighthouse and four Villages, and Bob a Militia. -/
def watchTable : Game Table where
  state :=
    { cards := (Catalog.lighthouse :: Catalog.militia :: List.replicate 4 Catalog.village).foldl
        (fun cards d => (cards.add { definition := d }).2) {}
      players :=
        [{ id := ⟨0⟩, name := "Ann", zones := { hand := [⟨0⟩, ⟨2⟩, ⟨3⟩, ⟨4⟩, ⟨5⟩] } },
          { id := ⟨1⟩, name := "Bob", zones := { hand := [⟨1⟩] } }]
      supply := { piles := [], baseCount := 0 }
      rng := default }
  memory := Table.ofMinds [.random, .random]

/-- Whether Ann is on guard, and how many cards she has in hand, after what she does and the Militia
that Bob plays then. -/
def militiaAfter (e : Engine Table Unit) : Bool × Option Nat :=
  let pass : Engine Table Unit := modifyState fun s => { s with active := 1 }
  let g := ((do e; pass; playOut run ⟨1⟩ ⟨1⟩) : Engine Table Unit).runOn watchTable |>.2
  (g.state.onGuard ⟨0⟩, (g.state.player? ⟨0⟩).map (·.hand.length))

/-- The Militia makes Ann discard down to three cards, unless she has played the Lighthouse. -/
example : militiaAfter (playOut run ⟨0⟩ ⟨0⟩) = (true, some 4) ∧
    militiaAfter (pure ()) = (false, some 3) := by
  decide +kernel

end DeckBuilder
