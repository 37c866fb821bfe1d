import DeckBuilder.Engine.Turn
import DeckBuilder.Proofs.Played
import DeckBuilder.Proofs.Winning

/-!
Turns and whole games with the catalog. The patience of a state is above its stamina, so nothing that
is run in a turn exhausts it; each action and each round of treasures costs stamina, each purchase a
card of the supply, and each turn one of the turns that are left. Only clean-up puts cards back to
where they can be played from.
-/
namespace DeckBuilder.Catalog

open Engine Script.Leads

variable {M : Type} [Controllers M] {C : Contract M} {g : Game M} {id : PlayerId} {card : CardId}

theorem patience_eq {s : GameState} (hs : s.Sound) :
    ∃ depth, s.patience = depth + 3 ∧ s.stamina < depth := by
  refine ⟨16 * s.cards.size + 253, rfl, ?_⟩
  have hle := hs.stamina_le
  omega

theorem ensures_run {p : Program} {Q : Bool → Game M → Prop} {E : Halt → Game M → Prop}
    (h : ∀ depth, g.state.patience = depth → Ensures (runWithin depth p) g Q E) :
    Ensures (run p) g Q E :=
  (run_provokesAt g).ensures (Kept.refl g.state) (h _ rfl)

/-! ### The start of a turn -/

theorem endWatch_ends {depth : Nat} {ctx : EffectContext} (h : C.Fit g)
    (hid : ctx.player.seat < g.state.players.length) :
    Ensures (runWithin (depth + 1) (endWatch ctx)) g (fun _ => C.Calmly g) C.halts := by
  refine once (callBind ((ensures_credit h.steady_quietly.toFirm h.quietly_refl hid).imp ?_))
  intro _ g₁ hg₁
  refine callBind ((calmly_move (h.quietly hg₁) (hg₁.kept.seated hid) rfl rfl).imp ?_)
  intro _ g₂ hg₂
  exact pure (hg₁.calmly.trans hg₂)

/-- What waits on the cards of a player is done calmly. -/
theorem duration_ends {callback : EffectContext → Program} {c : Card}
    (hcallback : Hooks.catalog.duration callback) (h : C.Fit g)
    (hid : id.seat < g.state.players.length) (hc : g.state.card? card = some c) :
    Ensures (run (callback ⟨card, id⟩)) g (fun _ => C.Calmly g) C.halts := by
  obtain ⟨depth, hpatience, hdepth⟩ := patience_eq h.state.sound
  refine ensures_run fun d hd => ?_
  obtain rfl : d = depth + 3 := hd.symm.trans hpatience
  rcases hcallback with rfl | ⟨effects, hplain, rfl⟩
  · exact endWatch_ends h hid
  · exact once (Settles.plainAll hplain ⟨card, id⟩ g
      ⟨h, hid, ⟨c, hc, rfl⟩, Nat.lt_succ_of_lt hdepth⟩)

omit [Controllers M] in
theorem ensures_active {Q : PlayerId → Game M → Prop} {E : Halt → Game M → Prop} :
    Ensures active g Q E ↔ Q g.state.activePlayer g := Iff.rfl

theorem startTurn_ends (h : C.Fit g) :
    Ensures startTurn g (fun _ => C.Onward g) C.halts := by
  have hid : g.state.activePlayer.seat < g.state.players.length := h.state.sound.active
  obtain ⟨p, hp⟩ := GameState.player?_of_lt hid
  have hp' : GameState.player? { g.state with
      turn := g.state.turn + 1, phase := .action, turnStart := g.state.events.lastSeq }
      g.state.activePlayer = some p := hp
  simp only [startTurn, active, ensures_bind, ensures_state, ensures_pure, ensures_modifyState,
    ensures_modifyPlayer, hp', ensures_publish]
  generalize hid₀ : g.state.activePlayer = id at hid hp hp'
  have hbegin := Change.begin (H := Hooks.catalog) g.state id p hp
  generalize hg₁ : (⟨GameState.publish _ _ _, g.memory⟩ : Game M) = g₁
  have hg : C.Onward g g₁ := by
    rw [← hg₁]
    exact ⟨Changes.single hbegin, h.memory⟩
  have h₁ := h.onward hg
  have hid₁ := hg.kept.seated hid
  refine (ensures_fireDurations h₁.steady_onward.toFirm h₁.onward_refl hid₁ ?_).imp ?_
  · intro callback hcallback holder c g' hg' hc
    refine (duration_ends hcallback (h₁.onward hg') (hg'.kept.seated hid₁) hc).imp ?_
    intro _ g'' hg''
    exact hg'.trans hg''.onward
  · intro _ g₂ hg₂
    have h₂ := h₁.onward hg₂
    refine (ensures_fireReactions h₂.steady_onward.toFirm (.startTurn id) h₂.onward_refl ?_).imp ?_
    · intro k hk
      obtain ⟨c, hc, hreaction⟩ := hk.card
      have hnone := Registry.onStartTurn_eq_none (h₂.state.registered _ _ hc)
      rw [show c.definition.reactions.get? (ReactionTrigger.startTurn id).kind =
        c.definition.reactions.onStartTurn from rfl, hnone] at hreaction
      simp at hreaction
    · intro _ g₃ hg₃
      exact (hg.trans hg₂).trans hg₃

/-! ### Actions and treasures -/

/-- Looking through the hand finds cards in hand. -/
theorem ensures_handWhere {pred : CardFace → Bool} {p : Player} {Q : List CardId → Game M → Prop}
    (h : C.Fit g) (hp : g.state.player? id = some p)
    (hQ : ∀ cards, cards.Sublist p.hand → Q cards g) :
    Ensures (Engine.handWhere id pred) g Q C.halts := by
  simp only [Engine.handWhere, ensures_bind, ensures_player, hp]
  refine (ensures_filterM (I := fun g' => g' = g) rfl ?_).imp ?_
  · rintro card hcard _ rfl
    obtain ⟨-, c, hc⟩ := atHand_hand h.state hp card hcard
    simp only [ensures_bind, ensures_card, hc]
    rfl
  · rintro cards _ ⟨rfl, hsub⟩
    exact hQ cards hsub

theorem resolveRun_ends {c : Card} (h : C.Fit g) (hid : id.seat < g.state.players.length)
    (hc : g.state.card? card = some c) :
    Ensures (resolve run card id) g (fun _ => C.Calmly g) C.halts := by
  obtain ⟨depth, hpatience, hdepth⟩ := patience_eq h.state.sound
  exact resolve_ends (resolvesEnd C depth) (hpatience ▸ run_provokesAt g) h hid hc
    (Nat.lt_succ_of_lt hdepth)

/-- A card is played and carried out. -/
theorem playAndResolve_ends {c : Card} (h : C.Fit g) (hid : id.seat < g.state.players.length)
    (hc : g.state.card? card = some c) :
    Ensures (do play run card id; resolve run card id) g (fun _ => C.Calmly g) C.halts := by
  obtain ⟨depth, hpatience, -⟩ := patience_eq h.state.sound
  rw [ensures_bind]
  have hprovoke : ProvokesAt (depth + 3) g run := hpatience ▸ run_provokesAt g
  refine (calmly_play hprovoke h hid hc).imp ?_
  intro _ g₁ hg₁
  obtain ⟨c₁, hc₁, -⟩ := hg₁.kept.carded hc
  refine (resolveRun_ends (h.calmly hg₁) (hg₁.kept.seated hid) hc₁).imp ?_
  intro _ g₂ hg₂
  exact hg₁.trans hg₂

/-- If it was in hand, that has cost stamina. -/
theorem playAndResolve_spends {p : Player} (h : C.Fit g) (hp : g.state.player? id = some p)
    (hcard : card ∈ p.hand) :
    Ensures (do play run card id; resolve run card id) g
      (fun _ g' => C.Calmly g g' ∧ g'.state.stamina < g.state.stamina) C.halts := by
  obtain ⟨depth, hpatience, -⟩ := patience_eq h.state.sound
  obtain ⟨-, c, hc⟩ := atHand_hand h.state hp card hcard
  rw [ensures_bind]
  have hprovoke : ProvokesAt (depth + 3) g run := hpatience ▸ run_provokesAt g
  refine (play_spends hprovoke h hp hcard).imp ?_
  rintro _ g₁ ⟨hg₁, hless⟩
  obtain ⟨c₁, hc₁, -⟩ := hg₁.kept.carded hc
  have hid₁ := hg₁.kept.seated (GameState.seat_lt_of_player? hp)
  refine (resolveRun_ends (h.calmly hg₁) hid₁ hc₁).imp ?_
  intro _ g₂ hg₂
  exact ⟨hg₁.trans hg₂, Nat.lt_of_le_of_lt hg₂.state.stamina hless⟩

/-- Each action costs stamina. -/
theorem actionPhase_ends {n : Nat} (h : C.Fit g) (hid : id.seat < g.state.players.length)
    (hn : g.state.stamina < n) :
    Ensures (actionPhase id n) g (fun _ => C.Calmly g) C.halts := by
  induction n generalizing g with
  | zero => exact absurd hn (Nat.not_lt_zero _)
  | succ n ih =>
    obtain ⟨p, hp⟩ := GameState.player?_of_lt hid
    simp only [actionPhase, ensures_bind, ensures_player, hp]
    rw [ensures_ite]
    refine ⟨fun _ => h.calmly_refl, fun _ => ?_⟩
    rw [ensures_bind]
    refine ensures_handWhere h hp fun playable hplayable => ?_
    rw [ensures_ite]
    refine ⟨fun _ => h.calmly_refl, fun _ => ?_⟩
    rw [ensures_bind]
    refine (ensures_chooseAction h hid).imp ?_
    rintro choice g₁ ⟨⟨hg₁, hstill⟩, hchoice⟩
    cases choice with
    | none => exact hg₁.calmly
    | some card =>
      have h₁ := h.quietly hg₁
      obtain ⟨p₁, hp₁, hzones⟩ := hstill.player? hp
      have hcard : card ∈ p₁.hand := by
        rw [Tableau.hand, hzones]
        exact hplayable.mem (hchoice card rfl)
      simp only [ensures_bind, ensures_modifyPlayer, hp₁]
      generalize hp₂ : p₁.onTableau (fun t => { t with actions := t.actions - 1 }) = p₂
      have hg₂ : C.Quietly g₁ ⟨g₁.state.setPlayer id p₂, g₁.memory⟩ := by
        rw [← hp₂]
        exact h₁.steady_quietly.adjust h₁.quietly_refl hp₁ rfl rfl rfl
          fun hallow => ⟨hallow.gain, hallow.play⟩
      have hplayer := GameState.player?_setPlayer_self p₂ hp₁
      have hcard₂ : card ∈ p₂.hand := by
        rw [← hp₂]
        exact hcard
      refine (ensures_bind.mp (playAndResolve_spends (h₁.quietly hg₂) hplayer hcard₂)).imp ?_
      intro _ g₃ hresolve
      refine hresolve.imp ?_
      rintro _ g₄ ⟨hg₄, hless⟩
      have hcalm := (hg₁.calmly.trans hg₂.calmly).trans hg₄
      have hle := (hg₁.trans hg₂).state.stamina
      refine (ih (h.calmly hcalm) (hcalm.kept.seated hid) (by omega)).imp ?_
      intro _ g₅ hg₅
      exact hcalm.trans hg₅

/-- Each round of treasures costs stamina. -/
theorem treasurePhase_ends {n : Nat} (h : C.Fit g) (hid : id.seat < g.state.players.length)
    (hn : g.state.stamina < n) :
    Ensures (treasurePhase id n) g (fun _ => C.Calmly g) C.halts := by
  induction n generalizing g with
  | zero => exact absurd hn (Nat.not_lt_zero _)
  | succ n ih =>
    obtain ⟨p, hp⟩ := GameState.player?_of_lt hid
    simp only [treasurePhase, ensures_bind]
    refine ensures_handWhere h hp fun playable hplayable => ?_
    rw [ensures_ite]
    refine ⟨fun _ => h.calmly_refl, fun _ => ?_⟩
    rw [ensures_bind]
    refine (ensures_chooseTreasures h hid
      (hplayable.nodup (nodup_hand h.state.sound hp))).imp ?_
    rintro choice g₁ ⟨⟨hg₁, hstill⟩, hchoice⟩
    have h₁ := h.quietly hg₁
    obtain ⟨p₁, hp₁, hzones⟩ := hstill.player? hp
    have hhand : ∀ cards ∈ choice, ∀ card ∈ cards, card ∈ p₁.hand := by
      intro cards hcards card hcard
      rw [Tableau.hand, hzones]
      exact hplayable.mem (hchoice cards hcards card hcard)
    cases choice with
    | none => exact hg₁.calmly
    | some cards =>
    cases cards with
    | nil => exact hg₁.calmly
    | cons first rest =>
      have hheld := (atHand_hand h₁.state hp₁).mono (hhand _ rfl)
      rw [ensures_bind]
      change Ensures (_ >>= fun _ => rest.forM _) g₁ _ _
      rw [ensures_bind]
      refine (playAndResolve_spends h₁ hp₁ (hhand _ rfl first List.mem_cons_self)).imp ?_
      rintro _ g₂ ⟨hg₂, hless⟩
      -- The first treasure has cost stamina; the others cannot give it back.
      refine (ensures_forM (I := C.Calmly g₂) (h₁.calmly hg₂).calmly_refl ?_).imp ?_
      · intro card hrest g' hg'
        obtain ⟨-, c, hc⟩ := hheld card (List.mem_cons_of_mem _ hrest)
        obtain ⟨c', hc', -⟩ := (hg₂.trans hg').kept.carded hc
        have hseat := hg'.kept.seated (hg₂.kept.seated (hg₁.kept.seated hid))
        refine (playAndResolve_ends ((h₁.calmly hg₂).calmly hg') hseat hc').imp ?_
        intro _ g'' hg''
        exact hg'.trans hg''
      · intro _ g₃ hg₃
        have hcalm := (hg₁.calmly.trans hg₂).trans hg₃
        have hle₁ := hg₁.state.stamina
        have hle₃ := hg₃.state.stamina
        refine (ih (h.calmly hcalm) (hcalm.kept.seated hid) (by omega)).imp ?_
        intro _ g₄ hg₄
        exact hcalm.trans hg₄

/-! ### Purchases -/

/-- A pile that can be bought from has cards left. -/
theorem count_of_buyable {s : GameState} {pile : String} (h : pile ∈ s.buyable id) :
    0 < s.supply.count pile := by
  have hbuy := (List.mem_filter.mp h).2
  unfold GameState.canBuy at hbuy
  cases hpile : s.supply.pile? pile with
  | none => cases hp : s.player? id <;> simp [hp, hpile] at hbuy
  | some q =>
    cases hp : s.player? id with
    | none => simp [hp] at hbuy
    | some p =>
      simp only [hp, hpile, Bool.and_eq_true, Bool.not_eq_true', decide_eq_true_eq] at hbuy
      have hne : q.cards ≠ [] := by simpa [Pile.isEmpty] using hbuy.1.1.2
      have hlen := List.length_pos_iff.mpr hne
      simpa [Supply.count, hpile, Pile.size] using hlen

theorem buy_ends {pile : String} (h : C.Fit g) (hid : id.seat < g.state.players.length)
    (hcount : 0 < g.state.supply.count pile) :
    Ensures (buy run pile id) g (fun _ => Gained C g) C.halts := by
  obtain ⟨depth, hpatience, hdepth⟩ := patience_eq h.state.sound
  obtain ⟨q, -, -, hpile, -, -⟩ := h.state.top_of_count hcount
  have hcost : g.state.pileCost? pile = some (g.state.cost q.definition) := by
    rw [GameState.pileCost?, hpile]
    rfl
  simp only [buy, ensures_bind, ensures_state, hcost]
  refine (gain_ends (gainsEnd C (depth + 2)) (hpatience ▸ run_provokesAt g) h hid hcount
    (by omega)).imp ?_
  intro card g₁ hg₁
  have h₁ := h.quietly hg₁.toQuietly
  obtain ⟨p₁, hp₁⟩ := GameState.player?_of_lt (hg₁.kept.seated hid)
  simp only [ensures_modifyPlayer, hp₁]
  generalize hp₂ : p₁.onTableau (fun t =>
    { t with buys := t.buys - 1, money := t.money - g.state.cost q.definition }) = p₂
  have hpaid : C.Quietly g₁ ⟨g₁.state.setPlayer id p₂, g₁.memory⟩ := by
    rw [← hp₂]
    exact h₁.steady_quietly.adjust h₁.quietly_refl hp₁ rfl rfl rfl
      fun hallow => ⟨hallow.gain, hallow.play⟩
  exact ⟨hg₁.toQuietly.trans hpaid, hg₁.supply⟩

/-- Each purchase takes a card from the supply. -/
theorem purchases_ends {n : Nat} (h : C.Fit g) (hid : id.seat < g.state.players.length)
    (hn : g.state.supply.size < n) :
    Ensures (purchases id n) g (fun _ => C.Calmly g) C.halts := by
  induction n generalizing g with
  | zero => exact absurd hn (Nat.not_lt_zero _)
  | succ n ih =>
    simp only [purchases, ensures_bind, ensures_state]
    rw [ensures_ite]
    refine ⟨fun _ => h.calmly_refl, fun _ => ?_⟩
    rw [ensures_bind]
    refine (ensures_choosePurchase h hid).imp ?_
    rintro choice g₁ ⟨⟨hg₁, hstill⟩, hchoice⟩
    cases choice with
    | none => exact hg₁.calmly
    | some pile =>
      have h₁ := h.quietly hg₁
      have hid₁ := hg₁.kept.seated hid
      have hcount : 0 < g₁.state.supply.count pile := by
        rw [hstill.supply]
        exact count_of_buyable (hchoice pile rfl)
      rw [ensures_bind]
      refine (buy_ends h₁ hid₁ hcount).imp ?_
      intro card g₂ hg₂
      have h₂ := h₁.quietly hg₂.toQuietly
      obtain ⟨p₂, hp₂⟩ := GameState.player?_of_lt (hg₂.kept.seated hid₁)
      simp only [ensures_bind, ensures_player, hp₂, ensures_verbose]
      generalize hg₃ : ({ g₂ with state := GameState.onLogger _ _ } : Game M) = g₃
      have hnoted : C.Quietly g₂ g₃ := by
        rw [← hg₃]
        exact h₂.steady_quietly.verbose h₂.quietly_refl _
      have hcalm := ((hg₁.trans hg₂.toQuietly).trans hnoted).calmly
      have hless := hg₂.supply
      have hle := hnoted.kept.supply
      rw [hstill.supply] at hless
      refine (ih (h.calmly hcalm) (hcalm.kept.seated hid) (by omega)).imp ?_
      intro _ g₄ hg₄
      exact hcalm.trans hg₄

theorem enter_quietly (h : C.Fit g) (phase : Phase) :
    C.Quietly g ⟨{ g.state with phase }, g.memory⟩ :=
  ⟨Still.quiet ⟨rfl, rfl, rfl⟩ (.enter g.state phase), h.memory⟩

theorem buyPhase_ends (h : C.Fit g) (hid : id.seat < g.state.players.length) :
    Ensures (buyPhase id) g (fun _ => C.Calmly g) C.halts := by
  simp only [buyPhase, ensures_bind, ensures_modifyState, ensures_state]
  have hg₁ := enter_quietly h .buy
  have h₁ := h.quietly hg₁
  obtain ⟨depth, hpatience, hdepth⟩ := patience_eq h₁.state.sound
  refine (treasurePhase_ends h₁ (hg₁.kept.seated hid) ?_).imp ?_
  · rw [hpatience]
    exact Nat.lt_add_right 3 hdepth
  intro _ g₂ hg₂
  have hcalm := hg₁.calmly.trans hg₂
  refine (purchases_ends (h.calmly hcalm) (hcalm.kept.seated hid) (Nat.lt_succ_self _)).imp ?_
  intro _ g₃ hg₃
  exact hcalm.trans hg₃

/-! ### Clean-up -/

theorem onward_move (h : C.Fit g) (hid : id.seat < g.state.players.length) {target : Zone}
    (ht : PlayerZones.holds target) :
    Ensures (Engine.move card id target .top) g (fun _ => C.Onward g) C.halts := by
  obtain ⟨p, hp⟩ := GameState.player?_of_lt hid
  refine ensures_move h.steady_onward.toFirm h.onward_refl hp ?_
  intro source hsource
  exact ⟨(stamina_move h.state.sound hp .top hsource ht).1, h.memory⟩

/-- The Treasury may go back onto the deck. -/
theorem returnToDeck_leads {provoke : Program → Engine M Bool} {ctx : EffectContext} (h : C.Fit g)
    (hid : ctx.player.seat < g.state.players.length) :
    (returnToDeck ctx).Leads (perform provoke) g (fun _ => C.Onward g) C.halts := by
  refine bind (look (ite (fun _ => pure h.onward_refl) fun _ => ?_))
  refine callBind ((ensures_chooseBoolean h hid).imp ?_)
  rintro answer g₁ ⟨hg₁, -⟩
  refine ite (fun _ => ?_) fun _ => pure hg₁.calmly.onward
  refine callBind ((onward_move (h.quietly hg₁) (hg₁.kept.seated hid) rfl).imp ?_)
  intro _ g₂ hg₂
  exact pure (hg₁.calmly.onward.trans hg₂)

/-- What a card does at clean-up. -/
theorem onCleanUp_ends {c : Card} (h : C.Fit g) (hid : id.seat < g.state.players.length)
    (hc : g.state.card? card = some c) (hne : c.definition.onCleanUp ≠ []) :
    Ensures (run (Effect.programAll ⟨card, id⟩ c.definition.onCleanUp (.finish false))) g
      (fun _ => C.Onward g) C.halts := by
  obtain ⟨depth, hpatience, -⟩ := patience_eq h.state.sound
  refine ensures_run fun d hd => ?_
  obtain rfl : d = depth + 3 := hd.symm.trans hpatience
  rw [Registry.eq_treasury (h.state.registered card c hc) hne]
  exact programAll (steps_scripted (returnToDeck_leads h hid))

/-- Whatever is done for one card in play, the others stay cards of the game. -/
theorem onCleanUpAll_ends {p : Player} (h : C.Fit g) (hp : g.state.player? id = some p) :
    Ensures (p.inPlay.forM fun c => do
        let d ← definition c
        if !d.onCleanUp.isEmpty && (← player id).inPlay.contains c then
          executeAll run d.onCleanUp ⟨c, id⟩) g (fun _ => C.Onward g) C.halts := by
  have hid := GameState.seat_lt_of_player? hp
  refine ensures_forM h.onward_refl fun card hplay g' hg' => ?_
  have hmem : card ∈ p.zones.row .inPlay := hplay
  obtain ⟨c₁, hc₁⟩ := h.state.card_of_mem_row hp hmem
  obtain ⟨c, hc, -⟩ := hg'.kept.carded hc₁
  obtain ⟨p', hp'⟩ := GameState.player?_of_lt (hg'.kept.seated hid)
  simp only [ensures_bind, ensures_definition, hc, ensures_player, hp']
  rw [ensures_ite]
  refine ⟨fun _ => ?_, fun _ => hg'⟩
  have h' := h.onward hg'
  refine (ensures_executeAll h'.onward_refl fun hne =>
    onCleanUp_ends h' (hg'.kept.seated hid) hc hne).imp ?_
  intro _ g'' hg''
  exact hg'.trans hg''

/-- The cards are laid down, a new hand is drawn, and the turn passes. -/
theorem newHand_ends (done : List CardId) (h : C.Fit g) (hid : id.seat < g.state.players.length) :
    Ensures (do
      modifyPlayer id (·.onTableau fun t =>
        let t := done.foldl (fun t c => (t.transfer c .inPlay .discard .top).2) t
        { t with
          zones := { t.zones with hand := [], discard := t.zones.discard ++ t.zones.hand } })
      publish id .cleanUp
      let _ ← draw id handSize
      modifyPlayer id fun p => { toTableau := p.toTableau.resetCounters }
      modifyState fun s =>
        { s with
          active := (s.active + 1) % s.players.length
          costModifiers := []
          phase := .action }) g (fun _ => C.Onward g) C.halts := by
  obtain ⟨p, hp⟩ := GameState.player?_of_lt hid
  have hlaid := Change.layDown (H := Hooks.catalog) h.state.sound hp done
  simp only [ensures_bind, ensures_modifyPlayer, hp, ensures_publish]
  generalize hg₁ : (⟨GameState.publish _ _ _, g.memory⟩ : Game M) = g₁
  have hg : C.Onward g g₁ := by
    rw [← hg₁]
    exact ⟨(Changes.single hlaid).tail (.publish _ id .cleanUp trivial), h.memory⟩
  have h₁ := h.onward hg
  have hid₁ := hg.kept.seated hid
  refine (ensures_draw h₁.steady_onward h₁.onward_refl hid₁).imp ?_
  intro _ g₂ hg₂
  have h₂ := h₁.onward hg₂
  obtain ⟨p₂, hp₂⟩ := GameState.player?_of_lt (hg₂.kept.seated hid₁)
  simp only [hp₂, ensures_modifyState]
  have hreset : C.Onward g₂
      ⟨g₂.state.setPlayer id { toTableau := p₂.toTableau.resetCounters }, g₂.memory⟩ :=
    h₂.steady_onward.adjust h₂.onward_refl hp₂ rfl rfl rfl fun _ => ⟨by simp, by simp⟩
  exact (hg.trans hg₂).trans ⟨hreset.state.tail (.pass _), hreset.memory⟩

theorem cleanUp_ends (h : C.Fit g) : Ensures cleanUp g (fun _ => C.Onward g) C.halts := by
  have hid : g.state.activePlayer.seat < g.state.players.length := h.state.sound.active
  have hg₁ := enter_quietly h .cleanUp
  have h₁ := h.quietly hg₁
  have hid₁ := hg₁.kept.seated hid
  obtain ⟨p, hp⟩ := GameState.player?_of_lt hid₁
  refine ensures_bind.mpr (ensures_active.mpr ?_)
  refine ensures_bind.mpr (ensures_modifyState.mpr ?_)
  refine ensures_bind.mpr (ensures_player.mpr ?_)
  rw [hp]
  refine ensures_bind.mpr ((onCleanUpAll_ends h₁ hp).imp ?_)
  intro _ g₂ hg₂
  have h₂ := h₁.onward hg₂
  have hid₂ := hg₂.kept.seated hid₁
  obtain ⟨p₂, hp₂⟩ := GameState.player?_of_lt hid₂
  refine ensures_bind.mpr (ensures_player.mpr ?_)
  rw [hp₂]
  refine ensures_bind.mpr ((ensures_filterM (I := fun g' => g' = g₂) rfl ?_).imp ?_)
  · rintro card hcard _ rfl
    obtain ⟨c, hc⟩ := h₂.state.card_of_mem_row hp₂ (show card ∈ p₂.zones.row .inPlay from hcard)
    simp only [ensures_bind, ensures_card, hc]
    rfl
  · rintro done _ ⟨rfl, -⟩
    refine (newHand_ends done h₂ hid₂).imp ?_
    intro _ g₃ hg₃
    exact (hg₁.calmly.onward.trans hg₂).trans hg₃

/-! ### The end of the game -/

theorem points_ok {s : GameState} (hs : s.Sound) {p : Player} (hp : s.player? id = some p) :
    ∃ total, s.points id = .ok total := by
  have hcards : ∀ card ∈ p.allCards, ∃ c, s.card? card = some c := fun card hcard =>
    GameState.contains_iff_card?.mp
      (hs.contains_of_mem (GameState.mem_whereabouts_of_player hp hcard))
  simp only [GameState.points, hp]
  generalize (p.victoryTokens : Int) = total
  generalize p.allCards = cards at hcards
  induction cards generalizing total with
  | nil => exact ⟨total, rfl⟩
  | cons card rest ih =>
    obtain ⟨c, hc⟩ := hcards card List.mem_cons_self
    rw [List.foldlM_cons, hc]
    exact ih _ fun c hc => hcards c (List.mem_cons_of_mem _ hc)

/-- In a sound state the points can be counted. -/
theorem standings_ok {s : GameState} (hs : s.Sound) : ∃ standings, s.standings = .ok standings := by
  have hall : ∀ p ∈ s.players, ∃ standing,
      (do return { player := p.id, name := p.name, points := ← s.points p.id, turns := p.turns } :
        Except GameError Standing) = .ok standing ∧ True := by
    intro p hmem
    obtain ⟨i, hi, rfl⟩ := List.getElem_of_mem hmem
    have hp : s.player? ⟨i⟩ = some s.players[i] := List.getElem?_eq_getElem hi
    rw [hs.seats _ _ hp]
    obtain ⟨total, htotal⟩ := points_ok hs hp
    rw [htotal]
    exact ⟨_, rfl, trivial⟩
  obtain ⟨standings, h, -⟩ := mapM_ok hall
  exact ⟨standings, h⟩

theorem finish_ends (h : C.Fit g) (turns : Nat) (reason : EndReason) :
    Ensures (finish turns reason) g (fun _ => C.Onward g) C.halts := by
  obtain ⟨standings, hstandings⟩ := standings_ok h.state.sound
  rw [ensures_finish, hstandings]
  exact ⟨.single (.publish _ _ _ trivial), h.memory⟩

/-- A turn comes to its end; if the game goes on then there are turns left. -/
theorem playTurn_ends (maxTurns elapsed : Nat) (h : C.Fit g) :
    Ensures (playTurn maxTurns elapsed) g
      (fun result g' => C.Onward g g' ∧ (result = none → elapsed + 1 < maxTurns)) C.halts := by
  refine ensures_bind.mpr ((startTurn_ends h).imp ?_)
  intro _ g₁ hg₁
  have h₁ := h.onward hg₁
  have hid₁ : g₁.state.activePlayer.seat < g₁.state.players.length := h₁.state.sound.active
  refine ensures_bind.mpr (ensures_active.mpr ?_)
  obtain ⟨depth, hpatience, hdepth⟩ := patience_eq h₁.state.sound
  refine ensures_bind.mpr (ensures_state.mpr (ensures_bind.mpr ?_))
  refine (actionPhase_ends h₁ hid₁ (by omega)).imp ?_
  intro _ g₂ hg₂
  have h₂ := h₁.calmly hg₂
  refine ensures_bind.mpr ((buyPhase_ends h₂ (hg₂.kept.seated hid₁)).imp ?_)
  intro _ g₃ hg₃
  have h₃ := h₂.calmly hg₃
  refine ensures_bind.mpr ((cleanUp_ends h₃).imp ?_)
  intro _ g₄ hg₄
  have h₄ := h₃.onward hg₄
  have hturn := ((hg₁.trans hg₂.onward).trans hg₃.onward).trans hg₄
  have hfinish : ∀ reason, Ensures (some <$> finish (elapsed + 1) reason) g₄
      (fun result g' => C.Onward g g' ∧ (result = none → elapsed + 1 < maxTurns)) C.halts := by
    intro reason
    rw [ensures_map]
    refine (finish_ends h₄ _ _).imp ?_
    intro result g₅ hg₅
    exact ⟨hturn.trans hg₅, by simp⟩
  refine ensures_bind.mpr (ensures_state.mpr ?_)
  rw [ensures_ite]
  refine ⟨fun _ => hfinish _, fun _ => ?_⟩
  rw [ensures_ite]
  refine ⟨fun _ => hfinish _, fun hmore => ?_⟩
  exact ⟨hturn, fun _ => Nat.lt_of_not_le hmore⟩

theorem notifyGameOver_ends (h : C.Fit g) (winners : List PlayerId) :
    Ensures (notifyGameOver winners) g (fun _ => C.Onward g) C.halts := by
  refine ensures_bind.mpr (ensures_state.mpr ?_)
  refine ensures_forM h.onward_refl fun id _ g' hg' => ?_
  exact ⟨hg'.state.tail (.think _ _ _ _), C.told g' id _ hg'.memory⟩

/-- A game comes to its end after the turns that are left. -/
theorem playOn_ends {maxTurns n elapsed : Nat} (h : C.Fit g) (hn : 1 ≤ n)
    (hleft : maxTurns ≤ n + elapsed) :
    Ensures (playOn maxTurns n elapsed) g (fun _ => C.Onward g) C.halts := by
  induction n generalizing g elapsed with
  | zero => exact absurd hn (Nat.not_lt_zero _)
  | succ n ih =>
    refine ensures_bind.mpr ((playTurn_ends maxTurns elapsed h).imp ?_)
    rintro result g₁ ⟨hg₁, hmore⟩
    cases result with
    | some result =>
      refine ensures_bind.mpr ((notifyGameOver_ends (h.onward hg₁) _).imp ?_)
      intro _ g₂ hg₂
      exact hg₁.trans hg₂
    | none =>
      have hlt := hmore rfl
      refine (ih (h.onward hg₁) (by omega) (by omega)).imp ?_
      intro _ g₂ hg₂
      exact hg₁.trans hg₂

theorem playGame_ends (maxTurns : Nat) (h : C.Fit g) :
    Ensures (playGame maxTurns) g (fun _ => C.Onward g) C.halts :=
  playOn_ends h (Nat.le_max_left _ _) (Nat.le_max_right _ _)

end DeckBuilder.Catalog
