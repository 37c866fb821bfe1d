import DeckBuilder.Proofs.Leads
import DeckBuilder.Proofs.Prompts

/-!
What gaining, trashing and discarding provoke in a game with the catalog. A gain can lead to another
gain, by the card that is gained, to a look at the gained card, by a trigger, and to its being trashed,
by a reaction; a discard can lead to a gain, and a trashed card can come back. None of this spends a
card, and as every gain costs stamina, it ends: a depth above the stamina of the state is enough.
-/
namespace DeckBuilder

theorem GameState.returns_eq {s : GameState} {card : CardId} {c : Card}
    (hc : s.card? card = some c) : s.returns card = !c.definition.onTrash.isEmpty := by
  simp [returns, hc]

namespace Engine

open Script (Leads)

variable {M : Type} [Controllers M] {C : Contract M} {g : Game M} {id : PlayerId} {card : CardId}
variable {depth : Nat}

/-- From the game on, what is provoked is run within the depth. -/
def ProvokesAt (depth : Nat) (g : Game M) (provoke : Program → Engine M Bool) : Prop :=
  ∀ p g', Kept g.state g'.state → (provoke p).runOn g' = (runWithin depth p).runOn g'

theorem ProvokesAt.ensures {provoke : Program → Engine M Bool} (h : ProvokesAt depth g provoke)
    {p : Program} {g' : Game M} (hkept : Kept g.state g'.state) {Q : Bool → Game M → Prop}
    {E : Halt → Game M → Prop} (hrun : Ensures (runWithin depth p) g' Q E) :
    Ensures (provoke p) g' Q E := by
  unfold Ensures at hrun ⊢
  rw [h p g' hkept]
  exact hrun

theorem runWithin_provokesAt (depth : Nat) (g : Game M) : ProvokesAt depth g (runWithin depth) :=
  fun _ _ _ => rfl

/-- The patience of a state is that of every later one. -/
theorem run_provokesAt (g : Game M) : ProvokesAt g.state.patience g run := by
  intro p g' hkept
  have hpatience : g'.state.patience = g.state.patience := by
    rw [GameState.patience, GameState.patience, hkept.store]
  have hstate : (state : Engine M GameState).runOn g' = (.ok g'.state, g') := rfl
  rw [run, runOn_bind, hstate]
  dsimp only
  rw [hpatience]

/-- Programs are run to a depth that is enough for a call. -/
def Runs (provoke : Program → Engine M Bool) : Prop :=
  ∀ p g, ∃ depth, (provoke p).runOn g = (runWithin (depth + 1) p).runOn g

theorem runs_run : Runs (run : Program → Engine M Bool) :=
  fun _ g => ⟨16 * g.state.cards.size + 255, runOn_bind_of_ok runOn_state⟩

/-! ### What provokes nothing -/

/-- The cards one has looked at are on the deck. -/
theorem quietly_topCards {n : Nat} (h : C.Fit g) (hid : id.seat < g.state.players.length) :
    Ensures (topCards id n) g
      (fun cards g' => C.Quietly g g' ∧ ∀ card ∈ cards, g'.state.Unspent id card) C.halts := by
  obtain ⟨p, hp⟩ := GameState.player?_of_lt hid
  have hlook : ∃ result, g.state.topCards id n = .ok result := by
    simp only [GameState.topCards, hp]
    exact ⟨_, rfl⟩
  obtain ⟨⟨cards, s'⟩, hlook⟩ := hlook
  simp only [topCards, ensures_step, hlook]
  have hquiet := h.steady_quietly.peek g id n cards s' h.quietly_refl hlook
  refine ⟨hquiet, ?_⟩
  intro card hcard
  obtain ⟨q, rng, events, logger, hq, hcards, hs'⟩ := GameState.topCards_eq hlook
  have hplayer : s'.player? id =
      some { q with toTableau := (q.toTableau.topCards n g.state.rng).2.1 } := by
    rw [hs']
    exact GameState.player?_setPlayer_self _ hq
  refine (h.quietly hquiet).state.sound.unspent_of_mem hplayer
    (show Zone.Loose .deck = true from rfl) ?_
  rw [hcards] at hcard
  have hmem := List.mem_of_mem_take hcard
  exact List.mem_reverse.mp hmem

theorem quietly_move (h : C.Fit g) (hid : id.seat < g.state.players.length)
    (hu : g.state.Unspent id card) {target : Zone} (ht : target.Loose = true) :
    Ensures (move card id target .top) g (fun _ g' => C.Quietly g g') C.halts := by
  obtain ⟨p, hp⟩ := GameState.player?_of_lt hid
  refine ensures_move h.steady_quietly.toFirm h.quietly_refl hp ?_
  intro source hsource
  exact ⟨quiet_move h.state.sound hp hu .top hsource ht, h.memory⟩

theorem calmly_move (h : C.Fit g) (hid : id.seat < g.state.players.length) {target : Zone}
    (hholds : PlayerZones.holds target) (ht : target.Loose = false) :
    Ensures (move card id target .top) g (fun _ g' => C.Calmly g g') C.halts := by
  obtain ⟨p, hp⟩ := GameState.player?_of_lt hid
  refine ensures_move h.steady_calmly.toFirm h.calmly_refl hp ?_
  intro source hsource
  exact ⟨calm_move h.state.sound hp .top hsource hholds ht, h.memory⟩

theorem quietly_recover (h : C.Fit g) (hid : id.seat < g.state.players.length)
    (hreturns : g.state.returns card = true) :
    Ensures (recover card id) g (fun _ g' => C.Quietly g g') C.halts := by
  obtain ⟨p, hp⟩ := GameState.player?_of_lt hid
  refine ensures_recover h.quietly_refl hp ?_
  intro hcard name
  exact ⟨quiet_recover h.state.sound hp hreturns hcard name, h.memory⟩

/-! ### Trashing -/

/-- The Fortress comes back. -/
theorem fortress_leads {provoke : Program → Engine M Bool} {ctx : EffectContext} (h : C.Fit g)
    (hid : ctx.player.seat < g.state.players.length)
    (hreturns : g.state.returns ctx.card = true) :
    (Effect.steps Catalog.fortress.onTrash ctx).Leads (perform provoke) g
      (fun _ g' => C.Quietly g g') C.halts :=
  Leads.steps_scripted (Leads.call (quietly_recover h hid hreturns))

theorem quietly_trash {c : Card} (h : C.Fit g) (hid : id.seat < g.state.players.length)
    (hc : g.state.card? card = some c)
    (hu : g.state.Unspent id card ∨ g.state.returns card = false) :
    Ensures (trash (runWithin (depth + 1)) card id) g (fun _ g' => C.Quietly g g') C.halts := by
  obtain ⟨p, hp⟩ := GameState.player?_of_lt hid
  refine ensures_trash h.steady_quietly.toFirm hc hp (fun _ => h.quietly_refl) ?_ ?_
  · intro zone tableau hremove
    exact ⟨quiet_trash h.state.sound hp hu hremove, h.memory⟩
  · intro hne g' hg'
    have hdef := Registry.eq_fortress (h.state.registered card c hc) hne
    obtain ⟨c', hc', heq⟩ := hg'.kept.carded hc
    have hreturns : g'.state.returns card = true := by
      rw [GameState.returns_eq hc', heq]
      simpa using hne
    rw [hdef]
    refine Leads.programAll ((fortress_leads (h.quietly hg') (hg'.kept.seated hid) hreturns).imp ?_)
    intro _ g'' h''
    exact hg'.trans h''

end Engine

/-! ### Gaining -/

namespace Catalog

open Engine Script.Leads

variable {M : Type} [Controllers M] {C : Contract M} {g : Game M} {depth : Nat}

theorem ensures_costOf {provoke : Program → Engine M Bool} {card : CardId} {c : Card}
    {Q : Nat → Game M → Prop} {E : Halt → Game M → Prop} (hc : g.state.card? card = some c)
    (h : Q (g.state.cost c.definition) g) : Ensures (perform provoke (.costOf card)) g Q E := by
  simp only [perform, ensures_bind, ensures_state, ensures_definition, hc]
  exact h

theorem offerTopdeck_leads {provoke : Program → Engine M Bool} {player : PlayerId}
    {gained source : CardId} {c : Card} (h : C.Fit g)
    (hid : player.seat < g.state.players.length) (hc : g.state.card? gained = some c) :
    (offerTopdeck player gained source).Leads (perform provoke) g
      (fun _ g' => C.Quietly g g') C.halts := by
  obtain ⟨p, hp⟩ := GameState.player?_of_lt hid
  refine bind (tableau hp (ite ?_ fun _ => pure h.quietly_refl))
  intro hloc
  have hm := h.state.sound.mats p (GameState.player?_mem hp)
  have hu : g.state.Unspent player gained :=
    h.state.sound.unspent_of_mem hp (show Zone.Loose .discard = true from rfl)
      (PlayerZones.mem_row_of_locate hm hloc).2
  refine bind (face hc (callBind ((ensures_chooseBoolean h hid).imp ?_)))
  intro answer g₁ hstill
  have hg₁ := hstill.toQuietly
  refine ite (fun _ => ?_) fun _ => pure hg₁
  have hid₁ := hg₁.kept.seated hid
  refine callBind ((quietly_move (h.quietly hg₁) hid₁ (hg₁.state.unspent _ _ hu) rfl).imp ?_)
  intro _ g₂ hg₂
  exact pure (hg₁.trans hg₂)

/-- A gain has gone on quietly and has made the supply smaller. -/
structure Gained (C : Contract M) (g g' : Game M) : Prop extends C.Quietly g g' where
  supply : g'.state.supply.size < g.state.supply.size

/-- Gains from a state with less stamina than the depth come to their end. -/
def GainsEnd (C : Contract M) (depth : Nat) : Prop :=
  ∀ (g : Game M) (pile : String) (id : PlayerId) (bought : Bool) (destination : GainDestination),
    C.Fit g → id.seat < g.state.players.length → 0 < g.state.supply.count pile →
      g.state.stamina < depth →
        Ensures (gain (runWithin depth) pile id bought destination) g (fun _ => Gained C g) C.halts

/-- A pile is chosen from those with cards left, and its top card is gained. -/
theorem gainChosen_leads (hgains : GainsEnd C depth) {id : PlayerId} {prompt : String}
    {source : Option CardId} {eligible : PileOffer → Bool} (h : C.Fit g)
    (hid : id.seat < g.state.players.length) (hdepth : g.state.stamina < depth)
    (heligible : ∀ offer, eligible offer = true → 0 < offer.count) :
    Script.Leads (perform (runWithin depth)) (do
      if let some pile := ← Script.choosePile id prompt source eligible then
        let _ ← Script.gain pile id) g (fun _ g' => C.Quietly g g') C.halts := by
  refine callBind ((ensures_choosePile h hid heligible).imp ?_)
  rintro pile g₁ ⟨⟨hg₁, -⟩, hcount⟩
  cases pile with
  | none => exact pure hg₁
  | some pile =>
    have hid₁ := hg₁.kept.seated hid
    have hdepth₁ := Nat.lt_of_le_of_lt hg₁.state.stamina hdepth
    have hgain := hgains g₁ pile id false .discard (h.quietly hg₁) hid₁ (hcount pile rfl) hdepth₁
    refine callBind (hgain.imp ?_)
    intro _ g₂ hg₂
    exact pure (hg₁.trans hg₂.toQuietly)

theorem gainCostingUpTo_leads (hgains : GainsEnd C depth) {ctx : EffectContext} (maxCost : Nat)
    (h : C.Fit g) (hid : ctx.player.seat < g.state.players.length)
    (hdepth : g.state.stamina < depth) :
    (gainCostingUpTo ctx maxCost).Leads (perform (runWithin depth)) g
      (fun _ g' => C.Quietly g g') C.halts := by
  refine gainChosen_leads hgains h hid hdepth ?_
  intro offer hoffer
  simp only [Bool.and_eq_true, decide_eq_true_eq] at hoffer
  exact hoffer.1

theorem gainCheaper_leads (hgains : GainsEnd C depth) {ctx : EffectContext} {c : Card}
    (h : C.Fit g) (hid : ctx.player.seat < g.state.players.length)
    (hc : g.state.card? ctx.card = some c) (hdepth : g.state.stamina < depth) :
    (gainCheaper ctx).Leads (perform (runWithin depth)) g
      (fun _ g' => C.Quietly g g') C.halts := by
  refine callBind (ensures_costOf hc (gainChosen_leads hgains h hid hdepth ?_))
  intro offer hoffer
  simp only [Bool.and_eq_true, decide_eq_true_eq] at hoffer
  exact hoffer.1

/-- What reacts to a gain is a Watchtower. -/
theorem reaction_gain {s : GameState} (hs : s.OfCatalog) {k : Candidate}
    (hk : Candidate.Of s .gain k) : k.reaction = ⟨.hand, fun ctx => (watch ctx).once⟩ := by
  obtain ⟨c, hc, hreaction⟩ := hk.card
  rw [Registry.eq_watchtower (hs.registered _ _ hc) hreaction] at hreaction
  exact (Option.some.inj hreaction).symm

/-- The Watchtower sees a gain: the gained card may be trashed or put onto the deck. -/
theorem watch_leads {ctx : ReactionContext} {info : GainInfo} {c : Card} (h : C.Fit g)
    (htrigger : ctx.trigger = .gain info) (hid : info.player.seat < g.state.players.length)
    (hc : g.state.card? info.card = some c) (hu : g.state.Unspent info.player info.card) :
    (watch ctx).Leads (perform (runWithin (depth + 1))) g
      (fun _ g' => C.Quietly g g') C.halts := by
  unfold watch
  rw [htrigger]
  refine ite ?_ fun _ => pure h.quietly_refl
  intro howner
  rw [← howner]
  refine bind (face hc (callBind ((ensures_chooseBoolean h hid).imp ?_)))
  intro answer g₁ hstill
  have hg₁ := hstill.toQuietly
  have hfit₁ := h.quietly hg₁
  have hid₁ := hg₁.kept.seated hid
  obtain ⟨c₁, hc₁, -⟩ := hg₁.kept.carded hc
  refine ite (fun _ => ?_) fun _ =>
    (offerTopdeck_leads hfit₁ hid₁ hc₁).imp fun _ _ hg₂ => hg₁.trans hg₂
  refine callBind ((ensures_reveal hfit₁.steady_quietly.toFirm hfit₁.quietly_refl).imp ?_)
  intro _ g₂ hg₂
  have hid₂ := hg₂.kept.seated hid₁
  obtain ⟨c₂, hc₂, -⟩ := hg₂.kept.carded hc₁
  have hu₂ := hg₂.state.unspent _ _ (hg₁.state.unspent _ _ hu)
  refine callBind ((quietly_trash (hfit₁.quietly hg₂) hid₂ hc₂ (Or.inl hu₂)).imp ?_)
  intro _ g₃ hg₃
  exact pure ((hg₁.trans hg₂).trans hg₃)

/-- What a gain provokes are further gains from a state with less stamina, looks at the gained card,
and its trashing. -/
theorem gain_ends (hgains : GainsEnd C depth) {provoke : Program → Engine M Bool}
    (hprovoke : ProvokesAt (depth + 1) g provoke) {pile : String} {id : PlayerId} {bought : Bool}
    {destination : GainDestination} (h : C.Fit g) (hid : id.seat < g.state.players.length)
    (hcount : 0 < g.state.supply.count pile) (hdepth : g.state.stamina < depth + 1) :
    Ensures (gain provoke pile id bought destination) g (fun _ => Gained C g) C.halts := by
  obtain ⟨q, card, c, hpile, htop, hc⟩ := h.state.top_of_count hcount
  obtain ⟨p, hp⟩ := GameState.player?_of_lt hid
  -- From here on `g₁` is the game just after the card has changed hands.
  have hm := h.state.sound.mats p (GameState.player?_mem hp)
  have hquiet := quiet_gain (H := Hooks.catalog) h.state.sound hp hpile htop bought destination
  have hunspent := unspent_gained h.state.sound hp hpile htop bought destination
  have hstamina := stamina_gained hm hp hpile htop bought destination
  have hsize : (g.state.gained pile id p card bought destination).supply.size + 1 =
      g.state.supply.size := size_updatePile hpile htop
  obtain ⟨g₁, hg₁⟩ : ∃ g₁ : Game M,
    g₁ = ⟨g.state.gained pile id p card bought destination, g.memory⟩ := ⟨_, rfl⟩
  have hstate : g.state.gained pile id p card bought destination = g₁.state := by rw [hg₁]
  rw [hstate] at hquiet hunspent hstamina hsize
  have hg : C.Quietly g g₁ := ⟨hquiet, by rw [hg₁]; exact h.memory⟩
  have h₁ := h.quietly hg
  have hid₁ := hg.kept.seated hid
  obtain ⟨c₁, hc₁, hdef⟩ := hg.kept.carded hc
  have hless : g₁.state.stamina < depth := by omega
  refine (ensures_gain h₁.steady_quietly.toFirm hpile htop hc hp ?_ ?_ ?_ ?_).imp ?_
  · rw [← hg₁]
    exact h₁.quietly_refl
  · intro hne g' hg'
    have hborder := Registry.eq_borderVillage (h.state.registered card c hc) hne
    obtain ⟨c', hc', -⟩ := hg'.kept.carded hc₁
    rw [hborder]
    have hgain : (gainCheaper ⟨card, id⟩).Leads (perform (runWithin depth)) g'
        (fun _ g'' => C.Quietly g' g'') C.halts :=
      gainCheaper_leads hgains (h₁.quietly hg') (hg'.kept.seated hid₁) hc'
        (Nat.lt_of_le_of_lt hg'.state.stamina hless)
    exact hprovoke.ensures (hg.kept.trans hg'.kept)
      (programAll (steps_scripted (hgain.imp fun _ _ hg'' => hg'.trans hg'')))
  · rintro t ⟨source, rfl⟩ g' hg'
    obtain ⟨c', hc', -⟩ := hg'.kept.carded hc₁
    have hoffer : (offerTopdeck id card source).Leads (perform (runWithin depth)) g'
        (fun _ g'' => C.Quietly g' g'') C.halts :=
      offerTopdeck_leads (h₁.quietly hg') (hg'.kept.seated hid₁) hc'
    exact hprovoke.ensures (hg.kept.trans hg'.kept)
      (once (hoffer.imp fun _ _ hg'' => hg'.trans hg''))
  · intro g₂ hg₂ k hk g' r hg' _ _
    rw [reaction_gain (h₁.quietly hg₂).state hk]
    obtain ⟨c', hc', -⟩ := hg'.kept.carded hc₁
    obtain ⟨d, rfl⟩ : ∃ d, depth = d + 1 := ⟨depth - 1, by omega⟩
    have hwatch : (watch ⟨k.card, k.owner, .gain ⟨id, card, bought, destination⟩⟩).Leads
        (perform (runWithin (d + 1))) g' (fun _ g'' => C.Quietly g' g'') C.halts :=
      watch_leads (h₁.quietly hg') rfl (hg'.kept.seated hid₁) hc'
        (hg'.state.unspent _ _ hunspent)
    exact hprovoke.ensures (hg.kept.trans hg'.kept)
      (once (hwatch.imp fun _ _ hg'' => hg'.trans hg''))
  · rintro _ g' ⟨hg', -⟩
    exact ⟨hg.trans hg', Nat.lt_of_le_of_lt hg'.kept.supply (by omega)⟩

theorem gainsEnd (C : Contract M) (depth : Nat) : GainsEnd C depth := by
  induction depth with
  | zero =>
    intro g pile id bought destination _ _ _ hdepth
    exact absurd hdepth (Nat.not_lt_zero _)
  | succ depth ih =>
    intro g pile id bought destination h hid hcount hdepth
    exact gain_ends ih (runWithin_provokesAt (depth + 1) g) h hid hcount hdepth

/-! ### Discarding -/

/-- What reacts to a discard is a Tunnel. -/
theorem reaction_discard {s : GameState} (hs : s.OfCatalog) {k : Candidate}
    (hk : Candidate.Of s .discard k) :
    k.reaction = ⟨.discard, fun ctx => (findGold ctx).once⟩ := by
  obtain ⟨c, hc, hreaction⟩ := hk.card
  rw [Registry.eq_tunnel (hs.registered _ _ hc) hreaction] at hreaction
  exact (Option.some.inj hreaction).symm

theorem quietly_gainIfAvailable {id : PlayerId} {pile : String} {destination : GainDestination}
    (h : C.Fit g) (hid : id.seat < g.state.players.length) (hdepth : g.state.stamina < depth) :
    Ensures (gainIfAvailable (runWithin depth) pile id destination) g
      (fun _ g' => C.Quietly g g') C.halts := by
  simp only [gainIfAvailable, ensures_bind, ensures_state]
  rw [ensures_ite]
  constructor
  · intro _
    exact h.steady_quietly.verbose h.quietly_refl _
  · intro hcount
    rw [ensures_bind]
    refine (gainsEnd C depth g pile id false destination h hid ?_ hdepth).imp ?_
    · omega
    · intro _ g' hg'
      exact hg'.toQuietly

/-- A discarded Tunnel may bring a Gold. -/
theorem findGold_leads {ctx : ReactionContext} {player : PlayerId} {card : CardId} (h : C.Fit g)
    (htrigger : ctx.trigger = .discard player card)
    (hid : ctx.owner.seat < g.state.players.length) (hdepth : g.state.stamina < depth) :
    (findGold ctx).Leads (perform (runWithin depth)) g (fun _ g' => C.Quietly g g') C.halts := by
  unfold findGold
  rw [htrigger]
  refine bind (look (ite (fun _ => ?_) fun _ => pure h.quietly_refl))
  refine callBind ((ensures_chooseBoolean h hid).imp ?_)
  intro answer g₁ hstill
  have hg₁ := hstill.toQuietly
  have h₁ := h.quietly hg₁
  refine ite (fun _ => ?_) fun _ => pure hg₁
  refine callBind ((ensures_reveal h₁.steady_quietly.toFirm h₁.quietly_refl).imp ?_)
  intro _ g₂ hg₂
  have hid₂ := hg₂.kept.seated (hg₁.kept.seated hid)
  have hdepth₂ : g₂.state.stamina < depth :=
    Nat.lt_of_le_of_lt (hg₁.trans hg₂).state.stamina hdepth
  refine callBind ((quietly_gainIfAvailable (h₁.quietly hg₂) hid₂ hdepth₂).imp ?_)
  intro _ g₃ hg₃
  exact pure ((hg₁.trans hg₂).trans hg₃)

theorem quietly_discard {id : PlayerId} {card : CardId} (h : C.Fit g)
    (hid : id.seat < g.state.players.length) (hu : g.state.Unspent id card)
    (hdepth : g.state.stamina < depth) :
    Ensures (discard (runWithin (depth + 1)) card id) g (fun _ g' => C.Quietly g g') C.halts := by
  obtain ⟨p, hp⟩ := GameState.player?_of_lt hid
  refine ensures_discard h.steady_quietly.toFirm hp (fun _ => h.quietly_refl) ?_ ?_
  · intro zone tableau hremove
    exact ⟨quiet_discard h.state.sound hp hu hremove, h.memory⟩
  · intro g₁ hg₁ k hk g' r hg' hr _
    rw [reaction_discard (h.quietly hg₁).state hk]
    have hgold : (findGold ⟨k.card, k.owner, .discard id card⟩).Leads (perform (runWithin depth))
        g' (fun _ g'' => C.Quietly g' g'') C.halts :=
      findGold_leads (h.quietly hg') rfl (GameState.seat_lt_of_player? hr)
        (Nat.lt_of_le_of_lt hg'.state.stamina hdepth)
    exact once (hgold.imp fun _ _ hg'' => hg'.trans hg'')

end Catalog

end DeckBuilder
