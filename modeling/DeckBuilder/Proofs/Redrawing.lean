import DeckBuilder.Proofs.DiscardAttack
import DeckBuilder.Proofs.GainLanding
import DeckBuilder.Proofs.Replenishing

/-!
Discarding cards and drawing as many. A card that was discarded can be drawn again: it stays in the discard
pile or, when that is shuffled, comes to the deck, and what its discard sets off does not take it away,
since a Tunnel brings a Gold and a Watchtower takes away no other card than this Gold. So there are enough
cards to draw, and the hand is as large as it was.
-/
namespace DeckBuilder

open Engine

/-- The cards that can be drawn, now or after a shuffle. -/
def PlayerZones.drawable (z : PlayerZones) : List CardId := z.deck ++ z.discard

namespace PlayerZones

variable {z : PlayerZones} {card other : CardId} {returns : Bool} {fate : Fate}

theorem mem_allCards_of_drawable (h : card ∈ z.drawable) : card ∈ z.allCards := by
  rcases List.mem_append.mp h with h | h
  · exact mem_allCards_of_deck h
  · exact mem_allCards_of_discard h

/-- A card that is redirected takes no other card away. -/
theorem drawable_redirected (h : card ∈ z.drawable) (hne : card ≠ other) :
    card ∈ (z.redirected other returns fate).drawable := by
  have herased : card ∈ z.deck ++ z.discard.erase other := by
    rcases List.mem_append.mp h with h | h
    · exact List.mem_append_left _ h
    · exact List.mem_append_right _ ((List.mem_erase_of_ne hne).mpr h)
  cases fate with
  | left => exact h
  | topdecked =>
    rcases List.mem_append.mp herased with h | h
    · exact List.mem_append_left _ (List.mem_append_left _ h)
    · exact List.mem_append_right _ h
  | trashed => cases returns <;> exact herased

end PlayerZones

/-- The player can draw the card, now or after a shuffle. -/
def GameState.Drawable (s : GameState) (id : PlayerId) (card : CardId) : Prop :=
  ∃ z, s.zones? id = some z ∧ card ∈ z.drawable

/-- Nobody has lost a card that could be drawn. -/
structure Hoarded (s s' : GameState) : Prop where
  changes : Changes Hooks.catalog s s'
  drawable : ∀ id card, s.Drawable id card → s'.Drawable id card

namespace Hoarded

variable {s s' s'' : GameState}

theorem refl (s : GameState) : Hoarded s s := ⟨.refl, fun _ _ => id⟩

theorem trans (h : Hoarded s s') (h' : Hoarded s' s'') : Hoarded s s'' :=
  ⟨h.changes.trans h'.changes, fun id card hcard => h'.drawable id card (h.drawable id card hcard)⟩

theorem kept (h : Hoarded s s') : Kept s s' := h.changes.kept

theorem filed (h : Hoarded s s') (hs : s.Filed) : s'.Filed :=
  hs.changes h.changes (h.changes.ofCatalog hs.toOfCatalog)

theorem of_still (h : Changes Hooks.catalog s s') (hstill : Still s s') : Hoarded s s' where
  changes := h
  drawable id card hcard := by
    rw [GameState.Drawable, hstill.zones?]
    exact hcard

theorem firm {M : Type} (hs : s.OfCatalog) :
    Firm Hooks.catalog s fun g : Game M => Hoarded s g.state where
  sound := hs.sound
  allow := hs.hooks
  changes _ h := h.changes
  still _ _ h hchange hstill := h.trans (.of_still (.single hchange) hstill)

end Hoarded

/-- No card but the one that is redirected can no longer be drawn. -/
theorem Redirected.drawable {id player : PlayerId} {card other : CardId} {fate : Fate} {s s' : GameState}
    (h : Redirected id other fate s s') (hcard : s.Drawable player card) (hne : card ≠ other) :
    s'.Drawable player card := by
  obtain ⟨z, hz, hmem⟩ := hcard
  rw [GameState.Drawable, h.zones, hz]
  by_cases hplayer : id = player
  · rw [if_pos hplayer]
    exact ⟨_, rfl, PlayerZones.drawable_redirected hmem hne⟩
  · rw [if_neg hplayer]
    exact ⟨z, rfl, hmem⟩

/-- A card that comes to a discard pile can be drawn, and what could be drawn before can be drawn still. -/
theorem GameState.drawable_discarded {s : GameState} {id : PlayerId} {p q : Player} {card : CardId}
    (hp : s.player? id = some p) (hdeck : q.zones.deck = p.zones.deck)
    (hdiscard : q.zones.discard = p.zones.discard ++ [card]) :
    (s.setPlayer id q).Drawable id card ∧
      ∀ player other, s.Drawable player other → (s.setPlayer id q).Drawable player other := by
  have hdrawable : q.zones.drawable = p.zones.drawable ++ [card] := by
    rw [PlayerZones.drawable, PlayerZones.drawable, hdeck, hdiscard, List.append_assoc]
  constructor
  · refine ⟨q.zones, by rw [zones?_setPlayer hp, if_pos rfl], ?_⟩
    rw [hdrawable]
    exact List.mem_append_right _ (List.mem_singleton_self card)
  · rintro player other ⟨z, hz, hmem⟩
    rw [Drawable, zones?_setPlayer hp]
    by_cases hplayer : id = player
    · rw [if_pos hplayer]
      rw [← hplayer, zones?, hp] at hz
      obtain rfl := Option.some.inj hz
      exact ⟨_, rfl, hdrawable ▸ List.mem_append_left _ hmem⟩
    · rw [if_neg hplayer]
      exact ⟨z, hz, hmem⟩

namespace Catalog

open Script.Leads

variable {M : Type} [Controllers M] {n : Game (Minuted M)} {depth : Nat} {id : PlayerId} {p : Player}

/-- A card that does nothing itself when it is gained costs nobody a card. -/
theorem plain_gain_hoards {pile : String} {q : Pile} {card : CardId} {c : Card} (hs : n.state.OfCatalog)
    (hpile : n.state.supply.pile? pile = some q) (htop : q.top? = some card)
    (hp : n.state.player? id = some p) (hc : n.state.card? card = some c)
    (hplain : c.definition.onGain = []) :
    Ensures (gain (runWithin depth) pile id false .discard) n
      (fun _ n' => Hoarded n.state n'.state) fun _ _ => True := by
  refine (plain_gain_redirects hs hpile htop hp hc hplain (runWithin_provokesAt depth n) false).imp ?_
  rintro _ n' ⟨-, _, -, -, hredirected⟩
  obtain ⟨hgained, -⟩ := gained_discarded hpile htop hp hc false
  refine ⟨hgained.trans hredirected.changes, ?_⟩
  rintro player other ⟨z, hz, hmem⟩
  obtain ⟨p', hp', rfl⟩ := Option.map_eq_some_iff.mp hz
  have hne := ne_of_held hs.sound hp' (PlayerZones.mem_allCards_of_drawable hmem)
    (List.mem_of_find?_eq_some hpile) (List.mem_of_getLast? htop)
  refine hredirected.drawable ?_ hne
  exact (GameState.drawable_discarded
    (s := { n.state with supply := n.state.supply.updatePile pile Pile.pop })
    (q := p.onTableau (·.put card .discard .top)) hp rfl rfl).2 player other ⟨p'.zones, hz, hmem⟩

theorem findGold_hoards {ctx : ReactionContext} (hs : n.state.Filed)
    (hid : ctx.owner.seat < n.state.players.length) :
    (findGold ctx).Leads (perform (runWithin depth)) n (fun _ n' => Hoarded n.state n'.state)
      fun _ _ => True := by
  unfold findGold
  cases ctx.trigger with
  | gain info => exact pure (.refl n.state)
  | startTurn player => exact pure (.refl n.state)
  | discard player card =>
  refine bind (look (ite (fun _ => ?_) fun _ => pure (.refl n.state)))
  refine callBind ((chooseBoolean_ungained hid).imp ?_)
  rintro answer n₁ ⟨hungained, hstill⟩
  have hn₁ := Hoarded.of_still hungained.changes hstill
  refine ite (fun _ => ?_) fun _ => pure hn₁
  have hs₁ := hn₁.filed hs
  refine callBind ((ensures_reveal (Hoarded.firm hs₁.toOfCatalog) (.refl n₁.state)).imp ?_)
  intro _ n₂ hn₂
  have hs₂ := hn₂.filed hs₁
  obtain ⟨p₂, hp₂⟩ := GameState.player?_of_lt (hn₂.kept.seated (hn₁.kept.seated hid))
  refine callBind (Ensures.imp (Q := fun _ n₃ => Hoarded n₂.state n₃.state) ?_ ?_)
  · change Ensures (gainIfAvailable (runWithin depth) "Gold" ctx.owner .discard) n₂ _ _
    simp only [gainIfAvailable, ensures_bind, ensures_state]
    rw [ensures_ite]
    refine ⟨fun _ => (Hoarded.firm hs₂.toOfCatalog).verbose (.refl n₂.state) _, fun hcount => ?_⟩
    obtain ⟨q, gold, c, hpile, htop, hc⟩ := hs₂.top_of_count (Nat.pos_of_ne_zero hcount)
    obtain ⟨_, hc', hmem, hname⟩ := hs₂.top hpile htop
    obtain rfl := Option.some.inj (hc.symm.trans hc')
    rw [ensures_bind]
    exact plain_gain_hoards hs₂.toOfCatalog hpile htop hp₂ hc (gold_inert hmem hname).onGain
  · intro _ n₃ hn₃
    exact pure ((hn₁.trans hn₂).trans hn₃)

omit [Controllers M] in
/-- A card in hand can be discarded. -/
theorem discard_succeeds {provoke : Program → Engine (Minuted M) Bool} {card : CardId}
    (hp : n.state.player? id = some p) (hcard : card ∈ p.hand) :
    Ensures (discard provoke card id) n (fun found _ => found = true) fun _ _ => True := by
  obtain ⟨taken, htaken⟩ := remove?_of_mem_hand hcard
  simp only [Engine.discard, ensures_bind, ensures_state, ensures_player, hp, htaken, ensures_modifyState,
    ensures_publish, ensures_pure]
  exact Ensures.trivial.imp fun _ _ _ => trivial

/-- A card that is discarded from the hand can be drawn, and nobody loses a card that could be drawn. -/
theorem discard_hoards {card : CardId} (hs : n.state.Filed) (hp : n.state.player? id = some p)
    (hcard : card ∈ p.hand) :
    Ensures (discard (runWithin depth) card id) n
      (fun _ n' => Hoarded n.state n'.state ∧ n'.state.Drawable id card) fun _ _ => True := by
  obtain ⟨unspent, -⟩ := atHand_hand hs.toOfCatalog hp card hcard
  obtain ⟨taken, htaken⟩ := remove?_of_mem_hand hcard
  obtain ⟨zones, hzones, htableau⟩ := Tableau.remove?_eq_some htaken
  obtain ⟨-, hzones⟩ := PlayerZones.remove?_eq_some_iff.mp hzones
  generalize hs₁ : n.state.setPlayer id { p with toTableau := taken.put card .discard .top } = s₁
  have hmoved : Hoarded n.state s₁ ∧ s₁.Drawable id card := by
    have hdeck : (taken.put card .discard .top).zones.deck = p.zones.deck := by
      rw [htableau, hzones]
      rfl
    have hdiscard : (taken.put card .discard .top).zones.discard = p.zones.discard ++ [card] := by
      rw [htableau, hzones]
      rfl
    obtain ⟨hdrawable, hothers⟩ := hs₁ ▸ GameState.drawable_discarded hp hdeck hdiscard
    exact ⟨⟨hs₁ ▸ (quiet_discard hs.sound hp unspent htaken).changes, hothers⟩, hdrawable⟩
  have hfiled₁ := hmoved.1.filed hs
  refine Ensures.imp (Q := fun _ n' => Hoarded s₁ n'.state) ?_ fun _ n' hn' =>
    ⟨hmoved.1.trans hn', hn'.drawable id card hmoved.2⟩
  refine ensures_discard (Hoarded.firm hfiled₁.toOfCatalog) hp ?_ ?_ ?_
  · intro hnone
    rw [htaken] at hnone
    exact absurd hnone (by simp)
  · intro zone tableau hremove
    obtain ⟨-, rfl⟩ := Prod.mk.inj (Option.some.inj (htaken.symm.trans hremove))
    rw [hs₁]
    exact .refl s₁
  · intro n₂ hn₂ k hk n' r hn' hr _
    rw [reaction_discard (hn₂.filed hfiled₁).toOfCatalog hk]
    cases depth with
    | zero => trivial
    | succ depth =>
      have hgold : (findGold ⟨k.card, k.owner, .discard id card⟩).Leads (perform (runWithin depth))
          n' (fun _ n'' => Hoarded n'.state n''.state) fun _ _ => True :=
        findGold_hoards (hn'.filed hfiled₁) (GameState.seat_lt_of_player? hr)
      exact once (hgold.imp fun _ _ hn'' => hn'.trans hn'')

/-- These cards have left the hand and can be drawn again. -/
structure Recycled (id : PlayerId) (cards : List CardId) (s s' : GameState) : Prop where
  pared : Pared id cards s s'
  hoarded : Hoarded s s'
  drawable : ∀ card ∈ cards, s'.Drawable id card

theorem discards_hoard {cards : List CardId} (hnodup : cards.Nodup) (acc : List CardId) (hs : n.state.Filed)
    (hp : n.state.player? id = some p) (hcards : ∀ card ∈ cards, card ∈ p.hand) :
    Script.Leads (perform (runWithin depth))
      (cards.filterAuxM (fun card => Script.discard card id) acc) n
      (fun found n' => found = cards.reverse ++ acc ∧ Recycled id cards n.state n'.state)
      fun _ _ => True := by
  induction cards generalizing n p acc with
  | nil =>
    exact pure ⟨rfl, .of_beside (.refl n.state) id, .refl n.state, fun _ h => absurd h List.not_mem_nil⟩
  | cons card rest ih =>
    obtain ⟨hnew, hrest⟩ := List.nodup_cons.mp hnodup
    have hcard := hcards card List.mem_cons_self
    refine callBind ((((discard_succeeds hp hcard).and (discard_pares hs hp hcard)).and
      (discard_hoards hs hp hcard)).mono ?_ fun _ _ _ => trivial)
    rintro _ n₁ ⟨⟨rfl, hpared⟩, hhoarded, hdrawable⟩
    obtain ⟨p₁, hp₁, hhand⟩ := hpared.player? hp
    refine (ih hrest (card :: acc) (hpared.filed hs) hp₁ ?_).imp ?_
    · intro other hother
      rw [hhand, List.mem_filter]
      refine ⟨hcards other (List.mem_cons_of_mem _ hother), decide_eq_true ?_⟩
      rw [List.mem_singleton]
      exact fun heq => hnew (heq ▸ hother)
    · rintro found n₂ ⟨rfl, hlater⟩
      refine ⟨by simp, hpared.trans hlater.pared, hhoarded.trans hlater.hoarded, ?_⟩
      exact List.forall_mem_cons.mpr ⟨hlater.hoarded.drawable id card hdrawable, hlater.drawable⟩

/-! ### Drawing -/

omit [Controllers M] in
/-- As many cards are drawn as there should be if there are so many. -/
theorem draw_enough {count : Nat} {E : Halt → Game (Minuted M) → Prop} (hp : n.state.player? id = some p)
    (henough : count ≤ p.zones.drawable.length) :
    Ensures (Engine.draw id count) n
      (fun drawn n' => drawn.length = count ∧
        ∃ p', n'.state.player? id = some p' ∧ p'.hand = p.hand ++ drawn) E := by
  obtain ⟨drawn, s', hdraw, hdrew⟩ := GameState.exists_drew hp count
  rw [PlayerZones.drawable, List.length_append] at henough
  rw [Engine.draw, ensures_step, hdraw]
  refine ⟨by rw [hdrew.count, Nat.min_eq_left henough], _, hdrew.player? hp, ?_⟩
  rw [hdrew.cards_eq]
  rfl

/-- Some cards of the hand were discarded, and as many were drawn. -/
structure Redrawn (hand hand' chosen drawn : List CardId) : Prop where
  distinct : chosen.Nodup
  held : ∀ card ∈ chosen, card ∈ hand
  many : drawn.length = chosen.length
  hand : hand' = (hand.filter fun card => card ∉ chosen) ++ drawn

theorem Redrawn.length {hand hand' chosen drawn : List CardId} (h : Redrawn hand hand' chosen drawn)
    (hnodup : hand.Nodup) : hand'.length = hand.length := by
  have hleft := length_filter_notMem hnodup h.distinct h.held
  have hfew := (List.subperm_of_subset h.distinct h.held).length_le
  rw [h.hand, List.length_append, hleft, h.many]
  omega

omit [Controllers M] in
/-- The cards that were discarded can all be drawn. -/
theorem Recycled.enough {cards : List CardId} {s s' : GameState} {p' : Player}
    (h : Recycled id cards s s') (hnodup : cards.Nodup) (hp' : s'.player? id = some p') :
    cards.length ≤ p'.zones.drawable.length := by
  refine (List.subperm_of_subset hnodup fun card hcard => ?_).length_le
  obtain ⟨z, hz, hmem⟩ := h.drawable card hcard
  rw [GameState.zones?, hp'] at hz
  obtain rfl : p'.zones = z := Option.some.inj hz
  exact hmem

theorem discardAndRedraw_redraws {ctx : EffectContext} (hs : n.state.Filed)
    (hp : n.state.player? ctx.player = some p) :
    (discardAndRedraw ctx).Leads (perform (runWithin depth)) n
      (fun _ n' => ∃ chosen drawn p', n'.state.player? ctx.player = some p' ∧
        Redrawn p.hand p'.hand chosen drawn) fun _ _ => True := by
  have hnodup := nodup_hand hs.sound hp
  refine bind (hand hp (callBind ((chooseCards_beside hs.toOfCatalog (GameState.seat_lt_of_player? hp)
    hnodup (Nat.zero_le _)).imp ?_)))
  rintro chosen n₁ ⟨hn₁, hchosen⟩
  obtain ⟨p₁, hp₁, haside⟩ := hn₁.player? hp
  have hhand₁ : p₁.zones.aside.hand = p.zones.aside.hand := congrArg PlayerZones.hand haside
  change p₁.hand = p.hand at hhand₁
  refine bind (bind ((discards_hoard hchosen.distinct [] (hs.beside hn₁) hp₁ ?_).imp ?_))
  · rw [hhand₁]
    exact hchosen.offered
  rintro found n₂ ⟨rfl, hdiscarded⟩
  refine pure ?_
  obtain ⟨p₂, hp₂, hhand₂⟩ := hdiscarded.pared.player? hp₁
  have henough := hdiscarded.enough hchosen.distinct hp₂
  rw [List.append_nil, List.reverse_reverse]
  refine callBind ((draw_enough hp₂ henough).imp ?_)
  rintro drawn n₃ ⟨hmany, p₃, hp₃, hhand₃⟩
  exact pure ⟨chosen, drawn, p₃, hp₃, hchosen.distinct, hchosen.offered, hmany,
    by rw [hhand₃, hhand₂, hhand₁]⟩

/-- An action more leaves everything else as it is. -/
theorem runOn_gainActions {N : Type} [Controllers N] {g : Game N} (hp : g.state.player? id = some p)
    (count : Nat) (card : CardId) :
    (executeWithin (depth + 1) (.gainActions count) ⟨card, id⟩).runOn g =
      (.ok (), ⟨g.state.setPlayer id (p.onTableau (·.credit count .actions)), g.memory⟩) := by
  refine Ensures.runOn_eq ?_
  simp only [executeWithin, runWithin, Effect.program, interpret, perform, ensures_bind,
    ensures_modifyPlayer, hp]
  exact ⟨trivial, rfl⟩

theorem cellar_redraws {card : CardId} (hs : n.state.Filed) (hp : n.state.player? id = some p) :
    Ensures (cellar.onPlay.forM fun e => executeWithin depth e ⟨card, id⟩) n
      (fun _ n' => ∃ chosen drawn p', n'.state.player? id = some p' ∧ Redrawn p.hand p'.hand chosen drawn)
      fun _ _ => True := by
  cases depth with
  | zero => exact trivial
  | succ depth =>
  change Ensures (executeWithin (depth + 1) (.gainActions 1) ⟨card, id⟩ >>= fun _ =>
    executeWithin (depth + 1) (.scripted "discard and redraw" discardAndRedraw) ⟨card, id⟩ >>= fun _ =>
      Pure.pure ()) n _ _
  rw [Ensures, runOn_bind_of_ok (runOn_gainActions hp 1 card), bind_pure_unit]
  have hpaid := GameState.player?_setPlayer_self (p.onTableau (·.credit 1 .actions)) hp
  have hbeside : Beside n.state (n.state.setPlayer id (p.onTableau (·.credit 1 .actions))) :=
    (Beside.firm hs.toOfCatalog).adjust (g := n) (.refl n.state) hp rfl rfl rfl
      fun hallow => ⟨hallow.gain, hallow.play⟩
  change Ensures (executeWithin (depth + 1) (.scripted "discard and redraw" discardAndRedraw) ⟨card, id⟩)
    ⟨_, n.memory⟩ _ _
  rw [executeWithin, ensures_bind]
  have hredraws : (discardAndRedraw ⟨card, id⟩).Leads (perform (runWithin depth))
      ⟨n.state.setPlayer id (p.onTableau (·.credit 1 .actions)), n.memory⟩ _ _ :=
    discardAndRedraw_redraws (hs.beside hbeside) hpaid
  exact scripted hredraws (fun _ => .finish false) _ fun _ _ h => h

end Catalog

namespace Catalog

variable {M : Type} [Controllers M]

/-- Whichever cards the player discards to a Cellar, as many are drawn for them, so that the hand is as
large as before, whatever the discards set off and however empty the deck was. -/
theorem cellar_keeps_hand_size {config : GameConfig} {s₀ : GameState} {g g' : Game M}
    (hinit : initGame Registry.catalog config = .ok s₀) (hg : g.Reachable s₀) {depth : Nat}
    {provoke : Program → Engine M Bool} (hprovoke : ProvokesAt depth g provoke)
    {card : CardId} {c : Card} (hc : g.state.card? card = some c) (hcellar : c.definition = cellar)
    {id : PlayerId} {p : Player} (hp : g.state.player? id = some p)
    (h : (resolve provoke card id).runOn g = (.ok (), g')) :
    ∃ p', g'.state.player? id = some p' ∧ p'.hand.length = p.hand.length ∧
      ∃ chosen drawn, Redrawn p.hand p'.hand chosen drawn := by
  have hfiled := hg.filed hinit
  have hcoupling := Agrees.coupling (Minuted.alike (M := M))
  have hagrees : Agrees Minuted.memory (cellar.onPlay.forM fun e => executeWithin depth e ⟨card, id⟩)
      (cellar.onPlay.forM fun e => executeWithin depth e ⟨card, id⟩) :=
    Agrees.of_coupled (.forM (fun _ => .bind (.runWithin hcoupling depth _) fun _ => .pure _) _)
  have hran := hagrees.minuted g
  rw [hprovoke.resolve hc, hcellar] at h
  rw [h] at hran
  obtain ⟨hok, hstate⟩ := Prod.mk.inj hran
  have hends : Ensures (cellar.onPlay.forM fun e => executeWithin depth e ⟨card, id⟩) g.minuted _ _ :=
    cellar_redraws hfiled hp
  obtain ⟨chosen, drawn, p', hp', hredrawn⟩ := hends.ended (runOn_eq_of_ok hok.symm)
  rw [hstate]
  exact ⟨p', hp', hredrawn.length (nodup_hand hfiled.sound hp), chosen, drawn, hredrawn⟩

set_option maxRecDepth 100000 in
/-- The first of two players has a Cellar from the supply carried out at once. -/
theorem cellar_keeps_hand_size_at_opening :
    ∃ s₀ g' p p', initGame Registry.catalog { players := ["Player 1", "Player 2"] } = .ok s₀ ∧
      (resolve run ⟨159⟩ ⟨0⟩).runOn ⟨s₀, Table.ofMinds [.random, .random]⟩ = (.ok (), g') ∧
      s₀.player? ⟨0⟩ = some p ∧ g'.state.player? ⟨0⟩ = some p' ∧ p'.hand.length = p.hand.length ∧
      ∃ chosen drawn, Redrawn p.hand p'.hand chosen drawn := by
  have hruns : (initGame Registry.catalog { players := ["Player 1", "Player 2"] }).toOption.any
      fun s => (s.card? ⟨159⟩).any (·.definition.name == "Cellar") &&
        ((resolve run ⟨159⟩ ⟨0⟩).runOn ⟨s, Table.ofMinds [.random, .random]⟩).1.toOption.isSome := by
    decide +kernel
  obtain ⟨s₀, hinit, hruns⟩ := exists_ok_of_any hruns
  obtain ⟨hcard, hends⟩ := Bool.and_eq_true_iff.mp hruns
  obtain ⟨c, hc, hname⟩ := (Option.any_eq_true _ _).mp hcard
  obtain ⟨_, hends⟩ := exists_ok_of_isSome hends
  have hplayed := runOn_eq_of_ok hends
  have hopened := initGame_opened hinit
  have hcellar : c.definition = cellar :=
    Registry.eq_of_filter (p := fun d => d.name == "Cellar") rfl
      (hopened.ofCatalog.registered _ c hc) hname
  obtain ⟨p, hp⟩ : ∃ p, s₀.player? ⟨0⟩ = some p :=
    GameState.player?_of_lt (by rw [hopened.seats]; decide)
  obtain ⟨p', hp', hlength, chosen, drawn, hredrawn⟩ :=
    cellar_keeps_hand_size hinit (.opening _) (run_provokesAt _) hc hcellar hp hplayed
  exact ⟨s₀, _, p, p', hinit, hplayed, hp, hp', hlength, chosen, drawn, hredrawn⟩

end Catalog

end DeckBuilder
