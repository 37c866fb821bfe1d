import DeckBuilder.Proofs.Attacks
import DeckBuilder.Proofs.GainFrame
import DeckBuilder.Proofs.Retries

/-!
An attack that makes the others discard. The cards that a player has chosen leave the hand one by one,
and what this sets off moves no card of any hand: a Tunnel may bring a Gold, and a Watchtower may take the
Gold away from the discard pile. So a hand is left with the cards that were not chosen, in their order.
Nobody else's hand changes with it, so that who is immune when the attack comes round was so from the
beginning.
-/
namespace DeckBuilder

/-! ### Taking cards out of a hand -/

theorem length_filter_notMem {xs ys : List CardId} (hxs : xs.Nodup) (hys : ys.Nodup)
    (hsub : ∀ y ∈ ys, y ∈ xs) :
    (xs.filter fun x => x ∉ ys).length = xs.length - ys.length := by
  have hperm : (xs.filter fun x => x ∈ ys).Perm ys := by
    refine (List.perm_ext_iff_of_nodup (hxs.filter _) hys).mpr fun x => ?_
    rw [List.mem_filter, decide_eq_true_eq]
    exact ⟨fun h => h.2, fun h => ⟨hsub x h, h⟩⟩
  have hsplit := List.length_eq_length_filter_add (l := xs) fun x => decide (x ∈ ys)
  rw [hperm.length_eq] at hsplit
  simp only [decide_not]
  omega

/-- The zones when these cards have left the hand. -/
def PlayerZones.without (z : PlayerZones) (cards : List CardId) : PlayerZones :=
  { z with hand := z.hand.filter fun card => card ∉ cards }

theorem PlayerZones.without_nil (z : PlayerZones) : z.without [] = z := by
  simp [without]

theorem PlayerZones.without_singleton {z : PlayerZones} (h : z.hand.Nodup) (card : CardId) :
    z.without [card] = { z with hand := z.hand.erase card } := by
  rw [h.erase_eq_filter, without]
  congr 1
  refine List.filter_congr fun other _ => ?_
  rw [Bool.eq_iff_iff]
  simp

theorem PlayerZones.without_without (z : PlayerZones) (cards cards' : List CardId) :
    (z.without cards).without cards' = z.without (cards ++ cards') := by
  simp [without, List.filter_filter, Bool.and_comm]

/-- These cards have left the player's hand, and nothing else has moved but beside. -/
structure Pared (id : PlayerId) (cards : List CardId) (s s' : GameState) : Prop where
  changes : Changes Hooks.catalog s s'
  aside : ∀ other, s'.aside? other =
    if id = other then (s.aside? other).map (·.without cards) else s.aside? other

namespace Pared

variable {id : PlayerId} {cards cards' : List CardId} {s s' s'' : GameState} {p : Player}

theorem of_beside (h : Beside s s') (id : PlayerId) : Pared id [] s s' where
  changes := h.changes
  aside other := by
    have hsame : (fun z : PlayerZones => z.without []) = fun z => z :=
      funext PlayerZones.without_nil
    rw [h.aside, hsame, Option.map_id', ite_self]

theorem trans (h : Pared id cards s s') (h' : Pared id cards' s' s'') :
    Pared id (cards ++ cards') s s'' where
  changes := h.changes.trans h'.changes
  aside other := by
    rw [h'.aside, h.aside]
    by_cases hother : id = other
    · rw [if_pos hother, if_pos hother, if_pos hother, Option.map_map]
      exact congrArg (Option.map · _) (funext fun z => z.without_without cards cards')
    · rw [if_neg hother, if_neg hother, if_neg hother]

theorem kept (h : Pared id cards s s') : Kept s s' := h.changes.kept

theorem filed (h : Pared id cards s s') (hs : s.Filed) : s'.Filed :=
  hs.changes h.changes (h.changes.ofCatalog hs.toOfCatalog)

theorem player? (h : Pared id cards s s') (hp : s.player? id = some p) :
    ∃ p', s'.player? id = some p' ∧ p'.hand = p.hand.filter fun card => card ∉ cards := by
  have haside : s'.aside? id = some (p.zones.aside.without cards) := by
    rw [h.aside, if_pos rfl, GameState.aside?, hp]
    rfl
  obtain ⟨p', hp', hzones⟩ := Option.map_eq_some_iff.mp haside
  exact ⟨p', hp', congrArg PlayerZones.hand hzones⟩

end Pared

namespace Catalog

open Engine Script.Leads

variable {M : Type} [Controllers M] {g : Game M} {depth : Nat} {id : PlayerId} {p : Player}

/-! ### Discarding -/

theorem gold_inert {d : CardDefinition} (hd : d ∈ Registry.allCards) (hname : d.name = "Gold") :
    Inert d := by
  have hgold : d = baseTreasure "Gold" 6 3 :=
    Registry.eq_of_filter (p := fun d => d.name == "Gold") rfl hd (by rw [hname]; rfl)
  rw [hgold]
  exact ⟨rfl, rfl⟩

/-- A Tunnel that was discarded may bring a Gold, and this is all. -/
theorem findGold_beside {ctx : ReactionContext} (hs : g.state.Filed)
    (hid : ctx.owner.seat < g.state.players.length) :
    (findGold ctx).Leads (perform (runWithin depth)) g (fun _ g' => Beside g.state g'.state)
      fun _ _ => True := by
  unfold findGold
  cases ctx.trigger with
  | gain info => exact pure (.refl g.state)
  | startTurn player => exact pure (.refl g.state)
  | discard player card =>
  refine bind (look (ite (fun _ => ?_) fun _ => pure (.refl g.state)))
  refine callBind ((chooseBoolean_ungained hid).imp ?_)
  rintro answer g₁ ⟨hg₁, -⟩
  refine ite (fun _ => ?_) fun _ => pure hg₁.toBeside
  have hs₁ := hs.beside hg₁.toBeside
  refine callBind ((ensures_reveal (Beside.firm hs₁.toOfCatalog) (.refl g₁.state)).imp ?_)
  intro _ g₂ hg₂
  have hs₂ := hs₁.beside hg₂
  obtain ⟨p₂, hp₂⟩ := GameState.player?_of_lt (hg₂.kept.seated (hg₁.kept.seated hid))
  refine callBind ((gainIfAvailable_ungained hs₂ hp₂ (fun _ => gold_inert) fun _ _ => trivial).imp ?_)
  rintro _ g₃ (⟨-, hg₃⟩ | ⟨q, card, hpile, htop, hg₃⟩)
  · exact pure ((hg₁.toBeside.trans hg₂).trans hg₃.toBeside)
  · have hgained := GameState.beside_gained hpile htop hp₂ false
    exact pure ((hg₁.toBeside.trans hg₂).trans (hgained.trans hg₃.toBeside))

/-- A card that is discarded leaves the hand, whatever its discard sets off. -/
theorem discard_pares {card : CardId} (hs : g.state.Filed) (hp : g.state.player? id = some p)
    (hcard : card ∈ p.hand) :
    Ensures (discard (runWithin depth) card id) g (fun _ g' => Pared id [card] g.state g'.state)
      fun _ _ => True := by
  obtain ⟨unspent, -⟩ := atHand_hand hs.toOfCatalog hp card hcard
  obtain ⟨taken, htaken⟩ := remove?_of_mem_hand hcard
  generalize hs₁ : g.state.setPlayer id { p with toTableau := taken.put card .discard .top } = s₁
  have hmoved : Pared id [card] g.state s₁ := by
    refine ⟨hs₁ ▸ (quiet_discard hs.sound hp unspent htaken).changes, fun other => ?_⟩
    rw [← hs₁, GameState.aside?_setPlayer hp]
    by_cases hother : id = other
    · obtain ⟨zones, hzones, rfl⟩ := Tableau.remove?_eq_some htaken
      obtain ⟨-, rfl⟩ := PlayerZones.remove?_eq_some_iff.mp hzones
      rw [if_pos hother, if_pos hother, ← hother, GameState.aside?, hp, Option.map_some,
        Option.map_some,
        PlayerZones.without_singleton (z := p.zones.aside) (nodup_hand hs.sound hp)]
      rfl
    · rw [if_neg hother, if_neg hother]
  have hfiled₁ := hmoved.filed hs
  refine Ensures.imp (Q := fun _ g' => Beside s₁ g'.state) ?_ fun _ g' hg' =>
    hmoved.trans (.of_beside hg' id)
  refine ensures_discard (Beside.firm hfiled₁.toOfCatalog) hp ?_ ?_ ?_
  · intro hnone
    rw [htaken] at hnone
    exact absurd hnone (by simp)
  · intro zone tableau hremove
    obtain ⟨-, rfl⟩ := Prod.mk.inj (Option.some.inj (htaken.symm.trans hremove))
    rw [hs₁]
    exact .refl s₁
  · intro g₂ hg₂ k hk g' r hg' hr _
    rw [reaction_discard (hfiled₁.beside hg₂).toOfCatalog hk]
    cases depth with
    | zero => trivial
    | succ depth =>
      have hgold : (findGold ⟨k.card, k.owner, .discard id card⟩).Leads (perform (runWithin depth))
          g' (fun _ g'' => Beside g'.state g''.state) fun _ _ => True :=
        findGold_beside (hfiled₁.beside hg') (GameState.seat_lt_of_player? hr)
      exact once (hgold.imp fun _ _ hg'' => hg'.trans hg'')

/-- Cards are discarded one after the other. -/
theorem discards_pare {cards : List CardId} (hnodup : cards.Nodup) (hs : g.state.Filed)
    (hp : g.state.player? id = some p) (hcards : ∀ card ∈ cards, card ∈ p.hand) :
    Script.Leads (perform (runWithin depth))
      (cards.forM fun card => do let _ ← Script.discard card id) g
      (fun _ g' => Pared id cards g.state g'.state) fun _ _ => True := by
  induction cards generalizing g p with
  | nil => exact pure (.of_beside (.refl g.state) id)
  | cons card rest ih =>
    obtain ⟨hnew, hrest⟩ := List.nodup_cons.mp hnodup
    refine bind (f := fun _ => rest.forM fun card => do let _ ← Script.discard card id) ?_
    refine callBind ((discard_pares hs hp (hcards card List.mem_cons_self)).imp ?_)
    intro _ g₁ hg₁
    refine pure ?_
    obtain ⟨p₁, hp₁, hhand⟩ := hg₁.player? hp
    refine (ih hrest (hg₁.filed hs) hp₁ ?_).imp fun _ _ hg₂ => hg₁.trans hg₂
    intro other hother
    rw [hhand, List.mem_filter]
    refine ⟨hcards other (List.mem_cons_of_mem _ hother), decide_eq_true ?_⟩
    rw [List.mem_singleton]
    exact fun heq => hnew (heq ▸ hother)

/-- Of the cards in hand some are chosen, as many as there are more than three. -/
structure Excess (hand cards : List CardId) : Prop where
  distinct : cards.Nodup
  held : ∀ card ∈ cards, card ∈ hand
  length : cards.length = hand.length - 3

/-- While a player chooses cards nothing moves. -/
theorem chooseCards_beside {choice : CardChoice} (hs : g.state.OfCatalog)
    (hid : id.seat < g.state.players.length) (hpool : choice.cards.Nodup)
    (hbounds : choice.min ≤ choice.max) :
    Ensures (chooseCards id choice) g
      (fun chosen g' => Beside g.state g'.state ∧
        Selection choice.cards choice.min choice.max chosen) fun _ _ => True := by
  have hchoice := ensures_chooseCards (Contract.fit_any hs) hid hpool hbounds
  refine hchoice.ran.mono ?_ fun _ _ _ => trivial
  rintro chosen g' ⟨⟨hg', -⟩, hran⟩
  have hselecting := chooseCards_selecting hid choice
  rw [hran] at hselecting
  refine ⟨⟨hg'.state.changes, hg'.still.aside?⟩, ?_⟩
  exact hselecting.selection hpool hbounds fun _ h => h.1.selection h.2

/-- The player is left with three cards. -/
theorem discardToThree_pares {ctx : EffectContext} (hs : g.state.Filed)
    (hp : g.state.player? ctx.player = some p) :
    (discardToThree ctx).Leads (perform (runWithin depth)) g
      (fun _ g' => ∃ cards, Excess p.hand cards ∧ Pared ctx.player cards g.state g'.state)
      fun _ _ => True := by
  refine bind (hand hp (ite (fun hmany => ?_) fun hfew => pure ?_))
  · have hnodup := nodup_hand hs.sound hp
    refine callBind ((chooseCards_beside hs.toOfCatalog (GameState.seat_lt_of_player? hp) hnodup
      (Nat.le_refl _)).imp ?_)
    rintro chosen g₁ ⟨hg₁, hchosen⟩
    dsimp only at hchosen
    have hlength := hchosen.enough
    have hfew := hchosen.few
    obtain ⟨p₁, hp₁, haside⟩ := hg₁.player? hp
    have hhand : p₁.zones.aside.hand = p.zones.aside.hand := congrArg PlayerZones.hand haside
    refine (discards_pare hchosen.distinct (hs.beside hg₁) hp₁ ?_).imp ?_
    · change ∀ card ∈ chosen, card ∈ p₁.zones.aside.hand
      rw [hhand]
      exact hchosen.offered
    · intro _ g₂ hg₂
      refine ⟨chosen, ⟨hchosen.distinct, hchosen.offered, ?_⟩, (Pared.of_beside hg₁ _).trans hg₂⟩
      omega
  · exact ⟨[], ⟨List.nodup_nil, by simp, by simp; omega⟩, .of_beside (.refl g.state) _⟩

end Catalog

/-! ### Going round -/

/-- What an attack has left of a hand: all of it if the player was immune, and else three cards. -/
def HandLeft (target : PlayerId) (s s' : GameState) : Prop :=
  ∃ cards, s'.aside? target = (s.aside? target).map (·.without cards) ∧
    (s.Immune target → cards = []) ∧
    (¬ s.Immune target → ∀ z, s.aside? target = some z → Catalog.Excess z.hand cards)

/-- The attack has left the player what it leaves, and nothing else has moved but beside. -/
structure Visited (target : PlayerId) (s s' : GameState) : Prop where
  changes : Changes Hooks.catalog s s'
  others : ∀ other, other ≠ target → s'.aside? other = s.aside? other
  hand : HandLeft target s s'

/-- It does not matter when a player was attacked whom nobody else has touched. -/
theorem HandLeft.congr {target : PlayerId} {s s₁ s₂ s' : GameState} (h : HandLeft target s₁ s₂)
    (hkept : Kept s s₁) (hbefore : s₁.aside? target = s.aside? target)
    (hafter : s'.aside? target = s₂.aside? target) : HandLeft target s s' := by
  obtain ⟨cards, hcards, himmune, hopen⟩ := h
  rw [GameState.immune_congr hkept hbefore] at himmune hopen
  rw [hbefore] at hcards hopen
  exact ⟨cards, hafter.trans hcards, himmune, hopen⟩

theorem HandLeft.hand {target : PlayerId} {s s' : GameState} {p : Player}
    (h : HandLeft target s s') (hs : s.Sound) (hp : s.player? target = some p) :
    ∃ p', s'.player? target = some p' ∧ (s.Immune target → p'.hand = p.hand) ∧
      (¬ s.Immune target → p'.hand.length = min p.hand.length 3 ∧ p'.hand.Sublist p.hand) := by
  obtain ⟨cards, hcards, himmune, hopen⟩ := h
  have haside : s.aside? target = some p.zones.aside := by
    rw [GameState.aside?, hp]
    rfl
  rw [haside] at hcards
  obtain ⟨p', hp', hzones⟩ := Option.map_eq_some_iff.mp hcards
  have hhand : p'.hand = p.hand.filter fun card => card ∉ cards :=
    congrArg PlayerZones.hand hzones
  refine ⟨p', hp', fun hsafe => ?_, fun hstruck => ?_⟩
  · rw [hhand, himmune hsafe]
    simp
  · have hexcess := hopen hstruck _ haside
    have hmany : cards.length = p.hand.length - 3 := hexcess.length
    have hlength := length_filter_notMem (Catalog.nodup_hand hs hp) hexcess.distinct hexcess.held
    rw [hhand]
    refine ⟨?_, List.filter_sublist⟩
    omega

namespace Engine

variable {M : Type}

/-- What a round of attacks leaves: whom it visits, the visit leaves the same as the round, and a player
is immune when it is this player's turn if the player was so at the beginning. -/
theorem Round.visited {Step : PlayerId → Game M → Game M → Prop} {targets : List PlayerId}
    {g g' : Game M}
    (h : Round (fun target g g' => Step target g g' ∧ Visited target g.state g'.state) targets g g')
    (hnodup : targets.Nodup) :
    Round (fun target before after => Step target before after ∧
        (before.state.Immune target ↔ g.state.Immune target)) targets g g' ∧
      (∀ target ∈ targets, HandLeft target g.state g'.state) ∧
      ∀ other, other ∉ targets → g'.state.aside? other = g.state.aside? other := by
  induction h with
  | done g => exact ⟨.done g, by simp, fun _ _ => rfl⟩
  | @next target rest g g₁ g' first _ ih =>
    obtain ⟨hnew, hrest⟩ := List.nodup_cons.mp hnodup
    obtain ⟨hstep, hvisited⟩ := first
    obtain ⟨hround, hhands, hothers⟩ := ih hrest
    have hkept := hvisited.changes.kept
    have hlater : ∀ other ∈ rest, g₁.state.aside? other = g.state.aside? other :=
      fun other hother => hvisited.others other fun heq => hnew (heq ▸ hother)
    refine ⟨.next ⟨hstep, Iff.rfl⟩ ?_, ?_, ?_⟩
    · refine (hround.keeps (I := fun _ => True) trivial ?_).1
      rintro other hother before after - ⟨hstep, himmune⟩
      exact ⟨⟨hstep, himmune.trans (GameState.immune_congr hkept (hlater other hother))⟩, trivial⟩
    · intro other hother
      rcases List.mem_cons.mp hother with rfl | hother
      · exact hvisited.hand.congr (.refl g.state) rfl (hothers other hnew)
      · exact (hhands other hother).congr hkept (hlater other hother) rfl
    · intro other hother
      have hlast := hothers other (List.not_mem_of_not_mem_cons hother)
      exact hlast.trans (hvisited.others other (List.ne_of_not_mem_cons hother))

end Engine

theorem Visited.of_pared {target : PlayerId} {cards : List CardId} {s s' : GameState}
    (h : Pared target cards s s') (himmune : s.Immune target → cards = [])
    (hopen : ¬ s.Immune target → ∀ z, s.aside? target = some z → Catalog.Excess z.hand cards) :
    Visited target s s' where
  changes := h.changes
  others other hother := by rw [h.aside, if_neg (Ne.symm hother)]
  hand := ⟨cards, by rw [h.aside, if_pos rfl], himmune, hopen⟩

namespace Catalog

open Engine

variable {M : Type} [Controllers M] {g g' : Game M} {depth : Nat}

/-- What the Militia does to the others. -/
def discardDown : Effect := .scripted "discard down to 3" discardToThree

theorem attacked_visits {attack : CardId} {target : PlayerId} (hs : g.state.Filed)
    (h : Attacked attack (fun t => executeWithin (depth + 1) discardDown ⟨attack, t⟩) target g g') :
    Visited target g.state g'.state := by
  by_cases himmune : g.state.Immune target
  · have hbeside := (h.ungained himmune).toBeside
    exact .of_pared (.of_beside hbeside target) (fun _ => rfl) fun hopen => absurd himmune hopen
  · have hstrike := h.runOn_strike himmune
    obtain ⟨p, hp⟩ := h.player
    have hleads : (Effect.step discardDown ⟨attack, target⟩).Leads (perform (runWithin depth)) g
        (fun _ g' => ∃ cards, Excess p.hand cards ∧ Pared target cards g.state g'.state)
        fun _ _ => True := Script.Leads.scripted (discardToThree_pares hs hp)
    have hends : Ensures (executeWithin (depth + 1) discardDown ⟨attack, target⟩) g
        (fun _ g' => ∃ cards, Excess p.hand cards ∧ Pared target cards g.state g'.state)
        fun _ _ => True := by
      rw [executeWithin, ensures_bind]
      exact hleads (fun _ => .finish false) _ fun _ _ h => h
    obtain ⟨cards, hexcess, hpared⟩ := hends.ended hstrike
    refine .of_pared hpared (fun hsafe => absurd hsafe himmune) fun _ z hz => ?_
    rw [GameState.aside?, hp] at hz
    rw [← Option.some.inj hz]
    exact hexcess

/-- The other players pay nothing and are paid nothing. -/
theorem discardDown_money {attack : CardId} {id : PlayerId} {p : Player} (hs : g.state.OfCatalog)
    (hp : g.state.player? id = some p)
    (h : (executeWithin depth (.attack discardDown) ⟨attack, id⟩).runOn g = (.ok (), g')) :
    ∃ p', g'.state.player? id = some p' ∧ p'.money = p.money := by
  have hwithin : ((Effect.attack discardDown).program ⟨attack, id⟩ (.finish false)).Within
      (.modest noCard) := by
    refine Effect.Within.program (.attack discardDown) ?_ trivial
    exact fun target => discardToThree_within.once
  have hready : g.state.Ready noCard :=
    hs.ready (fun _ _ _ _ => not_false) (fun _ _ _ _ => not_false) fun _ _ => not_false
  have hends : Ensures (executeWithin depth (.attack discardDown) ⟨attack, id⟩) g
      (fun _ g' => (Licence.modest noCard).Allows g.state g'.state) fun _ _ => True := by
    rw [executeWithin, ensures_bind]
    exact (runWithin_heeds depth hwithin g hready).mono (fun _ _ h => h.1) fun _ _ _ => trivial
  obtain ⟨p', hp', hallows⟩ := (hends.ended h).players id p hp
  refine ⟨p', hp', ?_⟩
  rw [hallows.rest not_false]

/-- The attack goes round. -/
theorem attack_visits {attack : CardId} {id : PlayerId} {g₀ : Game M}
    {provoke : Program → Engine M Bool} (hprovoke : ProvokesAt (depth + 1) g₀ provoke)
    (hs : g.state.Filed) (hkept : Kept g₀.state g.state)
    (h : (executeWithin (depth + 1) (.attack discardDown) ⟨attack, id⟩).runOn g = (.ok (), g')) :
    Round (fun target before after =>
        Attacked attack (fun t => executeAll provoke [discardDown] ⟨attack, t⟩) target before after ∧
          Visited target before.state after.state)
      (g.state.opponentsOf id) g g' := by
  refine ((runOn_attackWithin.mp h).keeps
    (I := fun before => before.state.Filed ∧ Kept g₀.state before.state) ⟨hs, hkept⟩ ?_).1
  rintro target - before after ⟨hs, hkept⟩ hattacked
  have hvisited := attacked_visits hs hattacked
  have hcatalog := hvisited.changes.ofCatalog hs.toOfCatalog
  refine ⟨⟨hattacked.congr ?_, hvisited⟩, hs.changes hvisited.changes hcatalog,
    hkept.trans hvisited.changes.kept⟩
  exact (hprovoke.execute hkept discardDown ⟨attack, target⟩).symm

omit [Controllers M] in
theorem credited_beside {s : GameState} (hs : s.OfCatalog) {id : PlayerId} {p : Player}
    (hp : s.player? id = some p) (n : Nat) (memory : M) :
    Beside s (s.setPlayer id (p.onTableau (·.credit n .money))) :=
  (Beside.firm hs).adjust (g := ⟨s, memory⟩) (.refl s) hp rfl rfl rfl
    fun hallow => ⟨hallow.gain, hallow.play⟩

theorem runOn_gainMoney {id : PlayerId} {p : Player} (hp : g.state.player? id = some p) (n : Nat)
    (card : CardId) :
    (executeWithin (depth + 1) (.gainMoney n) ⟨card, id⟩).runOn g =
      (.ok (), ⟨g.state.setPlayer id (p.onTableau (·.credit n .money)), g.memory⟩) := by
  refine Ensures.runOn_eq ?_
  simp only [executeWithin, runWithin, Effect.program, interpret, perform, ensures_bind,
    ensures_modifyPlayer, hp]
  exact ⟨trivial, rfl⟩

/-- The Militia, whatever the discards set off and whoever answers. -/
theorem militia_leaves_three {config : GameConfig} {s₀ : GameState} {g : Game M}
    (hinit : initGame Registry.catalog config = .ok s₀) (hg : g.Reachable s₀)
    {provoke : Program → Engine M Bool} (hprovoke : ProvokesAt depth g provoke)
    {card : CardId} {c : Card} (hc : g.state.card? card = some c) (hmilitia : c.definition = militia)
    {id : PlayerId} {p : Player} (hp : g.state.player? id = some p)
    (h : (resolve provoke card id).runOn g = (.ok (), g')) :
    (∃ p', g'.state.player? id = some p' ∧ p'.money = p.money + 2) ∧
    (∀ other q, other ≠ id → g.state.player? other = some q →
      ∃ q', g'.state.player? other = some q' ∧
        (g.state.Immune other → q'.hand = q.hand) ∧
        (¬ g.state.Immune other →
          q'.hand.length = min q.hand.length 3 ∧ q'.hand.Sublist q.hand)) ∧
    Round (fun target before after =>
        Attacked card (fun t => executeAll provoke [discardDown] ⟨card, t⟩) target before after ∧
          (before.state.Immune target ↔ g.state.Immune target))
      (g.state.opponentsOf id)
      ⟨g.state.setPlayer id (p.onTableau (·.credit 2 .money)), g.memory⟩ g' := by
  have hfiled := hg.filed hinit
  have hid := GameState.seat_lt_of_player? hp
  rw [hprovoke.resolve hc, hmilitia] at h
  cases depth with
  | zero => cases h
  | succ depth =>
  change (executeWithin (depth + 1) (.gainMoney 2) ⟨card, id⟩ >>= fun _ =>
    executeWithin (depth + 1) (.attack discardDown) ⟨card, id⟩ >>= fun _ => Pure.pure ()).runOn g =
      (.ok (), g') at h
  rw [runOn_bind_of_ok (runOn_gainMoney hp 2 card), bind_pure_unit] at h
  have hpaid := GameState.player?_setPlayer_self (p.onTableau (·.credit 2 .money)) hp
  have hbeside := credited_beside hfiled.toOfCatalog hp 2 g.memory
  have hopponents : (g.state.setPlayer id (p.onTableau (·.credit 2 .money))).opponentsOf id =
      g.state.opponentsOf id := by
    rw [GameState.opponentsOf, hbeside.kept.seats, GameState.opponentsOf]
  have hvisits := attack_visits hprovoke (hfiled.beside hbeside) hbeside.kept h
  rw [hopponents] at hvisits
  obtain ⟨hround, hhands, -⟩ := hvisits.visited (g.state.nodup_opponentsOf id)
  refine ⟨discardDown_money (hfiled.beside hbeside).toOfCatalog hpaid h, ?_, ?_⟩
  · intro other q hother hq
    have hopponent := (GameState.mem_opponentsOf hid).mpr ⟨GameState.seat_lt_of_player? hq, hother⟩
    have hleft := (hhands other hopponent).congr hbeside.kept (congrFun hbeside.aside other) rfl
    exact hleft.hand hfiled.sound hq
  · refine (hround.keeps (I := fun _ => True) trivial ?_).1
    rintro target - before after - ⟨hattacked, hsame⟩
    have himmune := GameState.immune_congr hbeside.kept (congrFun hbeside.aside target)
    exact ⟨⟨hattacked, hsame.trans himmune⟩, trivial⟩

set_option maxRecDepth 100000 in
/-- The first of two players has a Militia from the supply carried out at once. -/
theorem militia_leaves_three_at_opening :
    ∃ s₀ g', initGame Registry.catalog { players := ["Player 1", "Player 2"] } = .ok s₀ ∧
      (resolve run ⟨180⟩ ⟨0⟩).runOn ⟨s₀, Table.ofMinds [.random, .random]⟩ = (.ok (), g') ∧
      ∃ p p' q q', s₀.player? ⟨0⟩ = some p ∧ g'.state.player? ⟨0⟩ = some p' ∧
        p'.money = p.money + 2 ∧ s₀.player? ⟨1⟩ = some q ∧ g'.state.player? ⟨1⟩ = some q' ∧
        (¬ s₀.Immune ⟨1⟩ → q'.hand.length = min q.hand.length 3 ∧ q'.hand.Sublist q.hand) := by
  have hruns : (initGame Registry.catalog { players := ["Player 1", "Player 2"] }).toOption.any
      fun s => (s.card? ⟨180⟩).any (·.definition.name == "Militia") &&
        ((resolve run ⟨180⟩ ⟨0⟩).runOn ⟨s, Table.ofMinds [.random, .random]⟩).1.toOption.isSome := by
    decide +kernel
  obtain ⟨s₀, hinit, hruns⟩ := exists_ok_of_any hruns
  obtain ⟨hcard, hends⟩ := Bool.and_eq_true_iff.mp hruns
  obtain ⟨c, hc, hname⟩ := (Option.any_eq_true _ _).mp hcard
  obtain ⟨_, hends⟩ := exists_ok_of_isSome hends
  have hplayed := runOn_eq_of_ok hends
  have hopened := initGame_opened hinit
  have hmilitia : c.definition = militia :=
    Registry.eq_of_filter (p := fun d => d.name == "Militia") rfl
      (hopened.ofCatalog.registered _ c hc) hname
  obtain ⟨p, hp⟩ : ∃ p, s₀.player? ⟨0⟩ = some p :=
    GameState.player?_of_lt (by rw [hopened.seats]; decide)
  obtain ⟨q, hq⟩ : ∃ q, s₀.player? ⟨1⟩ = some q :=
    GameState.player?_of_lt (by rw [hopened.seats]; decide)
  obtain ⟨⟨p', hp', hmoney⟩, hothers, -⟩ :=
    militia_leaves_three hinit (.opening _) (run_provokesAt _) hc hmilitia hp hplayed
  obtain ⟨q', hq', -, hopen⟩ := hothers ⟨1⟩ q (by decide) hq
  exact ⟨s₀, _, hinit, hplayed, p, p', q, q', hp, hp', hmoney, hq, hq', hopen⟩

end Catalog

end DeckBuilder
