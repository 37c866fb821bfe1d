import DeckBuilder.Proofs.Licensed
import DeckBuilder.Proofs.CatalogGame

/-!
The cards of the catalog keep within their licences. What they do when something else happens moves
cards only. When they are played they pay the player who plays them, and those that do something more
at the next turn hang it on themselves. Two cards are left out, which lay cards onto the table: the
Lighthouse and the Throne Room.
-/
namespace DeckBuilder

namespace Catalog

open Script.Within

variable {L : Licence} {ctx : EffectContext}

theorem gainCostingUpTo_within (maxCost : Nat) :
    (gainCostingUpTo ctx maxCost).Within L fun _ => True := by
  refine callBind trivial fun pile _ => ?_
  cases pile with
  | none => exact pure trivial
  | some pile => exact callBind rfl fun _ _ => pure trivial

theorem offerTopdeck_within (player : PlayerId) {gained : CardId} (source : CardId)
    (h : ¬ L.locked gained) : (offerTopdeck player gained source).Within L fun _ => True := by
  refine (tableau player).bind fun t _ => ite (fun _ => ?_) fun _ => pure trivial
  refine (face gained).bind fun f _ => callBind trivial fun answer _ => ?_
  refine ite (fun _ => ?_) fun _ => pure trivial
  exact callBind ⟨h, not_false, rfl⟩ fun _ _ => pure trivial

/-- Effects that only draw or count. -/
theorem plain_within (hpayee : L.payee ctx.player) {effect : Effect} (h : effect.Plain) :
    effect.Within L ctx := by
  cases effect with
  | drawCards => trivial
  | gainActions | gainBuys | gainMoney | gainVictoryTokens => exact hpayee
  | _ => exact h.elim

theorem plainAll_within (hpayee : L.payee ctx.player) {effects : List Effect}
    (h : ∀ effect ∈ effects, effect.Plain) : Effect.WithinAll L ctx effects := by
  induction effects with
  | nil => trivial
  | cons effect rest ih =>
    refine ⟨plain_within hpayee (h effect List.mem_cons_self), ih ?_⟩
    exact fun e he => h e (List.mem_cons_of_mem _ he)

theorem nextTurn_within (label : String) {effects : List Effect}
    (h : L.hangs ctx.card (doLater effects)) : (nextTurn label effects).Within L ctx :=
  ⟨h, trivial⟩

/-! ### What the cards do when something else happens -/

theorem sealGain_mild (source : CardId) : GainInfo.Mild (sealGain source) :=
  fun _ info h => once (offerTopdeck_within info.player source h)

theorem payForSilver_fair : PlayerId.Fair payForSilver := by
  intro L player card hpayee
  refine keeping (look.bind fun o _ => ite (fun _ => ?_) fun _ => pure trivial)
  exact callBind hpayee fun _ _ => pure trivial

theorem watch_within (card : CardId) (owner : PlayerId) {info : GainInfo}
    (h : ¬ L.locked info.card) : (watch ⟨card, owner, .gain info⟩).Within L fun _ => True := by
  refine ite (fun _ => ?_) fun _ => pure trivial
  refine (face info.card).bind fun f _ => callBind trivial fun answer _ => ?_
  refine ite (fun _ => ?_) fun _ => offerTopdeck_within _ _ h
  exact callBind trivial fun _ _ => callBind h fun _ _ => pure trivial

theorem findGold_within (ctx : ReactionContext) : (findGold ctx).Within L fun _ => True := by
  unfold findGold
  cases ctx.trigger with
  | gain info => exact pure trivial
  | discard player card =>
    refine look.bind fun o _ => ite (fun _ => ?_) fun _ => pure trivial
    refine callBind trivial fun answer _ => ite (fun _ => ?_) fun _ => pure trivial
    exact callBind trivial fun _ _ => callBind trivial fun _ _ => pure trivial
  | startTurn player => exact pure trivial

theorem returnToDeck_within (h : ¬ L.locked ctx.card) :
    (returnToDeck ctx).Within L fun _ => True := by
  refine look.bind fun o _ => ite (fun _ => pure trivial) fun _ => ?_
  refine callBind trivial fun answer _ => ite (fun _ => ?_) fun _ => pure trivial
  exact callBind ⟨h, not_false, rfl⟩ fun _ _ => pure trivial

theorem gainCheaper_within : (gainCheaper ctx).Within L fun _ => True := by
  refine callBind trivial fun own _ => callBind trivial fun pile _ => ?_
  cases pile with
  | none => exact pure trivial
  | some pile => exact callBind rfl fun _ _ => pure trivial

end Catalog

namespace Registry

open Catalog Script.Within

theorem allCards_mild : ∀ d ∈ allCards, d.Mild := by
  intro d hd
  constructor
  · intro locked ctx _
    by_cases hnone : d.onGain = []
    · rw [hnone]
      trivial
    · rw [eq_borderVillage hd hnone]
      exact ⟨once gainCheaper_within, trivial⟩
  · intro locked ctx _
    by_cases hnone : d.onTrash = []
    · rw [hnone]
      trivial
    · rw [eq_fortress hd hnone]
      exact ⟨once (free trivial), trivial⟩
  · intro locked ctx hcard
    by_cases hnone : d.onCleanUp = []
    · rw [hnone]
      trivial
    · rw [eq_treasury hd hnone]
      exact ⟨once (returnToDeck_within hcard), trivial⟩
  · intro r hr locked card owner info hcard
    rw [eq_watchtower hd hr] at hr
    rw [← Option.some.inj hr]
    exact once (s := watch ⟨card, owner, .gain info⟩) (watch_within card owner hcard)
  · intro r hr locked card owner player discarded
    rw [eq_tunnel hd hr] at hr
    rw [← Option.some.inj hr]
    exact once (s := findGold ⟨card, owner, .discard player discarded⟩) (findGold_within _)

end Registry

namespace Catalog

open Script.Within

variable {L : Licence} {ctx : EffectContext}

/-! ### What the cards do when they are played -/

theorem discardAndRedraw_within : (discardAndRedraw ctx).Within L fun _ => True := by
  refine (hand ctx.player).bind fun cards hcards => callBind trivial fun chosen hchosen => ?_
  refine Script.Within.bind (filterM fun card hcard => ?_) fun discarded _ => ?_
  · exact free (c := .discard card ctx.player) (hcards card (hchosen card hcard))
  exact callBind trivial fun _ _ => pure trivial

theorem trashUpToFour_within : (trashUpToFour ctx).Within L fun _ => True := by
  refine (hand ctx.player).bind fun cards hcards => callBind trivial fun chosen hchosen => ?_
  exact forM fun card hcard => callBind (hcards card (hchosen card hcard)) fun _ _ => pure trivial

theorem toNativeVillage_within : (toNativeVillage ctx).Within L fun _ => True := by
  refine callBind trivial fun cards hcards => ?_
  cases hhead : cards.head? with
  | none => exact pure trivial
  | some card =>
    have hcard : ¬ L.locked card := hcards card (List.mem_of_mem_head? hhead)
    exact callBind ⟨hcard, not_false, rfl⟩ fun _ _ => pure trivial

theorem fromNativeVillage_within : (fromNativeVillage ctx).Within L fun _ => True := by
  refine (tableau ctx.player).bind fun t ht => forM fun card hcard => ?_
  have hfree : ¬ L.locked card := by
    refine ht card (PlayerZones.mem_elsewhere.mpr (Or.inr (Or.inr (Or.inr ?_))))
    exact PlayerZones.exists_mat_of_mem hcard
  exact callBind ⟨hfree, not_false, rfl⟩ fun _ _ => pure trivial

theorem silverBonus_within (h : L.payee ctx.player) (hsways : L.sways) :
    (silverBonus ctx).Within L fun _ => True :=
  fun _ hk => ⟨h, hsways, payForSilver_fair, hk () trivial⟩

theorem sealGains_within (h : L.payee ctx.player) : (sealGains ctx).Within L fun _ => True :=
  fun _ hk => ⟨h, sealGain_mild ctx.card, hk () trivial⟩

theorem drawToSix_within (n : Nat) : (drawToSix ctx n).Within L fun _ => True := by
  induction n with
  | zero => exact pure trivial
  | succ n ih =>
    refine (hand ctx.player).bind fun cards _ => ite (fun _ => ?_) fun _ => pure trivial
    exact callBind trivial fun drawn _ => ite (fun _ => pure trivial) fun _ => ih

theorem discardToThree_within : (discardToThree ctx).Within L fun _ => True := by
  refine (hand ctx.player).bind fun cards hcards => ite (fun _ => ?_) fun _ => pure trivial
  refine callBind trivial fun chosen hchosen => ?_
  exact forM fun card hcard => callBind (hcards card (hchosen card hcard)) fun _ _ => pure trivial

theorem lend_within (h : L.payee ctx.player) : (lend ctx).Within L fun _ => True := by
  refine (handWhere ctx.player _).bind fun coppers hcoppers => ?_
  cases hhead : coppers.head? with
  | none => exact pure trivial
  | some copper =>
    have hcopper := hcoppers copper (List.mem_of_mem_head? hhead)
    refine callBind trivial fun answer _ => ite (fun _ => ?_) fun _ => pure trivial
    refine callBind hcopper fun trashed _ => ite (fun _ => ?_) fun _ => pure trivial
    exact free h

theorem exchange_within : (exchange ctx).Within L fun _ => True := by
  refine (hand ctx.player).bind fun cards hcards => (chooseCard _ _ _ _).bind fun chosen hchosen => ?_
  cases chosen with
  | none => exact pure trivial
  | some card =>
    refine callBind trivial fun cost _ => callBind ?_ fun _ _ => gainCostingUpTo_within _
    exact hcards card (hchosen card rfl)

theorem conspire_within (h : L.payee ctx.player) : (conspire ctx).Within L fun _ => True :=
  look.bind fun _ _ => ite (fun _ => steps ⟨trivial, h, trivial⟩) fun _ => pure trivial

theorem consume_within (h : ¬ L.locked ctx.card) : (consume ctx).Within L fun _ => True :=
  callBind h fun _ _ => gainCostingUpTo_within 5

theorem toIsland_within (h : ¬ L.locked ctx.card) : (toIsland ctx).Within L fun _ => True := by
  refine (hand ctx.player).bind fun cards hcards => (chooseCard _ _ _ _).bind fun chosen hchosen => ?_
  refine callBind ⟨h, not_false, rfl⟩ fun _ _ => ?_
  cases chosen with
  | none => exact pure trivial
  | some card =>
    exact callBind ⟨hcards card (hchosen card rfl), not_false, rfl⟩ fun _ _ => pure trivial

theorem topdeckVictory_within : (topdeckVictory ctx).Within L fun _ => True := by
  refine (handWhere ctx.player _).bind fun victories hvictories => ite (fun _ => ?_) fun _ => ?_
  · exact (hand ctx.player).bind fun cards _ => free trivial
  · refine (chooseCard _ _ _ _).bind fun chosen hchosen => ?_
    cases chosen with
    | none => exact pure trivial
    | some card =>
      have hcard := hvictories card (hchosen card rfl)
      exact callBind trivial fun _ _ => callBind ⟨hcard, not_false, rfl⟩ fun _ _ => pure trivial

/-! ### The cards -/

/-- The two cards that change prices, or have something wait on plays. -/
def Sways (d : CardDefinition) : Prop := d.name = bridge.name ∨ d.name = merchant.name

/-- A definition of which everything that it does when it is played is within the licences under which
the player is paid, the card itself is free to move, and programs may be hung on the card. -/
def Licensed (d : CardDefinition) : Prop :=
  ∀ (L : Licence) (ctx : EffectContext), L.payee ctx.player → (Sways d → L.sways) →
    (d.is .duration = false → ¬ L.locked ctx.card) →
    (d.is .duration = true → ∀ effects : List Effect, (∀ effect ∈ effects, effect.Plain) →
      L.hangs ctx.card (doLater effects)) →
    Effect.WithinAll L ctx d.onPlay

end Catalog

namespace Registry

open Catalog Script.Within

theorem baseCards_licensed : ∀ d ∈ baseCards, Licensed d := by
  simp only [baseCards, List.forall_mem_cons, List.not_mem_nil, false_implies, implies_true,
    and_true]
  refine ⟨?_, ?_, ?_, ?_, ?_, ?_, ?_, ?_, ?_⟩ <;> exact fun _ _ _ _ _ _ => trivial

/-- The scripts of a card are those looked at above. -/
theorem kingdomCards_licensed :
    ∀ d ∈ kingdomCards, d.name ≠ lighthouse.name → d.name ≠ throneRoom.name → Licensed d := by
  simp only [kingdomCards, List.forall_mem_cons, List.not_mem_nil, false_implies, implies_true,
    and_true]
  refine ⟨?cellar, ?chapel, ?moat, ?pawn, ?nativeVillage, ?lighthouse, ?village, ?workshop,
    ?merchant, ?fishingVillage, ?watchtower, ?tunnel, ?smithy, ?militia, ?moneylender, ?remodel,
    ?throneRoom, ?bridge, ?conspirator, ?feast, ?gardens, ?island, ?caravan, ?fortress,
    ?bureaucrat, ?market, ?laboratory, ?festival, ?councilRoom, ?witch, ?treasury, ?royalSeal,
    ?borderVillage, ?grandMarket, ?peddler⟩
  case lighthouse => exact fun h => absurd rfl h
  case throneRoom => exact fun _ h => absurd rfl h
  all_goals intro _ _ L ctx hpay hsways hfree hhang
  case cellar => exact ⟨hpay, once discardAndRedraw_within, trivial⟩
  case chapel => exact ⟨once trashUpToFour_within, trivial⟩
  case moat | smithy => exact ⟨trivial, trivial⟩
  case pawn => exact ⟨⟨trivial, hpay, hpay, hpay, trivial⟩, trivial⟩
  case nativeVillage =>
    exact ⟨hpay, ⟨once toNativeVillage_within, once fromNativeVillage_within, trivial⟩, trivial⟩
  case village | borderVillage | fortress => exact ⟨trivial, hpay, trivial⟩
  case workshop => exact ⟨once (gainCostingUpTo_within 4), trivial⟩
  case merchant => exact ⟨trivial, hpay, once (silverBonus_within hpay (hsways (.inr rfl))), trivial⟩
  case fishingVillage =>
    refine ⟨hpay, hpay, nextTurn_within _ (hhang rfl _ ?_), trivial⟩
    exact List.forall_mem_cons.mpr ⟨trivial, List.forall_mem_singleton.mpr trivial⟩
  case watchtower => exact ⟨once (drawToSix_within 6), trivial⟩
  case tunnel | gardens => trivial
  case militia => exact ⟨hpay, fun _ => once discardToThree_within, trivial⟩
  case moneylender => exact ⟨once (lend_within hpay), trivial⟩
  case remodel => exact ⟨once exchange_within, trivial⟩
  case bridge => exact ⟨hpay, hpay, once (free (hsways (.inl rfl))), trivial⟩
  case conspirator => exact ⟨hpay, once (conspire_within hpay), trivial⟩
  case feast => exact ⟨once (consume_within (hfree rfl)), trivial⟩
  case island => exact ⟨once (toIsland_within (hfree rfl)), trivial⟩
  case caravan =>
    refine ⟨trivial, hpay, nextTurn_within _ (hhang rfl _ ?_), trivial⟩
    exact List.forall_mem_singleton.mpr trivial
  case bureaucrat => exact ⟨trivial, fun _ => once topdeckVictory_within, trivial⟩
  case market | grandMarket => exact ⟨trivial, hpay, hpay, hpay, trivial⟩
  case laboratory => exact ⟨trivial, hpay, trivial⟩
  case festival => exact ⟨hpay, hpay, hpay, trivial⟩
  case councilRoom => exact ⟨trivial, hpay, fun _ => trivial, trivial⟩
  case witch => exact ⟨trivial, fun _ => trivial, trivial⟩
  case treasury | peddler => exact ⟨trivial, hpay, hpay, trivial⟩
  case royalSeal => exact ⟨once (sealGains_within hpay), trivial⟩

theorem allCards_licensed {d : CardDefinition} (hd : d ∈ allCards)
    (hlighthouse : d.name ≠ lighthouse.name) (hthroneRoom : d.name ≠ throneRoom.name) :
    Licensed d := by
  rcases List.mem_append.mp hd with hd | hd
  · exact baseCards_licensed d hd
  · exact kingdomCards_licensed d hd hlighthouse hthroneRoom

end Registry

/-- A state of the catalog is ready where no card is locked elsewhere than on a table. -/
theorem GameState.OfCatalog.ready {locked : CardId → Prop} {s : GameState} (hs : s.OfCatalog)
    (hplayers : ∀ p ∈ s.players, p.zones.Clear locked)
    (hsupply : ∀ q ∈ s.supply.piles, ∀ card ∈ q.cards, ¬ locked card)
    (htrash : ∀ card ∈ s.trash, ¬ locked card) : s.Ready locked where
  cards id c hc := Registry.allCards_mild _ (hs.registered id c hc)
  players := by
    intro p hp
    refine ⟨hplayers p hp, ?_, ?_⟩
    · intro t ht
      obtain ⟨source, heq⟩ := (hs.hooks.players p hp).gain t ht
      rw [heq]
      exact Catalog.sealGain_mild source
    · intro t ht
      rw [(hs.hooks.players p hp).play t ht]
      exact Catalog.payForSilver_fair
  supply := hsupply
  trash := htrash

end DeckBuilder
