import DeckBuilder.Proofs.Scripts
import DeckBuilder.Proofs.Seated

/-!
The cards of the catalog gain only for players at the table: their scripts hand on the player they
act for.
-/
namespace DeckBuilder

/-- A script after which programs of the kind are still of the kind. -/
def Script.Seated {α : Type} (n : Nat) (s : Script α) (Q : α → Prop) : Prop :=
  ∀ k : α → Program, (∀ a, Q a → (k a).Seated n) → Program.Seated n (s k)

namespace Script.Seated

variable {n : Nat} {α β : Type} {Q : α → Prop} {R : β → Prop}

theorem bind {s : Script α} {f : α → Script β} (hs : s.Seated n Q)
    (hf : ∀ a, Q a → (f a).Seated n R) : Script.Seated n (s >>= f) R :=
  Gives.bind hs hf

theorem pure {a : α} (h : Q a) : Script.Seated n (Pure.pure a : Script α) Q := Gives.pure h

theorem fail {error : GameError} : (Script.fail error : Script α).Seated n Q :=
  fun _ _ => trivial

theorem look : Script.look.Seated n (Outlook.Seated n) := fun _ hk => hk

theorem ite {c : Prop} [Decidable c] {s s' : Script α} (hs : c → s.Seated n Q)
    (hs' : ¬ c → s'.Seated n Q) : (if c then s else s').Seated n Q :=
  Gives.ite hs hs'

theorem forM {f : α → Script PUnit} {xs : List α} (hf : ∀ a, (f a).Seated n fun _ => True) :
    Script.Seated n (xs.forM f) fun _ => True :=
  Gives.forM fun a _ => hf a

theorem filterM {p : α → Script Bool} {xs : List α} (hp : ∀ a, (p a).Seated n fun _ => True) :
    Script.Seated n (xs.filterM p) fun _ => True :=
  Gives.imp (Gives.filterM fun a _ => hp a) fun _ _ => trivial

theorem once {s : Script Unit} (hs : s.Seated n fun _ => True) : Program.Seated n s.once :=
  Gives.once trivial hs

theorem keeping {s : Script Bool} (hs : s.Seated n fun _ => True) : Program.Seated n s.keeping :=
  Gives.keeping (fun _ => trivial) hs

theorem tableau (id : PlayerId) : (Script.tableau id).Seated n fun _ => True := by
  refine look.bind fun o _ => ?_
  cases o.tableau? id with
  | some t => exact pure trivial
  | none => exact fail

theorem face (card : CardId) : (Script.face card).Seated n fun _ => True := by
  refine look.bind fun o _ => ?_
  cases o.face? card with
  | some f => exact pure trivial
  | none => exact fail

theorem hand (id : PlayerId) : (Script.hand id).Seated n fun _ => True :=
  (tableau id).bind fun _ _ => pure trivial

theorem handWhere (id : PlayerId) (p : CardFace → Bool) :
    (Script.handWhere id p).Seated n fun _ => True :=
  (hand id).bind fun _ _ => filterM fun card => (face card).bind fun _ _ => pure trivial

/-- A call that asks nothing of its seats, whatever its answer. -/
theorem free {c : Call} (hc : c.Seated n) : (Script.call c).Seated n fun _ => True :=
  fun _ hk => ⟨hc, fun a _ => hk a trivial⟩

/-- Such a call, and what is done with its answer. -/
theorem callBind {c : Call} {f : c.Answer → Script β} (hc : c.Seated n)
    (hf : ∀ a, (f a).Seated n R) : Script.Seated n (Script.call c >>= f) R :=
  (free hc).bind fun a _ => hf a

theorem chooseCard (id : PlayerId) (prompt : String) (cards : List CardId)
    (source : Option CardId) : (Script.chooseCard id prompt cards source).Seated n fun _ => True :=
  callBind (c := .chooseCards id { prompt, cards, min := 1, max := 1, source }) trivial
    fun _ => pure trivial

theorem steps {effects : List Effect} {ctx : EffectContext} (he : Effect.SeatedAll n effects)
    (hctx : ctx.player.seat < n) : (Effect.steps effects ctx).Seated n fun _ => True :=
  fun _ hk => Effect.SeatedAll.program hctx effects he (hk () trivial)

end Script.Seated

namespace Catalog

open Script.Seated

variable {n : Nat} {ctx : EffectContext}

theorem gainCostingUpTo_seated (hctx : ctx.player.seat < n) (maxCost : Nat) :
    (gainCostingUpTo ctx maxCost).Seated n fun _ => True := by
  refine callBind trivial fun pile => ?_
  cases pile with
  | none => exact pure trivial
  | some pile => exact callBind hctx fun _ => pure trivial

theorem offerTopdeck_seated (player : PlayerId) (gained source : CardId) :
    (offerTopdeck player gained source).Seated n fun _ => True := by
  refine (tableau player).bind fun t _ => ite (fun _ => ?_) fun _ => pure trivial
  refine (face gained).bind fun f _ => callBind trivial fun answer => ?_
  exact ite (fun _ => callBind trivial fun _ => pure trivial) fun _ => pure trivial

theorem nextTurn_seated (label : String) {effects : List Effect}
    (he : Effect.SeatedAll n effects) : (nextTurn label effects).Seated n :=
  fun _ _ => ⟨fun _ hctx => once (steps he hctx), trivial⟩

theorem discardAndRedraw_seated : (discardAndRedraw ctx).Seated n fun _ => True := by
  refine (hand ctx.player).bind fun cards _ => callBind trivial fun chosen => ?_
  refine (filterM fun card => free (c := .discard card ctx.player) trivial).bind fun discarded _ => ?_
  exact callBind trivial fun _ => pure trivial

theorem trashUpToFour_seated : (trashUpToFour ctx).Seated n fun _ => True := by
  refine (hand ctx.player).bind fun cards _ => callBind trivial fun chosen => ?_
  exact forM fun card => callBind trivial fun _ => pure trivial

theorem toNativeVillage_seated : (toNativeVillage ctx).Seated n fun _ => True := by
  refine callBind trivial fun cards => ?_
  cases cards.head? with
  | none => exact pure trivial
  | some card => exact callBind trivial fun _ => pure trivial

theorem fromNativeVillage_seated : (fromNativeVillage ctx).Seated n fun _ => True :=
  (tableau ctx.player).bind fun _ _ => forM fun _ => callBind trivial fun _ => pure trivial

theorem standWatch_seated : (standWatch ctx).Seated n fun _ => True := by
  refine callBind trivial fun _ k hk => ⟨fun ctx _ => once ?_, hk () trivial⟩
  exact callBind trivial fun _ => callBind trivial fun _ => pure trivial

theorem silverBonus_seated : (silverBonus ctx).Seated n fun _ => True := by
  refine fun k hk => ⟨fun player card _ => keeping ?_, hk () trivial⟩
  refine look.bind fun o _ => ite (fun _ => ?_) fun _ => pure trivial
  exact callBind trivial fun _ => pure trivial

theorem drawToSix_seated (k : Nat) : (drawToSix ctx k).Seated n fun _ => True := by
  induction k with
  | zero => exact pure trivial
  | succ k ih =>
    refine (hand ctx.player).bind fun cards _ => ite (fun _ => ?_) fun _ => pure trivial
    exact callBind trivial fun drawn => ite (fun _ => pure trivial) fun _ => ih

theorem watch_seated (ctx : ReactionContext) : (watch ctx).Seated n fun _ => True := by
  unfold watch
  cases ctx.trigger with
  | gain info =>
    refine ite (fun _ => ?_) fun _ => pure trivial
    refine (face info.card).bind fun f _ => callBind trivial fun answer => ?_
    refine ite (fun _ => ?_) fun _ => offerTopdeck_seated _ _ _
    exact callBind trivial fun _ => callBind trivial fun _ => pure trivial
  | discard player card => exact pure trivial
  | startTurn player => exact pure trivial

theorem findGold_seated {ctx : ReactionContext} (howner : ctx.owner.seat < n) :
    (findGold ctx).Seated n fun _ => True := by
  unfold findGold
  cases ctx.trigger with
  | gain info => exact pure trivial
  | discard player card =>
    refine look.bind fun o _ => ite (fun _ => ?_) fun _ => pure trivial
    refine callBind trivial fun answer => ite (fun _ => ?_) fun _ => pure trivial
    exact callBind trivial fun _ => callBind howner fun _ => pure trivial
  | startTurn player => exact pure trivial

theorem discardToThree_seated : (discardToThree ctx).Seated n fun _ => True := by
  refine (hand ctx.player).bind fun cards _ => ite (fun _ => ?_) fun _ => pure trivial
  refine callBind trivial fun chosen => ?_
  exact forM fun card => callBind trivial fun _ => pure trivial

theorem lend_seated : (lend ctx).Seated n fun _ => True := by
  refine (handWhere ctx.player _).bind fun coppers _ => ?_
  cases coppers.head? with
  | none => exact pure trivial
  | some copper =>
    refine callBind trivial fun answer => ite (fun _ => ?_) fun _ => pure trivial
    refine callBind trivial fun trashed => ite (fun _ => ?_) fun _ => pure trivial
    exact free trivial

theorem exchange_seated (hctx : ctx.player.seat < n) : (exchange ctx).Seated n fun _ => True := by
  refine (hand ctx.player).bind fun cards _ => (chooseCard _ _ _ _).bind fun chosen _ => ?_
  cases chosen with
  | none => exact pure trivial
  | some card =>
    refine callBind trivial fun cost => callBind trivial fun _ => ?_
    exact gainCostingUpTo_seated hctx _

theorem playTwice_seated (hctx : ctx.player.seat < n) :
    (playTwice ctx).Seated n fun _ => True := by
  refine (handWhere ctx.player _).bind fun actions _ => callBind trivial fun chosen => ?_
  cases chosen.head? with
  | none => exact pure trivial
  | some card => exact callBind trivial fun _ => callBind hctx fun _ => free hctx

theorem conspire_seated (hctx : ctx.player.seat < n) : (conspire ctx).Seated n fun _ => True :=
  look.bind fun _ _ => ite (fun _ => steps ⟨trivial, trivial, trivial⟩ hctx) fun _ => pure trivial

theorem consume_seated (hctx : ctx.player.seat < n) : (consume ctx).Seated n fun _ => True :=
  callBind trivial fun _ => gainCostingUpTo_seated hctx 5

theorem toIsland_seated : (toIsland ctx).Seated n fun _ => True := by
  refine (hand ctx.player).bind fun cards _ => (chooseCard _ _ _ _).bind fun chosen _ => ?_
  refine callBind trivial fun _ => ?_
  cases chosen with
  | none => exact pure trivial
  | some card => exact callBind trivial fun _ => pure trivial

theorem topdeckVictory_seated : (topdeckVictory ctx).Seated n fun _ => True := by
  refine (handWhere ctx.player _).bind fun victories _ => ite (fun _ => ?_) fun _ => ?_
  · exact (hand ctx.player).bind fun cards _ => free trivial
  · refine (chooseCard _ _ _ _).bind fun chosen _ => ?_
    cases chosen with
    | none => exact pure trivial
    | some card => exact callBind trivial fun _ => callBind trivial fun _ => pure trivial

theorem returnToDeck_seated : (returnToDeck ctx).Seated n fun _ => True := by
  refine look.bind fun o _ => ite (fun _ => pure trivial) fun _ => ?_
  refine callBind trivial fun answer => ite (fun _ => ?_) fun _ => pure trivial
  exact callBind trivial fun _ => pure trivial

theorem sealGains_seated : (sealGains ctx).Seated n fun _ => True :=
  fun _ hk => ⟨fun _ _ => once (offerTopdeck_seated _ _ _), hk () trivial⟩

theorem gainCheaper_seated (hctx : ctx.player.seat < n) :
    (gainCheaper ctx).Seated n fun _ => True := by
  refine callBind trivial fun own => callBind trivial fun pile => ?_
  cases pile with
  | none => exact pure trivial
  | some pile => exact callBind hctx fun _ => pure trivial

end Catalog

/-- Of a definition without reactions only the effects need looking at. -/
theorem CardDefinition.Seated.of_effects {n : Nat} {d : CardDefinition}
    (hplay : Effect.SeatedAll n d.onPlay) (hgain : Effect.SeatedAll n d.onGain)
    (htrash : Effect.SeatedAll n d.onTrash) (hcleanUp : Effect.SeatedAll n d.onCleanUp)
    (hreactions : d.reactions.isEmpty = true) : d.Seated n := by
  refine ⟨hplay, hgain, htrash, hcleanUp, ?_⟩
  intro kind r hr
  simp only [Reactions.isEmpty, Bool.and_eq_true, Option.isNone_iff_eq_none] at hreactions
  cases kind <;> simp [Reactions.get?, hreactions] at hr

/-- Most cards do something only when they are played. -/
theorem CardDefinition.Seated.of_play {n : Nat} {d : CardDefinition}
    (hplay : Effect.SeatedAll n d.onPlay) (hgain : d.onGain = [] := by rfl)
    (htrash : d.onTrash = [] := by rfl) (hcleanUp : d.onCleanUp = [] := by rfl)
    (hreactions : d.reactions.isEmpty = true := by rfl) : d.Seated n := by
  refine of_effects hplay ?_ ?_ ?_ hreactions
  · rw [hgain]
    trivial
  · rw [htrash]
    trivial
  · rw [hcleanUp]
    trivial

namespace Registry

open Catalog Script.Seated CardDefinition.Seated

variable {n : Nat}

theorem baseCards_seated : ∀ d ∈ baseCards, d.Seated n := by
  simp only [baseCards, List.forall_mem_cons, List.not_mem_nil, false_implies, implies_true,
    and_true]
  refine ⟨?_, ?_, ?_, ?_, ?_, ?_, ?_, ?_, ?_⟩ <;> exact of_play trivial

theorem watchtower_seated : watchtower.Seated n := by
  refine ⟨⟨fun _ _ => once (drawToSix_seated 6), trivial⟩, trivial, trivial, trivial, ?_⟩
  intro kind r hr ctx _ _
  cases kind with
  | gain =>
    obtain rfl := Option.some.inj hr
    exact once (watch_seated ctx)
  | discard => exact absurd hr (by simp [watchtower, Reactions.get?])
  | startTurn => exact absurd hr (by simp [watchtower, Reactions.get?])

theorem tunnel_seated : tunnel.Seated n := by
  refine ⟨trivial, trivial, trivial, trivial, ?_⟩
  intro kind r hr ctx howner _
  cases kind with
  | discard =>
    obtain rfl := Option.some.inj hr
    exact once (findGold_seated howner)
  | gain => exact absurd hr (by simp [tunnel, Reactions.get?])
  | startTurn => exact absurd hr (by simp [tunnel, Reactions.get?])

theorem fortress_seated : fortress.Seated n :=
  of_effects ⟨trivial, trivial, trivial⟩ trivial ⟨fun _ _ => once (free trivial), trivial⟩ trivial
    rfl

theorem treasury_seated : treasury.Seated n :=
  of_effects ⟨trivial, trivial, trivial, trivial⟩ trivial trivial
    ⟨fun _ _ => once returnToDeck_seated, trivial⟩ rfl

theorem borderVillage_seated : borderVillage.Seated n :=
  of_effects ⟨trivial, trivial, trivial⟩
    ⟨fun _ hctx => once (gainCheaper_seated hctx), trivial⟩ trivial trivial rfl

/-- The scripts of a card are those looked at above. -/
theorem kingdomCards_seated : ∀ d ∈ kingdomCards, d.Seated n := by
  simp only [kingdomCards, List.forall_mem_cons, List.not_mem_nil, false_implies, implies_true,
    and_true]
  exact ⟨
    of_play (d := cellar) ⟨trivial, fun _ _ => once discardAndRedraw_seated, trivial⟩,
    of_play (d := chapel) ⟨fun _ _ => once trashUpToFour_seated, trivial⟩,
    of_play (d := moat) ⟨trivial, trivial⟩,
    of_play (d := pawn) ⟨⟨trivial, trivial, trivial, trivial, trivial⟩, trivial⟩,
    of_play (d := nativeVillage) ⟨trivial,
      ⟨fun _ _ => once toNativeVillage_seated, fun _ _ => once fromNativeVillage_seated, trivial⟩,
      trivial⟩,
    of_play (d := lighthouse) ⟨trivial, trivial, fun _ _ => once standWatch_seated, trivial⟩,
    of_play (d := village) ⟨trivial, trivial, trivial⟩,
    of_play (d := workshop) ⟨fun _ hctx => once (gainCostingUpTo_seated hctx 4), trivial⟩,
    of_play (d := merchant) ⟨trivial, trivial, fun _ _ => once silverBonus_seated, trivial⟩,
    of_play (d := fishingVillage) ⟨trivial, trivial,
      nextTurn_seated _ ⟨trivial, trivial, trivial⟩, trivial⟩,
    watchtower_seated,
    tunnel_seated,
    of_play (d := smithy) ⟨trivial, trivial⟩,
    of_play (d := militia) ⟨trivial, fun _ _ => once discardToThree_seated, trivial⟩,
    of_play (d := moneylender) ⟨fun _ _ => once lend_seated, trivial⟩,
    of_play (d := remodel) ⟨fun _ hctx => once (exchange_seated hctx), trivial⟩,
    of_play (d := throneRoom) ⟨fun _ hctx => once (playTwice_seated hctx), trivial⟩,
    of_play (d := bridge) ⟨trivial, trivial, fun _ _ => once (free trivial), trivial⟩,
    of_play (d := conspirator) ⟨trivial, fun _ hctx => once (conspire_seated hctx), trivial⟩,
    of_play (d := feast) ⟨fun _ hctx => once (consume_seated hctx), trivial⟩,
    of_play (d := gardens) trivial,
    of_play (d := island) ⟨fun _ _ => once toIsland_seated, trivial⟩,
    of_play (d := caravan) ⟨trivial, trivial, nextTurn_seated _ ⟨trivial, trivial⟩, trivial⟩,
    fortress_seated,
    of_play (d := bureaucrat) ⟨trivial, fun _ _ => once topdeckVictory_seated, trivial⟩,
    of_play (d := market) ⟨trivial, trivial, trivial, trivial, trivial⟩,
    of_play (d := laboratory) ⟨trivial, trivial, trivial⟩,
    of_play (d := festival) ⟨trivial, trivial, trivial, trivial⟩,
    of_play (d := councilRoom) ⟨trivial, trivial, trivial, trivial⟩,
    of_play (d := witch) ⟨trivial, trivial, trivial⟩,
    treasury_seated,
    of_play (d := royalSeal) ⟨fun _ _ => once sealGains_seated, trivial⟩,
    borderVillage_seated,
    of_play (d := grandMarket) ⟨trivial, trivial, trivial, trivial, trivial⟩,
    of_play (d := peddler) ⟨trivial, trivial, trivial, trivial⟩⟩

theorem allCards_seated : ∀ d ∈ allCards, d.Seated n := by
  intro d hd
  rcases List.mem_append.mp hd with hd | hd
  · exact baseCards_seated d hd
  · exact kingdomCards_seated d hd

end Registry

end DeckBuilder
