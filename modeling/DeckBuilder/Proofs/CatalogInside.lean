import DeckBuilder.Proofs.CatalogGame
import DeckBuilder.Proofs.Scope
import DeckBuilder.Proofs.Scripts

/-!
The cards of the catalog stay inside every scope that is left with attacks, and with what each other player
does. They act for the player of whom they are told, and what they react to they look into first: whether it
was their own player who gained, and whether it was they themselves that were discarded.
-/
namespace DeckBuilder

variable {S : Scope} {ctx : EffectContext}

/-! ### Effects -/

mutual
/-- Whether an effect stays inside when the card carries it out: attacks, and what each other player does,
leave the scope. -/
def Effect.Inside (S : Scope) (ctx : EffectContext) : Effect → Prop
  | .drawCards _ | .gainActions _ | .gainBuys _ | .gainMoney _ | .gainVictoryTokens _
  | .gainCard .. => True
  | .sequence steps => Effect.InsideAll S ctx steps
  | .choose _ options _ _ => Effect.InsideOptions S ctx options
  | .mayDo _ step => step.Inside S ctx
  | .attack _ | .eachOtherPlayer _ => S.leaves (.opponents ctx.player)
  | .custom _ run => (run ctx).Inside S
def Effect.InsideAll (S : Scope) (ctx : EffectContext) : List Effect → Prop
  | [] => True
  | e :: es => e.Inside S ctx ∧ Effect.InsideAll S ctx es
def Effect.InsideOptions (S : Scope) (ctx : EffectContext) : List EffectOption → Prop
  | [] => True
  | o :: os => o.Inside S ctx ∧ Effect.InsideOptions S ctx os
def EffectOption.Inside (S : Scope) (ctx : EffectContext) : EffectOption → Prop
  | ⟨_, effect⟩ => effect.Inside S ctx
end

namespace Effect

mutual
theorem Inside.program (hctx : S.Acting ctx) :
    ∀ (e : Effect), e.Inside S ctx → ∀ {k : Program}, k.Inside S → (e.program ctx k).Inside S
  | .drawCards _, _, _, hk | .gainActions _, _, _, hk | .gainBuys _, _, _, hk
  | .gainMoney _, _, _, hk | .gainVictoryTokens _, _, _, hk => ⟨hctx.seat.1, fun _ _ _ => hk⟩
  | .gainCard _ _, _, _, hk => ⟨hctx.seat, fun _ _ _ => hk⟩
  | .sequence steps, he, _, hk => InsideAll.program hctx steps he hk
  | .choose _ options _ _, he, k, hk => by
    refine ⟨trivial, fun _ picked _ => List.foldrRecOn (motive := Program.Inside S) _ _ hk ?_⟩
    intro k hk step hstep
    obtain ⟨i, -, hi⟩ := List.mem_filterMap.mp hstep
    exact InsideOptions.program hctx options he (List.mem_of_getElem? hi) hk
  | .mayDo _ step, he, k, hk => by
    refine ⟨trivial, fun _ answer _ => ?_⟩
    cases answer with
    | true => exact Inside.program hctx step he hk
    | false => exact hk
  | .attack _, he, _, _ | .eachOtherPlayer _, he, _, _ => ⟨trivial, fun hleaves => absurd he hleaves⟩
  | .custom _ run, he, _, hk => he.andThen hk
theorem InsideAll.program (hctx : S.Acting ctx) :
    ∀ (es : List Effect), InsideAll S ctx es → ∀ {k : Program}, k.Inside S →
      (programAll ctx es k).Inside S
  | [], _, _, hk => hk
  | e :: es, he, _, hk => Inside.program hctx e he.1 (InsideAll.program hctx es he.2 hk)
theorem InsideOptions.program (hctx : S.Acting ctx) :
    ∀ (os : List EffectOption), InsideOptions S ctx os →
      ∀ {step : Program → Program}, step ∈ optionPrograms ctx os →
        ∀ {k : Program}, k.Inside S → (step k).Inside S
  | [], _, step, hstep, _, _ => by simp [optionPrograms] at hstep
  | ⟨_, effect⟩ :: os, he, step, hstep, k, hk => by
    rcases List.mem_cons.mp hstep with heq | hstep
    · rw [heq]
      exact Inside.program hctx effect he.1 hk
    · exact InsideOptions.program hctx os he.2 hstep hk
end

/-- Effects that only draw or count. -/
theorem insideAll_of_plain {effects : List Effect} (h : ∀ e ∈ effects, e.Plain) :
    InsideAll S ctx effects := by
  induction effects with
  | nil => trivial
  | cons e rest ih =>
    refine ⟨?_, ih fun e he => h e (List.mem_cons_of_mem _ he)⟩
    have hplain := h e List.mem_cons_self
    cases e <;> trivial

end Effect

/-! ### Scripts -/

/-- Programs inside the scope may follow the script. -/
abbrev Script.Inside {α : Type} (S : Scope) (s : Script α) (Q : α → Prop) : Prop :=
  s.Gives (Program.Inside S) Q

namespace Script.Inside

variable {α β : Type} {Q : α → Prop} {R : β → Prop}

theorem fail {error : GameError} : (Script.fail error : Script α).Inside S Q := fun _ _ => trivial

theorem look : Script.look.Inside S S.Shows := fun _ hk => hk

theorem call {c : Call} (hc : c.Inside S) : (Script.call c).Inside S (c.Told S) :=
  fun _ hk => ⟨hc, fun _ => hk⟩

/-- A call of which the answer does not matter. -/
theorem free {c : Call} (hc : c.Inside S) : (Script.call c).Inside S fun _ => True :=
  (call hc).imp fun _ _ => trivial

/-- A call, and what is done with its answer. -/
theorem callBind {c : Call} {f : c.Answer → Script β} (hc : c.Inside S)
    (hf : ∀ a, c.Told S a → (f a).Inside S R) : Script.Inside S (Script.call c >>= f) R :=
  (call hc).bind hf

theorem once {s : Script Unit} (hs : s.Inside S fun _ => True) : Program.Inside S s.once :=
  Gives.once trivial hs

theorem keeping {s : Script Bool} (hs : s.Inside S fun _ => True) : Program.Inside S s.keeping :=
  Gives.keeping (fun _ => trivial) hs

/-- A player of the scope is seen to have no card of the others. -/
theorem tableau {id : PlayerId} (hid : S.seats id) :
    (Script.tableau id).Inside S fun t => ∀ card ∈ t.allCards, ¬ S.foreign card := by
  refine look.bind fun o ho => ?_
  cases ht : o.tableau? id with
  | none => exact fail
  | some t =>
    obtain ⟨s, hs, -, hparts, rfl⟩ := ho
    obtain ⟨p, hp, rfl⟩ := Option.map_eq_some_iff.mp ht
    exact .pure fun card => hparts.own hs hp hid

theorem face (card : CardId) : (Script.face card).Inside S fun _ => True := by
  refine look.bind fun o _ => ?_
  cases o.face? card with
  | some f => exact .pure trivial
  | none => exact fail

theorem hand {id : PlayerId} (hid : S.seats id) :
    (Script.hand id).Inside S fun cards => ∀ card ∈ cards, ¬ S.foreign card := by
  refine (tableau hid).bind fun t ht => .pure fun card hcard => ht card ?_
  exact PlayerZones.mem_allCards_of_mem_row (show card ∈ t.zones.row .hand from hcard)

theorem handWhere {id : PlayerId} (hid : S.seats id) (p : CardFace → Bool) :
    (Script.handWhere id p).Inside S fun cards => ∀ card ∈ cards, ¬ S.foreign card := by
  refine (hand hid).bind fun cards hcards => ?_
  refine Script.Gives.imp (.filterM fun card _ => (face card).bind fun _ _ => .pure trivial) ?_
  exact fun ys hys card hcard => hcards card (hys card hcard)

theorem chooseCard (id : PlayerId) (prompt : String) (cards : List CardId)
    (source : Option CardId) : (Script.chooseCard id prompt cards source).Inside S fun _ => True :=
  callBind (c := .chooseCards id { prompt, cards, min := 1, max := 1, source }) trivial
    fun _ _ => .pure trivial

theorem steps {effects : List Effect} (hctx : S.Acting ctx) (he : Effect.InsideAll S ctx effects) :
    (Effect.steps effects ctx).Inside S fun _ => True :=
  fun _ hk => Effect.InsideAll.program hctx effects he (hk () trivial)

end Script.Inside

/-! ### What the cards do -/

namespace Catalog

open Script.Inside

theorem gainCostingUpTo_inside (hctx : S.Acting ctx) (maxCost : Nat) :
    (gainCostingUpTo ctx maxCost).Inside S fun _ => True := by
  refine callBind trivial fun pile _ => ?_
  cases pile with
  | none => exact .pure trivial
  | some pile => exact callBind hctx.seat fun _ _ => .pure trivial

theorem offerTopdeck_inside {id : PlayerId} (hid : S.seats id) (gained source : CardId) :
    (offerTopdeck id gained source).Inside S fun _ => True := by
  refine (tableau hid).bind fun t _ => .ite (fun _ => ?_) fun _ => .pure trivial
  refine (face gained).bind fun f _ => callBind trivial fun answer _ => ?_
  exact .ite (fun _ => callBind hid fun _ _ => .pure trivial) fun _ => .pure trivial

theorem doLater_inside {effects : List Effect} (h : ∀ e ∈ effects, e.Plain) :
    S.hooks.duration (doLater effects) :=
  fun _ hctx => once (steps hctx (Effect.insideAll_of_plain h))

theorem endWatch_inside : S.hooks.duration endWatch :=
  fun _ hctx => once (callBind hctx.seat.1 fun _ _ => callBind hctx.seat.1 fun _ _ => .pure trivial)

theorem payForSilver_inside : S.hooks.play payForSilver := by
  refine fun id card hid => keeping (look.bind fun o _ => .ite (fun _ => ?_) fun _ => .pure trivial)
  exact callBind hid.1 fun _ _ => .pure trivial

theorem sealGain_inside (source : CardId) : S.hooks.gain (sealGain source) :=
  fun _ hinfo => once (offerTopdeck_inside hinfo.1 _ source)

theorem nextTurn_inside (hctx : S.Acting ctx) (label : String) {effects : List Effect}
    (h : ∀ e ∈ effects, e.Plain) : (nextTurn label effects).Inside S ctx :=
  ⟨hctx.card, doLater_inside h, trivial⟩

theorem discardAndRedraw_inside (hctx : S.Acting ctx) :
    (discardAndRedraw ctx).Inside S fun _ => True := by
  refine (hand hctx.seat.1).bind fun cards _ => callBind trivial fun chosen _ => ?_
  refine Script.Gives.bind (.filterM fun card _ => ?_) fun discarded _ => ?_
  · exact free (c := .discard card ctx.player) hctx.seat.1
  · exact callBind hctx.seat.1 fun _ _ => .pure trivial

theorem trashUpToFour_inside (hctx : S.Acting ctx) : (trashUpToFour ctx).Inside S fun _ => True := by
  refine (hand hctx.seat.1).bind fun cards _ => callBind trivial fun chosen _ => ?_
  exact .forM fun card _ => callBind hctx.seat.1 fun _ _ => .pure trivial

theorem toNativeVillage_inside (hctx : S.Acting ctx) :
    (toNativeVillage ctx).Inside S fun _ => True := by
  refine callBind hctx.seat.1 fun cards _ => ?_
  cases cards.head? with
  | none => exact .pure trivial
  | some card => exact callBind hctx.seat.1 fun _ _ => .pure trivial

theorem fromNativeVillage_inside (hctx : S.Acting ctx) :
    (fromNativeVillage ctx).Inside S fun _ => True :=
  (tableau hctx.seat.1).bind fun _ _ => .forM fun _ _ => callBind hctx.seat.1 fun _ _ => .pure trivial

theorem standWatch_inside (hctx : S.Acting ctx) : (standWatch ctx).Inside S fun _ => True :=
  callBind hctx.seat.1 fun _ _ _ hk => ⟨hctx.card, endWatch_inside, hk () trivial⟩

theorem silverBonus_inside (hctx : S.Acting ctx) : (silverBonus ctx).Inside S fun _ => True :=
  fun _ hk => ⟨hctx.seat.1, payForSilver_inside, hk () trivial⟩

theorem sealGains_inside (hctx : S.Acting ctx) : (sealGains ctx).Inside S fun _ => True :=
  fun _ hk => ⟨hctx.seat.1, sealGain_inside ctx.card, hk () trivial⟩

theorem drawToSix_inside (hctx : S.Acting ctx) (n : Nat) :
    (drawToSix ctx n).Inside S fun _ => True := by
  induction n with
  | zero => exact .pure trivial
  | succ n ih =>
    refine (hand hctx.seat.1).bind fun cards _ => .ite (fun _ => ?_) fun _ => .pure trivial
    exact callBind hctx.seat.1 fun drawn _ => .ite (fun _ => .pure trivial) fun _ => ih

theorem lend_inside (hctx : S.Acting ctx) : (lend ctx).Inside S fun _ => True := by
  refine (handWhere hctx.seat.1 _).bind fun coppers _ => ?_
  cases coppers.head? with
  | none => exact .pure trivial
  | some copper =>
    refine callBind trivial fun answer _ => .ite (fun _ => ?_) fun _ => .pure trivial
    refine callBind hctx.seat.1 fun trashed _ => .ite (fun _ => ?_) fun _ => .pure trivial
    exact free hctx.seat.1

theorem exchange_inside (hctx : S.Acting ctx) : (exchange ctx).Inside S fun _ => True := by
  refine (hand hctx.seat.1).bind fun cards _ => (chooseCard _ _ _ _).bind fun chosen _ => ?_
  cases chosen with
  | none => exact .pure trivial
  | some card =>
    refine callBind trivial fun cost _ => callBind hctx.seat.1 fun _ _ => ?_
    exact gainCostingUpTo_inside hctx _

/-- The card that is played twice comes from the player's hand, so that it is the player's own. -/
theorem playTwice_inside (hctx : S.Acting ctx) : (playTwice ctx).Inside S fun _ => True := by
  refine (handWhere hctx.seat.1 _).bind fun actions hactions => callBind trivial fun chosen hchosen => ?_
  cases hhead : chosen.head? with
  | none => exact .pure trivial
  | some card =>
    have hmine := hactions card (hchosen card (List.mem_of_mem_head? hhead))
    have hresolve : (Call.resolve card ctx.player).Inside S := ⟨hctx.seat, hmine⟩
    exact callBind hctx.seat.1 fun _ _ => callBind hresolve fun _ _ => free hresolve

theorem conspire_inside (hctx : S.Acting ctx) : (conspire ctx).Inside S fun _ => True :=
  look.bind fun _ _ => .ite (fun _ => steps hctx ⟨trivial, trivial, trivial⟩) fun _ => .pure trivial

theorem consume_inside (hctx : S.Acting ctx) : (consume ctx).Inside S fun _ => True :=
  callBind hctx.seat.1 fun _ _ => gainCostingUpTo_inside hctx 5

theorem toIsland_inside (hctx : S.Acting ctx) : (toIsland ctx).Inside S fun _ => True := by
  refine (hand hctx.seat.1).bind fun cards _ => (chooseCard _ _ _ _).bind fun chosen _ => ?_
  refine callBind hctx.seat.1 fun _ _ => ?_
  cases chosen with
  | none => exact .pure trivial
  | some card => exact callBind hctx.seat.1 fun _ _ => .pure trivial

theorem returnToDeck_inside (hctx : S.Acting ctx) : (returnToDeck ctx).Inside S fun _ => True := by
  refine look.bind fun o _ => .ite (fun _ => .pure trivial) fun _ => ?_
  refine callBind trivial fun answer _ => .ite (fun _ => ?_) fun _ => .pure trivial
  exact callBind hctx.seat.1 fun _ _ => .pure trivial

theorem gainCheaper_inside (hctx : S.Acting ctx) : (gainCheaper ctx).Inside S fun _ => True := by
  refine callBind trivial fun own _ => callBind trivial fun pile _ => ?_
  cases pile with
  | none => exact .pure trivial
  | some pile => exact callBind hctx.seat fun _ _ => .pure trivial

/-- A Watchtower looks whether it was its owner who gained. -/
theorem watch_inside {ctx : ReactionContext} (hctx : S.Reacting ctx) :
    (watch ctx).Inside S fun _ => True := by
  have hplayer := hctx.player
  unfold watch
  cases htrigger : ctx.trigger with
  | gain info =>
    refine .ite (fun howner => ?_) fun _ => .pure trivial
    rw [htrigger] at hplayer
    have hseat : S.seats ctx.owner := howner ▸ hplayer.1
    refine (face info.card).bind fun f _ => callBind trivial fun answer _ => ?_
    refine .ite (fun _ => ?_) fun _ => offerTopdeck_inside hseat _ _
    exact callBind trivial fun _ _ => callBind hseat fun _ _ => .pure trivial
  | discard player card => exact .pure trivial
  | startTurn player => exact .pure trivial

/-- A Tunnel looks whether it was itself that was discarded, so that its owner is of the scope. -/
theorem findGold_inside {ctx : ReactionContext} (hctx : S.Reacting ctx) :
    (findGold ctx).Inside S fun _ => True := by
  have hcard := hctx.card
  unfold findGold
  cases htrigger : ctx.trigger with
  | gain info => exact .pure trivial
  | discard player card =>
    refine look.bind fun o _ => .ite (fun hself => ?_) fun _ => .pure trivial
    rw [htrigger] at hcard
    have hmine : ¬ S.foreign ctx.card := hself.1 ▸ hcard card rfl
    have hseat : S.Seat ctx.owner :=
      ⟨Classical.not_not.mp fun h => hmine (hctx.foreign.mpr h), hctx.owner⟩
    refine callBind trivial fun answer _ => .ite (fun _ => ?_) fun _ => .pure trivial
    exact callBind trivial fun _ _ => callBind hseat fun _ _ => .pure trivial
  | startTurn player => exact .pure trivial

end Catalog

/-! ### The cards -/

/-- A scope that is left with the call of the other players, which is how attacks begin, and what each
other player does. -/
def Scope.Withdraws (S : Scope) : Prop := ∀ id, S.leaves (.opponents id)

namespace Registry

open Catalog Script.Inside

theorem runs_of_insideAll {effects : List Effect}
    (h : ∀ ctx, S.Acting ctx → Effect.InsideAll S ctx effects) : S.Runs effects :=
  fun ctx hctx => Effect.InsideAll.program hctx effects (h ctx hctx) trivial

/-- What cards do when they are gained, trashed or cleaned up, and when something else happens, stays
inside. -/
theorem inside_of_play {d : CardDefinition} (hd : d ∈ allCards)
    (hplay : ∀ ctx, S.Acting ctx → Effect.InsideAll S ctx d.onPlay) : d.Inside S where
  play := runs_of_insideAll hplay
  gain := runs_of_insideAll fun ctx hctx => by
    by_cases hnone : d.onGain = []
    · rw [hnone]
      trivial
    · rw [eq_borderVillage hd hnone]
      exact ⟨once (gainCheaper_inside hctx), trivial⟩
  trash := runs_of_insideAll fun ctx hctx => by
    by_cases hnone : d.onTrash = []
    · rw [hnone]
      trivial
    · rw [eq_fortress hd hnone]
      exact ⟨once (free hctx.seat.1), trivial⟩
  cleanUp := runs_of_insideAll fun ctx hctx => by
    by_cases hnone : d.onCleanUp = []
    · rw [hnone]
      trivial
    · rw [eq_treasury hd hnone]
      exact ⟨once (returnToDeck_inside hctx), trivial⟩
  reactions kind r hr ctx hctx := by
    cases kind with
    | gain =>
      rw [eq_watchtower hd hr] at hr
      rw [← Option.some.inj hr]
      exact once (watch_inside hctx)
    | discard =>
      rw [eq_tunnel hd hr] at hr
      rw [← Option.some.inj hr]
      exact once (findGold_inside hctx)
    | startTurn =>
      rw [Reactions.get?, onStartTurn_eq_none hd] at hr
      exact absurd hr (Option.some_ne_none r).symm

theorem baseCards_inside : ∀ d ∈ baseCards, ∀ ctx, S.Acting ctx → Effect.InsideAll S ctx d.onPlay := by
  simp only [baseCards, List.forall_mem_cons, List.not_mem_nil, false_implies, implies_true,
    and_true]
  refine ⟨?_, ?_, ?_, ?_, ?_, ?_, ?_, ?_, ?_⟩ <;> exact fun _ _ => trivial

variable (hS : S.Withdraws)
include hS

/-- The scripts of a card are those looked at above. -/
theorem kingdomCards_inside :
    ∀ d ∈ kingdomCards, ∀ ctx, S.Acting ctx → Effect.InsideAll S ctx d.onPlay := by
  simp only [kingdomCards, List.forall_mem_cons, List.not_mem_nil, false_implies, implies_true,
    and_true]
  refine ⟨?cellar, ?chapel, ?moat, ?pawn, ?nativeVillage, ?lighthouse, ?village, ?workshop,
    ?merchant, ?fishingVillage, ?watchtower, ?tunnel, ?smithy, ?militia, ?moneylender, ?remodel,
    ?throneRoom, ?bridge, ?conspirator, ?feast, ?gardens, ?island, ?caravan, ?fortress,
    ?bureaucrat, ?market, ?laboratory, ?festival, ?councilRoom, ?witch, ?treasury, ?royalSeal,
    ?borderVillage, ?grandMarket, ?peddler⟩
  all_goals intro ctx hctx
  case cellar => exact ⟨trivial, once (discardAndRedraw_inside hctx), trivial⟩
  case chapel => exact ⟨once (trashUpToFour_inside hctx), trivial⟩
  case moat | smithy => exact ⟨trivial, trivial⟩
  case pawn => exact ⟨⟨trivial, trivial, trivial, trivial, trivial⟩, trivial⟩
  case nativeVillage =>
    exact ⟨trivial, ⟨once (toNativeVillage_inside hctx), once (fromNativeVillage_inside hctx), trivial⟩,
      trivial⟩
  case lighthouse => exact ⟨trivial, trivial, once (standWatch_inside hctx), trivial⟩
  case village | borderVillage | fortress | laboratory => exact ⟨trivial, trivial, trivial⟩
  case workshop => exact ⟨once (gainCostingUpTo_inside hctx 4), trivial⟩
  case merchant => exact ⟨trivial, trivial, once (silverBonus_inside hctx), trivial⟩
  case fishingVillage =>
    refine ⟨trivial, trivial, nextTurn_inside hctx _ ?_, trivial⟩
    exact List.forall_mem_cons.mpr ⟨trivial, List.forall_mem_singleton.mpr trivial⟩
  case watchtower => exact ⟨once (drawToSix_inside hctx 6), trivial⟩
  case tunnel | gardens => trivial
  case militia => exact ⟨trivial, hS ctx.player, trivial⟩
  case moneylender => exact ⟨once (lend_inside hctx), trivial⟩
  case remodel => exact ⟨once (exchange_inside hctx), trivial⟩
  case throneRoom => exact ⟨once (playTwice_inside hctx), trivial⟩
  case bridge => exact ⟨trivial, trivial, once (free trivial), trivial⟩
  case conspirator => exact ⟨trivial, once (conspire_inside hctx), trivial⟩
  case feast => exact ⟨once (consume_inside hctx), trivial⟩
  case island => exact ⟨once (toIsland_inside hctx), trivial⟩
  case caravan =>
    exact ⟨trivial, trivial, nextTurn_inside hctx _ (List.forall_mem_singleton.mpr trivial), trivial⟩
  case bureaucrat => exact ⟨trivial, hS ctx.player, trivial⟩
  case market | grandMarket => exact ⟨trivial, trivial, trivial, trivial, trivial⟩
  case festival | treasury | peddler => exact ⟨trivial, trivial, trivial, trivial⟩
  case councilRoom => exact ⟨trivial, trivial, hS ctx.player, trivial⟩
  case witch => exact ⟨trivial, hS ctx.player, trivial⟩
  case royalSeal => exact ⟨once (sealGains_inside hctx), trivial⟩

theorem allCards_inside {d : CardDefinition} (hd : d ∈ allCards) : d.Inside S := by
  refine inside_of_play hd ?_
  rcases List.mem_append.mp hd with hbase | hkingdom
  · exact baseCards_inside d hbase
  · exact kingdomCards_inside hS d hkingdom

end Registry

/-- What is or may be done in a state of the catalog stays inside the scope. -/
theorem GameState.OfCatalog.suits {s : GameState} (hs : s.OfCatalog) (hS : S.Withdraws)
    (htable : s.players.length = S.table) (hparts : S.Parts s) : S.Suits s where
  sound := hs.sound
  table := htable
  hooks := by
    refine ⟨fun p hp => ⟨fun t ht => ?_, fun t ht => ?_⟩, fun id c hc t ht => ?_⟩
    · obtain ⟨source, rfl⟩ := (hs.hooks.players p hp).gain t ht
      exact Catalog.sealGain_inside source
    · rw [(hs.hooks.players p hp).play t ht]
      exact Catalog.payForSilver_inside
    · rcases hs.hooks.cards id c hc t ht with rfl | ⟨effects, hplain, rfl⟩
      · exact Catalog.endWatch_inside
      · exact Catalog.doLater_inside hplain
  rules id c hc := Registry.allCards_inside hS (hs.registered id c hc)
  parts := hparts

end DeckBuilder
