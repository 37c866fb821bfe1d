import DeckBuilder.Card.Definition
import DeckBuilder.Proofs.Locked
import DeckBuilder.Proofs.Scripts

/-!
What a program is allowed to do. A licence names the cards that are locked where they lie, the
players whose counters and triggers may change, and what may be hung on which card, and says whether
prices may change and what waits on plays. A program within its licence moves no locked card and lays
nothing onto a table; it plays and buys nothing, and what it gains is not bought. Programs look at the
state as they go, so it is said of the program together with what it may see: no hand, deck, discard pile
or mat shows a locked card.
-/
namespace DeckBuilder

structure Licence where
  /-- Cards that stay where they lie. -/
  locked : CardId → Prop
  /-- Players whose counters and triggers may change. -/
  payee : PlayerId → Prop
  /-- What may be hung on a card. -/
  hangs : CardId → (EffectContext → Program) → Prop
  /-- Whether what is gained may be bought. -/
  buys : Prop
  /-- Whether prices may change, and what waits on plays. -/
  sways : Prop

/-- No card at all. -/
abbrev noCard : CardId → Prop := fun _ => False

/-- The licence that allows to move cards and nothing else. -/
def Licence.modest (locked : CardId → Prop) : Licence := 
  ⟨locked, fun _ => False, fun _ _ => False, False, False⟩

/-- The players are seen with no locked card elsewhere than on their tables. -/
def Outlook.Clear (locked : CardId → Prop) (o : Outlook) : Prop :=
  ∀ id t, o.tableau? id = some t → t.zones.Clear locked

namespace Call

def Within (L : Licence) : Call → Prop
  | .move card _ target _ =>
    ¬ L.locked card ∧ ¬ PlayerZones.OnTable target ∧ PlayerZones.holds target
  | .discard card _ | .trash card _ => ¬ L.locked card
  | .gain _ _ bought _ => bought = false
  | .credit player _ _ => L.payee player
  | .addCostModifier _ => L.sways
  | .play .. | .resolve .. | .buy .. => False
  | _ => True

/-- What can be relied on about the answer of a call. -/
def Known (L : Licence) : (c : Call) → c.Answer → Prop
  | .topCards .., cards => ∀ card ∈ cards, ¬ L.locked card
  | .chooseCards _ choice, cards => ∀ card ∈ cards, card ∈ choice.cards
  | _, _ => True

end Call

namespace Program

def Within (L : Licence) : Program → Prop
  | .finish _ => True
  | .fail _ => True
  | .look next => ∀ o, Outlook.Clear L.locked o → (next o).Within L
  | .call c next => c.Within L ∧ ∀ a, c.Known L a → (next a).Within L
  | .addDuration card callback next => L.hangs card callback ∧ next.Within L
  | .addGainTrigger player callback next =>
    L.payee player ∧
      (∀ locked info, ¬ locked info.card → (callback info).Within (.modest locked)) ∧ next.Within L
  | .addPlayTrigger player callback next =>
    L.payee player ∧ L.sways ∧
      (∀ (K : Licence) player card, K.payee player → (callback player card).Within K) ∧
      next.Within L

variable {L : Licence}

theorem Within.andThen {p k : Program} (hp : p.Within L) (hk : k.Within L) :
    (p.andThen k).Within L := by
  induction p with
  | finish _ => exact hk
  | fail _ => trivial
  | look next ih => exact fun o ho => ih o (hp o ho)
  | call c next ih => exact ⟨hp.1, fun a ha => ih a (hp.2 a ha)⟩
  | addDuration _ _ _ _ ih => exact ⟨hp.1, ih hp.2⟩
  | addGainTrigger _ _ _ _ ih => exact ⟨hp.1, hp.2.1, ih hp.2.2⟩
  | addPlayTrigger _ _ _ _ ih => exact ⟨hp.1, hp.2.1, hp.2.2.1, ih hp.2.2.2⟩

theorem Within.foldr {α : Type} {f : α → Program → Program} {xs : List α} {k : Program}
    (hf : ∀ a ∈ xs, ∀ k : Program, k.Within L → (f a k).Within L) (hk : k.Within L) :
    (xs.foldr f k).Within L := by
  induction xs with
  | nil => exact hk
  | cons a rest ih =>
    refine hf a List.mem_cons_self _ (ih ?_)
    exact fun b hb => hf b (List.mem_cons_of_mem _ hb)

end Program

/-- A trigger for gains that does nothing but move cards, and no locked card if none was gained. -/
def GainInfo.Mild (trigger : GainInfo → Program) : Prop :=
  ∀ locked info, ¬ locked info.card → (trigger info).Within (.modest locked)

/-- A trigger for plays that keeps to every licence under which the player who plays is paid. -/
def PlayerId.Fair (trigger : PlayerId → CardId → Program) : Prop :=
  ∀ (L : Licence) player card, L.payee player → (trigger player card).Within L

/-! ### Effects -/

mutual
def Effect.Within (L : Licence) (ctx : EffectContext) : Effect → Prop
  | .drawCards _ | .gainCard .. => True
  | .gainActions _ | .gainBuys _ | .gainMoney _ | .gainVictoryTokens _ => L.payee ctx.player
  | .sequence steps => Effect.WithinAll L ctx steps
  | .choose _ options _ _ => Effect.WithinOptions L ctx options
  | .mayDo _ step => step.Within L ctx
  | .attack step | .eachOtherPlayer step => ∀ target, step.Within L (ctx.forPlayer target)
  | .custom _ run => (run ctx).Within L
def Effect.WithinAll (L : Licence) (ctx : EffectContext) : List Effect → Prop
  | [] => True
  | e :: es => e.Within L ctx ∧ Effect.WithinAll L ctx es
def Effect.WithinOptions (L : Licence) (ctx : EffectContext) : List EffectOption → Prop
  | [] => True
  | o :: os => o.Within L ctx ∧ Effect.WithinOptions L ctx os
def EffectOption.Within (L : Licence) (ctx : EffectContext) : EffectOption → Prop
  | ⟨_, effect⟩ => effect.Within L ctx
end

namespace Effect

variable {L : Licence}

mutual
theorem Within.program {ctx : EffectContext} :
    ∀ (e : Effect), e.Within L ctx → ∀ {k : Program}, k.Within L → (e.program ctx k).Within L
  | .drawCards _, _, _, hk | .gainCard _ _, _, _, hk => ⟨trivial, fun _ _ => hk⟩
  | .gainActions _, he, _, hk | .gainBuys _, he, _, hk | .gainMoney _, he, _, hk
  | .gainVictoryTokens _, he, _, hk => ⟨he, fun _ _ => hk⟩
  | .sequence steps, he, _, hk => WithinAll.program steps he hk
  | .choose _ options _ _, he, _, hk => by
    refine ⟨trivial, fun picked _ => Program.Within.foldr ?_ hk⟩
    intro step hstep k hk
    obtain ⟨i, -, hi⟩ := List.mem_filterMap.mp hstep
    exact WithinOptions.program options he (List.mem_of_getElem? hi) hk
  | .mayDo _ step, he, k, hk => by
    refine ⟨trivial, fun answer _ => ?_⟩
    cases answer with
    | true => exact Within.program step he hk
    | false => exact hk
  | .attack step, he, k, hk => by
    refine ⟨trivial, fun targets _ => Program.Within.foldr ?_ hk⟩
    intro target _ k hk
    refine ⟨trivial, fun blocked _ => ?_⟩
    cases blocked with
    | true => exact hk
    | false => exact Within.program step (he target) hk
  | .eachOtherPlayer step, he, k, hk => by
    refine ⟨trivial, fun targets _ => Program.Within.foldr ?_ hk⟩
    intro target _ k hk
    exact Within.program step (he target) hk
  | .custom _ run, he, _, hk => he.andThen hk
theorem WithinAll.program {ctx : EffectContext} :
    ∀ (es : List Effect), WithinAll L ctx es → ∀ {k : Program}, k.Within L →
      (programAll ctx es k).Within L
  | [], _, _, hk => hk
  | e :: es, he, _, hk => Within.program e he.1 (WithinAll.program es he.2 hk)
theorem WithinOptions.program {ctx : EffectContext} :
    ∀ (os : List EffectOption), WithinOptions L ctx os →
      ∀ {step : Program → Program}, step ∈ optionPrograms ctx os →
        ∀ {k : Program}, k.Within L → (step k).Within L
  | [], _, step, hstep, _, _ => by simp [optionPrograms] at hstep
  | ⟨_, effect⟩ :: os, he, step, hstep, k, hk => by
    rcases List.mem_cons.mp hstep with heq | hstep
    · rw [heq]
      exact Within.program effect he.1 hk
    · exact WithinOptions.program os he.2 hstep hk
end

end Effect

/-- A definition of which the hooks and reactions do nothing but move cards, and no locked cards if
the card itself and the card that they react to are none. -/
structure CardDefinition.Mild (d : CardDefinition) : Prop where
  gain : ∀ locked ctx, ¬ locked ctx.card → Effect.WithinAll (.modest locked) ctx d.onGain
  trash : ∀ locked ctx, ¬ locked ctx.card → Effect.WithinAll (.modest locked) ctx d.onTrash
  cleanUp : ∀ locked ctx, ¬ locked ctx.card → Effect.WithinAll (.modest locked) ctx d.onCleanUp
  onGain : ∀ r, d.reactions.onGain = some r → ∀ locked card owner info, ¬ locked info.card →
    (r.effect ⟨card, owner, .gain info⟩).Within (.modest locked)
  onDiscard : ∀ r, d.reactions.onDiscard = some r → ∀ locked card owner player discarded,
    (r.effect ⟨card, owner, .discard player discarded⟩).Within (.modest locked)

/-! ### Scripts -/

/-- A script after which programs within a licence are still within it. -/
def Script.Within {α : Type} (L : Licence) (s : Script α) (Q : α → Prop) : Prop :=
  ∀ k : α → Program, (∀ a, Q a → (k a).Within L) → Program.Within L (s k)

namespace Script.Within

variable {L : Licence} {α β : Type} {Q : α → Prop} {R : β → Prop}

theorem bind {s : Script α} {f : α → Script β} (hs : s.Within L Q)
    (hf : ∀ a, Q a → (f a).Within L R) : Script.Within L (s >>= f) R :=
  Gives.bind hs hf

theorem imp {s : Script α} {Q' : α → Prop} (hs : s.Within L Q) (h : ∀ a, Q a → Q' a) :
    s.Within L Q' :=
  Gives.imp hs h

theorem pure {a : α} (h : Q a) : Script.Within L (Pure.pure a : Script α) Q := Gives.pure h

theorem fail {error : GameError} : (Script.fail error : Script α).Within L Q :=
  fun _ _ => trivial

theorem call {c : Call} (hc : c.Within L) : (Script.call c).Within L (c.Known L) :=
  fun _ hk => ⟨hc, hk⟩

theorem look : Script.look.Within L (Outlook.Clear L.locked) := fun _ hk => hk

theorem ite {c : Prop} [Decidable c] {s s' : Script α} (hs : c → s.Within L Q)
    (hs' : ¬ c → s'.Within L Q) : (if c then s else s').Within L Q :=
  Gives.ite hs hs'

theorem forM {f : α → Script PUnit} {xs : List α} (hf : ∀ a ∈ xs, (f a).Within L fun _ => True) :
    Script.Within L (xs.forM f) fun _ => True :=
  Gives.forM hf

theorem filterM {p : α → Script Bool} {xs : List α}
    (hp : ∀ a ∈ xs, (p a).Within L fun _ => True) :
    Script.Within L (xs.filterM p) fun ys => ∀ y ∈ ys, y ∈ xs :=
  Gives.filterM hp

theorem once {s : Script Unit} (hs : s.Within L fun _ => True) : Program.Within L s.once :=
  Gives.once trivial hs

theorem keeping {s : Script Bool} (hs : s.Within L fun _ => True) : Program.Within L s.keeping :=
  Gives.keeping (fun _ => trivial) hs

theorem tableau (id : PlayerId) :
    (Script.tableau id).Within L fun t => t.zones.Clear L.locked := by
  refine look.bind fun o ho => ?_
  cases ht : o.tableau? id with
  | some t => exact pure (ho id t ht)
  | none => exact fail

theorem face (card : CardId) : (Script.face card).Within L fun _ => True := by
  refine look.bind fun o _ => ?_
  cases o.face? card with
  | some f => exact pure trivial
  | none => exact fail

/-- A hand that is seen holds no locked card. -/
theorem hand (id : PlayerId) :
    (Script.hand id).Within L fun cards => ∀ card ∈ cards, ¬ L.locked card := by
  refine (tableau id).bind fun t ht => pure ?_
  intro card hcard
  exact ht card (PlayerZones.mem_elsewhere.mpr (Or.inl hcard))

theorem handWhere (id : PlayerId) (p : CardFace → Bool) :
    (Script.handWhere id p).Within L fun cards => ∀ card ∈ cards, ¬ L.locked card := by
  refine (hand id).bind fun cards hcards => ?_
  refine (filterM fun card _ => (face card).bind fun _ _ => pure trivial).imp ?_
  intro ys hys card hcard
  exact hcards card (hys card hcard)

/-- A call of which the answer does not matter. -/
theorem free {c : Call} (hc : c.Within L) : (Script.call c).Within L fun _ => True :=
  fun _ hk => ⟨hc, fun a _ => hk a trivial⟩

/-- Such a call, and what is done with its answer. -/
theorem callBind {c : Call} {f : c.Answer → Script β} (hc : c.Within L)
    (hf : ∀ a, c.Known L a → (f a).Within L R) : Script.Within L (Script.call c >>= f) R :=
  (call hc).bind hf

/-- A card that is chosen is one of those to choose from. -/
theorem chooseCard (id : PlayerId) (prompt : String) (cards : List CardId)
    (source : Option CardId) :
    (Script.chooseCard id prompt cards source).Within L fun chosen =>
      ∀ card ∈ chosen, card ∈ cards := by
  refine callBind (c := .chooseCards id { prompt, cards, min := 1, max := 1, source }) trivial ?_
  intro chosen hchosen
  refine pure ?_
  intro card hcard
  exact hchosen card (List.mem_of_mem_head? hcard)

theorem steps {effects : List Effect} {ctx : EffectContext}
    (he : Effect.WithinAll L ctx effects) : (Effect.steps effects ctx).Within L fun _ => True :=
  fun _ hk => Effect.WithinAll.program effects he (hk () trivial)

end Script.Within

end DeckBuilder
