import DeckBuilder.Proofs.Change
import DeckBuilder.Setup

/-!
Programs that gain cards and carry out effects only for players at the table. The other operations
find out by themselves that nobody sits at a seat and change nothing; a gain takes the card from its
pile first. A program that passes on the players it was given or told of is of this kind, and so is
what it hangs on cards and players for later.
-/
namespace DeckBuilder

/-- Gains and the effects of cards are for one of `n` seats. -/
def Call.Seated (n : Nat) : Call → Prop
  | .resolve _ player | .gain _ player _ _ | .gainIfAvailable _ player _ | .buy _ player =>
    player.seat < n
  | _ => True

/-- What can be relied on about the answer of a call at a table of `n`. -/
def Call.Answered (n : Nat) : (c : Call) → c.Answer → Prop
  | .opponents _, players => ∀ p ∈ players, p.seat < n
  | _, _ => True

def GainInfo.Seated (n : Nat) (info : GainInfo) : Prop := info.player.seat < n

/-- What a program may look at in a game of `n`. -/
def Outlook.Seated (n : Nat) (o : Outlook) : Prop :=
  ∃ s : GameState, s.Sound ∧ s.players.length = n ∧ o = s.outlook

def Program.Seated (n : Nat) : Program → Prop
  | .finish _ => True
  | .fail _ => True
  | .look next => ∀ o, Outlook.Seated n o → (next o).Seated n
  | .call c next => c.Seated n ∧ ∀ a, c.Answered n a → (next a).Seated n
  | .addDuration _ callback next =>
    (∀ ctx, ctx.player.seat < n → (callback ctx).Seated n) ∧ next.Seated n
  | .addGainTrigger _ callback next =>
    (∀ info, GainInfo.Seated n info → (callback info).Seated n) ∧ next.Seated n
  | .addPlayTrigger _ callback next =>
    (∀ id card, id.seat < n → (callback id card).Seated n) ∧ next.Seated n

/-- What may hang on cards and players at a table of `n`. -/
def Hooks.seated (n : Nat) : Hooks where
  gain t := ∀ info, GainInfo.Seated n info → (t info).Seated n
  play t := ∀ id card, id.seat < n → (t id card).Seated n
  duration d := ∀ ctx, ctx.player.seat < n → (d ctx).Seated n

mutual
def Effect.Seated (n : Nat) : Effect → Prop
  | .sequence steps => Effect.SeatedAll n steps
  | .choose _ options _ _ => Effect.SeatedOptions n options
  | .mayDo _ step | .attack step | .eachOtherPlayer step => step.Seated n
  | .custom _ run => ∀ ctx, ctx.player.seat < n → (run ctx).Seated n
  | _ => True
def Effect.SeatedAll (n : Nat) : List Effect → Prop
  | [] => True
  | e :: es => e.Seated n ∧ Effect.SeatedAll n es
def Effect.SeatedOptions (n : Nat) : List EffectOption → Prop
  | [] => True
  | o :: os => o.Seated n ∧ Effect.SeatedOptions n os
def EffectOption.Seated (n : Nat) : EffectOption → Prop
  | ⟨_, effect⟩ => effect.Seated n
end

/-- A definition whose effects and reactions are of this kind. -/
structure CardDefinition.Seated (n : Nat) (d : CardDefinition) : Prop where
  play : Effect.SeatedAll n d.onPlay
  gain : Effect.SeatedAll n d.onGain
  trash : Effect.SeatedAll n d.onTrash
  cleanUp : Effect.SeatedAll n d.onCleanUp
  reactions : ∀ kind r, d.reactions.get? kind = some r → ∀ ctx : ReactionContext,
    ctx.owner.seat < n → ctx.trigger.player.seat < n → (r.effect ctx).Seated n

namespace Program

variable {n : Nat}

theorem Seated.andThen {p k : Program} (hp : p.Seated n) (hk : k.Seated n) :
    (p.andThen k).Seated n := by
  induction p with
  | finish _ => exact hk
  | fail _ => trivial
  | look next ih => exact fun o ho => ih o (hp o ho)
  | call c next ih => exact ⟨hp.1, fun a ha => ih a (hp.2 a ha)⟩
  | addDuration _ _ _ _ ih => exact ⟨hp.1, ih hp.2⟩
  | addGainTrigger _ _ _ _ ih => exact ⟨hp.1, ih hp.2⟩
  | addPlayTrigger _ _ _ _ ih => exact ⟨hp.1, ih hp.2⟩

end Program

namespace Effect

variable {n : Nat}

/-- Programs that keep what follows them of this kind, put one behind the other. -/
theorem seated_foldr {α : Type} {f : α → Program → Program} {xs : List α} {k : Program}
    (hf : ∀ a ∈ xs, ∀ k : Program, k.Seated n → (f a k).Seated n) (hk : k.Seated n) :
    (xs.foldr f k).Seated n := by
  induction xs with
  | nil => exact hk
  | cons a rest ih =>
    refine hf a List.mem_cons_self _ (ih ?_)
    exact fun b hb => hf b (List.mem_cons_of_mem _ hb)

theorem SeatedAll.of_mem {effects : List Effect} (h : SeatedAll n effects) {e : Effect}
    (he : e ∈ effects) : e.Seated n := by
  induction effects with
  | nil => simp at he
  | cons first rest ih =>
    rcases List.mem_cons.mp he with rfl | hrest
    · exact h.1
    · exact ih h.2 hrest

mutual
theorem Seated.program {ctx : EffectContext} (hctx : ctx.player.seat < n) :
    ∀ (e : Effect), e.Seated n → ∀ {k : Program}, k.Seated n → (e.program ctx k).Seated n
  | .drawCards _, _, _, hk | .gainActions _, _, _, hk | .gainBuys _, _, _, hk
  | .gainMoney _, _, _, hk | .gainVictoryTokens _, _, _, hk => by
    exact ⟨trivial, fun _ _ => hk⟩
  | .gainCard _ _, _, _, hk => ⟨hctx, fun _ _ => hk⟩
  | .sequence steps, he, _, hk => SeatedAll.program hctx steps he hk
  | .choose _ options _ _, he, _, hk => by
    refine ⟨trivial, fun picked _ => seated_foldr ?_ hk⟩
    intro step hstep k hk
    obtain ⟨i, -, hi⟩ := List.mem_filterMap.mp hstep
    exact SeatedOptions.program hctx options he (List.mem_of_getElem? hi) hk
  | .mayDo _ step, he, k, hk => by
    refine ⟨trivial, fun answer _ => ?_⟩
    cases answer with
    | true => exact Seated.program hctx step he hk
    | false => exact hk
  | .attack step, he, k, hk => by
    refine ⟨trivial, fun targets htargets => seated_foldr ?_ hk⟩
    intro target htarget k hk
    refine ⟨trivial, fun blocked _ => ?_⟩
    cases blocked with
    | true => exact hk
    | false =>
      have hseat : (ctx.forPlayer target).player.seat < n := htargets target htarget
      exact Seated.program hseat step he hk
  | .eachOtherPlayer step, he, k, hk => by
    refine ⟨trivial, fun targets htargets => seated_foldr ?_ hk⟩
    intro target htarget k hk
    have hseat : (ctx.forPlayer target).player.seat < n := htargets target htarget
    exact Seated.program hseat step he hk
  | .custom _ run, he, _, hk => (he ctx hctx).andThen hk
theorem SeatedAll.program {ctx : EffectContext} (hctx : ctx.player.seat < n) :
    ∀ (es : List Effect), SeatedAll n es → ∀ {k : Program}, k.Seated n →
      (programAll ctx es k).Seated n
  | [], _, _, hk => hk
  | e :: es, he, _, hk => Seated.program hctx e he.1 (SeatedAll.program hctx es he.2 hk)
theorem SeatedOptions.program {ctx : EffectContext} (hctx : ctx.player.seat < n) :
    ∀ (os : List EffectOption), SeatedOptions n os →
      ∀ {step : Program → Program}, step ∈ optionPrograms ctx os →
        ∀ {k : Program}, k.Seated n → (step k).Seated n
  | [], _, step, hstep, _, _ => by simp [optionPrograms] at hstep
  | ⟨_, effect⟩ :: os, he, step, hstep, k, hk => by
    rcases List.mem_cons.mp hstep with rfl | hstep
    · exact Seated.program hctx effect he.1 hk
    · exact SeatedOptions.program hctx os he.2 hstep hk
end

end Effect

end DeckBuilder
