import DeckBuilder.Proofs.Provoked

/-!
What the effects of cards lead to, kind by kind. A step is settled at a depth if, carried out for a
card and a player of a fit game with less stamina than that, it comes to its end calmly. Whole lists
of steps, choices between them and steps for the other players are settled when their parts are.
-/
namespace DeckBuilder.Catalog

open Engine Script.Leads

variable {M : Type} [Controllers M] {C : Contract M} {g : Game M} {depth : Nat}
variable {d : CardDefinition} {ctx : EffectContext}

/-- The card of the context is there and has the definition, the player sits at the table, and the
depth is above the stamina. -/
structure Ready (C : Contract M) (depth : Nat) (d : CardDefinition) (ctx : EffectContext)
    (g : Game M) : Prop where
  fit : C.Fit g
  seat : ctx.player.seat < g.state.players.length
  card : ∃ c, g.state.card? ctx.card = some c ∧ c.definition = d
  depth : g.state.stamina < depth

theorem Ready.calmly {g' : Game M} (h : Ready C depth d ctx g) (h' : C.Calmly g g') :
    Ready C depth d ctx g' where
  fit := h.fit.calmly h'
  seat := h'.kept.seated h.seat
  card := by
    obtain ⟨c, hc, hd⟩ := h.card
    obtain ⟨c', hc', hd'⟩ := h'.kept.carded hc
    exact ⟨c', hc', hd'.trans hd⟩
  depth := Nat.lt_of_le_of_lt h'.state.stamina h.depth

theorem Ready.forPlayer {id : PlayerId} (h : Ready C depth d ctx g)
    (hid : id.seat < g.state.players.length) : Ready C depth d (ctx.forPlayer id) g :=
  ⟨h.fit, hid, h.card, h.depth⟩

/-- The step leads to its end calmly. -/
def Settles (C : Contract M) (depth : Nat) (d : CardDefinition)
    (s : EffectContext → Script Unit) : Prop :=
  ∀ ctx g, Ready C depth d ctx g →
    (s ctx).Leads (perform (runWithin (depth + 1))) g (fun _ => C.Calmly g) C.halts

namespace Settles

theorem quietly {s : EffectContext → Script Unit}
    (h : ∀ ctx g, Ready C depth d ctx g →
      (s ctx).Leads (perform (runWithin (depth + 1))) g (fun _ => C.Quietly g) C.halts) :
    Settles C depth d s :=
  fun ctx g hready => (h ctx g hready).imp fun _ _ h' => h'.calmly

theorem nil : Settles C depth d (Effect.steps []) := fun _ _ h => steps_nil h.fit.calmly_refl

theorem cons {effect : Effect} {effects : List Effect} (h : Settles C depth d effect.step)
    (hrest : Settles C depth d (Effect.steps effects)) :
    Settles C depth d (Effect.steps (effect :: effects)) := by
  intro ctx g hready
  refine steps_cons ((h ctx g hready).imp ?_)
  intro _ g' hg'
  exact (hrest ctx g' (hready.calmly hg')).imp fun _ _ hg'' => hg'.trans hg''

theorem scripted {label : String} {s : EffectContext → Script Unit} (h : Settles C depth d s) :
    Settles C depth d (Effect.scripted label s).step :=
  fun ctx g hready => Script.Leads.scripted (h ctx g hready)

/-- An effect that is a single call. -/
theorem ofCall {effect : Effect} {c : EffectContext → Call}
    (heffect : ∀ ctx k, effect.program ctx k = .call (c ctx) fun _ => k)
    (h : ∀ ctx g, Ready C depth d ctx g →
      Ensures (perform (runWithin (depth + 1)) (c ctx)) g (fun _ => C.Quietly g) C.halts) :
    Settles C depth d effect.step := by
  refine quietly fun ctx g hready k R hk => ?_
  simp only [Effect.step, heffect, interpret, ensures_bind]
  exact (h ctx g hready).imp fun _ g' hg' => hk () g' hg'

theorem plain {effect : Effect} (h : effect.Plain) : Settles C depth d effect.step := by
  have hcredit : ∀ counter n ctx (g : Game M), Ready C depth d ctx g →
      Ensures (perform (runWithin (depth + 1)) (.credit ctx.player counter n)) g
        (fun _ => C.Quietly g) C.halts :=
    fun _ _ _ _ hready =>
      ensures_credit hready.fit.steady_quietly.toFirm hready.fit.quietly_refl hready.seat
  cases effect with
  | drawCards n =>
    exact ofCall (c := fun ctx => .draw ctx.player n) (fun _ _ => rfl) fun _ _ hready =>
      ensures_draw hready.fit.steady_quietly hready.fit.quietly_refl hready.seat
  | gainActions n => exact ofCall (fun _ _ => rfl) (hcredit .actions n)
  | gainBuys n => exact ofCall (fun _ _ => rfl) (hcredit .buys n)
  | gainMoney n => exact ofCall (fun _ _ => rfl) (hcredit .money n)
  | gainVictoryTokens n => exact ofCall (fun _ _ => rfl) (hcredit .victoryTokens n)
  | _ => exact False.elim h

theorem plainAll {effects : List Effect} (h : ∀ effect ∈ effects, effect.Plain) :
    Settles C depth d (Effect.steps effects) := by
  induction effects with
  | nil => exact nil
  | cons effect effects ih =>
    exact cons (plain (h effect List.mem_cons_self)) (ih fun e he => h e (List.mem_cons_of_mem _ he))

theorem gainCard (pile : String) (destination : GainDestination) :
    Settles C depth d (Effect.gainCard pile destination).step :=
  ofCall (c := fun ctx => .gainIfAvailable pile ctx.player destination) (fun _ _ => rfl)
    fun _ _ hready => quietly_gainIfAvailable hready.fit hready.seat
      (Nat.lt_succ_of_lt hready.depth)

/-- Steps one after the other, one for each item of a list: the game goes on calmly if it does so with
each of them. -/
theorem foldr {α : Type} {xs : List α} {f : α → Program → Program} {g' : Game M}
    (h : ∀ x ∈ xs, ∀ g₁, C.Calmly g g₁ →
      Script.Leads (perform (runWithin depth)) (fun k => f x (k ())) g₁
        (fun _ : Unit => C.Calmly g₁) C.halts)
    (hg' : C.Calmly g g') :
    Script.Leads (perform (runWithin depth)) (fun k => xs.foldr f (k ())) g'
      (fun _ : Unit => C.Calmly g) C.halts := by
  induction xs generalizing g' with
  | nil => exact fun _ _ hk => hk () g' hg'
  | cons x xs ih =>
    intro k R hk
    refine h x List.mem_cons_self g' hg' (fun _ => xs.foldr f (k ())) R ?_
    intro _ g₁ hg₁
    exact ih (fun y hy => h y (List.mem_cons_of_mem _ hy)) (hg'.trans hg₁) k R hk

theorem optionPrograms_eq (ctx : EffectContext) (options : List EffectOption) :
    Effect.optionPrograms ctx options =
      options.map fun option => Effect.program ctx option.effect := by
  induction options with
  | nil => rfl
  | cons option options ih =>
    cases option with
    | mk description effect =>
      rw [Effect.optionPrograms, ih]
      rfl

theorem choose {prompt : String} {options : List EffectOption} {min max : Nat}
    (hbounds : min ≤ max) (h : ∀ option ∈ options, Settles C depth d option.effect.step) :
    Settles C depth d (Effect.choose prompt options min max).step := by
  intro ctx g hready k R hk
  simp only [Effect.step, Effect.program, interpret, ensures_bind, perform]
  refine (ensures_chooseOptions hready.fit hready.seat hbounds).imp ?_
  intro picked g' hstill
  refine foldr (f := fun (step : Program → Program) rest => step rest) ?_
    hstill.toQuietly.calmly k R hk
  intro step hstep g₁ hg₁
  obtain ⟨i, -, hi⟩ := List.mem_filterMap.mp hstep
  rw [optionPrograms_eq, List.getElem?_map] at hi
  obtain ⟨option, hoption, rfl⟩ := Option.map_eq_some_iff.mp hi
  exact h option (List.mem_of_getElem? hoption) ctx g₁ (hready.calmly hg₁)

/-- The other players sit at the table. -/
theorem opponents_seated {s : GameState} (hs : s.Sound) (id : PlayerId) :
    ∀ target ∈ s.opponentsOf id, target.seat < s.players.length := by
  intro target htarget
  obtain ⟨i, -, rfl⟩ := List.mem_map.mp htarget
  exact Nat.mod_lt _ (Nat.lt_of_le_of_lt (Nat.zero_le _) hs.active)

/-- What is done for every other player. -/
theorem forOpponents {effect : Effect} {f : EffectContext → PlayerId → Program → Program}
    (heffect : ∀ ctx k, effect.program ctx k =
      .call (.opponents ctx.player) fun targets => targets.foldr (f ctx) k)
    (h : ∀ ctx g target, Ready C depth d ctx g → target.seat < g.state.players.length →
      Script.Leads (perform (runWithin (depth + 1))) (fun k => f ctx target (k ())) g
        (fun _ : Unit => C.Calmly g) C.halts) :
    Settles C depth d effect.step := by
  intro ctx g hready k R hk
  simp only [Effect.step, heffect, interpret, ensures_bind, perform, ensures_state, ensures_pure]
  have hseats := opponents_seated hready.fit.state.sound ctx.player
  refine foldr ?_ hready.fit.calmly_refl k R hk
  intro target htarget g₁ hg₁
  exact h ctx g₁ target (hready.calmly hg₁) (hg₁.kept.seated (hseats target htarget))

theorem eachOtherPlayer {effect : Effect} (h : Settles C depth d effect.step) :
    Settles C depth d (Effect.eachOtherPlayer effect).step :=
  forOpponents (f := fun ctx target rest => effect.program (ctx.forPlayer target) rest)
    (fun _ _ => rfl) fun ctx g target hready htarget =>
      h (ctx.forPlayer target) g (hready.forPlayer htarget)

theorem attack {effect : Effect} (h : Settles C depth d effect.step) :
    Settles C depth d (Effect.attack effect).step := by
  refine forOpponents (f := fun ctx target rest =>
    .call (.blocksAttack target ctx.card) fun blocked =>
      if blocked then rest else effect.program (ctx.forPlayer target) rest)
    (fun _ _ => rfl) fun ctx g target hready htarget k R hk => ?_
  simp only [interpret, ensures_bind, perform]
  refine (ensures_blocksAttack hready.fit.steady_quietly.toFirm hready.fit.quietly_refl htarget).imp ?_
  intro blocked g' hg'
  have hready' := hready.calmly hg'.calmly
  cases blocked with
  | true => exact hk () g' hg'.calmly
  | false =>
    refine h (ctx.forPlayer target) g' (hready'.forPlayer (hg'.kept.seated htarget)) k R ?_
    intro a g'' hg''
    exact hk a g'' (hg'.calmly.trans hg'')

end Settles

end DeckBuilder.Catalog
