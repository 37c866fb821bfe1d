import DeckBuilder.Engine.Interpreter
import DeckBuilder.Proofs.Outcome

/-!
What a script leads to. A script is a program with its end left open, so what it leads to is said of
all programs that may follow it: they are run from a game of which the assertion holds. There is a
rule for each step that scripts are made of, and for each kind of effect.
-/
namespace DeckBuilder

open Engine

namespace Engine

variable {M : Type} {handler : (c : Call) → Engine M c.Answer} {g : Game M}
variable {E : Halt → Game M → Prop}

/-- One program after another is run as the one and then the other. -/
theorem interpret_andThen (handler : (c : Call) → Engine M c.Answer) (p k : Program) :
    interpret handler (p.andThen k) = interpret handler p >>= fun _ => interpret handler k := by
  induction p with
  | finish keep => rw [Program.andThen, interpret, pure_bind]
  | fail e => rfl
  | look next ih => simp only [Program.andThen, interpret, bind_assoc, ih]
  | call c next ih => simp only [Program.andThen, interpret, bind_assoc, ih]
  | addDuration card callback next _ ih => simp only [Program.andThen, interpret, bind_assoc, ih]
  | addGainTrigger id callback next _ ih => simp only [Program.andThen, interpret, bind_assoc, ih]
  | addPlayTrigger id callback next _ ih => simp only [Program.andThen, interpret, bind_assoc, ih]

theorem ensures_andThen {p k : Program} {R : Bool → Game M → Prop}
    (h : Ensures (interpret handler p) g (fun _ g' => Ensures (interpret handler k) g' R E) E) :
    Ensures (interpret handler (p.andThen k)) g R E := by
  rw [interpret_andThen, ensures_bind]
  exact h

end Engine

/-- Run from the game, the script comes to a value and a game of which `Q` holds, or stops with `E`. -/
def Script.Leads {M : Type} {α : Type} (handler : (c : Call) → Engine M c.Answer)
    (s : Script α) (g : Game M) (Q : α → Game M → Prop) (E : Halt → Game M → Prop) : Prop :=
  ∀ (k : α → Program) (R : Bool → Game M → Prop),
    (∀ a g', Q a g' → Ensures (interpret handler (k a)) g' R E) →
      Ensures (interpret handler (s k)) g R E

namespace Script.Leads

variable {M : Type} {handler : (c : Call) → Engine M c.Answer} {g : Game M}
variable {E : Halt → Game M → Prop} {α β : Type} {Q : α → Game M → Prop}

theorem imp {s : Script α} {Q' : α → Game M → Prop} (h : s.Leads handler g Q E)
    (hQ : ∀ a g', Q a g' → Q' a g') : s.Leads handler g Q' E :=
  fun k R hk => h k R fun a g' ha => hk a g' (hQ a g' ha)

theorem pure {a : α} (h : Q a g) : Script.Leads handler (Pure.pure a) g Q E :=
  fun _ _ hk => hk a g h

theorem bind {R : β → Game M → Prop} {s : Script α} {f : α → Script β}
    (h : s.Leads handler g (fun a g' => (f a).Leads handler g' R E) E) :
    Script.Leads handler (s >>= f) g R E :=
  fun k R' hk => h _ R' fun _ _ ha => ha k R' hk

theorem call {c : Call} {Q : c.Answer → Game M → Prop} (h : Ensures (handler c) g Q E) :
    (Script.call c).Leads handler g Q E := by
  intro k R hk
  simp only [Script.call, interpret, ensures_bind]
  exact h.imp hk

/-- A call, and what is done with its answer. -/
theorem callBind {R : β → Game M → Prop} {c : Call} {f : c.Answer → Script β}
    (h : Ensures (handler c) g (fun a g' => (f a).Leads handler g' R E) E) :
    Script.Leads handler (Script.call c >>= f) g R E :=
  bind (call h)

theorem look {Q : Outlook → Game M → Prop} (h : Q g.state.outlook g) :
    Script.look.Leads handler g Q E :=
  fun _ _ hk => hk _ g h

theorem addDuration {card : CardId} {callback : EffectContext → Program}
    {Q : Unit → Game M → Prop} (h : Ensures (Engine.addDuration card callback) g Q E) :
    (Script.addDuration card callback).Leads handler g Q E := by
  intro k R hk
  simp only [Script.addDuration, interpret, ensures_bind]
  exact h.imp fun a => hk a

theorem addGainTrigger {id : PlayerId} {callback : GainInfo → Program}
    {Q : Unit → Game M → Prop} (h : Ensures (Engine.addGainTrigger id callback) g Q E) :
    (Script.addGainTrigger id callback).Leads handler g Q E := by
  intro k R hk
  simp only [Script.addGainTrigger, interpret, ensures_bind]
  exact h.imp fun a => hk a

theorem addPlayTrigger {id : PlayerId} {callback : PlayerId → CardId → Program}
    {Q : Unit → Game M → Prop} (h : Ensures (Engine.addPlayTrigger id callback) g Q E) :
    (Script.addPlayTrigger id callback).Leads handler g Q E := by
  intro k R hk
  simp only [Script.addPlayTrigger, interpret, ensures_bind]
  exact h.imp fun a => hk a

theorem ite {c : Prop} [Decidable c] {s s' : Script α} (h : c → s.Leads handler g Q E)
    (h' : ¬ c → s'.Leads handler g Q E) : Script.Leads handler (if c then s else s') g Q E := by
  by_cases hc : c
  · rw [if_pos hc]
    exact h hc
  · rw [if_neg hc]
    exact h' hc

/-- A loop over a list keeps what is kept for each of its items. -/
theorem forM {f : α → Script PUnit} {I : Game M → Prop} {xs : List α} (hstart : I g)
    (hstep : ∀ a ∈ xs, ∀ g, I g → (f a).Leads handler g (fun _ => I) E) :
    Script.Leads handler (xs.forM f) g (fun _ => I) E := by
  induction xs generalizing g with
  | nil => exact pure hstart
  | cons a rest ih =>
    change Script.Leads handler (f a >>= fun _ => rest.forM f) g (fun _ => I) E
    refine bind ((hstep a List.mem_cons_self g hstart).imp fun _ _ h => ?_)
    exact ih h fun b hb => hstep b (List.mem_cons_of_mem _ hb)

theorem filterAuxM {p : α → Script Bool} {I : Game M → Prop} {xs : List α} (acc : List α)
    (hstart : I g) (hstep : ∀ a ∈ xs, ∀ g, I g → (p a).Leads handler g (fun _ => I) E) :
    Script.Leads handler (xs.filterAuxM p acc) g
      (fun ys g' => I g' ∧ ys.reverse.Sublist (acc.reverse ++ xs)) E := by
  induction xs generalizing acc g with
  | nil =>
    refine pure ⟨hstart, ?_⟩
    simp
  | cons a rest ih =>
    refine bind ((hstep a List.mem_cons_self g hstart).imp ?_)
    intro kept g' h'
    refine (ih _ h' fun b hb => hstep b (List.mem_cons_of_mem _ hb)).imp ?_
    rintro ys g'' ⟨h'', hsub⟩
    refine ⟨h'', hsub.trans ?_⟩
    cases kept with
    | true => simp
    | false => simp

/-- A loop that keeps some of the items. -/
theorem filterM {p : α → Script Bool} {I : Game M → Prop} {xs : List α} (hstart : I g)
    (hstep : ∀ a ∈ xs, ∀ g, I g → (p a).Leads handler g (fun _ => I) E) :
    Script.Leads handler (xs.filterM p) g (fun ys g' => I g' ∧ ys.Sublist xs) E := by
  refine bind ((filterAuxM [] hstart hstep).imp ?_)
  rintro ys g' ⟨h', hsub⟩
  exact pure ⟨h', by simpa using hsub⟩

/-! ### Looking things up -/

theorem tableau {id : PlayerId} {p : Player} {Q : Tableau → Game M → Prop}
    (hp : g.state.player? id = some p) (h : Q p.toTableau g) :
    (Script.tableau id).Leads handler g Q E := by
  refine bind (look ?_)
  simp only [GameState.outlook, hp, Option.map_some]
  exact pure h

theorem face {card : CardId} {c : Card} {Q : CardFace → Game M → Prop}
    (hc : g.state.card? card = some c) (h : Q c.face g) : (Script.face card).Leads handler g Q E := by
  refine bind (look ?_)
  simp only [GameState.outlook, GameState.face?, hc, Option.map_some]
  exact pure h

theorem hand {id : PlayerId} {p : Player} {Q : List CardId → Game M → Prop}
    (hp : g.state.player? id = some p) (h : Q p.hand g) : (Script.hand id).Leads handler g Q E :=
  bind (tableau hp (pure h))

/-- Cards are picked out of the hand. -/
theorem handWhere {id : PlayerId} {p : Player} {pred : CardFace → Bool}
    {Q : List CardId → Game M → Prop} (hp : g.state.player? id = some p)
    (hcards : ∀ card ∈ p.hand, ∃ c, g.state.card? card = some c)
    (h : ∀ ys, ys.Sublist p.hand → Q ys g) : (Script.handWhere id pred).Leads handler g Q E := by
  refine bind (hand hp ?_)
  refine (filterM (I := fun g' => g' = g) rfl ?_).imp ?_
  · rintro card hcard _ rfl
    obtain ⟨c, hc⟩ := hcards card hcard
    exact bind (face hc (pure rfl))
  · rintro ys _ ⟨rfl, hsub⟩
    exact h ys hsub

/-! ### Scripts as programs -/

theorem once {s : Script Unit} {P : Game M → Prop} (h : s.Leads handler g (fun _ => P) E) :
    Ensures (interpret handler s.once) g (fun _ => P) E :=
  h _ _ fun _ _ hP => hP

theorem keeping {s : Script Bool} {P : Game M → Prop} (h : s.Leads handler g (fun _ => P) E) :
    Ensures (interpret handler s.keeping) g (fun _ => P) E :=
  h _ _ fun _ _ hP => hP

/-! ### Effects -/

theorem steps_nil {ctx : EffectContext} {P : Game M → Prop} (h : P g) :
    (Effect.steps [] ctx).Leads handler g (fun _ => P) E :=
  fun _ _ hk => hk () g h

theorem steps_cons {effect : Effect} {effects : List Effect} {ctx : EffectContext}
    {P : Game M → Prop}
    (h : (Effect.step effect ctx).Leads handler g
      (fun _ g' => (Effect.steps effects ctx).Leads handler g' (fun _ => P) E) E) :
    (Effect.steps (effect :: effects) ctx).Leads handler g (fun _ => P) E :=
  bind (f := fun _ => Effect.steps effects ctx) h

/-- Effects as a program of their own. -/
theorem programAll {effects : List Effect} {ctx : EffectContext} {P : Game M → Prop}
    (h : (Effect.steps effects ctx).Leads handler g (fun _ => P) E) :
    Ensures (interpret handler (Effect.programAll ctx effects (.finish false))) g (fun _ => P) E :=
  h (fun _ => .finish false) _ fun _ _ hP => hP

/-- A step given by a script. -/
theorem scripted {label : String} {s : EffectContext → Script Unit} {ctx : EffectContext}
    {P : Game M → Prop} (h : (s ctx).Leads handler g (fun _ => P) E) :
    (Effect.step (.scripted label s) ctx).Leads handler g (fun _ => P) E :=
  fun _ _ hk => ensures_andThen (h _ _ fun a g' hP => hk a g' hP)

/-- One such step alone. -/
theorem steps_scripted {label : String} {s : EffectContext → Script Unit} {ctx : EffectContext}
    {P : Game M → Prop} (h : (s ctx).Leads handler g (fun _ => P) E) :
    (Effect.steps [.scripted label s] ctx).Leads handler g (fun _ => P) E :=
  steps_cons ((scripted h).imp fun _ _ hP => steps_nil hP)

end Script.Leads

end DeckBuilder
