import DeckBuilder.Proofs.Chronicle
import DeckBuilder.Proofs.Watched

/-!
Discretion. What keeps to a licence gives a chronicler nothing to tell: a chronicler who has the turn
passed on when told something would make a change that no licence allows. So all that is seen of it are
moments with the same past, and their states come from the first by allowed changes, since the run could
have been stopped at any of them.
-/
namespace DeckBuilder

open Classical in
/-- A chronicler who stops the game at a moment that is not as it should be; and who, when told
anything, has the turn passed on to the seat and stops the game. -/
noncomputable def Chronicler.strict {M : Type} (good : Moment → Prop) (seat : Nat) :
    Chronicler (Chronicled M) where
  tell _ := do
    Engine.modifyState fun s => { s with active := seat }
    throw .endless
  look := do
    let n ← get
    if good n.moment then modify Game.seen else throw .endless

namespace Engine

variable {M : Type} [Controllers M] {L : Licence} {k : Chronicler M}

/-! ### Licences -/

theorem performTold_heeds {provoke : Program → Engine M Bool}
    (hlook : Heeds L k.look fun _ => True)
    (hprovoke : ∀ p : Program, p.Within (.modest L.locked) → Heeds L (provoke p) fun _ => True)
    {c : Call} (hc : c.Within L) : Heeds L (performTold k provoke c) (c.Known L) := by
  have hperform := perform_heeds hprovoke hc
  cases c with
  | play => exact hc.elim
  | resolve => exact hc.elim
  | addCostModifier => exact hperform
  | _ => exact hperform.bind fun a ha => hlook.bind fun _ _ => .pure ha

theorem runToldWithin_heeds (hlook : ∀ L, Heeds L k.look fun _ => True) (depth : Nat) {L : Licence}
    {p : Program} (hp : p.Within L) : Heeds L (runToldWithin k depth p) fun _ => True := by
  induction depth generalizing L p with
  | zero => exact .throw
  | succ depth ih =>
    refine interpret_heeds (fun c hc => (hlook L).bind fun _ _ => ?_) hp
    exact performTold_heeds (hlook L) (fun q hq => (ih hq).of_modest) hc

theorem runTold_heeds (hlook : ∀ L, Heeds L k.look fun _ => True) {p : Program} (hp : p.Within L) :
    Heeds L (runTold k p) fun _ => True :=
  Heeds.state.bind fun _ _ => runToldWithin_heeds hlook _ hp

/-! ### What a chronicler upholds -/

namespace Upholds

variable {I : Game M → Prop} (hI : Enduring I) (htell : ∀ h, Upholds I (k.tell h))
  (hlook : Upholds I k.look)
include hI htell hlook

theorem playTold {provoke : Program → Engine M Bool} (hprovoke : ∀ p, Upholds I (provoke p))
    (card : CardId) (owner : PlayerId) : Upholds I (Engine.playTold k provoke card owner) := by
  have hplay := play hI hprovoke card owner
  exact bind hlook fun _ => bind state fun s =>
    ite (bind (htell _) fun _ => bind hplay fun _ => htell _) hplay

theorem performTold {provoke : Program → Engine M Bool} (hprovoke : ∀ p, Upholds I (provoke p))
    (c : Call) : Upholds I (Engine.performTold k provoke c) := by
  have hperform := perform hI hprovoke c
  cases c with
  | play => exact playTold hI htell hlook hprovoke _ _
  | resolve =>
    exact bind (definition _) fun _ => forM (fun _ => bind (hprovoke _) fun _ => htell _) _
  | addCostModifier => exact hperform
  | _ => exact bind hperform fun _ => bind hlook fun _ => pure _

theorem runToldWithin (depth : Nat) (p : Program) : Upholds I (Engine.runToldWithin k depth p) := by
  induction depth generalizing p with
  | zero => exact throw _
  | succ depth ih =>
    exact interpret hI (fun c => bind hlook fun _ => performTold hI htell hlook ih c) p

theorem runTold (p : Program) : Upholds I (Engine.runTold k p) :=
  bind state fun _ => runToldWithin hI htell hlook _ p

end Upholds

/-! ### Nothing to tell -/

/-- A computation that keeps to the licence, whoever is the chronicler. -/
structure Discreet {α : Type} (L : Licence)
    (e : Chronicler (Chronicled M) → Engine (Chronicled M) α) : Prop where
  heeds : ∀ k, (∀ L, Heeds L k.look fun _ => True) → Heeds L (e k) fun _ => True
  upholds : ∀ k I, Enduring I → (∀ h, Upholds I (k.tell h)) → Upholds I k.look → Upholds I (e k)
  coupled : ∀ k k' E, Colleagues Eq E k k' → Coupled Eq E (e k) (e k')

/-- Whoever may move cards only keeps to every licence with the same cards locked. -/
theorem Discreet.of_modest {α : Type} {e : Chronicler (Chronicled M) → Engine (Chronicled M) α}
    (he : Discreet (.modest L.locked) e) : Discreet L e :=
  ⟨fun k hlook => (he.heeds k hlook).of_modest, he.upholds, he.coupled⟩

/-- What does not provoke anything. -/
theorem discreet_of_heeds {α : Type} {e : Engine (Chronicled M) α} {Q : α → Prop}
    (hheeds : Heeds L e Q) (hupholds : ∀ I, Enduring I → Upholds I e) : Discreet L fun _ => e where
  heeds _ _ := hheeds.imp fun _ _ => trivial
  upholds _ I hI _ _ := hupholds I hI
  coupled := by
    rintro _ _ E - n _ rfl
    exact .inl ⟨rfl, rfl⟩

theorem discreet_runToldWithin {p : Program} (hp : p.Within L) (depth : Nat) :
    Discreet (M := M) L fun k => runToldWithin k depth p where
  heeds _ hlook := runToldWithin_heeds hlook depth hp
  upholds _ _ hI htell hlook := .runToldWithin hI htell hlook depth p
  coupled _ _ _ hk := .runToldWithin coupling_eq hk depth p

theorem discreet_executeAll {effects : List Effect} {ctx : EffectContext}
    (h : Effect.WithinAll L ctx effects) :
    Discreet (M := M) L fun k => executeAll (runTold k) effects ctx where
  heeds _ hlook := executeAll_heeds (fun _ => runTold_heeds hlook) h
  upholds _ _ hI htell hlook := .executeAll (.runTold hI htell hlook) _ _
  coupled _ _ _ hk := .executeAll (.runTold coupling_eq hk) _ _

theorem discreet_buy (hbuys : L.buys) {id : PlayerId} (hid : L.payee id) (pile : String) :
    Discreet (M := M) L fun k => buy (runTold k) pile id where
  heeds _ hlook := buy_heeds (fun _ hp => (runTold_heeds hlook hp).of_modest) pile hbuys hid
  upholds _ _ hI htell hlook := .buy hI.abiding (.runTold hI htell hlook) _ _
  coupled _ _ _ hk := .buy coupling_eq (.runTold coupling_eq hk) _ _

section

variable {M : Type} {good : Moment → Prop} {seat : Nat} {n : Game (Chronicled M)}

theorem runOn_strict_look_of_good (h : good n.moment) :
    (Chronicler.strict good seat).look.runOn n = (.ok (), n.seen) := by
  classical
  change (if good n.moment then _ else _ : Engine (Chronicled M) Unit).runOn n = _
  rw [if_pos h]
  rfl

theorem runOn_strict_look_of_not (h : ¬ good n.moment) :
    (Chronicler.strict good seat).look.runOn n = (.error .endless, n) := by
  classical
  change (if good n.moment then _ else _ : Engine (Chronicled M) Unit).runOn n = _
  rw [if_neg h]
  rfl

theorem strict_look_heeds (L : Licence) :
    Heeds L (Chronicler.strict (M := M) good seat).look fun _ => True := by
  intro n _
  by_cases h : good n.moment
  · rw [Ensures, runOn_strict_look_of_good h]
    exact ⟨.refl n.state, trivial⟩
  · rw [Ensures, runOn_strict_look_of_not h]
    exact .refl n.state

/-- Until something is told, or a moment seen that is not as it should be, the two write down the
same. -/
theorem strict_colleagues (M : Type) (good : Moment → Prop) (seat : Nat) :
    Colleagues Eq (fun _ n => ¬ (n.state.active ≠ seat ∧ good n.moment))
      (.faithful : Chronicler (Chronicled M)) (.strict good seat) where
  tell h := by
    rintro n _ rfl
    exact .inr ⟨.endless, { n with state := { n.state with active := seat } }, rfl,
      fun hnever => hnever.1 rfl⟩
  look := by
    rintro n _ rfl
    by_cases h : good n.moment
    · rw [runOn_strict_look_of_good h]
      exact .inl ⟨rfl, rfl⟩
    · exact .inr ⟨.endless, n, runOn_strict_look_of_not h, fun hgood => h hgood.2⟩

end

variable {good : Moment → Prop} {n : Game (Chronicled M)} {α : Type}
variable {e : Chronicler (Chronicled M) → Engine (Chronicled M) α}

/-- What is written down: nothing has happened, and the moments that were seen are as they should be. -/
theorem Discreet.upholds_strict (he : Discreet L e) (seat : Nat) (past : List Happening) :
    Upholds (fun n => n.memory.past = past ∧ ∀ m ∈ n.memory.moments, good m)
      (e (.strict good seat)) := by
  refine he.upholds _ _ ⟨fun hn _ => hn, fun _ hn _ => hn⟩ (fun _ _ hn => hn) fun n hn => ?_
  by_cases h : good n.moment
  · rw [Ensures, runOn_strict_look_of_good h]
    exact ⟨hn.1, List.forall_mem_cons.mpr ⟨h, hn.2⟩⟩
  · rw [Ensures, runOn_strict_look_of_not h]
    exact hn

/-- Nothing is told of a discreet computation, and if every moment that comes from the present one by
allowed changes is as it should be then all are that are seen of it. -/
theorem Discreet.ensures (he : Discreet L e) (hready : n.state.Ready L.locked)
    (hgood : ∀ s, L.Allows n.state s → good ⟨n.memory.past, s⟩)
    (hmoments : ∀ m ∈ n.memory.moments, good m) :
    let after n' := L.Allows n.state n'.state ∧ n'.memory.past = n.memory.past ∧
      ∀ m ∈ n'.memory.moments, good m
    Ensures (e .faithful) n (fun _ => after) fun _ => after := by
  intro after
  have hstrict : Ensures (e (.strict good (n.state.active + 1))) n (fun _ => after) fun _ => after :=
    ((he.heeds _ strict_look_heeds n hready).and
      (he.upholds_strict (n.state.active + 1) n.memory.past n ⟨rfl, hmoments⟩)).mono
      (fun _ _ h => ⟨h.1.1, h.2⟩) fun _ _ h => h
  have hnever : Ensures (e (.strict good (n.state.active + 1))) n (fun _ => after) fun _ n' =>
      n'.state.active ≠ n.state.active + 1 ∧ good n'.moment := by
    refine hstrict.mono (fun _ _ h => h) ?_
    rintro _ n' ⟨hallows, hpast, -⟩
    constructor
    · rw [hallows.active]
      exact (Nat.succ_ne_self _).symm
    · rw [Game.moment, hpast]
      exact hgood n'.state hallows
  have hsame := (he.coupled _ _ _ (strict_colleagues M good (n.state.active + 1))).sameRun hnever
  exact .of_runOn hsame.1.symm hstrict

end Engine

end DeckBuilder
