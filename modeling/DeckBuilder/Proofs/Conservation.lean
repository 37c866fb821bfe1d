import DeckBuilder.Controller.Table
import DeckBuilder.Proofs.CatalogSeated
import DeckBuilder.Proofs.Opening
import DeckBuilder.Proofs.TurnConduct
import DeckBuilder.Proofs.Upholding

/-!
Conservation of cards. From the opening on, whatever operations are called and whatever becomes of
them, every card of the store lies in exactly one place, nothing else lies anywhere, and no card
changes what is printed on it.
-/
namespace DeckBuilder

/-- What can be called on a game from outside. -/
inductive Operation
  | call (c : Call)
  | execute (effect : Effect) (ctx : EffectContext)
  | startTurn
  | cleanUp
  | playTurn (maxTurns elapsed : Nat)

namespace Operation

variable {M : Type} {n : Nat}

/-- An operation for the players at a table of `n`. -/
def Seated (n : Nat) : Operation → Prop
  | .call c => c.Seated n
  | .execute effect ctx => effect.Seated n ∧ ctx.player.seat < n
  | _ => True

theorem acts_changes {α : Type} {e : Engine M α} {Q : α → Prop} (he : Engine.Acts n e Q)
    {g : Game M} (hs : g.state.Seated n) :
    Changes (Hooks.seated n) g.state (e.runOn g).2.state :=
  ((he g.state hs g .refl).imp fun _ _ h => h.1).after

variable [Controllers M]

/-- The game after an operation, be it done or given up. -/
def apply (g : Game M) : Operation → Game M
  | .call c => ((Engine.call c).runOn g).2
  | .execute effect ctx => ((Engine.execute effect ctx).runOn g).2
  | .startTurn => (Engine.startTurn.runOn g).2
  | .cleanUp => (Engine.cleanUp.runOn g).2
  | .playTurn maxTurns elapsed => ((Engine.playTurn maxTurns elapsed).runOn g).2

/-- The game after some operations. -/
def applyAll (operations : List Operation) (g : Game M) : Game M := operations.foldl apply g

/-- What outlasts a game outlasts whatever is done with it, be it done or given up. -/
theorem apply_upholds {I : Game M → Prop} (hI : Engine.Lasting I) (operation : Operation)
    {g : Game M} (hg : I g) : I (operation.apply g) := by
  cases operation with
  | call c => exact (Engine.Upholds.call hI.toEnduring c).after hg
  | execute effect ctx => exact (Engine.Upholds.execute hI.toEnduring effect ctx).after hg
  | startTurn => exact (Engine.Upholds.startTurn hI).after hg
  | cleanUp => exact (Engine.Upholds.cleanUp hI).after hg
  | playTurn maxTurns elapsed => exact (Engine.Upholds.playTurn hI maxTurns elapsed).after hg

theorem applyAll_upholds {I : Game M → Prop} (hI : Engine.Lasting I) (operations : List Operation)
    {g : Game M} (hg : I g) : I (applyAll operations g) := by
  induction operations generalizing g with
  | nil => exact hg
  | cons first rest ih => exact ih (apply_upholds hI first hg)

/-- One operation makes changes only. -/
theorem apply_changes {operation : Operation} (ho : operation.Seated n) {g : Game M}
    (hs : g.state.Seated n) : Changes (Hooks.seated n) g.state (operation.apply g).state := by
  cases operation with
  | call c => exact acts_changes (Engine.call_acts ho) hs
  | execute effect ctx => exact acts_changes (Engine.execute_acts ho.1 ho.2) hs
  | startTurn => exact acts_changes Engine.startTurn_acts hs
  | cleanUp => exact acts_changes Engine.cleanUp_acts hs
  | playTurn maxTurns elapsed => exact acts_changes (Engine.playTurn_acts maxTurns elapsed) hs

/-- And so do any number of them. -/
theorem applyAll_changes {operations : List Operation} (ho : ∀ o ∈ operations, o.Seated n)
    {g : Game M} (hs : g.state.Seated n) :
    Changes (Hooks.seated n) g.state (applyAll operations g).state := by
  induction operations generalizing g with
  | nil => exact .refl
  | cons first rest ih =>
    have hfirst := apply_changes (ho first List.mem_cons_self) hs
    have hrest := ih (fun o hm => ho o (List.mem_cons_of_mem _ hm)) (hfirst.seated hs)
    exact hfirst.trans hrest

end Operation

theorem GameState.Opened.toSeated {r : Registry} {n : Nat} {s : GameState} (h : s.Opened r n)
    (hr : ∀ d ∈ r.definitions, d.Seated n) : s.Seated n :=
  ⟨h.seats, h.sound, h.unhooked _, fun id c hc => hr _ (h.registered id c hc)⟩

end DeckBuilder
