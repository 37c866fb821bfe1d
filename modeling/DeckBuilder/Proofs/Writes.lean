import DeckBuilder.Proofs.Change
import DeckBuilder.Proofs.Upholding

/-!
The writes that a turn is made of. Between its start and the moment at which it passes on, a turn
writes to the state in seven ways only, whatever is printed on the cards and whoever answers, and if
an error stops it then it has written so much and no more. That the state has come from another by such
writes is an assertion that no touch and no question can break.
-/
namespace DeckBuilder

/-- The kinds of events that go on within a turn: neither the game nor a turn begins, and the game does
not end. -/
def EventKind.Inner : EventKind → Prop
  | .gameStart _ | .startTurn | .gameEnd .. => False
  | _ => True

theorem EventKind.Passing.inner {kind : EventKind} (h : kind.Passing) : kind.Inner := by
  cases kind with
  | gameStart | startTurn | gameEnd => exact h
  | _ => trivial

/-- A controller may draw from the generator and leaves notes. -/
inductive Thought : GameState → GameState → Prop
  | mk (s : GameState) (id : PlayerId) (rng : Generator) (notes : Array Note) :
      Thought s ({ s with rng }.enterAll id notes)

theorem Thought.eq {s s' : GameState} (h : Thought s s') : ∃ rng logger, s' = { s with rng, logger } := by
  cases h with
  | mk id rng notes =>
    obtain ⟨logger, heq⟩ := GameState.enterAll_eq { s with rng } id notes
    exact ⟨rng, logger, heq⟩

inductive Write : GameState → GameState → Prop
  | think {s s' : GameState} (h : Thought s s') : Write s s'
  /-- What waits on cards, the trash, the phase, what cards cost, and the log book. -/
  | aside (s : GameState) (cards : Store Card) (trash : List CardId) (phase : Phase)
      (costModifiers : List (CardFace → Int)) (logger : Logger) :
      Write s { s with cards, trash, phase, costModifiers, logger }
  | arrange (s : GameState) (id : PlayerId) (p p' : Player) (hp : s.player? id = some p)
      (hid : p'.id = p.id) (hturns : p'.turns = p.turns) : Write s (s.setPlayer id p')
  | draw (s : GameState) (id : PlayerId) (p : Player) (hp : s.player? id = some p) :
      Write s (s.drawOne id p).2
  | peek (s s' : GameState) (id : PlayerId) (n : Nat) (cards : List CardId)
      (h : s.topCards id n = .ok (cards, s')) : Write s s'
  /-- The top card of a pile is taken; an empty pile stays as it is. -/
  | take (s : GameState) (pile : String) :
      Write s { s with supply := s.supply.updatePile pile Pile.pop }
  | publish (s : GameState) (id : PlayerId) (kind : EventKind) (h : kind.Inner) :
      Write s (s.publish id kind)

abbrev Writes : GameState → GameState → Prop := Relation.ReflTransGen Write

theorem Touch.write {s s' : GameState} (h : Touch s s') : Write s s' := by
  cases h with
  | remark | hang | throwAway | reprice | enter => exact .aside _ _ _ _ _ _
  | publish id kind h => exact .publish s id kind h.inner
  | arrange id p p' hp hid hturns => exact .arrange s id p p' hp hid hturns
  | draw id p hp => exact .draw s id p hp
  | peek _ id n cards h => exact .peek s s' id n cards h
  | take pile => exact .take s pile

namespace Engine

variable {M : Type} {α : Type} {T : GameState → GameState → Prop}

/-- The one state comes from the other along such steps. -/
def Along (T : GameState → GameState → Prop) (g g' : Game M) : Prop :=
  Relation.ReflTransGen T g.state g'.state

/-- Whatever becomes of the computation, it takes the state along such steps. -/
def Follows (T : GameState → GameState → Prop) (e : Engine M α) : Prop :=
  ∀ g : Game M, Ensures e g (fun _ => Along T g) (fun _ => Along T g)

theorem Follows.of_upholds {e : Engine M α} (h : ∀ g₀, Upholds (Along T g₀) e) : Follows T e :=
  fun g => h g g .refl

variable [Controllers M]

theorem enduring_along_write (g₀ : Game M) : Enduring (Along Write g₀) where
  touch hg htouch := hg.tail htouch.write
  asked _ hg _ := hg.tail (.think (.mk _ _ _ _))

theorem Follows.notifyGameOver (winners : List PlayerId) :
    Follows Thought (Engine.notifyGameOver winners : Engine M Unit) := by
  refine .of_upholds fun g₀ => .bind .state fun s => .forM (fun id g hg => ?_) _
  change Along Thought g₀ (told g id (winners.contains id))
  exact hg.tail (.mk g.state id _ _)

end Engine

end DeckBuilder
