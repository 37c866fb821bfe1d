import DeckBuilder.Proofs.Alike
import DeckBuilder.Proofs.Conservation

/-!
Witnessing a game. A witness sits at the table, passes every question on to the controllers and every
answer back, and remembers the state in which each question was put and each player was told of the
end. The witnessed game is the same game, and what outlasts a game holds in every state of it that
anyone gets to see.
-/
namespace DeckBuilder

/-- What controllers remember, with the states in which they were asked or told something so far. -/
structure Witnessed (M : Type) where
  memory : M
  states : List GameState := []

variable {M : Type} [Controllers M]

instance : Controllers (Witnessed M) where
  answer s id q := fun desk =>
    let (answer, desk') := Controllers.answer s id q (desk.map Witnessed.memory)
    (answer, desk'.map fun memory => ⟨memory, desk.memory.states ++ [s]⟩)
  gameOver s id won := fun desk =>
    let ((), desk') := Controllers.gameOver s id won (desk.map Witnessed.memory)
    ((), desk'.map fun memory => ⟨memory, desk.memory.states ++ [s]⟩)

theorem Witnessed.alike : Controllers.Alike (Witnessed.memory : Witnessed M → M) :=
  ⟨fun _ _ _ _ => rfl, fun _ _ _ _ => rfl⟩

namespace Game

/-- A game of which nothing has been seen yet. -/
def witnessed (g : Game M) : Game (Witnessed M) := ⟨g.state, ⟨g.memory, []⟩⟩

/-- The states that were seen, and the state now. -/
def states (g : Game (Witnessed M)) : List GameState := g.memory.states ++ [g.state]

end Game

/-! ### The witnessed game is the same -/

namespace Operation

open Engine

theorem apply_map {N : Type} [Controllers N] {f : M → N} (hf : Controllers.Alike f)
    (operation : Operation) (g : Game M) :
    operation.apply (g.map f) = (operation.apply g).map f := by
  have hcoupling := Agrees.coupling hf
  cases operation with
  | call c =>
    exact congrArg Prod.snd (Agrees.of_coupled (.perform hcoupling (.run hcoupling) c) g)
  | execute effect ctx =>
    exact congrArg Prod.snd
      (Agrees.of_coupled (.bind (.run hcoupling _) fun _ => .pure ()) g)
  | startTurn => exact congrArg Prod.snd (Agrees.of_coupled (.startTurn hcoupling) g)
  | cleanUp => exact congrArg Prod.snd (Agrees.of_coupled (.cleanUp hcoupling) g)
  | playTurn maxTurns elapsed =>
    exact congrArg Prod.snd (Agrees.playTurn hf maxTurns elapsed g)

theorem applyAll_witnessed (operations : List Operation) (g : Game M) :
    applyAll operations g = (applyAll operations g.witnessed).map Witnessed.memory := by
  have hall : ∀ g : Game (Witnessed M),
      applyAll operations (g.map Witnessed.memory) =
        (applyAll operations g).map Witnessed.memory := by
    induction operations with
    | nil => exact fun _ => rfl
    | cons first rest ih =>
      intro g
      change applyAll rest (first.apply (g.map Witnessed.memory)) = _
      rw [apply_map Witnessed.alike, ih]
      rfl
  exact hall g.witnessed

end Operation

namespace Engine

theorem playGame_witnessed (maxTurns : Nat) (g : Game M) :
    (playGame maxTurns).runOn g =
      (((playGame maxTurns).runOn g.witnessed).1,
        ((playGame maxTurns).runOn g.witnessed).2.map Witnessed.memory) :=
  Agrees.playGame Witnessed.alike maxTurns g.witnessed

/-! ### What is seen of a game -/

variable {I : Game M → Prop} {J : GameState → Prop}

/-- What outlasts a game outlasts the witnessed one, and with it what it says of the states seen. -/
theorem Lasting.witnessed (hI : Lasting I) (hJ : ∀ g, I g → J g.state) :
    Lasting fun g : Game (Witnessed M) =>
      I (g.map Witnessed.memory) ∧ ∀ s ∈ g.memory.states, J s where
  touch hg htouch := ⟨hI.touch hg.1 htouch, hg.2⟩
  passage hg hpassage := ⟨hI.passage hg.1 hpassage, hg.2⟩
  asked {g id} q hg hid := by
    refine ⟨?_, List.forall_mem_append.mpr ⟨hg.2, List.forall_mem_singleton.mpr (hJ _ hg.1)⟩⟩
    have hasked := hI.asked q hg.1 hid
    rw [asked_map Witnessed.alike] at hasked
    exact hasked
  told {g id} won hg hid := by
    refine ⟨?_, List.forall_mem_append.mpr ⟨hg.2, List.forall_mem_singleton.mpr (hJ _ hg.1)⟩⟩
    have htold := hI.told won hg.1 hid
    rw [told_map Witnessed.alike] at htold
    exact htold

/-- It holds in every state that is seen while operations are carried out and the game is then played
to its end, and in the states after them. -/
theorem Lasting.throughout (hI : Lasting I) (hJ : ∀ g, I g → J g.state) {g : Game M} (hg : I g)
    (operations : List Operation) (maxTurns : Nat) :
    let g' := Operation.applyAll operations g.witnessed
    ∀ s ∈ g'.states ++ ((playGame maxTurns).runOn g').2.states, J s := by
  intro g'
  have hW := hI.witnessed hJ
  have hstates : ∀ g : Game (Witnessed M),
      I (g.map Witnessed.memory) ∧ (∀ s ∈ g.memory.states, J s) → ∀ s ∈ g.states, J s :=
    fun g hg =>
      List.forall_mem_append.mpr ⟨hg.2, List.forall_mem_singleton.mpr (hJ _ hg.1)⟩
  have hstart : I (g.witnessed.map Witnessed.memory) ∧ ∀ s ∈ g.witnessed.memory.states, J s :=
    ⟨hg, List.forall_mem_nil _⟩
  have hoperated := Operation.applyAll_upholds hW operations hstart
  have hplayed := (Upholds.playGame hW maxTurns).after hoperated
  exact List.forall_mem_append.mpr ⟨hstates _ hoperated, hstates _ hplayed⟩

end Engine

end DeckBuilder
