import DeckBuilder.Proofs.Coupled

/-!
Controllers that answer alike play the same game. What controllers remember reaches a game through
their answers, their draws from the generator and their notes only. So if a map between two memories
keeps these then it maps the run of every operation from a game with the one memory to the run from
the game with the other.
-/
namespace DeckBuilder

variable {M N : Type}

def Desk.map (f : M → N) (d : Desk M) : Desk N := ⟨f d.memory, d.rng, d.notes⟩

def Game.map (f : M → N) (g : Game M) : Game N := ⟨g.state, f g.memory⟩

/-- Controllers with the mapped memory answer as those with the memory do. -/
structure Controllers.Alike [Controllers M] [Controllers N] (f : M → N) : Prop where
  answer : ∀ s id q (d : Desk M),
    Controllers.answer s id q (d.map f) =
      ((Controllers.answer s id q d).1, (Controllers.answer s id q d).2.map f)
  gameOver : ∀ s id won (d : Desk M),
    Controllers.gameOver s id won (d.map f) =
      ((Controllers.gameOver s id won d).1, (Controllers.gameOver s id won d).2.map f)

namespace Engine

variable {α β : Type} {f : M → N}

/-- The one computation runs as the other, with the memory mapped. -/
def Agrees (f : M → N) (e : Engine M α) (e' : Engine N α) : Prop :=
  ∀ g, e'.runOn (g.map f) = ((e.runOn g).1, (e.runOn g).2.map f)

theorem Agrees.of_coupled {e : Engine M α} {e' : Engine N α}
    (h : Coupled (fun g g' => g' = g.map f) (fun _ _ => False) e e') : Agrees f e e' :=
  fun _ => Prod.ext (h.alike rfl).1 (h.alike rfl).2

section

variable [Controllers M] [Controllers N] (hf : Controllers.Alike f)
include hf

theorem asked_map (g : Game M) (id : PlayerId) (q : Question) :
    asked (g.map f) id q = ((asked g id q).1, (asked g id q).2.map f) := by
  have hanswer : Controllers.answer (g.map f).state id q
      { memory := (g.map f).memory, rng := (g.map f).state.rng } = _ :=
    hf.answer g.state id q { memory := g.memory, rng := g.state.rng }
  unfold asked
  rw [hanswer]
  rfl

theorem told_map (g : Game M) (id : PlayerId) (won : Bool) :
    told (g.map f) id won = (told g id won).map f := by
  have hover : Controllers.gameOver (g.map f).state id won
      { memory := (g.map f).memory, rng := (g.map f).state.rng } = _ :=
    hf.gameOver g.state id won { memory := g.memory, rng := g.state.rng }
  unfold told
  rw [hover]
  rfl

/-- A game and the game with the mapped memory are coupled. -/
theorem Agrees.coupling : Coupling fun (g : Game M) (g' : Game N) => g' = g.map f where
  unlogged := by
    rintro g _ rfl
    exact ⟨g.state.logger, rfl⟩
  change := by
    rintro g _ change - rfl
    rfl
  asked := by
    rintro g _ rfl id q
    rw [asked_map hf]
    exact ⟨rfl, rfl⟩
  told := by
    rintro g _ rfl id won
    exact told_map hf g id won

namespace Agrees

theorem chooseAction (id : PlayerId) (playable : List CardId) :
    Agrees f (Engine.chooseAction id playable) (Engine.chooseAction id playable) :=
  of_coupled (Coupled.chooseAction (coupling hf) _ _)

theorem chooseTreasures (id : PlayerId) (playable : List CardId) :
    Agrees f (Engine.chooseTreasures id playable) (Engine.chooseTreasures id playable) :=
  of_coupled (Coupled.chooseTreasures (coupling hf) _ _)

theorem choosePurchase (id : PlayerId) (buyable : List String) :
    Agrees f (Engine.choosePurchase id buyable) (Engine.choosePurchase id buyable) :=
  of_coupled (Coupled.choosePurchase (coupling hf) _ _)

theorem chooseCards (id : PlayerId) (choice : CardChoice) :
    Agrees f (Engine.chooseCards id choice) (Engine.chooseCards id choice) :=
  of_coupled (Coupled.chooseCards (coupling hf) _ _)

theorem choosePile (id : PlayerId) (prompt : String) (source : Option CardId)
    (eligible : PileOffer → Bool) :
    Agrees f (Engine.choosePile id prompt source eligible)
      (Engine.choosePile id prompt source eligible) :=
  of_coupled (Coupled.choosePile (coupling hf) _ _ _ _)

theorem chooseOptions (id : PlayerId) (choice : OptionChoice) :
    Agrees f (Engine.chooseOptions id choice) (Engine.chooseOptions id choice) :=
  of_coupled (Coupled.chooseOptions (coupling hf) _ _)

theorem chooseInteger (id : PlayerId) (choice : IntegerChoice) :
    Agrees f (Engine.chooseInteger id choice) (Engine.chooseInteger id choice) :=
  of_coupled (Coupled.chooseInteger (coupling hf) _ _)

theorem playTurn (maxTurns elapsed : Nat) :
    Agrees f (Engine.playTurn maxTurns elapsed) (Engine.playTurn maxTurns elapsed) :=
  of_coupled (Coupled.playTurn (coupling hf) _ _)

theorem playGame (maxTurns : Nat) :
    Agrees f (Engine.playGame maxTurns) (Engine.playGame maxTurns) :=
  of_coupled (Coupled.playGame (coupling hf) _)

end Agrees

end

end Engine

end DeckBuilder
