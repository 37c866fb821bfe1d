import DeckBuilder.Proofs.Alike
import DeckBuilder.Proofs.Prompts

/-!
Recording what is asked and answered. A recorder stands between a game and its controllers, passes
every question on to them and every answer back, and writes both down. The recorded game is the same
game; its record tells which answers were given, so that one can say of a run which of them were
acceptable.
-/
namespace DeckBuilder

/-- A question that was put to a player, and the answer. -/
structure Exchange where
  player : PlayerId
  question : Question
  answer : question.Answer

def Exchange.accepted (x : Exchange) : Bool := x.question.accepts x.answer

/-- What controllers remember, with all that they were asked so far. -/
structure Recorded (M : Type) where
  memory : M
  exchanges : List Exchange := []

variable {M : Type} [Controllers M]

instance : Controllers (Recorded M) where
  answer s id q := fun desk =>
    let (answer, desk') := Controllers.answer s id q (desk.map Recorded.memory)
    (answer, desk'.map fun memory => ⟨memory, desk.memory.exchanges ++ [⟨id, q, answer⟩]⟩)
  gameOver s id won := fun desk =>
    let ((), desk') := Controllers.gameOver s id won (desk.map Recorded.memory)
    ((), desk'.map fun memory => ⟨memory, desk.memory.exchanges⟩)

theorem Recorded.alike : Controllers.Alike (Recorded.memory : Recorded M → M) :=
  ⟨fun _ _ _ _ => rfl, fun _ _ _ _ => rfl⟩

/-- A game of which nothing has been recorded yet. -/
def Game.recorded (g : Game M) : Game (Recorded M) := ⟨g.state, ⟨g.memory, []⟩⟩

namespace Engine

variable {α : Type}

/-- What is asked and answered while a computation runs. -/
def exchanges (e : Engine (Recorded M) α) (g : Game M) : List Exchange :=
  (e.runOn g.recorded).2.memory.exchanges

omit [Controllers M] in
/-- The record makes no difference to the run. -/
theorem Agrees.recorded {e : Engine (Recorded M) α} {e' : Engine M α}
    (h : Agrees Recorded.memory e e') (g : Game M) :
    e'.runOn g = ((e.runOn g.recorded).1, (e.runOn g.recorded).2.map Recorded.memory) :=
  h g.recorded

/-- A player kept answering one question, sixteen times in a row, and no answer was acceptable. -/
def Stubborn (r : Halt) (record : List Exchange) : Prop :=
  ∃ (id : PlayerId) (q : Question) (before : List Exchange) (answers : List q.Answer),
    record = before ++ answers.map (Exchange.mk id q) ∧ answers.length = attempts ∧
      (∀ a ∈ answers, q.accepts a = false) ∧ r = keptAnswering id q

theorem Refused.exchanges {id : PlayerId} {q : Question} {n : Nat} {g g' : Game (Recorded M)}
    (h : Refused id q n g g') :
    ∃ answers : List q.Answer,
      g'.memory.exchanges = g.memory.exchanges ++ answers.map (Exchange.mk id q) ∧
      answers.length = n ∧ ∀ a ∈ answers, q.accepts a = false := by
  induction h with
  | none g => exact ⟨[], by simp, rfl, by simp⟩
  | @again n g g' _ hrefused ih =>
    obtain ⟨answers, hrecord, hlength, hall⟩ := ih
    refine ⟨answers ++ [(asked g' id q).1], ?_, by simp [hlength], ?_⟩
    · change g'.memory.exchanges ++ [Exchange.mk id q (asked g' id q).1] = _
      rw [hrecord, List.append_assoc, List.map_append]
      rfl
    · intro a ha
      rcases List.mem_append.mp ha with ha | ha
      · exact hall a ha
      · rw [List.mem_singleton.mp ha]
        exact hrefused

theorem Refused.stubborn {id : PlayerId} {q : Question} {g g' : Game (Recorded M)}
    (h : Refused id q attempts g g') : Stubborn (keptAnswering id q) g'.memory.exchanges := by
  obtain ⟨answers, hrecord, hlength, hall⟩ := h.exchanges
  exact ⟨id, q, _, answers, hrecord, hlength, hall, rfl⟩

end Engine

end DeckBuilder
