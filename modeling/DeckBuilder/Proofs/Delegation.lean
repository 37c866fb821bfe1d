import DeckBuilder.Proofs.Chronicle
import DeckBuilder.Proofs.Conservation
import DeckBuilder.Proofs.Lighthouse

/-!
Operations by whatever means programs are run. What can be called on a game from outside is the same
computation each time, with the running of programs left open. So an operation can be watched, or written
down, by running its programs under watch, or writing them down.
-/
namespace DeckBuilder

open Engine

variable {M : Type} [Controllers M]

namespace Operation

/-- An operation in which programs are run by the given means. -/
def via (provoke : Program → Engine M Bool) : Operation → Engine M Unit
  | .call c => do
    let _ ← perform provoke c
  | .execute effect ctx => do
    let _ ← provoke (effect.program ctx (.finish false))
  | .startTurn => startTurnBy provoke
  | .cleanUp => cleanUpBy provoke
  | .playTurn maxTurns elapsed => do
    let _ ← playTurnBy provoke maxTurns elapsed

/-- The game after an operation is that after its computation with programs run as they are. -/
theorem apply_eq_via (o : Operation) (g : Game M) : o.apply g = ((o.via run).runOn g).2 := by
  cases o with
  | call c => exact (runOn_forget _ g).symm
  | execute effect ctx => rfl
  | startTurn => rfl
  | cleanUp => rw [via, cleanUpBy_run, apply]
  | playTurn maxTurns elapsed => rw [via, playTurnBy_run, runOn_forget, apply]

end Operation

end DeckBuilder
