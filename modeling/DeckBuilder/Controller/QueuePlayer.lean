import DeckBuilder.Controllers
import DeckBuilder.Json.Fields

/-!
A player who answers from a queue of JSON values, whatever is asked: a number or a list of numbers for
cards and places, a text for a pile.  A value that does not fit the question declines, chooses
nothing or takes the default.  Nothing is checked, so that the game has to cope with any answer.
-/
namespace DeckBuilder

structure QueuePlayer where
  values : List Json
  /-- Whether the last value stays in the queue. -/
  keepLast : Bool := false
deriving Inhabited

namespace QueuePlayer

/-- The next value, null when there is none, and the queue after it. -/
def next (p : QueuePlayer) : Json × QueuePlayer :=
  match p.values with
  | [] => (.null, p)
  | [j] => (j, if p.keepLast then p else { p with values := [] })
  | j :: rest => (j, { p with values := rest })

def cards? (j : Json) : Option (List CardId) := j.arr?.map fun items => items.map fun i => ⟨i.nat⟩

/-- A value as an answer. -/
def read (j : Json) : (q : Question) → q.Answer
  | .action _ => j.word?.map CardId.mk
  | .treasures _ => cards? j
  | .purchase _ => j.str?
  | .cards _ => (cards? j).getD []
  | .pile _ => j.str?
  | .boolean choice => j.bool?.getD choice.default
  | .options _ => j.items.map Json.nat
  | .integer choice => j.signedWord?.getD choice.default

def answer (q : Question) : Think QueuePlayer q.Answer := do
  let (j, p) := (← Think.memory).next
  Think.setMemory p
  return read j q

end QueuePlayer

end DeckBuilder
