import DeckBuilder.Controllers
import DeckBuilder.Random.Shuffle

/-!
A player who picks among the legal answers at random.  All chance comes from the game's generator.
-/
namespace DeckBuilder.RandomPlayer

open DeckBuilder.Random

variable {M : Type}

/-- From `min` to `max` of the items in random order; the bounds are brought down to the number of
items. -/
def subset {α : Type} (pool : List α) (min max : Nat) : Think M (List α) := do
  let max := Nat.min max pool.length
  let min := Nat.min min max
  let count ← Think.random (·.int min (max + 1))
  let shuffled ← Think.random (shuffle pool)
  return shuffled.take count.toNat

/-- One of the items; none if there are none, and then nothing is drawn. -/
def oneOf {α : Type} (items : List α) : Think M (Option α) := do
  if items.isEmpty then return none
  else return items[← Think.random (·.index items.length)]?

def answer (s : GameState) : (q : Question) → Think M q.Answer
  | .action playable => do
    let card ← oneOf playable
    if let some c := card then Think.log ("plays " ++ s.cardName c)
    return card
  | .treasures playable => return some playable
  | .purchase buyable => do
    -- One more place stands for buying nothing.
    let place ← Think.random (·.index (buyable.length + 1))
    let choice := buyable[place]?
    Think.log ("buys " ++ Text.quoteOption choice)
    return choice
  | .cards choice => do
    let cards ← subset choice.cards choice.min choice.max
    Think.log s!"{choice.prompt}: chose {cards.length} of {choice.cards.length}"
    return cards
  | .pile choice => do
    let pile ← oneOf choice.piles
    if let some p := pile then Think.log s!"{choice.prompt}: {p}"
    return pile
  | .boolean choice => do
    let yes ← Think.random Generator.bool
    Think.log s!"{choice.prompt}: {yes}"
    return yes
  | .options choice => subset (List.range choice.options.length) choice.min choice.max
  | .integer choice =>
    if choice.max < choice.min then return choice.min
    else Think.random (·.int choice.min (choice.max + 1))

end DeckBuilder.RandomPlayer
