import DeckBuilder.Engine.Basic
import DeckBuilder.Text.Quoted

/-!
Asking a player until the answer is acceptable.  An answer that names something not offered, repeats
what it has selected or selects too few is refused and asked for again; after sixteen refusals the
game fails.
-/
namespace DeckBuilder

/-- The first `max` items of an answer, if all its items are in the pool and none of them repeats one
of the items selected before it. -/
def selectFrom {α : Type} [BEq α] (answer pool : List α) (max : Nat) : Option (List α) :=
  go [] answer
where
  /-- Reads on; `selected` holds the selection so far, backwards. -/
  go (selected : List α) : List α → Option (List α)
    | [] => some selected.reverse
    | x :: xs =>
      if pool.contains x && !selected.contains x then
        go (if selected.length < max then x :: selected else selected) xs
      else none

namespace Engine

/-- How often a player may answer one question. -/
def attempts : Nat := 16

variable {M : Type} [Controllers M]

/-- Asks up to `n` times for an answer that `accept` takes; `what` names the question. -/
def askTimes {β : Type} (id : PlayerId) (q : Question) (what : String)
    (accept : q.Answer → Option β) : Nat → Engine M β
  | 0 => fail (.invalidChoice (s!"{id} kept answering " ++ Text.quote what ++ " out of range"))
  | n + 1 => do
    match accept (← ask id q) with
    | some b => return b
    | none =>
      warn (s!"{id} gave an invalid answer to " ++ Text.quote what ++ "; asking again")
      askTimes id q what accept n

def askUntil {β : Type} (id : PlayerId) (q : Question) (what : String)
    (accept : q.Answer → Option β) : Engine M β :=
  askTimes id q what accept attempts

/-- Takes nothing, and what is offered. -/
def offered {α : Type} [BEq α] (pool : List α) : Option α → Option (Option α)
  | none => some none
  | some a => if pool.contains a then some (some a) else none

def chooseAction (id : PlayerId) (playable : List CardId) : Engine M (Option CardId) :=
  askUntil id (.action playable) "action to play" (offered playable)

def chooseTreasures (id : PlayerId) (playable : List CardId) : Engine M (Option (List CardId)) :=
  askUntil id (.treasures playable) "treasures to play" fun
    | none => some none
    | some cards => (selectFrom cards playable playable.length).map some

def choosePurchase (id : PlayerId) (buyable : List String) : Engine M (Option String) :=
  askUntil id (.purchase buyable) "card to buy" (offered buyable)

/-- A selection of at least `min` and at most `max` items of the pool. -/
def selection {α : Type} [BEq α] (pool : List α) (min max : Nat) (answer : List α) :
    Option (List α) :=
  (selectFrom answer pool max).filter fun chosen => min ≤ chosen.length

/-- Cards between the bounds of the choice.  Nothing is asked if nothing can be chosen, nor if there
are fewer cards than must be chosen; then all of them are. -/
def chooseCards (id : PlayerId) (choice : CardChoice) : Engine M (List CardId) :=
  if choice.cards.isEmpty || choice.max = 0 then pure []
  else if choice.cards.length < choice.min then pure choice.cards
  else askUntil id (.cards choice) choice.prompt (selection choice.cards choice.min choice.max)

/-- One of the piles that are eligible, or none; nothing is asked if there is none. -/
def choosePile (id : PlayerId) (prompt : String) (source : Option CardId)
    (eligible : PileOffer → Bool) : Engine M (Option String) := do
  let s ← state
  let piles := (s.supply.piles.filter fun p => eligible (s.offer p)).map Pile.name
  if piles.isEmpty then return none
  else askUntil id (.pile { prompt, piles, source }) prompt (offered piles)

def chooseBoolean (id : PlayerId) (choice : BooleanChoice) : Engine M Bool :=
  ask id (.boolean choice)

/-- The places of the options picked, in the order picked; the bounds are as for cards. -/
def chooseOptions (id : PlayerId) (choice : OptionChoice) : Engine M (List Nat) :=
  let places := List.range choice.options.length
  if choice.options.isEmpty || choice.max = 0 then pure []
  else if choice.options.length < choice.min then pure places
  else askUntil id (.options choice) choice.prompt (selection places choice.min choice.max)

/-- An integer brought into the bounds; the lower bound wins if they cross. -/
def chooseInteger (id : PlayerId) (choice : IntegerChoice) : Engine M Int := do
  let answer ← ask id (.integer choice)
  return max choice.min (min answer (max choice.max choice.min))

end Engine

end DeckBuilder
