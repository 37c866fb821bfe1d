import DeckBuilder.Engine.Interpreter

/-!
Turns and whole games.  A turn is its start, the action phase, the buy phase and the clean-up, which
passes the turn on; after each turn one looks whether the game is over.
-/
namespace DeckBuilder

inductive EndReason
  | provincesGone
  | pilesEmptied (n : Nat)
  | turnLimit
  /-- The turns that were to be played are over, the game is not. -/
  | stopped
deriving DecidableEq, Repr, Inhabited

structure GameResult where
  winners : List PlayerId
  standings : List Standing
  turns : Nat
  reason : EndReason
deriving DecidableEq, Repr, Inhabited

namespace Engine

variable {M : Type} [Controllers M]

/-- Carries out one call. -/
def call (c : Call) : Engine M c.Answer := perform run c

/-- Carries out an effect for a card and a player. -/
def execute (effect : Effect) (ctx : EffectContext) : Engine M Unit := do
  let _ ← run (effect.program ctx (.finish false))

def active : Engine M PlayerId := do return (← state).activePlayer

/-- Begins the turn of the active player: first the programs that waited for it, then the reactions
to the start of a turn. -/
def startTurn : Engine M Unit := do
  let id ← active
  modifyState fun s =>
    { s with turn := s.turn + 1, phase := .action, turnStart := s.events.lastSeq }
  modifyPlayer id (·.onTableau fun t => { t with turns := t.turns + 1 })
  publish id .startTurn
  fireDurations run id
  fireReactions run (.startTurn id)

/-- The cards in the player's hand that have the property. -/
def handWhere (id : PlayerId) (p : CardFace → Bool) : Engine M (List CardId) := do
  (← player id).hand.filterM fun c => do return p (← card c).face

/-- Plays actions as long as there is one to play, an action left to play it and the player wants
to; at most `n`. -/
def actionPhase (id : PlayerId) : Nat → Engine M Unit
  | 0 => throw .endless
  | n + 1 => do
    if (← player id).actions = 0 then return
    let playable ← handWhere id CardFace.isAction
    if playable.isEmpty then return
    match ← chooseAction id playable with
    | none => return
    | some card =>
      modifyPlayer id (·.onTableau fun t => { t with actions := t.actions - 1 })
      play run card id
      resolve run card id
      actionPhase id n

/-- Plays treasures as long as there are any in hand and the player wants to; at most `n` times. -/
def treasurePhase (id : PlayerId) : Nat → Engine M Unit
  | 0 => throw .endless
  | n + 1 => do
    let playable ← handWhere id CardFace.isTreasure
    if playable.isEmpty then return
    match ← chooseTreasures id playable with
    | none => return
    | some [] => return
    | some treasures =>
      treasures.forM fun card => do
        play run card id
        resolve run card id
      treasurePhase id n

/-- Buys cards as long as one can be bought and the player wants to; at most `n`. -/
def purchases (id : PlayerId) : Nat → Engine M Unit
  | 0 => throw .endless
  | n + 1 => do
    let buyable := (← state).buyable id
    if buyable.isEmpty then return
    match ← choosePurchase id buyable with
    | none => return
    | some pile =>
      let _ ← buy run pile id
      let p ← player id
      verbose s!"{id} has {p.buys} buy(s), ${p.money} left"
      purchases id n

def buyPhase (id : PlayerId) : Engine M Unit := do
  modifyState fun s => { s with phase := .buy }
  treasurePhase id (← state).patience
  purchases id ((← state).supply.size + 1)

/-- Ends the turn of the active player: the cards in play do what they do then, those on which
nothing waits and the whole hand are discarded, and a new hand is drawn; counters, triggers and cost
modifiers are cleared, and the turn passes to the next seat. -/
def cleanUp : Engine M Unit := do
  let id ← active
  modifyState fun s => { s with phase := .cleanUp }
  (← player id).inPlay.forM fun c => do
    let d ← definition c
    if !d.onCleanUp.isEmpty && (← player id).inPlay.contains c then
      executeAll run d.onCleanUp ⟨c, id⟩
  let done ← (← player id).inPlay.filterM fun c => do return (← card c).cleansUp
  modifyPlayer id (·.onTableau fun t =>
    let t := done.foldl (fun t c => (t.transfer c .inPlay .discard .top).2) t
    { t with zones := { t.zones with hand := [], discard := t.zones.discard ++ t.zones.hand } })
  publish id .cleanUp
  let _ ← draw id handSize
  modifyPlayer id fun p => { toTableau := p.toTableau.resetCounters }
  modifyState fun s =>
    { s with
      active := (s.active + 1) % s.players.length
      costModifiers := []
      phase := .action }

/-- Ends the game for a reason after a number of turns. -/
def finish (turns : Nat) (reason : EndReason) : Engine M GameResult := do
  let winners ← lift (← state).winners
  let standings ← lift (← state).standings
  publish (winners.head?.getD ⟨0⟩) (.gameEnd winners (standings.map (·.points)))
  return { winners, standings, turns, reason }

/-- Plays a turn after `elapsed` others; the answer is the result if the game is over with it. -/
def playTurn (maxTurns elapsed : Nat) : Engine M (Option GameResult) := do
  startTurn
  let id ← active
  actionPhase id (← state).patience
  buyPhase id
  cleanUp
  let s ← state
  if s.isFinished then
    let reason := if (s.supply.pile? "Province").any Pile.isEmpty then EndReason.provincesGone
      else .pilesEmptied s.supply.emptyCount
    return some (← finish (elapsed + 1) reason)
  else if maxTurns ≤ elapsed + 1 then return some (← finish (elapsed + 1) .turnLimit)
  else return none

/-- Plays turns until the game is over; at most `n`. -/
def playOn (maxTurns : Nat) : (n elapsed : Nat) → Engine M GameResult
  | 0, _ => throw .endless
  | n + 1, elapsed => do
    match ← playTurn maxTurns elapsed with
    | some result =>
      notifyGameOver result.winners
      return result
    | none => playOn maxTurns n (elapsed + 1)

/-- Plays a game to its end or to the turn limit; one turn is always played. -/
def playGame (maxTurns : Nat) : Engine M GameResult := playOn maxTurns (max 1 maxTurns) 0

/-- Plays up to `n` turns, fewer if the game ends. -/
def playTurns (maxTurns : Nat) : (n elapsed : Nat) → Engine M GameResult
  | 0, elapsed => do
    return { winners := [], standings := ← lift (← state).standings, turns := elapsed,
             reason := .stopped }
  | n + 1, elapsed => do
    match ← playTurn maxTurns elapsed with
    | some result => return result
    | none => playTurns maxTurns n (elapsed + 1)

end Engine

end DeckBuilder
