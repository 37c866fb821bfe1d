import DeckBuilder.Engine.Turn
import DeckBuilder.Proofs.Outcome

/-!
A turn as a function of the way in which programs are run. Its parts have cards played, carried out
and bought, and reactions answer this: all these are programs, and as for the operations `provoke` is
how a program is run. The turn itself is what comes of it when programs are simply run.
-/
namespace DeckBuilder

/-- The tableau after the cards that are done, and the whole hand, have been discarded. -/
def Tableau.layDown (t : Tableau) (done : List CardId) : Tableau :=
  let t := done.foldl (fun t c => (t.transfer c .inPlay .discard .top).2) t
  { t with zones := { t.zones with hand := [], discard := t.zones.discard ++ t.zones.hand } }

namespace Engine

variable {M : Type}

/-- The end of a clean-up, after what the cards in play do then: the cards are laid down, a new hand is
drawn, and the turn passes. -/
def cleanUpRest (id : PlayerId) : Engine M Unit := do
  let done ← (← player id).inPlay.filterM fun c => do return (← card c).cleansUp
  modifyPlayer id (·.onTableau (·.layDown done))
  publish id .cleanUp
  let _ ← draw id handSize
  modifyPlayer id fun p => { toTableau := p.toTableau.resetCounters }
  modifyState fun s =>
    { s with
      active := (s.active + 1) % s.players.length
      costModifiers := []
      phase := .action }

section Provoking

variable (provoke : Program → Engine M Bool)

def startTurnBy : Engine M Unit := do
  let id ← active
  modifyState fun s =>
    { s with turn := s.turn + 1, phase := .action, turnStart := s.events.lastSeq }
  modifyPlayer id (·.onTableau fun t => { t with turns := t.turns + 1 })
  publish id .startTurn
  fireDurations provoke id
  fireReactions provoke (.startTurn id)

/-- Puts a card into play and carries out what it does then. -/
def playOut (id : PlayerId) (card : CardId) : Engine M Unit := do
  play provoke card id
  resolve provoke card id

def actionPhaseBy [Controllers M] (id : PlayerId) : Nat → Engine M Unit
  | 0 => throw .endless
  | n + 1 => do
    if (← player id).actions = 0 then return
    let playable ← handWhere id CardFace.isAction
    if playable.isEmpty then return
    match ← chooseAction id playable with
    | none => return
    | some card =>
      modifyPlayer id (·.onTableau fun t => { t with actions := t.actions - 1 })
      playOut provoke id card
      actionPhaseBy id n

def treasurePhaseBy [Controllers M] (id : PlayerId) : Nat → Engine M Unit
  | 0 => throw .endless
  | n + 1 => do
    let playable ← handWhere id CardFace.isTreasure
    if playable.isEmpty then return
    match ← chooseTreasures id playable with
    | none => return
    | some [] => return
    | some treasures =>
      treasures.forM (playOut provoke id)
      treasurePhaseBy id n

def purchasesBy [Controllers M] (id : PlayerId) : Nat → Engine M Unit
  | 0 => throw .endless
  | n + 1 => do
    let buyable := (← state).buyable id
    if buyable.isEmpty then return
    match ← choosePurchase id buyable with
    | none => return
    | some pile =>
      let _ ← buy provoke pile id
      let p ← player id
      verbose s!"{id} has {p.buys} buy(s), ${p.money} left"
      purchasesBy id n

def buyPhaseBy [Controllers M] (id : PlayerId) : Engine M Unit := do
  modifyState fun s => { s with phase := .buy }
  treasurePhaseBy provoke id (← state).patience
  purchasesBy provoke id ((← state).supply.size + 1)

/-- What a card does at the end of the turn, if it is still in play. -/
def cleanUpHook (id : PlayerId) (c : CardId) : Engine M Unit := do
  let d ← definition c
  if !d.onCleanUp.isEmpty && (← player id).inPlay.contains c then
    executeAll provoke d.onCleanUp ⟨c, id⟩

def cleanUpHooks (id : PlayerId) : Engine M Unit := do
  (← player id).inPlay.forM (cleanUpHook provoke id)

def cleanUpBy : Engine M Unit := do
  let id ← active
  modifyState fun s => { s with phase := .cleanUp }
  cleanUpHooks provoke id
  cleanUpRest id

def turnBy [Controllers M] : Engine M Unit := do
  startTurnBy provoke
  let id ← active
  actionPhaseBy provoke id (← state).patience
  buyPhaseBy provoke id
  cleanUpBy provoke

end Provoking

variable [Controllers M]

theorem startTurnBy_run : (startTurnBy run : Engine M Unit) = startTurn := rfl

theorem actionPhaseBy_run (id : PlayerId) (n : Nat) :
    (actionPhaseBy run id n : Engine M Unit) = actionPhase id n := by
  induction n with
  | zero => rfl
  | succ n ih =>
    simp only [actionPhaseBy, playOut, bind_assoc, ih]
    rfl

theorem treasurePhaseBy_run (id : PlayerId) (n : Nat) :
    (treasurePhaseBy run id n : Engine M Unit) = treasurePhase id n := by
  induction n with
  | zero => rfl
  | succ n ih =>
    simp only [treasurePhaseBy, ih]
    rfl

theorem purchasesBy_run (id : PlayerId) (n : Nat) :
    (purchasesBy run id n : Engine M Unit) = purchases id n := by
  induction n with
  | zero => rfl
  | succ n ih =>
    simp only [purchasesBy, ih]
    rfl

theorem buyPhaseBy_run (id : PlayerId) : (buyPhaseBy run id : Engine M Unit) = buyPhase id := by
  simp only [buyPhase, buyPhaseBy, treasurePhaseBy_run, purchasesBy_run]

theorem cleanUpBy_run : (cleanUpBy run : Engine M Unit) = cleanUp := by
  simp only [cleanUp, cleanUpBy, cleanUpHooks, cleanUpRest, bind_assoc]
  rfl

omit [Controllers M] in
/-- What comes of the end of a clean-up, if it comes to its end: those cards are laid down on which
nothing waits. -/
theorem ensures_cleanUpRest_of_done {id : PlayerId} {g : Game M} {Q : Unit → Game M → Prop}
    (h : ∀ p cards s p', g.state.player? id = some p →
      ((g.state.setPlayer id (p.onTableau (·.layDown (p.inPlay.filter fun c =>
          (g.state.card? c).all Card.cleansUp)))).publish id .cleanUp).draw id handSize =
        .ok (cards, s) → s.player? id = some p' →
      Q () ⟨{ s.setPlayer id { toTableau := p'.toTableau.resetCounters } with
        active := (s.active + 1) % (s.setPlayer id { toTableau := p'.toTableau.resetCounters }).players.length
        costModifiers := []
        phase := .action }, g.memory⟩) :
    Ensures (cleanUpRest id) g Q fun _ _ => True := by
  refine ensures_bind.mpr (ensures_player.mpr ?_)
  cases hp : g.state.player? id with
  | none => exact trivial
  | some p =>
  refine ensures_bind.mpr ((ensures_filterM_eq (I := fun g' => g' = g)
    (f := fun c => (g.state.card? c).all Card.cleansUp) rfl ?_).imp ?_)
  · intro c _ g₁ hg₁
    refine ensures_bind.mpr (ensures_card.mpr ?_)
    cases hc : g₁.state.card? c with
    | none => exact trivial
    | some card =>
      rw [← hg₁, hc]
      exact ⟨rfl, rfl⟩
  rintro done g₁ ⟨rfl, rfl⟩
  refine ensures_bind.mpr (ensures_modifyPlayer.mpr ?_)
  rw [hp]
  refine ensures_bind.mpr (ensures_publish.mpr (ensures_bind.mpr (ensures_step.mpr ?_)))
  dsimp only
  generalize hdraw : GameState.draw _ id handSize = drawn
  cases drawn with
  | error e => exact trivial
  | ok found =>
  refine ensures_bind.mpr (ensures_modifyPlayer.mpr ?_)
  cases hp' : found.2.player? id with
  | none => exact trivial
  | some p' => exact h p found.1 found.2 p' hp hdraw hp'

omit [Controllers M] in
theorem ensures_cleanUpRest {id : PlayerId} {g : Game M} {Q : Unit → Game M → Prop}
    (h : ∀ p done cards s p', g.state.player? id = some p →
      ((g.state.setPlayer id (p.onTableau (·.layDown done))).publish id .cleanUp).draw id handSize =
        .ok (cards, s) → s.player? id = some p' →
      Q () ⟨{ s.setPlayer id { toTableau := p'.toTableau.resetCounters } with
        active := (s.active + 1) % (s.setPlayer id { toTableau := p'.toTableau.resetCounters }).players.length
        costModifiers := []
        phase := .action }, g.memory⟩) :
    Ensures (cleanUpRest id) g Q fun _ _ => True :=
  ensures_cleanUpRest_of_done fun p => h p _

end Engine

end DeckBuilder
