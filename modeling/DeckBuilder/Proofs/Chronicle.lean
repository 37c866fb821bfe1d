import DeckBuilder.Proofs.Alike
import DeckBuilder.Proofs.GainFrame
import DeckBuilder.Proofs.Marks
import DeckBuilder.Proofs.Turns
import DeckBuilder.Proofs.TurnParts

/-!
The chronicle of a game. A chronicler goes along with each turn. The chronicler is told when a card is
about to be played and when it has been played, when one of the things that a card does has been
carried out, and when the turn has been passed on; and looks at the game whenever a player is asked what
to do next, before every play, before and after every call of a program, and after each turn. Chronicling
a game makes no difference to it, and so what the chronicler has written down are the things that happened
in the course of the game.
-/
namespace DeckBuilder

/-- What a chronicler is told of. Cards go by their names, and the things that a card does by their
descriptions. -/
inductive Happening
  /-- A card that the player holds is about to be played. -/
  | playing (player : PlayerId) (card : String)
  | played (player : PlayerId) (card : String)
  | carried (player : PlayerId) (card step : String)
  /-- The turn has been cleaned up and passed on. -/
  | passed
deriving DecidableEq

structure Chronicler (M : Type) where
  tell : Happening → Engine M Unit
  look : Engine M Unit

/-- The chronicler who takes no notice. -/
def Chronicler.idle {M : Type} : Chronicler M := ⟨fun _ => pure (), pure ()⟩

/-- Whether the player has the card, and it is one of the game. -/
def GameState.canPlay (s : GameState) (owner : PlayerId) (card : CardId) : Bool :=
  (s.card? card).isSome && s.holds owner card

namespace Engine

variable {M N : Type}

section

variable (k : Chronicler M)

section

variable (provoke : Program → Engine M Bool)

def playTold (card : CardId) (owner : PlayerId) : Engine M Unit := do
  k.look
  let s ← state
  if s.canPlay owner card then
    k.tell (.playing owner (s.cardName card))
    play provoke card owner
    k.tell (.played owner (s.cardName card))
  else play provoke card owner

/-- One of the things that a card of the name does is carried out. -/
def carryOutTold (ctx : EffectContext) (name : String) (step : Effect) : Engine M Unit := do
  let _ ← provoke (step.program ctx (.finish false))
  k.tell (.carried ctx.player name step.describe)

def resolveTold (card : CardId) (owner : PlayerId) : Engine M Unit := do
  let d ← definition card
  d.onPlay.forM (carryOutTold k provoke ⟨card, owner⟩ d.name)

/-- A call, and a look at what has come of it. A play is told of, and so is what a card does; a change
of prices is told of together with the step that makes it. -/
def performTold [Controllers M] : (c : Call) → Engine M c.Answer
  | .play card id => playTold k provoke card id
  | .resolve card id => resolveTold k provoke card id
  | .addCostModifier modifier => addCostModifier modifier
  | c => do
    let a ← perform provoke c
    k.look
    return a

end

variable [Controllers M]

def runToldWithin : Nat → Program → Engine M Bool
  | 0, _ => throw .endless
  | depth + 1, p =>
    interpret (fun c => do
      k.look
      performTold k (runToldWithin depth) c) p

def runTold (p : Program) : Engine M Bool := do runToldWithin k (← state).patience p

/-! ### Turns -/

def playOutTold (id : PlayerId) (card : CardId) : Engine M Unit := do
  playTold k (runTold k) card id
  resolveTold k (runTold k) card id

def actionPhaseTold (id : PlayerId) : Nat → Engine M Unit
  | 0 => throw .endless
  | n + 1 => do
    k.look
    if (← player id).actions = 0 then return
    let playable ← handWhere id CardFace.isAction
    if playable.isEmpty then return
    match ← chooseAction id playable with
    | none => return
    | some card =>
      modifyPlayer id (·.onTableau fun t => { t with actions := t.actions - 1 })
      playOutTold k id card
      actionPhaseTold id n

def treasurePhaseTold (id : PlayerId) : Nat → Engine M Unit
  | 0 => throw .endless
  | n + 1 => do
    k.look
    let playable ← handWhere id CardFace.isTreasure
    if playable.isEmpty then return
    match ← chooseTreasures id playable with
    | none => return
    | some [] => return
    | some treasures =>
      treasures.forM (playOutTold k id)
      treasurePhaseTold id n

def purchasesTold (id : PlayerId) : Nat → Engine M Unit
  | 0 => throw .endless
  | n + 1 => do
    k.look
    let buyable := (← state).buyable id
    if buyable.isEmpty then return
    match ← choosePurchase id buyable with
    | none => return
    | some pile =>
      let _ ← buy (runTold k) pile id
      let p ← player id
      verbose s!"{id} has {p.buys} buy(s), ${p.money} left"
      purchasesTold id n

def buyPhaseTold (id : PlayerId) : Engine M Unit := do
  modifyState fun s => { s with phase := .buy }
  treasurePhaseTold k id (← state).patience
  purchasesTold k id ((← state).supply.size + 1)

def cleanUpTold : Engine M Unit := do
  cleanUpBy (runTold k)
  k.tell .passed

def turnTold : Engine M Unit := do
  startTurnBy (runTold k)
  let id ← active
  actionPhaseTold k id (← state).patience
  buyPhaseTold k id
  cleanUpTold k

/-- A turn, and a look whether the game is over. -/
def playTurnTold (maxTurns elapsed : Nat) : Engine M (Option GameResult) := do
  turnTold k
  match (← state).ending? maxTurns (elapsed + 1) with
  | some reason => return some (← finish (elapsed + 1) reason)
  | none => return none

end

/-! ### Nobody takes notice -/

section

variable {α : Type} {provoke : Program → Engine M Bool} {card : CardId} {owner : PlayerId}

theorem ext_runOn {e e' : Engine M α} (h : ∀ g, e.runOn g = e'.runOn g) : e = e' := funext h

theorem playTold_idle : playTold .idle provoke card owner = play provoke card owner := by
  refine ext_runOn fun g => ?_
  have hlook : ((Chronicler.idle (M := M)).look).runOn g = (.ok (), g) := rfl
  rw [playTold, runOn_bind_of_ok hlook, runOn_bind_of_ok runOn_state]
  by_cases hheld : g.state.canPlay owner card = true
  · rw [if_pos hheld]
    exact congrFun (bind_pure_unit (x := play provoke card owner)) g
  · rw [if_neg hheld]

variable [Controllers M]

theorem resolveTold_idle (depth : Nat) :
    resolveTold .idle (runWithin depth) card owner =
      (resolve (runWithin depth) card owner : Engine M Unit) := by
  refine bind_congr fun d => ?_
  exact (executeAll_runWithin depth d.onPlay ⟨card, owner⟩).symm

theorem performTold_idle (depth : Nat) (c : Call) :
    performTold .idle (runWithin depth) c = (perform (runWithin depth) c : Engine M c.Answer) := by
  cases c with
  | play => exact playTold_idle
  | resolve => exact resolveTold_idle depth
  | addCostModifier => rfl
  | _ => exact bind_pure _

theorem runToldWithin_idle (depth : Nat) (p : Program) :
    (runToldWithin .idle depth p : Engine M Bool) = runWithin depth p := by
  induction depth generalizing p with
  | zero => rfl
  | succ depth ih =>
    have hrun : runToldWithin (M := M) .idle depth = runWithin depth := funext ih
    have hperform : performTold (M := M) .idle (runWithin depth) = perform (runWithin depth) :=
      funext (performTold_idle depth)
    have hcall : (fun c => do
        (Chronicler.idle (M := M)).look
        performTold .idle (runToldWithin .idle depth) c) = perform (runWithin depth) := by
      rw [hrun, hperform]
      rfl
    rw [runToldWithin, runWithin, hcall]

theorem runTold_idle : (runTold .idle : Program → Engine M Bool) = run :=
  funext fun p => bind_congr fun s => runToldWithin_idle s.patience p

/-- The depth of all that a card does is that of each of its steps, as it does not change. -/
theorem runOn_forM_execute (effects : List Effect) (ctx : EffectContext) (g : Game M) :
    (effects.forM fun e => execute e ctx : Engine M Unit).runOn g =
      (effects.forM fun e => executeWithin g.state.patience e ctx : Engine M Unit).runOn g := by
  generalize hdepth : g.state.patience = depth
  have hlasting := (lasting_patience (M := M) depth).toEnduring
  refine (SameRun.forM (I := fun g' : Game M => g'.state.patience = depth) hdepth ?_).1
  intro e _ g' hg'
  refine ⟨hg' ▸ (executeWithin_patience e ctx g').symm, ?_⟩
  exact (Upholds.execute hlasting e ctx g' hg').mono (fun _ _ h => h) fun _ _ _ => trivial

theorem resolveTold_run :
    resolveTold .idle run card owner = (resolve run card owner : Engine M Unit) := by
  refine ext_runOn fun g => ?_
  cases hc : g.state.card? card with
  | none =>
    rw [resolveTold, resolve, runOn_bind_of_error (runOn_definition_of_none hc),
      runOn_bind_of_error (runOn_definition_of_none hc)]
  | some c =>
    rw [(run_provokesAt g).resolve hc, ← runOn_forM_execute, resolveTold,
      runOn_bind_of_ok (runOn_definition hc)]
    rfl

theorem playOutTold_idle (id : PlayerId) (card : CardId) :
    (playOutTold .idle id card : Engine M Unit) = playOut run id card := by
  rw [playOutTold, playOut, runTold_idle, playTold_idle, resolveTold_run]

theorem actionPhaseTold_idle (id : PlayerId) (n : Nat) :
    (actionPhaseTold .idle id n : Engine M Unit) = actionPhase id n := by
  rw [← actionPhaseBy_run]
  induction n with
  | zero => rfl
  | succ n ih =>
    simp only [actionPhaseTold, actionPhaseBy, playOutTold_idle, ih]
    exact pure_bind _ _

theorem treasurePhaseTold_idle (id : PlayerId) (n : Nat) :
    (treasurePhaseTold .idle id n : Engine M Unit) = treasurePhase id n := by
  rw [← treasurePhaseBy_run]
  induction n with
  | zero => rfl
  | succ n ih =>
    have hplay : playOutTold (M := M) .idle id = playOut run id := funext (playOutTold_idle id)
    simp only [treasurePhaseTold, treasurePhaseBy, hplay, ih]
    exact pure_bind _ _

theorem purchasesTold_idle (id : PlayerId) (n : Nat) :
    (purchasesTold .idle id n : Engine M Unit) = purchases id n := by
  rw [← purchasesBy_run]
  induction n with
  | zero => rfl
  | succ n ih =>
    simp only [purchasesTold, purchasesBy, runTold_idle, ih]
    exact pure_bind _ _

theorem turnTold_idle : (turnTold .idle : Engine M Unit) = turn := by
  have hcleanUp : (cleanUpTold .idle : Engine M Unit) = cleanUp := by
    rw [cleanUpTold, runTold_idle, cleanUpBy_run]
    exact bind_pure_unit
  simp only [turnTold, turn, runTold_idle, startTurnBy_run, actionPhaseTold_idle, buyPhaseTold,
    buyPhase, treasurePhaseTold_idle, purchasesTold_idle, hcleanUp]

theorem playTurnTold_idle (maxTurns elapsed : Nat) :
    (playTurnTold .idle maxTurns elapsed : Engine M (Option GameResult)) =
      playTurn maxTurns elapsed := by
  rw [playTurnTold, turnTold_idle]
  exact (playTurn_eq maxTurns elapsed).symm

end

/-! ### Two chroniclers side by side -/

namespace Coupled

variable [Controllers M] [Controllers N] {R : Game M → Game N → Prop} {E : Halt → Game N → Prop}
variable {provoke : Program → Engine M Bool} {provoke' : Program → Engine N Bool}
variable (hR : Coupling R) (hprovoke : ∀ p, Coupled R E (provoke p) (provoke' p))
include hR hprovoke

theorem startTurnBy : Coupled R E (Engine.startTurnBy provoke) (Engine.startTurnBy provoke') := by
  refine bind (reads hR fun _ _ => pure _) fun id => ?_
  refine bind (modifyState hR fun _ _ => ⟨_, rfl⟩) fun _ => ?_
  refine bind (modifyPlayer hR _ _) fun _ => bind (publish hR _ _) fun _ => ?_
  exact bind (fireDurations hR hprovoke id) fun _ => fireReactions hR hprovoke _

theorem cleanUpBy : Coupled R E (Engine.cleanUpBy provoke) (Engine.cleanUpBy provoke') := by
  refine bind (reads hR fun _ _ => pure _) fun id => ?_
  refine bind (modifyState hR fun _ _ => ⟨_, rfl⟩) fun _ => ?_
  refine bind (bind (player hR id) fun p => forM (fun c => ?_) _) fun _ => ?_
  · refine bind (definition hR c) fun d => bind (player hR id) fun p => ?_
    exact ite (executeAll hprovoke _ _) (pure _)
  refine bind (player hR id) fun p => bind (filterM (fun c => ?_) _) fun done => ?_
  · exact bind (card hR c) fun _ => pure _
  refine bind (modifyPlayer hR _ _) fun _ => bind (publish hR _ _) fun _ => ?_
  refine bind (step hR (GameState.draw_blind _ _)) fun _ => ?_
  exact bind (modifyPlayer hR _ _) fun _ => modifyState hR fun _ _ => ⟨_, rfl⟩

end Coupled

/-- What the two do when they are told something, and when they look, is coupled. -/
structure Colleagues (R : Game M → Game N → Prop) (E : Halt → Game N → Prop) (k : Chronicler M)
    (k' : Chronicler N) : Prop where
  tell : ∀ h, Coupled R E (k.tell h) (k'.tell h)
  look : Coupled R E k.look k'.look

namespace Coupled

variable [Controllers M] [Controllers N] {R : Game M → Game N → Prop} {E : Halt → Game N → Prop}
variable {k : Chronicler M} {k' : Chronicler N} (hR : Coupling R) (hk : Colleagues R E k k')
include hR hk

section

variable {provoke : Program → Engine M Bool} {provoke' : Program → Engine N Bool}
  (hprovoke : ∀ p, Coupled R E (provoke p) (provoke' p))
include hprovoke

theorem playTold (card : CardId) (owner : PlayerId) :
    Coupled R E (Engine.playTold k provoke card owner) (Engine.playTold k' provoke' card owner) := by
  have hplay := play hR hprovoke card owner
  refine bind hk.look fun _ => reads hR fun s l => ite ?_ hplay
  exact bind (hk.tell _) fun _ => bind hplay fun _ => hk.tell _

theorem resolveTold (card : CardId) (owner : PlayerId) :
    Coupled R E (Engine.resolveTold k provoke card owner)
      (Engine.resolveTold k' provoke' card owner) :=
  bind (definition hR card) fun _ => forM (fun _ => bind (hprovoke _) fun _ => hk.tell _) _

theorem performTold (c : Call) :
    Coupled R E (Engine.performTold k provoke c) (Engine.performTold k' provoke' c) := by
  cases c with
  | play => exact playTold hR hk hprovoke _ _
  | resolve => exact resolveTold hR hk hprovoke _ _
  | addCostModifier => exact addCostModifier hR _
  | _ => exact bind (perform hR hprovoke _) fun _ => bind hk.look fun _ => pure _

end

theorem runToldWithin (depth : Nat) (p : Program) :
    Coupled R E (Engine.runToldWithin k depth p) (Engine.runToldWithin k' depth p) := by
  induction depth generalizing p with
  | zero => exact throw _
  | succ depth ih => exact interpret hR (fun c => bind hk.look fun _ => performTold hR hk ih c) p

theorem runTold (p : Program) : Coupled R E (Engine.runTold k p) (Engine.runTold k' p) :=
  reads hR fun _ _ => runToldWithin hR hk _ p

theorem playOutTold (id : PlayerId) (card : CardId) :
    Coupled R E (Engine.playOutTold k id card) (Engine.playOutTold k' id card) :=
  bind (playTold hR hk (runTold hR hk) card id) fun _ => resolveTold hR hk (runTold hR hk) card id

theorem actionPhaseTold (id : PlayerId) (n : Nat) :
    Coupled R E (Engine.actionPhaseTold k id n) (Engine.actionPhaseTold k' id n) := by
  induction n with
  | zero => exact throw _
  | succ n ih =>
    refine bind hk.look fun _ => bind (player hR id) fun p => ite (pure _) ?_
    refine bind (handWhere hR _ _) fun playable => ite (pure _) ?_
    refine bind (chooseAction hR _ _) fun choice => ?_
    cases choice with
    | none => exact pure _
    | some card => exact bind (modifyPlayer hR _ _) fun _ => bind (playOutTold hR hk _ _) fun _ => ih

theorem treasurePhaseTold (id : PlayerId) (n : Nat) :
    Coupled R E (Engine.treasurePhaseTold k id n) (Engine.treasurePhaseTold k' id n) := by
  induction n with
  | zero => exact throw _
  | succ n ih =>
    refine bind hk.look fun _ => bind (handWhere hR _ _) fun playable => ite (pure _) ?_
    refine bind (chooseTreasures hR _ _) fun choice => ?_
    cases choice with
    | none => exact pure _
    | some cards =>
    cases cards with
    | nil => exact pure _
    | cons first rest => exact bind (forM (playOutTold hR hk id) _) fun _ => ih

theorem purchasesTold (id : PlayerId) (n : Nat) :
    Coupled R E (Engine.purchasesTold k id n) (Engine.purchasesTold k' id n) := by
  induction n with
  | zero => exact throw _
  | succ n ih =>
    refine bind hk.look fun _ => reads hR fun s _ => ite (pure _) ?_
    refine bind (choosePurchase hR _ _) fun choice => ?_
    cases choice with
    | none => exact pure _
    | some pile =>
      refine bind (buy hR (runTold hR hk) _ _) fun _ => bind (player hR id) fun p => ?_
      exact bind (verbose hR _) fun _ => ih

theorem buyPhaseTold (id : PlayerId) :
    Coupled R E (Engine.buyPhaseTold k id) (Engine.buyPhaseTold k' id) := by
  refine bind (modifyState hR fun _ _ => ⟨_, rfl⟩) fun _ => reads hR fun s _ => ?_
  exact bind (treasurePhaseTold hR hk id _) fun _ => reads hR fun _ _ => purchasesTold hR hk id _

theorem turnTold : Coupled R E (Engine.turnTold k) (Engine.turnTold k') := by
  refine bind (startTurnBy hR (runTold hR hk)) fun _ => ?_
  refine bind (reads hR fun _ _ => pure _) fun id => reads hR fun s _ => ?_
  refine bind (actionPhaseTold hR hk id _) fun _ => bind (buyPhaseTold hR hk id) fun _ => ?_
  exact bind (cleanUpBy hR (runTold hR hk)) fun _ => hk.tell _

theorem playTurnTold (maxTurns elapsed : Nat) :
    Coupled R E (Engine.playTurnTold k maxTurns elapsed) (Engine.playTurnTold k' maxTurns elapsed) := by
  refine bind (turnTold hR hk) fun _ => reads hR fun s l => ?_
  change Coupled R E (match s.ending? maxTurns (elapsed + 1) with
    | some reason => _ | none => _) (match s.ending? maxTurns (elapsed + 1) with
    | some reason => _ | none => _)
  cases s.ending? maxTurns (elapsed + 1) with
  | some reason => exact map _ (finish hR _ _)
  | none => exact pure _

end Coupled

end Engine

/-! ### The chronicle -/

/-- A moment of a game: what has happened so far, the last thing first, and the state. -/
structure Moment where
  past : List Happening := []
  state : GameState

/-- What controllers remember, with what a chronicler of the game has written down: what has happened so
far, and the moments that the chronicler has seen, the last ones first. -/
structure Chronicled (M : Type) where
  memory : M
  past : List Happening := []
  moments : List Moment := []

variable {M : Type} [Controllers M]

instance : Controllers (Chronicled M) where
  answer s id q := fun desk =>
    let (answer, desk') := Controllers.answer s id q (desk.map Chronicled.memory)
    (answer, desk'.map fun memory => { desk.memory with memory })
  gameOver s id won := fun desk =>
    let ((), desk') := Controllers.gameOver s id won (desk.map Chronicled.memory)
    ((), desk'.map fun memory => { desk.memory with memory })

theorem Chronicled.alike : Controllers.Alike (Chronicled.memory : Chronicled M → M) :=
  ⟨fun _ _ _ _ => rfl, fun _ _ _ _ => rfl⟩

namespace Game

/-- The present moment. -/
def moment (n : Game (Chronicled M)) : Moment := ⟨n.memory.past, n.state⟩

/-- The game with the present moment written down. -/
def seen (n : Game (Chronicled M)) : Game (Chronicled M) :=
  { n with memory := { n.memory with moments := n.moment :: n.memory.moments } }

/-- The game with something that has happened written down, and the moment after it. -/
def heard (n : Game (Chronicled M)) (h : Happening) : Game (Chronicled M) :=
  seen { n with memory := { n.memory with past := h :: n.memory.past } }

end Game

/-- Who writes everything down. -/
def Chronicler.faithful : Chronicler (Chronicled M) where
  tell h := modify fun n => n.heard h
  look := modify Game.seen

open Engine

omit [Controllers M] in
/-- What is written down does not show in the game. -/
theorem Chronicler.faithful_idle :
    Colleagues (fun (n : Game (Chronicled M)) g => g = n.map Chronicled.memory) (fun _ _ => False)
      .faithful .idle := by
  refine ⟨fun h => ?_, ?_⟩
  all_goals
    rintro n _ rfl
    exact .inl ⟨rfl, rfl⟩

/-- A chronicled turn is the turn itself. -/
theorem Engine.Agrees.playTurnTold (maxTurns elapsed : Nat) :
    Agrees Chronicled.memory (Engine.playTurnTold (M := Chronicled M) .faithful maxTurns elapsed)
      (Engine.playTurn maxTurns elapsed) := by
  rw [← playTurnTold_idle]
  exact .of_coupled (.playTurnTold (Agrees.coupling Chronicled.alike) Chronicler.faithful_idle _ _)

/-- A turn with its limit and count, be it done or given up, and the moment after it. -/
def Game.turnChronicled (n : Game (Chronicled M)) (turn : Nat × Nat) : Game (Chronicled M) :=
  ((playTurnTold .faithful turn.1 turn.2).runOn n).2.seen

/-- Turns played one after the other; the opening is the first moment of the chronicle. -/
def Game.chronicle (g : Game M) (turns : List (Nat × Nat)) : Game (Chronicled M) :=
  turns.foldl Game.turnChronicled ⟨g.state, { memory := g.memory, moments := [{ state := g.state }] }⟩

theorem Game.map_chronicle (g : Game M) (turns : List (Nat × Nat)) :
    (g.chronicle turns).map Chronicled.memory =
      Operation.applyAll (turns.map fun turn => .playTurn turn.1 turn.2) g := by
  have hplay : ∀ (turns : List (Nat × Nat)) (n : Game (Chronicled M)),
      (turns.foldl Game.turnChronicled n).map Chronicled.memory =
        Operation.applyAll (turns.map fun turn => .playTurn turn.1 turn.2)
          (n.map Chronicled.memory) := by
    intro turns
    induction turns with
    | nil => exact fun _ => rfl
    | cons turn rest ih =>
      intro n
      have hturn := Agrees.playTurnTold turn.1 turn.2 n
      change _ = Operation.applyAll _
        ((Engine.playTurn turn.1 turn.2).runOn (n.map Chronicled.memory)).2
      rw [hturn]
      exact ih _
  exact hplay turns _

/-- The present moment has been written down. -/
theorem Game.moment_mem_chronicle (g : Game M) (turns : List (Nat × Nat)) :
    (g.chronicle turns).moment ∈ (g.chronicle turns).memory.moments := by
  rcases List.eq_nil_or_concat turns with rfl | ⟨before, last, rfl⟩
  · exact List.mem_singleton_self _
  · rw [chronicle, List.concat_eq_append, List.foldl_append]
    exact List.mem_cons_self

end DeckBuilder
