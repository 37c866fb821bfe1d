import DeckBuilder.Proofs.Chronicle
import DeckBuilder.Proofs.Confined
import DeckBuilder.Proofs.Conservation

/-!
The annals of a game. A chronicler can go along with whatever is called on a game from outside, not only with
its turns; then all moments of a game are written down, and this makes no difference to it. An assertion that
no change can break goes on holding while a chronicler goes along, if the chronicler does not break it.
-/
namespace DeckBuilder

open Engine

variable {M : Type} [Controllers M]

/-- An operation with a chronicler, who looks at the game before a call. -/
def Operation.told (k : Chronicler M) : Operation → Engine M Unit
  | .call c => do
    k.look
    let _ ← performTold k (runTold k) c
  | .execute effect ctx => do
    let _ ← runTold k (effect.program ctx (.finish false))
  | .startTurn => startTurnBy (runTold k)
  | .cleanUp => cleanUpTold k
  | .playTurn maxTurns elapsed => do
    let _ ← playTurnTold k maxTurns elapsed

namespace Game

/-- An operation, be it done or given up, and the moment after it, written down. -/
def chronicled (n : Game (Chronicled M)) (operation : Operation) : Game (Chronicled M) :=
  ((operation.told .faithful).runOn n).2.seen

/-- The game after some operations, with all its moments. -/
def annals (g : Game M) (operations : List Operation) : Game (Chronicled M) :=
  operations.foldl chronicled ⟨g.state, { memory := g.memory, moments := [{ state := g.state }] }⟩

end Game

/-! ### Writing down makes no difference -/

theorem Engine.performTold_run (c : Call) :
    performTold .idle run c = (perform run c : Engine M c.Answer) := by
  cases c with
  | play => exact playTold_idle
  | resolve => exact resolveTold_run
  | addCostModifier => rfl
  | _ => exact bind_pure _

theorem Operation.told_idle (o : Operation) (g : Game M) : ((o.told .idle).runOn g).2 = o.apply g := by
  cases o with
  | call c =>
    rw [told, runTold_idle, performTold_run]
    exact runOn_forget _ g
  | execute effect ctx =>
    rw [told, runTold_idle]
    rfl
  | startTurn =>
    rw [told, runTold_idle]
    rfl
  | cleanUp =>
    rw [told, cleanUpTold, runTold_idle, cleanUpBy_run]
    exact runOn_forget _ g
  | playTurn maxTurns elapsed =>
    rw [told, playTurnTold_idle]
    exact runOn_forget _ g

theorem Operation.told_agrees (o : Operation) :
    Agrees Chronicled.memory (o.told (M := Chronicled M) .faithful) (o.told .idle) := by
  have hR := Agrees.coupling (Chronicled.alike (M := M))
  have hk := Chronicler.faithful_idle (M := M)
  refine .of_coupled ?_
  cases o with
  | call c =>
    exact .bind hk.look fun _ => .bind (.performTold hR hk (.runTold hR hk) c) fun _ => .pure _
  | execute effect ctx => exact .bind (.runTold hR hk _) fun _ => .pure _
  | startTurn => exact .startTurnBy hR (.runTold hR hk)
  | cleanUp => exact .bind (.cleanUpBy hR (.runTold hR hk)) fun _ => hk.tell _
  | playTurn maxTurns elapsed => exact .bind (.playTurnTold hR hk _ _) fun _ => .pure _

namespace Game

/-- The annals are those of the game itself. -/
theorem map_annals (g : Game M) (operations : List Operation) :
    (g.annals operations).map Chronicled.memory = Operation.applyAll operations g := by
  have hrecord (operations : List Operation) (n : Game (Chronicled M)) :
      (operations.foldl chronicled n).map Chronicled.memory =
        Operation.applyAll operations (n.map Chronicled.memory) := by
    induction operations generalizing n with
    | nil => rfl
    | cons o rest ih =>
      have hfirst : (n.chronicled o).map Chronicled.memory = o.apply (n.map Chronicled.memory) := by
        rw [← o.told_idle, o.told_agrees n]
        rfl
      rw [List.foldl_cons, ih, hfirst]
      rfl
  exact hrecord operations _

/-- The last moment of the annals is that after all operations. -/
theorem head?_annals (g : Game M) (operations : List Operation) :
    (g.annals operations).memory.moments.head?.map Moment.state =
      some (Operation.applyAll operations g).state := by
  rw [← map_annals]
  rcases List.eq_nil_or_concat operations with rfl | ⟨before, last, rfl⟩
  · rfl
  · rw [annals, List.concat_eq_append, List.foldl_append]
    rfl

end Game

/-! ### What cannot be broken -/

namespace Scope.Regards

/-- A chronicler who does not break an assertion, neither while nothing else happens nor when tokens are
credited. -/
structure Unobtrusive (n : Nat) (J : Game M → Prop) (k : Chronicler M) : Prop where
  tell : ∀ h, Upholds ((everybody n).Keeps J) (k.tell h)
  look : Upholds ((everybody n).Keeps J) k.look
  credit : ∀ provoke id tokens, Upholds ((everybody n).Keeps J) (do
    k.look
    performTold k provoke (.credit id .victoryTokens tokens))

variable {n : Nat} {J : Game M → Prop} (hJ : (everybody n).Regards J) {k : Chronicler M}
  (hk : Unobtrusive n J k)
  (hplay : ∀ {g : Game M} {card c}, J g → g.state.card? card = some c →
    Effect.SeatedAll n c.definition.onPlay)

section

variable {provoke : Program → Engine M Bool}
  (hprovoke : ∀ p : Program, p.Inside (.everybody n) →
    Upholds ((everybody n).Keeps J) (provoke p))

include hJ hk hprovoke in
theorem playTold (card : CardId) (owner : PlayerId) :
    Upholds ((everybody n).Keeps J) (Engine.playTold k provoke card owner) := by
  have hplay : Upholds ((everybody n).Keeps J) (Engine.play provoke card owner) :=
    hJ.play hprovoke card trivial
  refine .bind hk.look fun _ => .bind .state fun s => .ite ?_ hplay
  exact .bind (hk.tell _) fun _ => .bind hplay fun _ => hk.tell _

include hk hplay hprovoke in
theorem resolveTold (card : CardId) {owner : PlayerId} (howner : owner.seat < n) :
    Upholds ((everybody n).Keeps J) (Engine.resolveTold k provoke card owner) := by
  intro g hg
  rw [Engine.resolveTold, ensures_bind, ensures_definition]
  cases hc : g.state.card? card with
  | none => exact hg
  | some c =>
    refine ensures_forM hg fun step hstep => Upholds.bind (hprovoke _ ?_) fun _ => hk.tell _
    have hprogram : (step.program ⟨card, owner⟩ (.finish false)).Seated n :=
      Effect.Seated.program howner step ((hplay hg.2 hc).of_mem hstep) trivial
    exact hprogram.inside

include hJ hk hprovoke in
/-- A call of which nothing is told, and which credits no tokens. -/
theorem performQuietly {c : Call} (hc : c.Inside (.everybody n))
    (htokens : ∀ id tokens, c ≠ .credit id .victoryTokens tokens)
    (htold : Engine.performTold k provoke c = do
      let a ← Engine.perform provoke c
      k.look
      return a)
    {g : Game M} (hg : (everybody n).Keeps J g) :
    Ensures (do
      k.look
      Engine.performTold k provoke c) g
      (fun a g' => (everybody n).Keeps J g' ∧ c.Told (.everybody n) a)
      (fun _ => (everybody n).Keeps J) := by
  rw [htold]
  refine ensures_bind.mpr ((hk.look g hg).imp fun _ g₁ hg₁ => ensures_bind.mpr ?_)
  refine (hJ.perform hprovoke hc (fun id tokens h => absurd h (htokens id tokens)) hg₁).imp ?_
  intro a g₂ hg₂
  exact ensures_bind.mpr ((hk.look g₂ hg₂.1).imp fun _ g₃ hg₃ => ⟨hg₃, hg₂.2⟩)

include hJ hk hplay hprovoke in
/-- Any call, with a look at the game before it. -/
theorem performTold {c : Call} (hc : c.Inside (.everybody n)) {g : Game M}
    (hg : (everybody n).Keeps J g) :
    Ensures (do
      k.look
      Engine.performTold k provoke c) g
      (fun a g' => (everybody n).Keeps J g' ∧ c.Told (.everybody n) a)
      (fun _ => (everybody n).Keeps J) := by
  cases c with
  | play card id =>
    exact (Upholds.bind hk.look (fun _ => hJ.playTold hk hprovoke card id) g hg).imp fun _ _ h => ⟨h, trivial⟩
  | resolve card id =>
    have hresolve := resolveTold hk hplay hprovoke card hc.seat.2
    exact (Upholds.bind hk.look (fun _ => hresolve) g hg).imp fun _ _ h => ⟨h, trivial⟩
  | addCostModifier modifier =>
    have hreprice := hJ.addCostModifier modifier
    exact (Upholds.bind hk.look (fun _ => hreprice) g hg).imp fun _ _ h => ⟨h, trivial⟩
  | credit id counter tokens =>
    cases counter with
    | victoryTokens => exact (hk.credit provoke id tokens g hg).imp fun _ _ h => ⟨h, trivial⟩
    | _ => exact hJ.performQuietly hk hprovoke hc (by simp) rfl hg
  | _ => exact hJ.performQuietly hk hprovoke hc (by simp) rfl hg

end

include hJ hk hplay

theorem runToldWithin (depth : Nat) {p : Program} (hp : p.Inside (.everybody n)) :
    Upholds ((everybody n).Keeps J) (Engine.runToldWithin k depth p) := by
  induction depth generalizing p with
  | zero => exact .throw _
  | succ depth ih =>
    refine hJ.interpret (fun c hc g hg => ?_) hp
    exact (hJ.performTold hk hplay (fun _ hp => ih hp) hc hg).imp fun a g' h => ⟨h.1, not_false, h.2⟩

theorem runTold (p : Program) (hp : p.Inside (.everybody n)) :
    Upholds ((everybody n).Keeps J) (Engine.runTold k p) :=
  .bind .state fun s => hJ.runToldWithin hk hplay s.patience hp

theorem playOutTold {id : PlayerId} (hid : id.seat < n) (card : CardId) :
    Upholds ((everybody n).Keeps J) (Engine.playOutTold k id card) :=
  .bind (hJ.playTold hk (hJ.runTold hk hplay) card id) fun _ =>
    resolveTold hk hplay (hJ.runTold hk hplay) card hid

theorem actionPhaseTold {id : PlayerId} (hid : id.seat < n) (rounds : Nat) :
    Upholds ((everybody n).Keeps J) (Engine.actionPhaseTold k id rounds) := by
  induction rounds with
  | zero => exact .throw _
  | succ rounds ih =>
    refine .bind hk.look fun _ => .bind (.player id) fun p => .ite (.pure _) ?_
    refine .bind (.handWhere _ _) fun playable => .ite (.pure _) ?_
    refine .bind (hJ.askTimes id _ _ _ _) fun choice => ?_
    cases choice with
    | none => exact .pure _
    | some card =>
      have hspend : Upholds ((everybody n).Keeps J)
          (modifyPlayer id (·.onTableau fun t => { t with actions := t.actions - 1 })) :=
        hJ.adjust trivial (fun _ => ⟨rfl, rfl, rfl, rfl⟩) fun _ hallow => ⟨hallow.gain, hallow.play⟩
      exact .bind hspend fun _ => .bind (hJ.playOutTold hk hplay hid card) fun _ => ih

theorem treasurePhaseTold {id : PlayerId} (hid : id.seat < n) (rounds : Nat) :
    Upholds ((everybody n).Keeps J) (Engine.treasurePhaseTold k id rounds) := by
  induction rounds with
  | zero => exact .throw _
  | succ rounds ih =>
    refine .bind hk.look fun _ => .bind (.handWhere _ _) fun playable => .ite (.pure _) ?_
    refine .bind (hJ.askTimes id _ _ _ _) fun choice => ?_
    cases choice with
    | none => exact .pure _
    | some cards =>
      cases cards with
      | nil => exact .pure _
      | cons first rest => exact .bind (.forM (hJ.playOutTold hk hplay hid) _) fun _ => ih

theorem purchasesTold {id : PlayerId} (hid : id.seat < n) (rounds : Nat) :
    Upholds ((everybody n).Keeps J) (Engine.purchasesTold k id rounds) := by
  induction rounds with
  | zero => exact .throw _
  | succ rounds ih =>
    refine .bind hk.look fun _ => .bind .state fun s => .ite (.pure _) ?_
    refine .bind (hJ.askTimes id _ _ _ _) fun choice => ?_
    cases choice with
    | none => exact .pure _
    | some pile =>
      refine .bind (hJ.buy (hJ.runTold hk hplay) pile ⟨trivial, hid⟩) fun _ => .bind (.player id) fun p => ?_
      exact .bind (hJ.verbose _) fun _ => ih

theorem buyPhaseTold {id : PlayerId} (hid : id.seat < n) :
    Upholds ((everybody n).Keeps J) (Engine.buyPhaseTold k id) :=
  .bind (hJ.enter _) fun _ => .bind .state fun _ =>
    .bind (hJ.treasurePhaseTold hk hplay hid _) fun _ => .bind .state fun _ =>
      hJ.purchasesTold hk hplay hid _

theorem cleanUpTold : Upholds ((everybody n).Keeps J) (Engine.cleanUpTold k) :=
  .bind (fun _ hg => hJ.cleanUpBy (hJ.runTold hk hplay) hg ⟨trivial, hg.1.table ▸ hg.1.sound.active⟩)
    fun _ => hk.tell _

theorem turnTold : Upholds ((everybody n).Keeps J) (Engine.turnTold k) := by
  have hactive (g : Game M) (hg : (everybody n).Keeps J g) : g.state.activePlayer.seat < n :=
    hg.1.sound.active.trans_eq hg.1.table
  refine .bind (fun g hg => hJ.startTurnBy (hJ.runTold hk hplay) hg ⟨trivial, hactive g hg⟩) ?_
  intro _ g hg
  refine ensures_bind.mpr (Catalog.ensures_active.mpr ?_)
  refine Upholds.bind .state (fun s => .bind (hJ.actionPhaseTold hk hplay (hactive g hg) _) ?_) g hg
  exact fun _ => .bind (hJ.buyPhaseTold hk hplay (hactive g hg)) fun _ => hJ.cleanUpTold hk hplay

theorem playTurnTold (maxTurns elapsed : Nat) :
    Upholds ((everybody n).Keeps J) (Engine.playTurnTold k maxTurns elapsed) := by
  refine .bind (hJ.turnTold hk hplay) fun _ => .bind .state fun s => ?_
  cases s.ending? maxTurns (elapsed + 1) with
  | some reason => exact .bind (hJ.finish _ _) fun _ => .pure _
  | none => exact .pure _

/-- An operation for players at the table does not break the assertion. -/
theorem told {o : Operation} (ho : o.Seated n) : Upholds ((everybody n).Keeps J) (o.told k) := by
  cases o with
  | call c =>
    intro g hg
    have hcall := hJ.performTold hk hplay (hJ.runTold hk hplay) ho.inside hg
    refine ensures_bind.mpr ((ensures_bind.mp hcall).imp fun _ _ hperform => ?_)
    exact ensures_bind.mpr (hperform.imp fun _ _ h => h.1)
  | execute effect ctx =>
    refine .bind (hJ.runTold hk hplay _ ?_) fun _ => .pure _
    exact (Effect.Seated.program ho.2 effect ho.1 (k := .finish false) trivial).inside
  | startTurn =>
    exact fun g hg => hJ.startTurnBy (hJ.runTold hk hplay) hg ⟨trivial, hg.1.table ▸ hg.1.sound.active⟩
  | cleanUp => exact hJ.cleanUpTold hk hplay
  | playTurn maxTurns elapsed => exact .bind (hJ.playTurnTold hk hplay _ _) fun _ => .pure _

end Scope.Regards

end DeckBuilder
