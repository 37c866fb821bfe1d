import DeckBuilder.Engine.Turn
import DeckBuilder.Proofs.Change
import DeckBuilder.Proofs.Outcome
import Mathlib.Logic.Relation

/-!
What a game upholds. Whatever is printed on the cards and whoever answers, the operations on a game do
ten kinds of things to its state, and put questions to its controllers. An assertion that none of these
can break is upheld by every operation, also by one that an error stops; so the operations are gone
through once, here, and not again for each assertion. Most of these things are gentle: they leave alone
what waits on plays and hangs on cards. What only gentle ones cannot break is upheld by every operation
but a play and the start of a turn. Nothing is asked of the cards: they may name players who do not
exist, and gain for them.
-/
namespace DeckBuilder

/-- The kinds of events that operations tell of by themselves: neither the game nor a turn begins or
ends, and a shuffle is told of only where one happens. -/
def EventKind.Passing : EventKind → Prop
  | .gameStart _ | .startTurn | .gameEnd .. | .shuffle _ => False
  | _ => True

/-- What an operation does to the state at once. -/
inductive Touch : GameState → GameState → Prop
  | remark (s : GameState) (entry : LogEntry) (h : entry.category ≠ some .event) :
      Touch s (s.onLogger (·.log entry))
  | publish (s : GameState) (id : PlayerId) (kind : EventKind) (h : kind.Passing) :
      Touch s (s.publish id kind)
  /-- What waits on a card changes, and nothing that is printed on it. -/
  | hang (s : GameState) (card : CardId) (f : Card → Card)
      (h : ∀ c, (f c).definition = c.definition) :
      Touch s { s with cards := s.cards.modify card f }
  | arrange (s : GameState) (id : PlayerId) (p p' : Player) (hp : s.player? id = some p)
      (hid : p'.id = p.id) (hturns : p'.turns = p.turns) : Touch s (s.setPlayer id p')
  | draw (s : GameState) (id : PlayerId) (p : Player) (hp : s.player? id = some p) :
      Touch s (s.drawOne id p).2
  | peek (s s' : GameState) (id : PlayerId) (n : Nat) (cards : List CardId)
      (h : s.topCards id n = .ok (cards, s')) : Touch s s'
  /-- The top card of a pile is taken; an empty pile stays as it is. -/
  | take (s : GameState) (pile : String) :
      Touch s { s with supply := s.supply.updatePile pile Pile.pop }
  | throwAway (s : GameState) (trash : List CardId) : Touch s { s with trash }
  | reprice (s : GameState) (modifier : CardFace → Int) :
      Touch s { s with costModifiers := s.costModifiers ++ [modifier] }
  | enter (s : GameState) (phase : Phase) : Touch s { s with phase }

abbrev Touches : GameState → GameState → Prop := Relation.ReflTransGen Touch

namespace GameState

/-- The programs that wait on a player's plays. -/
def plays? (s : GameState) (id : PlayerId) : Option (List (PlayerId → CardId → Program)) :=
  (s.player? id).map (·.playTriggers)

/-- The programs that hang on a card. -/
def hung? (s : GameState) (card : CardId) : Option (List (EffectContext → Program)) :=
  (s.card? card).map (·.durations)

theorem plays?_setPlayer {s : GameState} {id : PlayerId} {p : Player} (hp : s.player? id = some p)
    (p' : Player) (other : PlayerId) :
    (s.setPlayer id p').plays? other =
      if id = other then some p'.playTriggers else s.plays? other := by
  rw [plays?, player?_setPlayer (seat_lt_of_player? hp)]
  by_cases hid : id = other
  · rw [if_pos hid, if_pos hid]
    rfl
  · rw [if_neg hid, if_neg hid]
    rfl

theorem plays?_setPlayer_of_same {s : GameState} {id : PlayerId} {p p' : Player}
    (hp : s.player? id = some p) (h : p'.playTriggers = p.playTriggers) :
    (s.setPlayer id p').plays? = s.plays? := by
  funext other
  rw [plays?_setPlayer hp]
  by_cases hid : id = other
  · rw [if_pos hid, ← hid, plays?, hp, h]
    rfl
  · rw [if_neg hid]

end GameState

/-- A touch that leaves alone what waits on plays and what hangs on cards. -/
structure Gentle (s s' : GameState) : Prop where
  touch : Touch s s'
  plays : s'.plays? = s.plays?
  hung : s'.hung? = s.hung?

namespace Gentle

variable (s : GameState)

theorem remark (entry : LogEntry) (h : entry.category ≠ some .event) :
    Gentle s (s.onLogger (·.log entry)) := ⟨.remark s entry h, rfl, rfl⟩

theorem publish (id : PlayerId) (kind : EventKind) (h : kind.Passing) :
    Gentle s (s.publish id kind) := ⟨.publish s id kind h, rfl, rfl⟩

variable {s} in
theorem arrange {id : PlayerId} {p : Player} (hp : s.player? id = some p) {tableau : Tableau}
    (hid : tableau.id = p.id) (hturns : tableau.turns = p.turns) :
    Gentle s (s.setPlayer id { p with toTableau := tableau }) :=
  ⟨.arrange s id p _ hp hid hturns, GameState.plays?_setPlayer_of_same hp rfl, rfl⟩

variable {s} in
theorem draw {id : PlayerId} {p : Player} (hp : s.player? id = some p) :
    Gentle s (s.drawOne id p).2 := by
  refine ⟨.draw s id p hp, ?_, ?_⟩
  all_goals
    obtain ⟨rng, events, logger, heq⟩ := GameState.drawOne_eq s id p
    rw [heq]
  · exact GameState.plays?_setPlayer_of_same hp rfl
  · rfl

variable {s} in
theorem peek {s' : GameState} {id : PlayerId} {n : Nat} {cards : List CardId}
    (h : s.topCards id n = .ok (cards, s')) : Gentle s s' := by
  refine ⟨.peek s s' id n cards h, ?_, ?_⟩
  all_goals
    obtain ⟨p, rng, events, logger, hp, -, heq⟩ := GameState.topCards_eq h
    rw [heq]
  · exact GameState.plays?_setPlayer_of_same hp rfl
  · rfl

theorem take (pile : String) :
    Gentle s { s with supply := s.supply.updatePile pile Pile.pop } := ⟨.take s pile, rfl, rfl⟩

theorem throwAway (trash : List CardId) : Gentle s { s with trash } :=
  ⟨.throwAway s trash, rfl, rfl⟩

theorem reprice (modifier : CardFace → Int) :
    Gentle s { s with costModifiers := s.costModifiers ++ [modifier] } :=
  ⟨.reprice s modifier, rfl, rfl⟩

end Gentle

abbrev Gently : GameState → GameState → Prop := Relation.ReflTransGen Gentle

/-- What happens between the operations of a turn: it begins, is counted for its player and told of,
and passes on; and the game ends. -/
inductive Passage : GameState → GameState → Prop
  | begin (s : GameState) :
      Passage s { s with turn := s.turn + 1, phase := .action, turnStart := s.events.lastSeq }
  | count (s : GameState) (id : PlayerId) (p : Player) (hp : s.player? id = some p) :
      Passage s (s.setPlayer id (p.onTableau fun t => { t with turns := t.turns + 1 }))
  | start (s : GameState) (id : PlayerId) : Passage s (s.publish id .startTurn)
  | pass (s : GameState) :
      Passage s
        { s with
          active := (s.active + 1) % s.players.length
          costModifiers := []
          phase := .action }
  | finish (s : GameState) (id : PlayerId) (winners : List PlayerId) (scores : List Int) :
      Passage s (s.publish id (.gameEnd winners scores))

/-- Cards that change places leave the player's number and count of turns alone. -/
theorem Tableau.foldl_transfer_seat (cards : List CardId) (source target : Zone)
    (position : Position) (t : Tableau) :
    let t' := cards.foldl (fun t c => (t.transfer c source target position).2) t
    t'.id = t.id ∧ t'.turns = t.turns := by
  induction cards generalizing t with
  | nil => exact ⟨rfl, rfl⟩
  | cons card rest ih => exact ih _

namespace GameState

variable {s s' : GameState} {id : PlayerId}

/-- What drawing a card keeps, drawing some keeps. -/
theorem drawEach_keeps {I : GameState → Prop}
    (hdraw : ∀ s p, I s → s.player? id = some p → I (s.drawOne id p).2) {count : Nat}
    {cards : List CardId} (hs : I s) (h : drawEach id count s = .ok (cards, s')) : I s' := by
  induction count generalizing s cards with
  | zero =>
    cases h
    exact hs
  | succ count ih =>
    rw [drawEach] at h
    cases hp : s.player? id with
    | none => simp [hp] at h
    | some p =>
      have hdrawn := hdraw s p hs hp
      simp only [hp] at h
      cases hone : s.drawOne id p with
      | mk card s₁ =>
        rw [hone] at h hdrawn
        cases card with
        | none =>
          cases h
          exact hdrawn
        | some card =>
          cases hrest : drawEach id count s₁ with
          | error e =>
            simp only [hrest] at h
            cases h
          | ok found =>
            simp only [hrest] at h
            cases h
            exact ih hdrawn hrest

theorem draw_keeps {I : GameState → Prop}
    (hdraw : ∀ s p, I s → s.player? id = some p → I (s.drawOne id p).2)
    (hpublish : ∀ s n, I s → I (s.publish id (.drawCards n))) {count : Nat} {cards : List CardId}
    (hs : I s) (h : s.draw id count = .ok (cards, s')) : I s' := by
  unfold draw at h
  cases heach : drawEach id count s with
  | error e =>
    rw [heach] at h
    cases h
  | ok found =>
    rw [heach] at h
    cases h
    have hdrawn := drawEach_keeps hdraw hs heach
    by_cases hnil : found.1.isEmpty
    · rw [if_pos hnil]
      exact hdrawn
    · rw [if_neg hnil]
      exact hpublish _ _ hdrawn

theorem draw_gently {count : Nat} {cards : List CardId} (h : s.draw id count = .ok (cards, s')) :
    Gently s s' :=
  draw_keeps (I := Gently s) (fun _ _ hs hp => hs.tail (.draw hp))
    (fun _ _ hs => hs.tail (.publish _ _ _ trivial)) .refl h

/-- What warnings and the player's changing places with a card keep, and telling of it. -/
theorem move_keeps {I : GameState → Prop} {card : CardId} {target : Zone} {position : Position}
    {source : Option Zone} (hwarn : ∀ s message, I s → I (s.warn message))
    (htransfer : ∀ p zone, s.player? id = some p → p.zones.locate card = some zone →
      I (s.setPlayer id { p with
          toTableau := (p.toTableau.transfer card zone target position).2 }) ∧
        ∀ s name, I s → I (s.publish id (.moveCard card name zone target)))
    (hs : I s) (h : s.move card id target position = .ok (source, s')) : I s' := by
  unfold move at h
  dsimp only at h
  cases hp : s.player? id with
  | none => simp [hp] at h
  | some p =>
    simp only [hp] at h
    cases hfound : p.zones.locate card with
    | none =>
      rw [hfound] at h
      cases h
      exact hwarn _ _ hs
    | some zone =>
      simp only [hfound] at h
      obtain ⟨hmoved, hpublish⟩ := htransfer p zone hp hfound
      generalize p.toTableau.transfer card zone target position = moved at h hmoved
      obtain ⟨moved, tableau⟩ := moved
      cases moved with
      | true =>
        cases h
        exact hpublish _ _ hmoved
      | false =>
        cases h
        exact hwarn _ _ hmoved

theorem move_gently {card : CardId} {target : Zone} {position : Position} {source : Option Zone}
    (h : s.move card id target position = .ok (source, s')) : Gently s s' :=
  move_keeps (I := Gently s) (fun _ _ hs => hs.tail (.remark _ _ nofun))
    (fun _ _ hp _ => ⟨.single (.arrange hp rfl rfl),
      fun _ _ hs => hs.tail (.publish _ _ _ trivial)⟩) .refl h

end GameState

namespace Engine

variable {M : Type} {α β : Type}

/-- A question reaches the state through the generator and the log book only. -/
theorem asked_state [Controllers M] (g : Game M) (id : PlayerId) (q : Question) :
    ∃ logger, (asked g id q).2.state =
      { g.state with
        rng := (Controllers.answer g.state id q { memory := g.memory, rng := g.state.rng }).2.rng
        logger } :=
  GameState.enterAll_eq _ id _

theorem told_state [Controllers M] (g : Game M) (id : PlayerId) (won : Bool) :
    ∃ logger, (told g id won).state =
      { g.state with
        rng := (Controllers.gameOver g.state id won
          { memory := g.memory, rng := g.state.rng }).2.rng
        logger } :=
  GameState.enterAll_eq _ id _

/-- An assertion about a game that no gentle touch and no question can break. -/
structure Abiding [Controllers M] (I : Game M → Prop) : Prop where
  touch : ∀ {g : Game M} {s}, I g → Gentle g.state s → I { g with state := s }
  asked : ∀ {g : Game M} {id} q, I g → id.seat < g.state.players.length → I (asked g id q).2

/-- An assertion about a game that no touch and no question can break. -/
structure Enduring [Controllers M] (I : Game M → Prop) : Prop where
  touch : ∀ {g : Game M} {s}, I g → Touch g.state s → I { g with state := s }
  asked : ∀ {g : Game M} {id} q, I g → id.seat < g.state.players.length → I (asked g id q).2

theorem Enduring.abiding [Controllers M] {I : Game M → Prop} (hI : Enduring I) : Abiding I :=
  ⟨fun hg htouch => hI.touch hg htouch.touch, hI.asked⟩

/-- One that outlasts turns as well, and the end of the game. -/
structure Lasting [Controllers M] (I : Game M → Prop) : Prop extends Enduring I where
  passage : ∀ {g : Game M} {s}, I g → Passage g.state s → I { g with state := s }
  told : ∀ {g : Game M} {id} won, I g → id.seat < g.state.players.length → I (told g id won)

theorem Abiding.touches [Controllers M] {I : Game M → Prop} (hI : Abiding I) {g : Game M}
    {s : GameState} (hg : I g) (h : Gently g.state s) : I { g with state := s } := by
  induction h with
  | refl => exact hg
  | @tail s s' _ htouch ih => exact hI.touch (g := ⟨s, g.memory⟩) ih htouch

/-- An assertion about the state alone: a question and the end of the game may change the generator and
the log book. -/
theorem Lasting.ofState [Controllers M] {J : GameState → Prop}
    (htouch : ∀ {s s'}, J s → Touch s s' → J s') (hpassage : ∀ {s s'}, J s → Passage s s' → J s')
    (hthought : ∀ {s : GameState} rng logger, J s → J { s with rng, logger }) :
    Lasting fun g : Game M => J g.state where
  touch := htouch
  passage := hpassage
  asked {g id} q hg _ := by
    obtain ⟨logger, hstate⟩ := asked_state g id q
    rw [hstate]
    exact hthought _ logger hg
  told {g id} won hg _ := by
    obtain ⟨logger, hstate⟩ := told_state g id won
    rw [hstate]
    exact hthought _ logger hg

/-- If the assertion holds then it holds after the computation, be it done or given up. -/
def Upholds (I : Game M → Prop) (e : Engine M α) : Prop :=
  ∀ g : Game M, I g → Ensures e g (fun _ => I) (fun _ => I)

namespace Upholds

variable {I : Game M → Prop}

theorem after {e : Engine M α} (h : Upholds I e) {g : Game M} (hg : I g) : I (e.runOn g).2 :=
  (h g hg).after

theorem pure (a : α) : Upholds I (Pure.pure a : Engine M α) := fun _ hg => hg

theorem throw (r : Halt) : Upholds I (throwThe Halt r : Engine M α) := fun _ hg => hg

theorem fail (error : GameError) : Upholds I (Engine.fail error : Engine M α) := fun _ hg => hg

theorem state : Upholds I (Engine.state : Engine M GameState) := fun _ hg => hg

theorem lift (x : Except GameError α) : Upholds I (Engine.lift x : Engine M α) := by
  cases x with
  | ok a => exact pure a
  | error e => exact fail e

theorem bind {e : Engine M α} {k : α → Engine M β} (h : Upholds I e)
    (hk : ∀ a, Upholds I (k a)) : Upholds I (e >>= k) :=
  fun g hg => ensures_bind.mpr ((h g hg).imp fun a g' hg' => hk a g' hg')

/-- The same, if more is to be shown of a run that gives a value. -/
theorem andThen {e : Engine M α} {k : α → Engine M β} {g : Game M} {Q : β → Game M → Prop}
    (h : Upholds I e) (hg : I g) (hk : ∀ a g', I g' → Ensures (k a) g' Q fun _ => I) :
    Ensures (e >>= k) g Q fun _ => I :=
  ensures_bind.mpr ((h g hg).imp hk)

theorem map {e : Engine M α} (k : α → β) (h : Upholds I e) : Upholds I (k <$> e) :=
  fun g hg => ensures_map.mpr (h g hg)

theorem ite {c : Prop} [Decidable c] {e e' : Engine M α} (h : Upholds I e) (h' : Upholds I e') :
    Upholds I (if c then e else e') :=
  fun g hg => ensures_ite.mpr ⟨fun _ => h g hg, fun _ => h' g hg⟩

theorem forM {k : α → Engine M PUnit} (h : ∀ a, Upholds I (k a)) (xs : List α) :
    Upholds I (xs.forM k) :=
  fun _ hg => ensures_forM hg fun a _ => h a

theorem keepers {run : α → Engine M Bool} (h : ∀ a, Upholds I (run a)) (xs : List α) :
    Upholds I (Engine.keepers run xs) := by
  induction xs with
  | nil => exact pure _
  | cons x rest ih => exact bind (h x) fun _ => bind ih fun _ => pure _

theorem filterM {p : α → Engine M Bool} (h : ∀ a, Upholds I (p a)) (xs : List α) :
    Upholds I (xs.filterM p) := by
  rw [filterM_eq_keepers]
  exact keepers h xs

theorem modifyState {f : GameState → GameState}
    (h : ∀ g, I g → I { g with state := f g.state }) :
    Upholds I (Engine.modifyState f : Engine M Unit) := h

theorem step {f : GameState → Except GameError (α × GameState)}
    (h : ∀ g a s, I g → f g.state = .ok (a, s) → I { g with state := s }) :
    Upholds I (Engine.step f : Engine M α) := by
  intro g hg
  rw [ensures_step]
  cases hf : f g.state with
  | error e => exact hg
  | ok found => exact h g _ _ hg hf

/-! ### Players and cards -/

/-- What comes after a player was looked at may rely on it that the player is there. -/
theorem withPlayer {id : PlayerId} {k : Player → Engine M β}
    (h : ∀ g p, I g → g.state.player? id = some p → Ensures (k p) g (fun _ => I) (fun _ => I)) :
    Upholds I (Engine.player id >>= k) := by
  intro g hg
  rw [ensures_bind, ensures_player]
  cases hp : g.state.player? id with
  | none => exact hg
  | some p => exact h g p hg hp

theorem player (id : PlayerId) : Upholds I (Engine.player id : Engine M Player) :=
  fun g hg => by
    rw [ensures_player]
    cases g.state.player? id <;> exact hg

theorem card (id : CardId) : Upholds I (Engine.card id : Engine M Card) :=
  fun g hg => by
    rw [ensures_card]
    cases g.state.card? id <;> exact hg

theorem definition (id : CardId) : Upholds I (Engine.definition id : Engine M CardDefinition) :=
  bind (card id) fun _ => pure _

theorem active : Upholds I (Engine.active : Engine M PlayerId) := bind state fun _ => pure _

theorem handWhere (id : PlayerId) (p : CardFace → Bool) :
    Upholds I (Engine.handWhere id p : Engine M (List CardId)) :=
  bind (player id) fun _ => filterM (fun c => bind (card c) fun _ => pure _) _

section

variable {provoke : Program → Engine M Bool} (hprovoke : ∀ p, Upholds I (provoke p))
include hprovoke

theorem executeAll (effects : List Effect) (ctx : EffectContext) :
    Upholds I (Engine.executeAll provoke effects ctx) :=
  ite (pure _) (bind (hprovoke _) fun _ => pure _)

theorem fireReactions (trigger : ReactionTrigger) :
    Upholds I (Engine.fireReactions provoke trigger) := by
  refine bind state fun s => bind (lift _) fun found => forM (fun c => ?_) found
  exact bind (player _) fun _ => ite (bind (hprovoke _) fun _ => pure _) (pure _)

theorem resolve (id : CardId) (owner : PlayerId) : Upholds I (Engine.resolve provoke id owner) :=
  bind (definition id) fun _ => executeAll hprovoke _ _

end

section

variable [Controllers M] (hI : Abiding I)
include hI

/-! ### Writing -/

theorem gentle {f : GameState → GameState} (h : ∀ s, Gentle s (f s)) :
    Upholds I (Engine.modifyState f : Engine M Unit) :=
  modifyState fun g hg => hI.touch hg (h g.state)

theorem publish (id : PlayerId) {kind : EventKind} (h : kind.Passing) :
    Upholds I (Engine.publish id kind : Engine M Unit) := gentle hI fun s => .publish s id kind h

theorem warn (message : String) : Upholds I (Engine.warn message : Engine M Unit) :=
  gentle hI fun s => .remark s _ nofun

theorem verbose (message : String) : Upholds I (Engine.verbose message : Engine M Unit) :=
  gentle hI fun s => .remark s _ nofun

theorem onTableau (id : PlayerId) {f : Tableau → Tableau} (hid : ∀ t, (f t).id = t.id)
    (hturns : ∀ t, (f t).turns = t.turns) :
    Upholds I (Engine.modifyPlayer id (·.onTableau f) : Engine M Unit) :=
  withPlayer fun _ p hg hp => hI.touch hg (.arrange hp (hid p.toTableau) (hturns p.toTableau))

/-- The tableau of a player who was looked at is written back, and then comes the rest. -/
theorem setTableau {id : PlayerId} {p : Player} {tableau : Tableau} {k : Unit → Engine M β}
    {g : Game M} (hg : I g) (hp : g.state.player? id = some p) (hid : tableau.id = p.id)
    (hturns : tableau.turns = p.turns) (hk : Upholds I (k ())) :
    Ensures (Engine.modifyState (·.setPlayer id { p with toTableau := tableau }) >>= k) g
      (fun _ => I) (fun _ => I) :=
  ensures_bind.mpr (hk _ (hI.touch hg (.arrange hp hid hturns)))

/-! ### Asking -/

theorem ask (id : PlayerId) (q : Question) : Upholds I (Engine.ask id q : Engine M q.Answer) := by
  intro g hg
  unfold Ensures
  rw [runOn_ask]
  by_cases hid : id.seat < g.state.players.length
  · rw [if_pos hid]
    exact hI.asked q hg hid
  · rw [if_neg hid]
    exact hg

theorem askTimes (id : PlayerId) (q : Question) (what : String) (accept : q.Answer → Option β)
    (n : Nat) : Upholds I (Engine.askTimes id q what accept n : Engine M β) := by
  induction n with
  | zero => exact fail _
  | succ n ih =>
    refine bind (ask hI id q) fun answer => ?_
    cases accept answer with
    | some b => exact pure b
    | none => exact bind (warn hI _) fun _ => ih

theorem chooseAction (id : PlayerId) (playable : List CardId) :
    Upholds I (Engine.chooseAction id playable : Engine M _) := askTimes hI _ _ _ _ _

theorem chooseTreasures (id : PlayerId) (playable : List CardId) :
    Upholds I (Engine.chooseTreasures id playable : Engine M _) := askTimes hI _ _ _ _ _

theorem choosePurchase (id : PlayerId) (buyable : List String) :
    Upholds I (Engine.choosePurchase id buyable : Engine M _) := askTimes hI _ _ _ _ _

theorem chooseCards (id : PlayerId) (choice : CardChoice) :
    Upholds I (Engine.chooseCards id choice : Engine M _) :=
  ite (pure _) (ite (pure _) (askTimes hI _ _ _ _ _))

theorem choosePile (id : PlayerId) (prompt : String) (source : Option CardId)
    (eligible : PileOffer → Bool) :
    Upholds I (Engine.choosePile id prompt source eligible : Engine M _) :=
  bind state fun _ => ite (pure _) (askTimes hI _ _ _ _ _)

theorem chooseOptions (id : PlayerId) (choice : OptionChoice) :
    Upholds I (Engine.chooseOptions id choice : Engine M _) :=
  ite (pure _) (ite (pure _) (askTimes hI _ _ _ _ _))

theorem chooseInteger (id : PlayerId) (choice : IntegerChoice) :
    Upholds I (Engine.chooseInteger id choice : Engine M _) :=
  bind (ask hI id _) fun _ => pure _

/-! ### Operations -/

theorem draw (id : PlayerId) (count : Nat) :
    Upholds I (Engine.draw id count : Engine M (List CardId)) :=
  step fun _ _ _ hg h => hI.touches hg (GameState.draw_gently h)

theorem topCards (id : PlayerId) (n : Nat) :
    Upholds I (Engine.topCards id n : Engine M (List CardId)) :=
  step fun _ _ _ hg h => hI.touch hg (.peek h)

theorem move (card : CardId) (id : PlayerId) (target : Zone) (position : Position) :
    Upholds I (Engine.move card id target position : Engine M (Option Zone)) :=
  step fun _ _ _ hg h => hI.touches hg (GameState.move_gently h)

theorem reveal (cards : List CardId) (id : PlayerId) :
    Upholds I (Engine.reveal cards id : Engine M Unit) :=
  ite (pure _) (bind state fun _ => publish hI _ trivial)

theorem recover (card : CardId) (id : PlayerId) :
    Upholds I (Engine.recover card id : Engine M Unit) := by
  refine bind state fun s => ite ?_ (pure _)
  refine bind (onTableau hI _ (fun _ => rfl) fun _ => rfl) fun _ => ?_
  refine bind (gentle hI fun s => .throwAway s _) fun _ => ?_
  exact bind state fun _ => publish hI _ trivial

theorem blocksAttack (target : PlayerId) (attack : CardId) :
    Upholds I (Engine.blocksAttack target attack : Engine M Bool) := by
  refine bind (player target) fun p => bind state fun s => ?_
  cases p.hand.find? (s.grants .revealFromHand) with
  | some card =>
    exact bind (reveal hI _ _) fun _ => bind (publish hI _ trivial) fun _ => pure _
  | none => exact ite (bind (verbose hI _) fun _ => pure _) (pure _)

theorem addCostModifier (modifier : CardFace → Int) :
    Upholds I (Engine.addCostModifier modifier : Engine M Unit) := gentle hI fun s => .reprice s _

end

/-! ### What provokes -/

section

variable [Controllers M] {provoke : Program → Engine M Bool} (hI : Abiding I)
include hI

/-- A card is played if its player's triggers may be run. -/
theorem play_of_fire {id : CardId} {owner : PlayerId}
    (hfire : Upholds I (Engine.firePlayTriggers provoke owner id)) :
    Upholds I (Engine.play provoke id owner) := by
  refine bind (definition id) fun d => withPlayer fun g p hg hp => ?_
  cases hremove : p.toTableau.remove? id with
  | none => exact warn hI _ g hg
  | some found =>
    obtain ⟨zones, -, htableau⟩ := Tableau.remove?_eq_some hremove
    refine setTableau hI hg hp ?_ ?_
      (bind (publish hI _ trivial) fun _ => hfire)
    all_goals
      rw [htableau]
      by_cases htreasure : d.isTreasure
      · rw [if_pos htreasure]
        rfl
      · rw [if_neg htreasure]
        rfl

variable (hprovoke : ∀ p, Upholds I (provoke p))
include hprovoke

theorem gain (pile : String) (owner : PlayerId) (bought : Bool) (destination : GainDestination) :
    Upholds I (Engine.gain provoke pile owner bought destination) := by
  refine bind state fun s => ?_
  cases s.supply.pile? pile with
  | none => exact fail _
  | some p =>
    dsimp only
    cases p.top? with
    | none => exact fail _
    | some id =>
      refine bind (gentle hI fun s => .take s pile) fun _ => ?_
      refine bind (onTableau hI _ (fun _ => rfl) fun _ => rfl) fun _ => ?_
      refine bind (publish hI _ trivial) fun _ => bind (definition id) fun d => ?_
      refine bind (executeAll hprovoke _ _) fun _ => bind (player owner) fun p => ?_
      refine bind (forM (fun _ => bind (hprovoke _) fun _ => pure _) _) fun _ => ?_
      exact bind (fireReactions hprovoke _) fun _ => pure _

theorem gainIfAvailable (pile : String) (owner : PlayerId) (destination : GainDestination) :
    Upholds I (Engine.gainIfAvailable provoke pile owner destination) := by
  refine bind state fun s => ite (bind (verbose hI _) fun _ => pure _) ?_
  exact map _ (gain hI hprovoke _ _ _ _)

theorem buy (pile : String) (owner : PlayerId) : Upholds I (Engine.buy provoke pile owner) := by
  refine bind state fun s => ?_
  cases s.pileCost? pile with
  | none => exact fail _
  | some cost =>
    refine bind (gain hI hprovoke _ _ _ _) fun _ => ?_
    exact bind (onTableau hI _ (fun _ => rfl) fun _ => rfl) fun _ => pure _

theorem discard (id : CardId) (owner : PlayerId) :
    Upholds I (Engine.discard provoke id owner) := by
  refine bind state fun s => withPlayer fun g p hg hp => ?_
  cases hremove : p.toTableau.remove? id with
  | none => exact bind (warn hI _) (fun _ => pure _) g hg
  | some found =>
    obtain ⟨zones, -, htableau⟩ := Tableau.remove?_eq_some hremove
    refine setTableau hI hg hp (by rw [htableau]; rfl) (by rw [htableau]; rfl) ?_
    exact bind (publish hI _ trivial) fun _ => bind (fireReactions hprovoke _) fun _ => pure _

theorem trash (id : CardId) (owner : PlayerId) : Upholds I (Engine.trash provoke id owner) := by
  refine bind (definition id) fun d => withPlayer fun g p hg hp => ?_
  cases hremove : p.toTableau.remove? id with
  | none => exact bind (warn hI _) (fun _ => pure _) g hg
  | some found =>
    obtain ⟨zones, -, htableau⟩ := Tableau.remove?_eq_some hremove
    have hset : Gentle g.state (g.state.setPlayer owner { p with toTableau := found.2 }) := by
      refine .arrange hp ?_ ?_ <;> rw [htableau]
    have hg' := hI.touch (hI.touch hg hset) (.throwAway _ (g.state.trash ++ [id]))
    refine ensures_bind.mpr ((?_ : Upholds I _) _ hg')
    exact bind (publish hI _ trivial) fun _ => bind (executeAll hprovoke _ _) fun _ => pure _

/-- A call is carried out if the plays among the calls are. -/
theorem perform_of_play (c : Call)
    (hplay : ∀ card id, c = .play card id → Upholds I (Engine.play provoke card id)) :
    Upholds I (Engine.perform provoke c) := by
  cases c with
  | draw => exact draw hI _ _
  | topCards => exact topCards hI _ _
  | move => exact move hI _ _ _ _
  | discard => exact discard hI hprovoke _ _
  | trash => exact trash hI hprovoke _ _
  | recover => exact recover hI _ _
  | reveal => exact reveal hI _ _
  | play card id => exact hplay card id rfl
  | resolve => exact resolve hprovoke _ _
  | gain => exact gain hI hprovoke _ _ _ _
  | gainIfAvailable => exact gainIfAvailable hI hprovoke _ _ _
  | buy => exact buy hI hprovoke _ _
  | credit id counter => cases counter <;> exact onTableau hI _ (fun _ => rfl) fun _ => rfl
  | addCostModifier => exact addCostModifier hI _
  | costOf => exact bind state fun _ => bind (definition _) fun _ => pure _
  | opponents => exact bind state fun _ => pure _
  | blocksAttack => exact blocksAttack hI _ _
  | chooseCards => exact chooseCards hI _ _
  | choosePile => exact choosePile hI _ _ _ _
  | chooseBoolean => exact ask hI _ _
  | chooseOptions => exact chooseOptions hI _ _
  | chooseInteger => exact chooseInteger hI _ _
  | note => exact verbose hI _

end

/-! ### What waits -/

section

variable [Controllers M] (hI : Enduring I)
include hI

theorem touch {f : GameState → GameState} (h : ∀ s, Touch s (f s)) :
    Upholds I (Engine.modifyState f : Engine M Unit) :=
  modifyState fun g hg => hI.touch hg (h g.state)

theorem modifyPlayer (id : PlayerId) {f : Player → Player} (hid : ∀ p, (f p).id = p.id)
    (hturns : ∀ p, (f p).turns = p.turns) :
    Upholds I (Engine.modifyPlayer id f : Engine M Unit) :=
  withPlayer fun _ p hg hp => hI.touch hg (.arrange _ id p _ hp (hid p) (hturns p))

theorem addDuration (id : CardId) (callback : EffectContext → Program) :
    Upholds I (Engine.addDuration id callback : Engine M Unit) :=
  bind (card id) fun _ => touch hI fun s => .hang s _ _ fun _ => rfl

variable {provoke : Program → Engine M Bool} (hprovoke : ∀ p, Upholds I (provoke p))
include hprovoke

theorem firePlayTriggers (id : PlayerId) (card : CardId) :
    Upholds I (Engine.firePlayTriggers provoke id card) := by
  refine bind (player id) fun p => ?_
  refine bind (modifyPlayer hI _ (fun _ => rfl) fun _ => rfl) fun _ => ?_
  refine bind (keepers (fun _ => hprovoke _) _) fun _ => ?_
  exact modifyPlayer hI _ (fun _ => rfl) fun _ => rfl

theorem fireDurations (id : PlayerId) : Upholds I (Engine.fireDurations provoke id) := by
  refine bind (player id) fun p => bind state fun s => forM (fun holder => ?_) _
  refine bind (card holder) fun c => bind (touch hI fun s => .hang s _ _ fun _ => rfl) fun _ => ?_
  refine bind (keepers (fun _ => hprovoke _) _) fun _ => ?_
  exact bind (card holder) fun _ => touch hI fun s => .hang s _ _ fun _ => rfl

theorem play (id : CardId) (owner : PlayerId) : Upholds I (Engine.play provoke id owner) :=
  play_of_fire hI.abiding (firePlayTriggers hI hprovoke owner id)

theorem perform (c : Call) : Upholds I (Engine.perform provoke c) :=
  perform_of_play hI.abiding hprovoke c fun card id _ => play hI hprovoke card id

end

section

variable [Controllers M] (hI : Enduring I)
include hI

/-! ### Programs -/

/-- A program is carried out if its calls are. -/
theorem interpret {call : (c : Call) → Engine M c.Answer} (hcall : ∀ c, Upholds I (call c))
    (p : Program) : Upholds I (Engine.interpret call p) := by
  induction p with
  | finish keep => exact pure keep
  | fail e => exact fail e
  | look next ih => exact bind state fun s => ih _
  | call c next ih => exact bind (hcall c) fun a => ih a
  | addDuration card callback next _ ih => exact bind (addDuration hI _ _) fun _ => ih
  | addGainTrigger id callback next _ ih =>
    exact bind (modifyPlayer hI _ (fun _ => rfl) fun _ => rfl) fun _ => ih
  | addPlayTrigger id callback next _ ih =>
    exact bind (modifyPlayer hI _ (fun _ => rfl) fun _ => rfl) fun _ => ih

theorem runWithin (depth : Nat) (p : Program) :
    Upholds I (Engine.runWithin depth p : Engine M Bool) := by
  induction depth generalizing p with
  | zero => exact throw _
  | succ depth ih => exact interpret hI (perform hI ih) p

theorem run (p : Program) : Upholds I (Engine.run p : Engine M Bool) :=
  bind state fun _ => runWithin hI _ p

theorem call (c : Call) : Upholds I (Engine.call c : Engine M c.Answer) := perform hI (run hI) c

theorem execute (effect : Effect) (ctx : EffectContext) :
    Upholds I (Engine.execute effect ctx : Engine M Unit) := bind (run hI _) fun _ => pure _

/-! ### The phases of a turn -/

theorem actionPhase (id : PlayerId) (n : Nat) :
    Upholds I (Engine.actionPhase id n : Engine M Unit) := by
  induction n with
  | zero => exact throw _
  | succ n ih =>
    refine bind (player id) fun p => ite (pure _) ?_
    refine bind (handWhere _ _) fun playable => ite (pure _) ?_
    refine bind (chooseAction hI.abiding _ _) fun choice => ?_
    cases choice with
    | none => exact pure _
    | some card =>
      refine bind (modifyPlayer hI _ (fun _ => rfl) fun _ => rfl) fun _ => ?_
      exact bind (play hI (run hI) _ _) fun _ => bind (resolve (run hI) _ _) fun _ => ih

theorem treasurePhase (id : PlayerId) (n : Nat) :
    Upholds I (Engine.treasurePhase id n : Engine M Unit) := by
  induction n with
  | zero => exact throw _
  | succ n ih =>
    refine bind (handWhere _ _) fun playable => ite (pure _) ?_
    refine bind (chooseTreasures hI.abiding _ _) fun choice => ?_
    cases choice with
    | none => exact pure _
    | some cards =>
      cases cards with
      | nil => exact pure _
      | cons first rest =>
        refine bind (forM (fun card => ?_) _) fun _ => ih
        exact bind (play hI (run hI) _ _) fun _ => resolve (run hI) _ _

theorem purchases (id : PlayerId) (n : Nat) :
    Upholds I (Engine.purchases id n : Engine M Unit) := by
  induction n with
  | zero => exact throw _
  | succ n ih =>
    refine bind state fun s => ite (pure _) ?_
    refine bind (choosePurchase hI.abiding _ _) fun choice => ?_
    cases choice with
    | none => exact pure _
    | some pile =>
      refine bind (buy hI.abiding (run hI) _ _) fun _ => bind (player id) fun p => ?_
      exact bind (verbose hI.abiding _) fun _ => ih

theorem buyPhase (id : PlayerId) : Upholds I (Engine.buyPhase id : Engine M Unit) := by
  refine bind (touch hI fun s => .enter s _) fun _ => bind state fun s => ?_
  exact bind (treasurePhase hI _ _) fun _ => bind state fun _ => purchases hI _ _

end

/-! ### From turn to turn -/

section

variable [Controllers M] (hI : Lasting I)
include hI

theorem passage {f : GameState → GameState} (h : ∀ s, Passage s (f s)) :
    Upholds I (Engine.modifyState f : Engine M Unit) :=
  modifyState fun g hg => hI.passage hg (h g.state)

theorem startTurn : Upholds I (Engine.startTurn : Engine M Unit) := by
  have hrun : ∀ p, Upholds I (Engine.run p) := run hI.toEnduring
  refine bind active fun id => bind (passage hI .begin) fun _ => ?_
  refine bind (withPlayer fun g p hg hp => hI.passage hg (.count _ id p hp)) fun _ => ?_
  refine bind (passage hI fun s => .start s id) fun _ => ?_
  exact bind (fireDurations hI.toEnduring hrun id) fun _ => fireReactions hrun _

theorem cleanUp : Upholds I (Engine.cleanUp : Engine M Unit) := by
  have hE := hI.toEnduring
  refine bind active fun id => bind (touch hE fun s => .enter s _) fun _ => ?_
  refine bind (player id) fun p => bind (forM (fun card => ?_) _) fun _ => ?_
  · refine bind (definition card) fun d => bind (player id) fun p => ?_
    exact ite (executeAll (run hE) _ _) (pure _)
  refine bind (player id) fun p => bind (filterM (fun card => ?_) _) fun done => ?_
  · exact bind (Upholds.card card) fun _ => pure _
  refine bind (modifyPlayer hE id ?_ ?_) fun _ => bind (publish hE.abiding id trivial) fun _ => ?_
  · exact fun p => (Tableau.foldl_transfer_seat done _ _ _ p.toTableau).1
  · exact fun p => (Tableau.foldl_transfer_seat done _ _ _ p.toTableau).2
  refine bind (draw hE.abiding id handSize) fun _ => ?_
  exact bind (modifyPlayer hE id (fun _ => rfl) fun _ => rfl) fun _ => passage hI .pass

theorem finish (turns : Nat) (reason : EndReason) :
    Upholds I (Engine.finish turns reason : Engine M GameResult) :=
  bind state fun _ => bind (lift _) fun _ => bind state fun _ => bind (lift _) fun _ =>
    bind (passage hI fun s => .finish s _ _ _) fun _ => pure _

theorem playTurn (maxTurns elapsed : Nat) :
    Upholds I (Engine.playTurn maxTurns elapsed : Engine M (Option GameResult)) := by
  have hE := hI.toEnduring
  refine bind (startTurn hI) fun _ => bind active fun id => bind state fun _ => ?_
  refine bind (actionPhase hE id _) fun _ => bind (buyPhase hE id) fun _ => ?_
  refine bind (cleanUp hI) fun _ => bind state fun s => ?_
  refine ite (bind (finish hI _ _) fun _ => pure _) (ite ?_ (pure _))
  exact bind (finish hI _ _) fun _ => pure _

theorem notifyGameOver (winners : List PlayerId) :
    Upholds I (Engine.notifyGameOver winners : Engine M Unit) := by
  intro g hg
  rw [Engine.notifyGameOver, ensures_bind, ensures_state]
  have hstart : I g ∧ g.state.players = g.state.players := ⟨hg, rfl⟩
  refine (ensures_forM (I := fun g' => I g' ∧ g'.state.players = g.state.players) hstart ?_).imp
    fun _ _ h => h.1
  intro id hid g' h
  change I (told g' id (winners.contains id)) ∧ (told g' id (winners.contains id)).state.players = _
  obtain ⟨seat, hseat, rfl⟩ := List.mem_map.mp hid
  obtain ⟨logger, htold⟩ := told_state g' ⟨seat⟩ (winners.contains ⟨seat⟩)
  refine ⟨hI.told _ h.1 ?_, ?_⟩
  · rw [h.2]
    exact List.mem_range.mp hseat
  · rw [htold]
    exact h.2

theorem playOn (maxTurns n elapsed : Nat) :
    Upholds I (Engine.playOn maxTurns n elapsed : Engine M GameResult) := by
  induction n generalizing elapsed with
  | zero => exact throw _
  | succ n ih =>
    refine bind (playTurn hI maxTurns elapsed) fun result => ?_
    cases result with
    | some result => exact bind (notifyGameOver hI _) fun _ => pure _
    | none => exact ih _

theorem playGame (maxTurns : Nat) :
    Upholds I (Engine.playGame maxTurns : Engine M GameResult) := playOn hI _ _ _

end

end Upholds

end Engine

end DeckBuilder
