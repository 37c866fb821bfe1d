import DeckBuilder.Engine.Turn
import DeckBuilder.Proofs.Outcome

/-!
Two games that run side by side. Suppose that the states of two games differ in their log books at
most, and that their controllers go on answering alike. Nothing in the engine reads the log book, so
every operation then gives both games the same value, or stops both for the same reason, and the
games stay coupled. The way in which programs are run may differ between the two, if the second does
as the first until it stops.
-/
namespace DeckBuilder

variable {M N : Type}

/-- The same state with another log book. -/
def GameState.withLogger (s : GameState) (l : Logger) : GameState := { s with logger := l }

/-- A change of states that takes no notice of the log book. -/
def GameState.Blind (change : GameState → GameState) : Prop :=
  ∀ s l, ∃ l', change (s.withLogger l) = (change s).withLogger l'

/-- A relation between games that stays when both are changed alike or asked the same question. -/
structure Coupling [Controllers M] [Controllers N] (R : Game M → Game N → Prop) : Prop where
  unlogged : ∀ {g g'}, R g g' → ∃ l, g'.state = g.state.withLogger l
  change : ∀ {g g'} {f : GameState → GameState}, GameState.Blind f → R g g' →
    R { g with state := f g.state } { g' with state := f g'.state }
  asked : ∀ {g g'}, R g g' → ∀ id q,
    (Engine.asked g' id q).1 = (Engine.asked g id q).1 ∧
      R (Engine.asked g id q).2 (Engine.asked g' id q).2
  told : ∀ {g g'}, R g g' → ∀ id won, R (Engine.told g id won) (Engine.told g' id won)

namespace GameState

theorem blind_publish (id : PlayerId) (kind : EventKind) : Blind (·.publish id kind) :=
  fun _ _ => ⟨_, rfl⟩

theorem blind_onLogger (f : Logger → Logger) : Blind (·.onLogger f) := fun _ _ => ⟨_, rfl⟩

/-- A step that gives the same value whatever is in the log book, and changes states blindly. -/
def BlindStep {α : Type} (f : GameState → Except GameError (α × GameState)) : Prop :=
  ∀ s l, ∃ l', f (s.withLogger l) = (f s).map fun (a, s') => (a, s'.withLogger l')

/-- The state after a step, whether it fails or not. -/
def afterStep {α : Type} (f : GameState → Except GameError (α × GameState)) (s : GameState) :
    GameState :=
  match f s with
  | .ok (_, s') => s'
  | .error _ => s

theorem blind_afterStep {α : Type} {f : GameState → Except GameError (α × GameState)}
    (h : BlindStep f) : Blind (afterStep f) := by
  intro s l
  obtain ⟨l', hl'⟩ := h s l
  unfold afterStep
  rw [hl']
  cases f s with
  | ok a => exact ⟨l', rfl⟩
  | error e => exact ⟨l, rfl⟩

variable {s : GameState} {l : Logger}

theorem drawOne_unlogged (id : PlayerId) (p : Player) :
    ∃ l', (s.withLogger l).drawOne id p =
      ((s.drawOne id p).1, (s.drawOne id p).2.withLogger l') := by
  by_cases h : 0 < if p.zones.deck.isEmpty then p.zones.discard.length else 0
  · simp only [drawOne, if_pos h]
    exact ⟨_, rfl⟩
  · simp only [drawOne, if_neg h]
    exact ⟨_, rfl⟩

@[simp] theorem withLogger_player? (id : PlayerId) :
    (s.withLogger l).player? id = s.player? id := rfl

@[simp] theorem withLogger_card? (id : CardId) : (s.withLogger l).card? id = s.card? id := rfl

@[simp] theorem withLogger_supply : (s.withLogger l).supply = s.supply := rfl

@[simp] theorem withLogger_pileCost? (pile : String) :
    (s.withLogger l).pileCost? pile = s.pileCost? pile := rfl

@[simp] theorem withLogger_grants (kind : AttackImmunity) :
    (s.withLogger l).grants kind = s.grants kind := rfl

theorem drawEach_blind (id : PlayerId) (count : Nat) : BlindStep (drawEach id count) := by
  induction count with
  | zero => exact fun _ l => ⟨l, rfl⟩
  | succ count ih =>
    intro s l
    cases hp : s.player? id with
    | none =>
      simp only [drawEach, withLogger_player?, hp]
      exact ⟨l, rfl⟩
    | some p =>
      obtain ⟨l₁, h₁⟩ := drawOne_unlogged (s := s) (l := l) id p
      simp only [drawEach, withLogger_player?, hp, h₁]
      rcases s.drawOne id p with ⟨_ | card, s₁⟩
      · exact ⟨l₁, rfl⟩
      · obtain ⟨l₂, h₂⟩ := ih s₁ l₁
        simp only [h₂]
        cases drawEach id count s₁ <;> exact ⟨l₂, rfl⟩

theorem draw_blind (id : PlayerId) (count : Nat) : BlindStep (·.draw id count) := by
  intro s l
  obtain ⟨l₁, h₁⟩ := drawEach_blind id count s l
  simp only [draw, h₁]
  cases drawEach id count s with
  | error e => exact ⟨l, rfl⟩
  | ok drawn =>
    rcases drawn with ⟨_ | ⟨card, cards⟩, s₁⟩
    · exact ⟨l₁, rfl⟩
    · exact ⟨_, rfl⟩

theorem topCards_blind (id : PlayerId) (n : Nat) : BlindStep (·.topCards id n) := by
  intro s l
  cases hp : s.player? id with
  | none =>
    simp only [topCards, withLogger_player?, hp]
    exact ⟨l, rfl⟩
  | some p =>
    simp only [topCards, withLogger_player?, hp]
    by_cases h : 0 < if p.zones.deck.length < n then p.zones.discard.length else 0
    · simp only [if_pos h]
      exact ⟨_, rfl⟩
    · simp only [if_neg h]
      exact ⟨_, rfl⟩

theorem move_blind (card : CardId) (id : PlayerId) (target : Zone) (position : Position) :
    BlindStep (·.move card id target position) := by
  intro s l
  cases hp : s.player? id with
  | none =>
    simp only [move, withLogger_player?, hp]
    exact ⟨l, rfl⟩
  | some p =>
    simp only [move, withLogger_player?, hp]
    cases p.zones.locate card with
    | none => exact ⟨_, rfl⟩
    | some source =>
      dsimp only
      cases (p.toTableau.transfer card source target position).1 <;> exact ⟨_, rfl⟩

end GameState

namespace Engine

open GameState (Blind BlindStep afterStep blind_afterStep)

variable {α β : Type}

theorem runOn_step (f : GameState → Except GameError (α × GameState)) (g : Game M) :
    (step f).runOn g =
      (((f g.state).mapError Halt.error).map Prod.fst,
        { g with state := afterStep f g.state }) := by
  rw [step, runOn_bind]
  change (Engine.lift (f g.state) >>= _).runOn g = _
  rw [runOn_bind]
  unfold afterStep
  cases f g.state <;> rfl

/-- From coupled games the two computations give the same value or stop for the same reason, and
leave coupled games. Only the second may stop before, and then `E` holds of why and where it does. -/
def Coupled (R : Game M → Game N → Prop) (E : Halt → Game N → Prop) (e : Engine M α)
    (e' : Engine N α) : Prop :=
  ∀ g g', R g g' →
    ((e'.runOn g').1 = (e.runOn g).1 ∧ R (e.runOn g).2 (e'.runOn g').2) ∨
      ∃ r g₁, e'.runOn g' = (.error r, g₁) ∧ E r g₁

namespace Coupled

variable {R : Game M → Game N → Prop} {E : Halt → Game N → Prop}

/-- If there is nothing that the second might stop for. -/
theorem alike {e : Engine M α} {e' : Engine N α} (h : Coupled R (fun _ _ => False) e e')
    {g : Game M} {g' : Game N} (hg : R g g') :
    (e'.runOn g').1 = (e.runOn g).1 ∧ R (e.runOn g).2 (e'.runOn g').2 :=
  (h g g' hg).resolve_right fun ⟨_, _, _, hnever⟩ => hnever

/-- From one game: if the second is never stopped before, the two run alike. -/
theorem sameRun {e e' : Engine M α} {g : Game M} {Q : α → Game M → Prop}
    {E : Halt → Game M → Prop} (h : Coupled Eq (fun r g => ¬ E r g) e e') (he : Ensures e' g Q E) :
    SameRun e e' g Q := by
  have heq : e.runOn g = e'.runOn g := by
    rcases h g g rfl with ⟨hvalue, hgame⟩ | ⟨r, g₁, hstop, hr⟩
    · exact Prod.ext hvalue.symm hgame
    · exact absurd (he.stopped hstop) hr
  exact ⟨heq, Ensures.of_runOn heq.symm (he.mono (fun _ _ h => h) fun _ _ _ => trivial)⟩

/-- Then what is shown of the first holds of the second. -/
theorem transfer {e e' : Engine M α} {g : Game M} {Q Q' : α → Game M → Prop}
    {E E' : Halt → Game M → Prop} (h : Coupled Eq (fun r g => ¬ E r g) e e') (he : Ensures e' g Q E)
    (hfirst : Ensures e g Q' E') : Ensures e' g (fun a g' => Q a g' ∧ Q' a g') E :=
  (he.and (Ensures.of_runOn (h.sameRun he).1 hfirst)).mono (fun _ _ h => h) fun _ _ h => h.1

theorem pure (a : α) : Coupled R E (Pure.pure a) (Pure.pure a) := fun _ _ hg => .inl ⟨rfl, hg⟩

theorem throw (h : Halt) : Coupled R E (throwThe Halt h : Engine M α) (throwThe Halt h) :=
  fun _ _ hg => .inl ⟨rfl, hg⟩

theorem fail (error : GameError) : Coupled R E (Engine.fail error : Engine M α) (Engine.fail error) :=
  fun _ _ hg => .inl ⟨rfl, hg⟩

theorem lift (x : Except GameError α) : Coupled R E (Engine.lift x) (Engine.lift x) := by
  cases x with
  | ok a => exact pure a
  | error e => exact fail e

theorem bind {e : Engine M α} {e' : Engine N α} {k : α → Engine M β} {k' : α → Engine N β}
    (h : Coupled R E e e') (hk : ∀ a, Coupled R E (k a) (k' a)) : Coupled R E (e >>= k) (e' >>= k') := by
  intro g g' hg
  rcases h g g' hg with hrun | ⟨r, g₁, hstop, hr⟩
  · unfold Coupled at hk
    simp only [runOn_bind]
    generalize e.runOn g = run, e'.runOn g' = run' at hrun
    obtain ⟨r, g₁⟩ := run
    obtain ⟨r', g₁'⟩ := run'
    obtain ⟨rfl, hgames⟩ : r' = r ∧ R g₁ g₁' := hrun
    cases r' with
    | ok a => exact hk a g₁ g₁' hgames
    | error _ => exact .inl ⟨rfl, hgames⟩
  · refine .inr ⟨r, g₁, ?_, hr⟩
    rw [runOn_bind, hstop]

theorem map {e : Engine M α} {e' : Engine N α} (k : α → β) (h : Coupled R E e e') :
    Coupled R E (k <$> e) (k <$> e') := by
  rw [← bind_pure_comp, ← bind_pure_comp]
  exact h.bind fun a => pure (k a)

theorem ite {c : Prop} [Decidable c] {e₁ e₂ : Engine M α} {e₁' e₂' : Engine N α}
    (h₁ : Coupled R E e₁ e₁') (h₂ : Coupled R E e₂ e₂') :
    Coupled R E (if c then e₁ else e₂) (if c then e₁' else e₂') := by
  by_cases hc : c
  · rw [if_pos hc, if_pos hc]
    exact h₁
  · rw [if_neg hc, if_neg hc]
    exact h₂

theorem forM {k : α → Engine M PUnit} {k' : α → Engine N PUnit} (h : ∀ a, Coupled R E (k a) (k' a))
    (xs : List α) : Coupled R E (xs.forM k) (xs.forM k') := by
  induction xs with
  | nil => exact pure _
  | cons x rest ih => exact bind (h x) fun _ => ih

theorem keepers {run : α → Engine M Bool} {run' : α → Engine N Bool}
    (h : ∀ a, Coupled R E (run a) (run' a)) (xs : List α) :
    Coupled R E (Engine.keepers run xs) (Engine.keepers run' xs) := by
  induction xs with
  | nil => exact pure _
  | cons x rest ih => exact bind (h x) fun _ => bind ih fun _ => pure _

theorem filterM {p : α → Engine M Bool} {p' : α → Engine N Bool}
    (h : ∀ a, Coupled R E (p a) (p' a)) (xs : List α) : Coupled R E (xs.filterM p) (xs.filterM p') := by
  rw [filterM_eq_keepers, filterM_eq_keepers]
  exact keepers h xs

variable [Controllers M] [Controllers N] (hR : Coupling R)
include hR

/-- What is done with the state may depend on all of it but the log book. -/
theorem reads {k : GameState → Engine M α} {k' : GameState → Engine N α}
    (h : ∀ s l, Coupled R E (k s) (k' (s.withLogger l))) :
    Coupled R E (Engine.state >>= k) (Engine.state >>= k') := by
  intro g g' hg
  obtain ⟨l, hl⟩ := hR.unlogged hg
  have hrun : (Engine.state >>= k').runOn g' = (k' (g.state.withLogger l)).runOn g' := by
    rw [← hl]
    rfl
  rw [hrun]
  exact h g.state l g g' hg

theorem modifyState {change : GameState → GameState} (h : Blind change) :
    Coupled R E (Engine.modifyState change) (Engine.modifyState change) :=
  fun _ _ hg => .inl ⟨rfl, hR.change h hg⟩

theorem publish (id : PlayerId) (kind : EventKind) :
    Coupled R E (Engine.publish id kind) (Engine.publish id kind) :=
  modifyState hR (GameState.blind_publish id kind)

theorem warn (message : String) : Coupled R E (Engine.warn message) (Engine.warn message) :=
  modifyState hR (GameState.blind_onLogger _)

theorem verbose (message : String) : Coupled R E (Engine.verbose message) (Engine.verbose message) :=
  modifyState hR (GameState.blind_onLogger _)

theorem step {f : GameState → Except GameError (α × GameState)} (h : BlindStep f) :
    Coupled R E (Engine.step f) (Engine.step f) := by
  intro g g' hg
  obtain ⟨l, hl⟩ := hR.unlogged hg
  obtain ⟨l', hl'⟩ := h g.state l
  have hafter := hR.change (blind_afterStep h) hg
  rw [runOn_step, runOn_step]
  refine .inl ⟨?_, hafter⟩
  rw [hl, hl']
  cases f g.state <;> rfl

/-! ### Players and cards -/

theorem player (id : PlayerId) : Coupled R E (Engine.player id) (Engine.player id) := by
  refine reads hR fun s l => ?_
  rw [GameState.withLogger_player?]
  cases s.player? id with
  | some p => exact pure p
  | none => exact fail _

theorem card (id : CardId) : Coupled R E (Engine.card id) (Engine.card id) := by
  refine reads hR fun s l => ?_
  rw [GameState.withLogger_card?]
  cases s.card? id with
  | some c => exact pure c
  | none => exact fail _

theorem definition (id : CardId) : Coupled R E (Engine.definition id) (Engine.definition id) :=
  bind (card hR id) fun _ => pure _

theorem modifyPlayer (id : PlayerId) (change : Player → Player) :
    Coupled R E (Engine.modifyPlayer id change) (Engine.modifyPlayer id change) :=
  bind (player hR id) fun _ => modifyState hR fun _ _ => ⟨_, rfl⟩

/-! ### Asking -/

theorem ask (id : PlayerId) (q : Question) : Coupled R E (Engine.ask id q) (Engine.ask id q) := by
  intro g g' hg
  obtain ⟨l, hl⟩ := hR.unlogged hg
  obtain ⟨hanswer, hgames⟩ := hR.asked hg id q
  have hplayers : g'.state.players = g.state.players := by
    rw [hl]
    rfl
  rw [runOn_ask, runOn_ask, hplayers]
  by_cases hid : id.seat < g.state.players.length
  · rw [if_pos hid, if_pos hid]
    exact .inl ⟨congrArg Except.ok hanswer, hgames⟩
  · rw [if_neg hid, if_neg hid]
    exact .inl ⟨rfl, hg⟩

theorem askTimes (id : PlayerId) (q : Question) (what : String)
    (accept : q.Answer → Option β) (n : Nat) :
    Coupled R E (Engine.askTimes id q what accept n) (Engine.askTimes id q what accept n) := by
  induction n with
  | zero => exact fail _
  | succ n ih =>
    refine bind (ask hR id q) fun answer => ?_
    cases accept answer with
    | some b => exact pure b
    | none => exact bind (warn hR _) fun _ => ih

theorem chooseAction (id : PlayerId) (playable : List CardId) :
    Coupled R E (Engine.chooseAction id playable) (Engine.chooseAction id playable) :=
  askTimes hR _ _ _ _ _

theorem chooseTreasures (id : PlayerId) (playable : List CardId) :
    Coupled R E (Engine.chooseTreasures id playable) (Engine.chooseTreasures id playable) :=
  askTimes hR _ _ _ _ _

theorem choosePurchase (id : PlayerId) (buyable : List String) :
    Coupled R E (Engine.choosePurchase id buyable) (Engine.choosePurchase id buyable) :=
  askTimes hR _ _ _ _ _

theorem chooseCards (id : PlayerId) (choice : CardChoice) :
    Coupled R E (Engine.chooseCards id choice) (Engine.chooseCards id choice) :=
  ite (pure _) (ite (pure _) (askTimes hR _ _ _ _ _))

theorem choosePile (id : PlayerId) (prompt : String)
    (source : Option CardId) (eligible : PileOffer → Bool) :
    Coupled R E (Engine.choosePile id prompt source eligible)
      (Engine.choosePile id prompt source eligible) :=
  reads hR fun _ _ => ite (pure _) (askTimes hR _ _ _ _ _)

theorem chooseOptions (id : PlayerId) (choice : OptionChoice) :
    Coupled R E (Engine.chooseOptions id choice) (Engine.chooseOptions id choice) :=
  ite (pure _) (ite (pure _) (askTimes hR _ _ _ _ _))

theorem chooseInteger (id : PlayerId) (choice : IntegerChoice) :
    Coupled R E (Engine.chooseInteger id choice) (Engine.chooseInteger id choice) :=
  bind (ask hR id _) fun _ => pure _

theorem notifyGameOver (winners : List PlayerId) :
    Coupled R E (Engine.notifyGameOver winners) (Engine.notifyGameOver winners) := by
  refine reads hR fun s l => forM (fun id g g' hg => ?_) _
  exact .inl ⟨rfl, hR.told hg id (winners.contains id)⟩

/-! ### Operations -/

theorem reveal (cards : List CardId) (id : PlayerId) :
    Coupled R E (Engine.reveal cards id) (Engine.reveal cards id) :=
  ite (pure _) (reads hR fun _ _ => publish hR _ _)

theorem recover (card : CardId) (id : PlayerId) :
    Coupled R E (Engine.recover card id) (Engine.recover card id) := by
  refine reads hR fun s _ => ite ?_ (pure _)
  refine bind (modifyPlayer hR _ _) fun _ => bind (modifyState hR fun _ _ => ⟨_, rfl⟩) fun _ => ?_
  exact reads hR fun _ _ => publish hR _ _

theorem blocksAttack (target : PlayerId) (attack : CardId) :
    Coupled R E (Engine.blocksAttack target attack) (Engine.blocksAttack target attack) := by
  refine bind (player hR target) fun p => reads hR fun s l => ?_
  simp only [GameState.withLogger_grants]
  cases p.hand.find? (s.grants .revealFromHand) with
  | some card => exact bind (reveal hR _ _) fun _ => bind (publish hR _ _) fun _ => pure _
  | none => exact ite (bind (verbose hR _) fun _ => pure _) (pure _)

theorem addCostModifier (modifier : CardFace → Int) :
    Coupled R E (Engine.addCostModifier modifier) (Engine.addCostModifier modifier) :=
  modifyState hR fun _ _ => ⟨_, rfl⟩

theorem addDuration (id : CardId) (callback : EffectContext → Program) :
    Coupled R E (Engine.addDuration id callback) (Engine.addDuration id callback) :=
  bind (card hR id) fun _ => modifyState hR fun _ _ => ⟨_, rfl⟩

section

variable {provoke : Program → Engine M Bool} {provoke' : Program → Engine N Bool}
  (hprovoke : ∀ p, Coupled R E (provoke p) (provoke' p))
include hprovoke

omit [Controllers M] [Controllers N] hR in
theorem executeAll (effects : List Effect) (ctx : EffectContext) :
    Coupled R E (Engine.executeAll provoke effects ctx) (Engine.executeAll provoke' effects ctx) :=
  ite (pure _) (bind (hprovoke _) fun _ => pure _)

theorem fireReactions (trigger : ReactionTrigger) :
    Coupled R E (Engine.fireReactions provoke trigger) (Engine.fireReactions provoke' trigger) := by
  refine reads hR fun s _ => bind (lift _) fun found => forM (fun c => ?_) found
  exact bind (player hR _) fun _ => ite (bind (hprovoke _) fun _ => pure _) (pure _)

theorem firePlayTriggers (id : PlayerId) (card : CardId) :
    Coupled R E (Engine.firePlayTriggers provoke id card)
      (Engine.firePlayTriggers provoke' id card) := by
  refine bind (player hR id) fun p => bind (modifyPlayer hR _ _) fun _ => ?_
  exact bind (keepers (fun _ => hprovoke _) _) fun _ => modifyPlayer hR _ _

theorem fireDurations (id : PlayerId) :
    Coupled R E (Engine.fireDurations provoke id) (Engine.fireDurations provoke' id) := by
  refine bind (player hR id) fun p => reads hR fun s _ => forM (fun holder => ?_) _
  refine bind (card hR holder) fun c => bind (modifyState hR fun _ _ => ⟨_, rfl⟩) fun _ => ?_
  refine bind (keepers (fun _ => hprovoke _) _) fun _ => ?_
  exact bind (Coupled.card hR holder) fun _ => modifyState hR fun _ _ => ⟨_, rfl⟩

theorem play (id : CardId) (owner : PlayerId) :
    Coupled R E (Engine.play provoke id owner) (Engine.play provoke' id owner) := by
  refine bind (definition hR id) fun d => bind (player hR owner) fun p => ?_
  cases p.toTableau.remove? id with
  | none => exact warn hR _
  | some found =>
    refine bind (modifyState hR fun _ _ => ⟨_, rfl⟩) fun _ => bind (publish hR _ _) fun _ => ?_
    exact firePlayTriggers hR hprovoke owner id

theorem resolve (id : CardId) (owner : PlayerId) :
    Coupled R E (Engine.resolve provoke id owner) (Engine.resolve provoke' id owner) :=
  bind (definition hR id) fun _ => executeAll hprovoke _ _

theorem gain (pile : String) (owner : PlayerId) (bought : Bool) (destination : GainDestination) :
    Coupled R E (Engine.gain provoke pile owner bought destination)
      (Engine.gain provoke' pile owner bought destination) := by
  refine reads hR fun s l => ?_
  rw [GameState.withLogger_supply]
  cases s.supply.pile? pile with
  | none => exact fail _
  | some p =>
    dsimp only
    cases p.top? with
    | none => exact fail _
    | some id =>
      refine bind (modifyState hR fun _ _ => ⟨_, rfl⟩) fun _ => ?_
      refine bind (modifyPlayer hR _ _) fun _ => ?_
      refine bind (publish hR _ _) fun _ => bind (definition hR id) fun d => ?_
      refine bind (executeAll hprovoke _ _) fun _ => bind (player hR owner) fun p => ?_
      refine bind (forM (fun _ => bind (hprovoke _) fun _ => pure _) _) fun _ => ?_
      exact bind (fireReactions hR hprovoke _) fun _ => pure _

theorem gainIfAvailable (pile : String) (owner : PlayerId) (destination : GainDestination) :
    Coupled R E (Engine.gainIfAvailable provoke pile owner destination)
      (Engine.gainIfAvailable provoke' pile owner destination) := by
  refine reads hR fun s _ => ite (bind (verbose hR _) fun _ => pure _) ?_
  exact map _ (gain hR hprovoke _ _ _ _)

theorem buy (pile : String) (owner : PlayerId) :
    Coupled R E (Engine.buy provoke pile owner) (Engine.buy provoke' pile owner) := by
  refine reads hR fun s l => ?_
  rw [GameState.withLogger_pileCost?]
  cases s.pileCost? pile with
  | none => exact fail _
  | some cost =>
    refine bind (gain hR hprovoke _ _ _ _) fun _ => ?_
    exact bind (modifyPlayer hR _ _) fun _ => pure _

theorem discard (id : CardId) (owner : PlayerId) :
    Coupled R E (Engine.discard provoke id owner) (Engine.discard provoke' id owner) := by
  refine reads hR fun s _ => bind (player hR owner) fun p => ?_
  cases p.toTableau.remove? id with
  | none => exact bind (warn hR _) fun _ => pure _
  | some found =>
    refine bind (modifyState hR fun _ _ => ⟨_, rfl⟩) fun _ => bind (publish hR _ _) fun _ => ?_
    exact bind (fireReactions hR hprovoke _) fun _ => pure _

theorem trash (id : CardId) (owner : PlayerId) :
    Coupled R E (Engine.trash provoke id owner) (Engine.trash provoke' id owner) := by
  refine bind (definition hR id) fun d => bind (player hR owner) fun p => ?_
  cases p.toTableau.remove? id with
  | none => exact bind (warn hR _) fun _ => pure _
  | some found =>
    refine bind (modifyState hR fun _ _ => ⟨_, rfl⟩) fun _ => bind (publish hR _ _) fun _ => ?_
    exact bind (executeAll hprovoke _ _) fun _ => pure _

end

/-! ### Programs -/

theorem perform {provoke : Program → Engine M Bool} {provoke' : Program → Engine N Bool}
    (hprovoke : ∀ p, Coupled R E (provoke p) (provoke' p)) (c : Call) :
    Coupled R E (Engine.perform provoke c) (Engine.perform provoke' c) := by
  cases c with
  | draw => exact step hR (GameState.draw_blind _ _)
  | topCards => exact step hR (GameState.topCards_blind _ _)
  | move => exact step hR (GameState.move_blind _ _ _ _)
  | discard => exact discard hR hprovoke _ _
  | trash => exact trash hR hprovoke _ _
  | recover => exact recover hR _ _
  | reveal => exact reveal hR _ _
  | play => exact play hR hprovoke _ _
  | resolve => exact resolve hR hprovoke _ _
  | gain => exact gain hR hprovoke _ _ _ _
  | gainIfAvailable => exact gainIfAvailable hR hprovoke _ _ _
  | buy => exact buy hR hprovoke _ _
  | credit => exact modifyPlayer hR _ _
  | addCostModifier => exact addCostModifier hR _
  | costOf => exact reads hR fun _ _ => bind (definition hR _) fun _ => pure _
  | opponents => exact reads hR fun _ _ => pure _
  | blocksAttack => exact blocksAttack hR _ _
  | chooseCards => exact chooseCards hR _ _
  | choosePile => exact choosePile hR _ _ _ _
  | chooseBoolean => exact ask hR _ _
  | chooseOptions => exact chooseOptions hR _ _
  | chooseInteger => exact chooseInteger hR _ _
  | note => exact verbose hR _

/-- A program whose calls are carried out in coupled ways. -/
theorem interpret {call : (c : Call) → Engine M c.Answer} {call' : (c : Call) → Engine N c.Answer}
    (hcall : ∀ c, Coupled R E (call c) (call' c)) (p : Program) :
    Coupled R E (Engine.interpret call p) (Engine.interpret call' p) := by
  induction p with
  | finish keep => exact pure keep
  | fail e => exact fail e
  | look next ih => exact reads hR fun s _ => ih _
  | call c next ih => exact bind (hcall c) fun a => ih a
  | addDuration card callback next _ ih => exact bind (addDuration hR _ _) fun _ => ih
  | addGainTrigger id callback next _ ih => exact bind (modifyPlayer hR _ _) fun _ => ih
  | addPlayTrigger id callback next _ ih => exact bind (modifyPlayer hR _ _) fun _ => ih

theorem runWithin (depth : Nat) (p : Program) :
    Coupled R E (Engine.runWithin depth p) (Engine.runWithin depth p) := by
  induction depth generalizing p with
  | zero => exact throw _
  | succ depth ih => exact interpret hR (perform hR ih) p

theorem run (p : Program) : Coupled R E (Engine.run p) (Engine.run p) :=
  reads hR fun _ _ => runWithin hR _ p

/-! ### Turns -/

theorem startTurn : Coupled R E Engine.startTurn Engine.startTurn := by
  refine bind (reads hR fun _ _ => pure _) fun id => ?_
  refine bind (modifyState hR fun _ _ => ⟨_, rfl⟩) fun _ => bind (modifyPlayer hR _ _) fun _ => ?_
  refine bind (publish hR _ _) fun _ => bind (fireDurations hR (run hR) id) fun _ => ?_
  exact fireReactions hR (run hR) _

theorem handWhere (id : PlayerId) (p : CardFace → Bool) :
    Coupled R E (Engine.handWhere id p) (Engine.handWhere id p) :=
  bind (player hR id) fun _ => filterM (fun c => bind (card hR c) fun _ => pure _) _

theorem actionPhase (id : PlayerId) (n : Nat) :
    Coupled R E (Engine.actionPhase id n) (Engine.actionPhase id n) := by
  induction n with
  | zero => exact throw _
  | succ n ih =>
    refine bind (player hR id) fun p => ite (pure _) ?_
    refine bind (handWhere hR _ _) fun playable => ite (pure _) ?_
    refine bind (chooseAction hR _ _) fun choice => ?_
    cases choice with
    | none => exact pure _
    | some card =>
      refine bind (modifyPlayer hR _ _) fun _ => bind (play hR (run hR) _ _) fun _ => ?_
      exact bind (resolve hR (run hR) _ _) fun _ => ih

theorem treasurePhase (id : PlayerId) (n : Nat) :
    Coupled R E (Engine.treasurePhase id n) (Engine.treasurePhase id n) := by
  induction n with
  | zero => exact throw _
  | succ n ih =>
    refine bind (handWhere hR _ _) fun playable => ite (pure _) ?_
    refine bind (chooseTreasures hR _ _) fun choice => ?_
    cases choice with
    | none => exact pure _
    | some cards =>
    cases cards with
    | nil => exact pure _
    | cons first rest =>
      refine bind (forM (fun card => ?_) _) fun _ => ih
      exact bind (play hR (run hR) _ _) fun _ => resolve hR (run hR) _ _

theorem purchases (id : PlayerId) (n : Nat) :
    Coupled R E (Engine.purchases id n) (Engine.purchases id n) := by
  induction n with
  | zero => exact throw _
  | succ n ih =>
    refine reads hR fun s _ => ite (pure _) ?_
    refine bind (choosePurchase hR _ _) fun choice => ?_
    cases choice with
    | none => exact pure _
    | some pile =>
      refine bind (buy hR (run hR) _ _) fun _ => bind (player hR id) fun p => ?_
      exact bind (verbose hR _) fun _ => ih

theorem buyPhase (id : PlayerId) : Coupled R E (Engine.buyPhase id) (Engine.buyPhase id) := by
  refine bind (modifyState hR fun _ _ => ⟨_, rfl⟩) fun _ => reads hR fun s _ => ?_
  exact bind (treasurePhase hR _ _) fun _ => reads hR fun _ _ => purchases hR _ _

theorem cleanUp : Coupled R E Engine.cleanUp Engine.cleanUp := by
  refine bind (reads hR fun _ _ => pure _) fun id => ?_
  refine bind (modifyState hR fun _ _ => ⟨_, rfl⟩) fun _ => ?_
  refine bind (player hR id) fun p => bind (forM (fun c => ?_) _) fun _ => ?_
  · refine bind (definition hR c) fun d => bind (player hR id) fun p => ?_
    exact ite (executeAll (run hR) _ _) (pure _)
  refine bind (player hR id) fun p => bind (filterM (fun c => ?_) _) fun done => ?_
  · exact bind (card hR c) fun _ => pure _
  refine bind (modifyPlayer hR _ _) fun _ => bind (publish hR _ _) fun _ => ?_
  refine bind (step hR (GameState.draw_blind _ _)) fun _ => ?_
  exact bind (modifyPlayer hR _ _) fun _ => modifyState hR fun _ _ => ⟨_, rfl⟩

theorem finish (turns : Nat) (reason : EndReason) :
    Coupled R E (Engine.finish turns reason) (Engine.finish turns reason) :=
  reads hR fun _ _ => bind (lift _) fun _ => reads hR fun _ _ => bind (lift _) fun _ =>
    bind (publish hR _ _) fun _ => pure _

theorem playTurn (maxTurns elapsed : Nat) :
    Coupled R E (Engine.playTurn maxTurns elapsed) (Engine.playTurn maxTurns elapsed) := by
  refine bind (startTurn hR) fun _ => bind (reads hR fun _ _ => pure _) fun id => ?_
  refine reads hR fun s _ => bind (actionPhase hR _ _) fun _ => ?_
  refine bind (buyPhase hR id) fun _ => bind (cleanUp hR) fun _ => reads hR fun s _ => ?_
  exact ite (map _ (finish hR _ _)) (ite (map _ (finish hR _ _)) (pure _))

theorem playOn (maxTurns n elapsed : Nat) :
    Coupled R E (Engine.playOn maxTurns n elapsed) (Engine.playOn maxTurns n elapsed) := by
  induction n generalizing elapsed with
  | zero => exact throw _
  | succ n ih =>
    refine bind (playTurn hR maxTurns elapsed) fun result => ?_
    cases result with
    | some result => exact bind (notifyGameOver hR _) fun _ => pure _
    | none => exact ih _

theorem playGame (maxTurns : Nat) :
    Coupled R E (Engine.playGame maxTurns) (Engine.playGame maxTurns) :=
  playOn hR _ _ _

theorem playTurns (maxTurns n elapsed : Nat) :
    Coupled R E (Engine.playTurns maxTurns n elapsed) (Engine.playTurns maxTurns n elapsed) := by
  induction n generalizing elapsed with
  | zero => exact reads hR fun _ _ => bind (lift _) fun _ => pure _
  | succ n ih =>
    refine bind (playTurn hR maxTurns elapsed) fun result => ?_
    cases result with
    | some result => exact pure _
    | none => exact ih _

end Coupled
end Engine
end DeckBuilder
