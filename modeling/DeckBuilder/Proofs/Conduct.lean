import DeckBuilder.Proofs.Seated
import DeckBuilder.Proofs.Moves
import DeckBuilder.Engine.Turn

/-!
Everything that the engine does is a sequence of changes, whether it comes to its end or stops with
an error on the way, and whatever the controllers answer. It is shown for each operation, for the
programs that operations provoke, by induction on the depth and on the program, and from there for
calls, effects and turns.
-/
namespace DeckBuilder

/-- A state at a table of `n` in which all effects gain cards only for players at the table. -/
structure GameState.Seated (n : Nat) (s : GameState) : Prop where
  seats : s.players.length = n
  sound : s.Sound
  hooks : (Hooks.seated n).Allow s
  rules : ∀ id c, s.card? id = some c → c.definition.Seated n

theorem Changes.seated {n : Nat} {s s' : GameState} (h : Changes (Hooks.seated n) s s')
    (hs : s.Seated n) : s'.Seated n where
  seats := h.kept.seats.trans hs.seats
  sound := h.sound hs.sound
  hooks := h.allow hs.hooks
  rules := by
    intro id c hc
    obtain ⟨before, hbefore, hdef⟩ := h.kept.carded_before hc
    rw [← hdef]
    exact hs.rules id before hbefore

namespace Engine

variable {M : Type} {α β : Type} {n : Nat}

/-- The games that come from a state by changes. -/
def Reached (M : Type) (n : Nat) (s₀ : GameState) (g : Game M) : Prop :=
  Changes (Hooks.seated n) s₀ g.state

theorem reached_change {s₀ s' : GameState} {g : Game M} (h : Reached M n s₀ g)
    (hc : Change (Hooks.seated n) g.state s') (m : M) : Reached M n s₀ ⟨s', m⟩ :=
  Relation.ReflTransGen.tail h hc

theorem reached_steady {s₀ : GameState} (hs : s₀.Seated n) :
    Steady (Hooks.seated n) s₀ (Reached M n s₀) where
  sound := hs.sound
  allow := hs.hooks
  changes := fun _ h => h
  still := fun g _ h hc _ => reached_change h hc g.memory
  draw := fun g id p h hp => reached_change h (.draw g.state id p hp) g.memory
  peek := fun g id k cards s' h ht => reached_change h (.peek g.state s' id k cards ht) g.memory

variable (n) in
/-- From every game the computation only makes changes, whatever becomes of it. -/
def Acts (e : Engine M α) (Q : α → Prop) : Prop :=
  ∀ s₀ : GameState, s₀.Seated n → ∀ g, Reached M n s₀ g →
    Ensures e g (fun a g' => Reached M n s₀ g' ∧ Q a) (fun _ => Reached M n s₀)

namespace Acts

variable {Q : α → Prop}

theorem bind {R : β → Prop} {e : Engine M α} {f : α → Engine M β} (he : Acts n e Q)
    (hf : ∀ a, Q a → Acts n (f a) R) : Acts n (e >>= f) R := by
  intro s₀ hs g h
  rw [ensures_bind]
  exact (he s₀ hs g h).imp fun a g' h' => hf a h'.2 s₀ hs g' h'.1

theorem imp {Q' : α → Prop} {e : Engine M α} (he : Acts n e Q) (hQ : ∀ a, Q a → Q' a) :
    Acts n e Q' :=
  fun s₀ hs g h => (he s₀ hs g h).imp fun a _ h' => ⟨h'.1, hQ a h'.2⟩

theorem pure {a : α} (h : Q a) : Acts n (Pure.pure a : Engine M α) Q :=
  fun _ _ _ hr => ⟨hr, h⟩

theorem throw {r : Halt} : Acts n (MonadExcept.throw r : Engine M α) Q := fun _ _ _ hr => hr

theorem fail {error : GameError} : Acts n (Engine.fail error : Engine M α) Q := fun _ _ _ hr => hr

theorem ite {c : Prop} [Decidable c] {e e' : Engine M α} (he : c → Acts n e Q)
    (he' : ¬ c → Acts n e' Q) : Acts n (if c then e else e') Q := by
  intro s₀ hs g h
  rw [ensures_ite]
  exact ⟨fun hc => he hc s₀ hs g h, fun hc => he' hc s₀ hs g h⟩

/-- The state can be looked at, and it is one of a sound game. -/
theorem state : Acts n (Engine.state : Engine M GameState) (GameState.Seated n) :=
  fun _ hs _ hr => ⟨hr, Changes.seated hr hs⟩

theorem forM {f : α → Engine M PUnit} {xs : List α} (hf : ∀ a ∈ xs, Acts n (f a) fun _ => True) :
    Acts n (xs.forM f) fun _ => True := by
  induction xs with
  | nil => exact Acts.pure trivial
  | cons a rest ih =>
    change Acts n (f a >>= fun _ => rest.forM f) _
    exact (hf a List.mem_cons_self).bind fun _ _ =>
      ih fun b hb => hf b (List.mem_cons_of_mem _ hb)

theorem filterM {p : α → Engine M Bool} {xs : List α} (hp : ∀ a, Acts n (p a) fun _ => True) :
    Acts n (xs.filterM p) fun _ => True := by
  intro s₀ hs g h
  refine (ensures_filterM (I := Reached M n s₀) h ?_).imp ?_
  · intro a _ g' h'
    exact (hp a s₀ hs g' h').imp fun _ _ h'' => h''.1
  · intro ys g' h'
    exact ⟨h'.1, trivial⟩

/-- A step that keeps every steady assertion. -/
theorem of_steady {e : Engine M α}
    (h : ∀ s₀ : GameState, s₀.Seated n → ∀ g, Reached M n s₀ g →
      Ensures e g (fun _ => Reached M n s₀) (fun _ => Reached M n s₀)) :
    Acts n e fun _ => True :=
  fun s₀ hs g hr => (h s₀ hs g hr).imp fun _ _ hr' => ⟨hr', trivial⟩

/-- A step that does nothing without a player at the seat, and otherwise keeps every steady
assertion. -/
theorem of_seat {e : Engine M α} (id : PlayerId)
    (hnone : ∀ g : Game M, g.state.player? id = none →
      Ensures e g (fun _ g' => g' = g) (fun _ g' => g' = g))
    (h : ∀ s₀ : GameState, s₀.Seated n → ∀ g, Reached M n s₀ g →
      id.seat < g.state.players.length →
      Ensures e g (fun _ => Reached M n s₀) (fun _ => Reached M n s₀)) :
    Acts n e fun _ => True := by
  refine of_steady fun s₀ hs g hr => ?_
  cases hp : g.state.player? id with
  | none =>
    refine (hnone g hp).mono ?_ ?_
    · rintro _ _ rfl
      exact hr
    · rintro _ _ rfl
      exact hr
  | some p => exact h s₀ hs g hr (GameState.seat_lt_of_player? hp)

/-- A change of a player's counters or triggers. -/
theorem modifyPlayer {id : PlayerId} {f : Player → Player} (hid : ∀ p, (f p).id = p.id)
    (hturns : ∀ p, (f p).turns = p.turns) (hz : ∀ p, (f p).zones = p.zones)
    (hhooks : ∀ p, (Hooks.seated n).AllowPlayer p → (Hooks.seated n).AllowPlayer (f p)) :
    Acts n (Engine.modifyPlayer id f : Engine M Unit) fun _ => True := by
  refine of_steady fun s₀ hs g hr => ?_
  rw [ensures_modifyPlayer]
  cases hp : g.state.player? id with
  | none => exact hr
  | some p => exact (reached_steady hs).adjust hr hp (hid p) (hturns p) (hz p) (hhooks p)

end Acts

/-! ### Operations -/

theorem draw_acts (id : PlayerId) (count : Nat) :
    Acts n (draw id count : Engine M (List CardId)) fun _ => True := by
  refine Acts.of_seat id ?_ fun s₀ hs g hr hid => ensures_draw (reached_steady hs) hr hid
  intro g hp
  simp only [draw, ensures_step, GameState.draw]
  cases count with
  | zero => rfl
  | succ k =>
    simp only [GameState.drawEach, hp]
    trivial

theorem topCards_acts (id : PlayerId) (count : Nat) :
    Acts n (topCards id count : Engine M (List CardId)) fun _ => True := by
  refine Acts.of_seat id ?_ fun s₀ hs g hr hid => ensures_topCards (reached_steady hs) hr hid
  intro g hp
  simp only [topCards, ensures_step, GameState.topCards, hp]

theorem reveal_acts (cards : List CardId) (id : PlayerId) :
    Acts n (reveal cards id : Engine M Unit) fun _ => True :=
  Acts.of_steady fun _ hs _ hr => ensures_reveal (reached_steady hs).toFirm hr

theorem blocksAttack_acts (target : PlayerId) (attack : CardId) :
    Acts n (blocksAttack target attack : Engine M Bool) fun _ => True := by
  refine Acts.of_seat target ?_ fun s₀ hs g hr hid => ensures_blocksAttack (reached_steady hs).toFirm hr hid
  intro g hp
  simp only [blocksAttack, ensures_bind, ensures_player, hp]

theorem credit_acts (id : PlayerId) (counter : Counter) (k : Nat) :
    Acts n (modifyPlayer id (·.onTableau (·.credit k counter)) : Engine M Unit) fun _ => True := by
  refine Acts.modifyPlayer ?_ ?_ ?_ fun p hallow => ⟨hallow.gain, hallow.play⟩ <;> intro p <;>
    cases counter <;> rfl

/-- A card of the player goes elsewhere among the player's cards, or stays. -/
theorem move_acts (card : CardId) (id : PlayerId) (target : Zone) (position : Position) :
    Acts n (move card id target position : Engine M (Option Zone)) fun _ => True := by
  refine Acts.of_seat id ?_ fun s₀ hs g hr hid => ?_
  · intro g hp
    simp only [move, ensures_step, GameState.move, hp]
  · obtain ⟨p, hp⟩ := GameState.player?_of_lt hid
    refine ensures_move (reached_steady hs).toFirm hr hp fun source hloc => ?_
    refine reached_change hr (.arrange g.state id p _ hp ?_ ?_ ?_ ?_) g.memory
    · rfl
    · rfl
    · intro hm
      obtain ⟨hz, -⟩ := PlayerZones.mem_row_of_locate hm hloc
      refine ⟨hm.transfer card source target position, ?_⟩
      rw [List.perm_iff_count]
      exact PlayerZones.count_transfer hm card hz target position
    · exact fun hallow => ⟨hallow.gain, hallow.play⟩

theorem recover_acts (card : CardId) (id : PlayerId) :
    Acts n (recover card id : Engine M Unit) fun _ => True := by
  refine Acts.of_seat id ?_ fun s₀ hs g hr hid => ?_
  · intro g hp
    simp only [recover, ensures_bind, ensures_state]
    rw [ensures_ite]
    constructor
    · intro _
      simp only [ensures_bind, ensures_modifyPlayer, hp]
    · intro _
      rfl
  · obtain ⟨p, hp⟩ := GameState.player?_of_lt hid
    refine ensures_recover hr hp fun hcard name => ?_
    exact reached_change hr (.recover g.state id p card name hp hcard) g.memory

theorem addCostModifier_acts (modifier : CardFace → Int) :
    Acts n (addCostModifier modifier : Engine M Unit) fun _ => True :=
  Acts.of_steady fun _ hs _ hr => ensures_addCostModifier (reached_steady hs).toFirm hr

theorem verbose_acts (message : String) :
    Acts n (verbose message : Engine M Unit) fun _ => True :=
  Acts.of_steady fun _ hs _ hr => (reached_steady hs).verbose hr message

theorem addDuration_acts (card : CardId) {callback : EffectContext → Program}
    (hc : ∀ ctx, ctx.player.seat < n → (callback ctx).Seated n) :
    Acts n (addDuration card callback : Engine M Unit) fun _ => True := by
  refine Acts.of_steady fun s₀ hs g hr => ?_
  cases hk : g.state.card? card with
  | none =>
    simp only [addDuration, ensures_bind, ensures_card, hk]
    exact hr
  | some k => exact ensures_addDuration (reached_steady hs).toFirm hr hk hc

theorem addGainTrigger_acts (id : PlayerId) {callback : GainInfo → Program}
    (hc : ∀ info, GainInfo.Seated n info → (callback info).Seated n) :
    Acts n (addGainTrigger id callback : Engine M Unit) fun _ => True := by
  refine Acts.of_seat id ?_ fun s₀ hs g hr hid =>
    ensures_addGainTrigger (reached_steady hs).toFirm hr hid hc
  intro g hp
  simp only [addGainTrigger, ensures_modifyPlayer, hp]

theorem addPlayTrigger_acts (id : PlayerId) {callback : PlayerId → CardId → Program}
    (hc : ∀ id card, id.seat < n → (callback id card).Seated n) :
    Acts n (addPlayTrigger id callback : Engine M Unit) fun _ => True := by
  refine Acts.of_seat id ?_ fun s₀ hs g hr hid =>
    ensures_addPlayTrigger (reached_steady hs).toFirm hr hid hc
  intro g hp
  simp only [addPlayTrigger, ensures_modifyPlayer, hp]

/-! ### Questions -/

section Questions

variable [Controllers M]

/-- A controller can change nothing but the generator and the log book. -/
theorem ask_acts (id : PlayerId) (q : Question) :
    Acts n (ask id q : Engine M q.Answer) fun _ => True := by
  refine Acts.of_steady fun s₀ hs g hr => ?_
  rw [ask, ensures_bind]
  change Ensures (if id.seat < g.state.players.length then _ else _) g _ _
  rw [ensures_ite]
  constructor
  · intro _
    exact reached_change hr (.think g.state id _ _) _
  · intro _
    exact hr

theorem askUntil_acts {β : Type} (id : PlayerId) (q : Question) (what : String)
    (accept : q.Answer → Option β) :
    Acts n (askUntil id q what accept : Engine M β) fun _ => True := by
  refine Acts.of_steady fun s₀ hs g hr => ?_
  refine ensures_askTimes (I := fun _ => Reached M n s₀) hr ?_ fun g' hr' => hr'
  intro _ g hr
  refine (ask_acts (n := n) id q s₀ hs g hr).imp ?_
  rintro a g' ⟨hr', -⟩
  cases accept a with
  | some b => exact hr'
  | none => exact (reached_steady hs).warn hr' _

theorem chooseCards_acts (id : PlayerId) (choice : CardChoice) :
    Acts n (chooseCards id choice : Engine M (List CardId)) fun _ => True :=
  Acts.ite (fun _ => Acts.pure trivial) fun _ =>
    Acts.ite (fun _ => Acts.pure trivial) fun _ => askUntil_acts id _ _ _

theorem choosePile_acts (id : PlayerId) (prompt : String) (source : Option CardId)
    (eligible : PileOffer → Bool) :
    Acts n (choosePile id prompt source eligible : Engine M (Option String)) fun _ => True :=
  Acts.state.bind fun _ _ => Acts.ite (fun _ => Acts.pure trivial) fun _ => askUntil_acts id _ _ _

theorem chooseOptions_acts (id : PlayerId) (choice : OptionChoice) :
    Acts n (chooseOptions id choice : Engine M (List Nat)) fun _ => True :=
  Acts.ite (fun _ => Acts.pure trivial) fun _ =>
    Acts.ite (fun _ => Acts.pure trivial) fun _ => askUntil_acts id _ _ _

theorem chooseInteger_acts (id : PlayerId) (choice : IntegerChoice) :
    Acts n (chooseInteger id choice : Engine M Int) fun _ => True :=
  (ask_acts id (.integer choice)).bind fun _ _ => Acts.pure trivial

end Questions

/-! ### What is provoked -/

theorem player_acts (id : PlayerId) :
    Acts n (player id : Engine M Player) fun p => p.id = id ∧ id.seat < n := by
  intro s₀ hs g hr
  rw [ensures_player]
  cases hp : g.state.player? id with
  | none => exact hr
  | some p =>
    have hseated := Changes.seated hr hs
    exact ⟨hr, hseated.sound.seats id p hp, hseated.seats ▸ GameState.seat_lt_of_player? hp⟩

theorem card_acts (id : CardId) : Acts n (card id : Engine M Card) fun _ => True := by
  intro s₀ hs g hr
  rw [ensures_card]
  cases g.state.card? id with
  | none => exact hr
  | some c => exact ⟨hr, trivial⟩

theorem definition_acts (id : CardId) :
    Acts n (definition id : Engine M CardDefinition) (CardDefinition.Seated n) := by
  intro s₀ hs g hr
  rw [ensures_definition]
  cases hc : g.state.card? id with
  | none => exact hr
  | some c => exact ⟨hr, (Changes.seated hr hs).rules id c hc⟩

/-- Laying a card of the player down in a zone, with whatever becomes of the counters. -/
theorem reached_lay {s₀ : GameState} {g : Game M} (hr : Reached M n s₀ g) {owner : PlayerId}
    {p : Player} (hp : g.state.player? owner = some p) {card : CardId} {zone target : Zone}
    {tableau t : Tableau} (hremove : p.toTableau.remove? card = some (zone, tableau))
    (hid : t.id = tableau.id) (hturns : t.turns = tableau.turns)
    (ht : PlayerZones.holds target)
    (hz : t.zones = tableau.zones.update target (·.insert card .top)) :
    Reached M n s₀ ⟨g.state.setPlayer owner { p with toTableau := t }, g.memory⟩ := by
  obtain ⟨zones, hzones, rfl⟩ := Tableau.remove?_eq_some hremove
  refine reached_change hr (.arrange g.state owner p _ hp hid hturns ?_ ?_) g.memory
  · intro hm
    rw [Tableau.allCards, Tableau.allCards, hz]
    exact ⟨(hm.remove? hzones).update target _, PlayerZones.perm_put_remove? hm hzones ht .top⟩
  · exact fun hallow => ⟨hallow.gain, hallow.play⟩

section Provoking

variable {provoke : Program → Engine M Bool}
variable (hprovoke : ∀ p : Program, p.Seated n → Acts n (provoke p) fun _ => True)

include hprovoke

theorem executeAll_acts {effects : List Effect} (ctx : EffectContext)
    (he : Effect.SeatedAll n effects) (hctx : ctx.player.seat < n) :
    Acts n (executeAll provoke effects ctx) fun _ => True := by
  refine Acts.ite (fun _ => Acts.pure trivial) fun _ => ?_
  have hprogram := Effect.SeatedAll.program hctx effects he (k := .finish false) trivial
  exact (hprovoke _ hprogram).bind fun _ _ => Acts.pure trivial

/-- What is run when effects of a definition are carried out. -/
theorem effects_run {effects : List Effect} (ctx : EffectContext)
    (he : Effect.SeatedAll n effects) (hctx : ctx.player.seat < n) {s₀ : GameState}
    (hs : s₀.Seated n) {g : Game M} (hr : Reached M n s₀ g) :
    Ensures (provoke (Effect.programAll ctx effects (.finish false))) g
      (fun _ => Reached M n s₀) (fun _ => Reached M n s₀) := by
  have hprogram := Effect.SeatedAll.program hctx effects he (k := .finish false) trivial
  exact (hprovoke _ hprogram s₀ hs g hr).imp fun _ _ h => h.1

/-- A reaction that is found is one of a definition in the game. -/
theorem reaction_run (trigger : ReactionTrigger) (ht : trigger.player.seat < n) {s₀ : GameState}
    (hs : s₀.Seated n) {g g' : Game M} (hr : Reached M n s₀ g) {c : Candidate}
    (hc : Candidate.Of g.state trigger.kind c) (hr' : Reached M n s₀ g') :
    Ensures (provoke (c.reaction.effect ⟨c.card, c.owner, trigger⟩)) g'
      (fun _ => Reached M n s₀) (fun _ => Reached M n s₀) := by
  have hseated := Changes.seated hr hs
  obtain ⟨k, hk, hreaction⟩ := hc.card
  have howner : c.owner.seat < n := hseated.seats ▸ hc.owner
  have hprogram := (hseated.rules c.card k hk).reactions trigger.kind c.reaction hreaction
    ⟨c.card, c.owner, trigger⟩ howner ht
  exact (hprovoke _ hprogram s₀ hs g' hr').imp fun _ _ h => h.1

theorem fireReactions_acts (trigger : ReactionTrigger) (ht : trigger.player.seat < n) :
    Acts n (fireReactions provoke trigger) fun _ => True := by
  refine Acts.of_steady fun s₀ hs g hr => ?_
  exact ensures_fireReactions (reached_steady hs).toFirm trigger hr fun c hc g' p hr' _ _ =>
    reaction_run hprovoke trigger ht hs hr hc hr'

theorem fireDurations_acts {id : PlayerId} (hid : id.seat < n) :
    Acts n (fireDurations provoke id) fun _ => True := by
  refine Acts.of_steady fun s₀ hs g hr => ?_
  have hid' : id.seat < g.state.players.length := by
    rw [(Changes.seated hr hs).seats]
    exact hid
  refine ensures_fireDurations (reached_steady hs).toFirm hr hid' ?_
  intro d hd holder _ g' hr' _
  exact (hprovoke _ (hd ⟨holder, id⟩ hid) s₀ hs g' hr').imp fun _ _ h => h.1

theorem play_acts (card : CardId) (owner : PlayerId) :
    Acts n (play provoke card owner) fun _ => True := by
  refine Acts.of_steady fun s₀ hs g hr => ?_
  cases hc : g.state.card? card with
  | none =>
    simp only [play, ensures_bind, ensures_definition, hc]
    exact hr
  | some c =>
  cases hp : g.state.player? owner with
  | none =>
    simp only [play, ensures_bind, ensures_definition, hc, ensures_player, hp]
    exact hr
  | some p =>
    have hseat := (Changes.seated hr hs).seats ▸ GameState.seat_lt_of_player? hp
    refine ensures_play (reached_steady hs).toFirm hc hp (fun _ => hr) ?_ ?_
    · intro zone tableau hremove
      refine reached_lay hr hp hremove ?_ ?_ rfl (afterPlay_zones c.definition card tableau)
      · unfold afterPlay
        by_cases ht : c.definition.isTreasure = true <;> simp only [ht] <;> rfl
      · unfold afterPlay
        by_cases ht : c.definition.isTreasure = true <;> simp only [ht] <;> rfl
    · intro t ht g' hr'
      exact (hprovoke _ (ht owner card hseat) s₀ hs g' hr').imp fun _ _ h => h.1

theorem resolve_acts (id : CardId) {owner : PlayerId} (howner : owner.seat < n) :
    Acts n (resolve provoke id owner) fun _ => True :=
  (definition_acts id).bind fun _ hd => executeAll_acts hprovoke ⟨id, owner⟩ hd.play howner

theorem gain_acts (pile : String) {owner : PlayerId} (howner : owner.seat < n) (bought : Bool)
    (destination : GainDestination) :
    Acts n (gain provoke pile owner bought destination) fun _ => True := by
  refine Acts.of_steady fun s₀ hs g hr => ?_
  have hseated := Changes.seated hr hs
  obtain ⟨p, hp⟩ := GameState.player?_of_lt (s := g.state) (hseated.seats ▸ howner)
  cases hpile : g.state.supply.pile? pile with
  | none =>
    simp only [gain, ensures_bind, ensures_state, hpile]
    exact hr
  | some q =>
  cases htop : q.top? with
  | none =>
    simp only [gain, ensures_bind, ensures_state, hpile, htop]
    exact hr
  | some card =>
    have hmem : card ∈ g.state.whereabouts := by
      simp only [GameState.whereabouts, List.mem_append, List.mem_flatMap]
      exact Or.inl (Or.inl ⟨q, List.mem_of_find?_eq_some hpile, List.mem_of_getLast? htop⟩)
    obtain ⟨c, hc⟩ := GameState.contains_iff_card?.mp (hseated.sound.contains_of_mem hmem)
    refine (ensures_gain (reached_steady hs).toFirm hpile htop hc hp ?_ ?_ ?_ ?_).imp fun _ _ h => h.1
    · exact reached_change hr
        (.gain g.state pile q card owner p bought destination hpile htop hp) g.memory
    · intro _ g' hr'
      exact effects_run hprovoke ⟨card, owner⟩ (hseated.rules card c hc).gain howner hs hr'
    · intro t ht g' hr'
      have hacts := hprovoke _ (ht ⟨owner, card, bought, destination⟩ howner)
      exact (hacts s₀ hs g' hr').imp fun _ _ h => h.1
    · intro g₁ hr₁ k hk g' r hr' _ _
      exact reaction_run hprovoke (.gain ⟨owner, card, bought, destination⟩) howner hs hr₁ hk hr'

theorem gainIfAvailable_acts (pile : String) {owner : PlayerId} (howner : owner.seat < n)
    (destination : GainDestination) :
    Acts n (gainIfAvailable provoke pile owner destination) fun _ => True := by
  refine Acts.state.bind fun s _ => Acts.ite (fun _ => ?_) fun _ => ?_
  · exact (verbose_acts _).bind fun _ _ => Acts.pure trivial
  · exact (gain_acts hprovoke pile howner false destination).bind fun _ _ => Acts.pure trivial

theorem buy_acts (pile : String) {owner : PlayerId} (howner : owner.seat < n) :
    Acts n (buy provoke pile owner) fun _ => True := by
  refine Acts.state.bind fun s _ => ?_
  cases s.pileCost? pile with
  | none => exact Acts.fail
  | some cost =>
    refine (gain_acts hprovoke pile howner true .discard).bind fun card _ => ?_
    refine Acts.bind (Acts.modifyPlayer ?_ ?_ ?_ fun p hallow => ⟨hallow.gain, hallow.play⟩)
      fun _ _ => Acts.pure trivial
    all_goals
      intro p
      rfl

theorem discard_acts (card : CardId) (owner : PlayerId) :
    Acts n (discard provoke card owner) fun _ => True := by
  refine Acts.of_steady fun s₀ hs g hr => ?_
  cases hp : g.state.player? owner with
  | none =>
    simp only [discard, ensures_bind, ensures_state, ensures_player, hp]
    exact hr
  | some p =>
    have hseat := (Changes.seated hr hs).seats ▸ GameState.seat_lt_of_player? hp
    refine ensures_discard (reached_steady hs).toFirm hp (fun _ => hr) ?_ ?_
    · intro zone tableau hremove
      have hz : (tableau.put card .discard .top).zones =
          tableau.zones.update .discard (·.insert card .top) := rfl
      exact reached_lay hr hp hremove rfl rfl rfl hz
    · intro g₁ hr₁ k hk g' r hr' _ _
      exact reaction_run hprovoke (.discard owner card) hseat hs hr₁ hk hr'

theorem trash_acts (card : CardId) (owner : PlayerId) :
    Acts n (trash provoke card owner) fun _ => True := by
  refine Acts.of_steady fun s₀ hs g hr => ?_
  cases hc : g.state.card? card with
  | none =>
    simp only [trash, ensures_bind, ensures_definition, hc]
    exact hr
  | some c =>
  cases hp : g.state.player? owner with
  | none =>
    simp only [trash, ensures_bind, ensures_definition, hc, ensures_player, hp]
    exact hr
  | some p =>
    have hseated := Changes.seated hr hs
    have hseat := hseated.seats ▸ GameState.seat_lt_of_player? hp
    refine ensures_trash (reached_steady hs).toFirm hc hp (fun _ => hr) ?_ ?_
    · intro zone tableau hremove
      exact reached_change hr
        (.trash g.state owner p card zone tableau c.definition.name hp hremove) g.memory
    · intro _ g' hr'
      exact effects_run hprovoke ⟨card, owner⟩ (hseated.rules card c hc).trash hseat hs hr'

end Provoking

/-! ### Programs -/

/-- A program only makes changes if its calls do. -/
theorem interpret_acts {call : (c : Call) → Engine M c.Answer}
    (hcall : ∀ c, c.Seated n → Acts n (call c) (c.Answered n)) {p : Program} (hp : p.Seated n) :
    Acts n (interpret call p) fun _ => True := by
  induction p with
  | finish keep => exact Acts.pure trivial
  | fail error => exact Acts.fail
  | look next ih =>
    exact Acts.state.bind fun s hs => ih s.outlook (hp _ ⟨s, hs.sound, hs.seats, rfl⟩)
  | call c next ih => exact (hcall c hp.1).bind fun a ha => ih a (hp.2 a ha)
  | addDuration card callback next _ ih =>
    exact (addDuration_acts card hp.1).bind fun _ _ => ih hp.2
  | addGainTrigger id callback next _ ih =>
    exact (addGainTrigger_acts id hp.1).bind fun _ _ => ih hp.2
  | addPlayTrigger id callback next _ ih =>
    exact (addPlayTrigger_acts id hp.1).bind fun _ _ => ih hp.2

variable [Controllers M]

theorem perform_acts {provoke : Program → Engine M Bool}
    (hprovoke : ∀ p : Program, p.Seated n → Acts n (provoke p) fun _ => True) {c : Call}
    (hc : c.Seated n) : Acts n (perform provoke c) (c.Answered n) := by
  have hany : ∀ {c : Call} {e : Engine M c.Answer}, (∀ a, c.Answered n a) →
      Acts n e (fun _ => True) → Acts n e (c.Answered n) := fun h he => he.imp fun a _ => h a
  cases c with
  | opponents id =>
    refine Acts.state.bind fun s hs => Acts.pure ?_
    intro p hp
    obtain ⟨i, hi, rfl⟩ := List.mem_map.mp hp
    have hpos : 0 < s.players.length := Nat.lt_of_le_of_lt (Nat.zero_le _) hs.sound.active
    have hlt := Nat.mod_lt (id.seat + (i + 1)) hpos
    rw [← hs.seats]
    exact hlt
  | draw id count => exact hany (fun _ => trivial) (draw_acts id count)
  | topCards id count => exact hany (fun _ => trivial) (topCards_acts id count)
  | move card id target position =>
    exact hany (fun _ => trivial) (move_acts card id target position)
  | discard card id => exact hany (fun _ => trivial) (discard_acts hprovoke card id)
  | trash card id => exact hany (fun _ => trivial) (trash_acts hprovoke card id)
  | recover card id => exact hany (fun _ => trivial) (recover_acts card id)
  | reveal cards id => exact hany (fun _ => trivial) (reveal_acts cards id)
  | play card id => exact hany (fun _ => trivial) (play_acts hprovoke card id)
  | resolve card id => exact hany (fun _ => trivial) (resolve_acts hprovoke card hc)
  | gain pile id bought destination =>
    exact hany (fun _ => trivial) (gain_acts hprovoke pile hc bought destination)
  | gainIfAvailable pile id destination =>
    exact hany (fun _ => trivial) (gainIfAvailable_acts hprovoke pile hc destination)
  | buy pile id => exact hany (fun _ => trivial) (buy_acts hprovoke pile hc)
  | credit id counter k => exact hany (fun _ => trivial) (credit_acts id counter k)
  | addCostModifier modifier => exact hany (fun _ => trivial) (addCostModifier_acts modifier)
  | costOf card =>
    exact Acts.state.bind fun s _ => (definition_acts card).bind fun d _ => Acts.pure trivial
  | blocksAttack target attack => exact hany (fun _ => trivial) (blocksAttack_acts target attack)
  | chooseCards id choice => exact hany (fun _ => trivial) (chooseCards_acts id choice)
  | choosePile id prompt source eligible =>
    exact hany (fun _ => trivial) (choosePile_acts id prompt source eligible)
  | chooseBoolean id choice => exact hany (fun _ => trivial) (ask_acts id _)
  | chooseOptions id choice => exact hany (fun _ => trivial) (chooseOptions_acts id choice)
  | chooseInteger id choice => exact hany (fun _ => trivial) (chooseInteger_acts id choice)
  | note message => exact hany (fun _ => trivial) (verbose_acts message)

/-- However deep programs provoke each other, each only makes changes. -/
theorem runWithin_acts (depth : Nat) (p : Program) (hp : p.Seated n) :
    Acts n (runWithin depth p : Engine M Bool) fun _ => True := by
  induction depth generalizing p with
  | zero => exact Acts.throw
  | succ depth ih => exact interpret_acts (fun c hc => perform_acts ih hc) hp

theorem run_acts (p : Program) (hp : p.Seated n) :
    Acts n (run p : Engine M Bool) fun _ => True :=
  Acts.state.bind fun _ _ => runWithin_acts _ p hp

theorem call_acts {c : Call} (hc : c.Seated n) :
    Acts n (call c : Engine M c.Answer) (c.Answered n) :=
  perform_acts run_acts hc

theorem execute_acts {effect : Effect} (he : effect.Seated n) {ctx : EffectContext}
    (hctx : ctx.player.seat < n) : Acts n (execute effect ctx : Engine M Unit) fun _ => True := by
  have hseated := Effect.Seated.program hctx effect he (k := .finish false) trivial
  exact (run_acts _ hseated).bind fun _ _ => Acts.pure trivial

end Engine

end DeckBuilder
