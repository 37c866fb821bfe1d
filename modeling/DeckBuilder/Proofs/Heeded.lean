import DeckBuilder.Proofs.Licensed
import DeckBuilder.Proofs.Moves
import DeckBuilder.Engine.Turn

/-!
Computations that heed a licence: from every state that is ready they make allowed changes only,
whatever becomes of them. It is shown for each operation, then for programs within the licence, by
induction on the depth and on the program.
-/
namespace DeckBuilder

theorem mem_of_mapM_ok {ε α β : Type} {f : α → Except ε β} {xs : List α} {ys : List β} {y : β}
    (h : xs.mapM f = .ok ys) (hy : y ∈ ys) : ∃ x ∈ xs, f x = .ok y := by
  induction xs generalizing ys with
  | nil =>
    rw [← Except.ok.inj h] at hy
    exact absurd hy List.not_mem_nil
  | cons x rest ih =>
    rw [List.mapM_cons] at h
    obtain ⟨first, hfirst, h⟩ := ok_bind h
    obtain ⟨others, hothers, h⟩ := ok_bind h
    rw [← Except.ok.inj h] at hy
    rcases List.mem_cons.mp hy with heq | hy
    · exact ⟨x, List.mem_cons_self, heq ▸ hfirst⟩
    · obtain ⟨x', hx', hf⟩ := ih hothers hy
      exact ⟨x', List.mem_cons_of_mem _ hx', hf⟩

theorem mem_of_filterMapM_ok {ε α β : Type} {f : α → Except ε (Option β)} {xs : List α}
    {ys : List β} {y : β} (h : xs.filterMapM f = .ok ys) (hy : y ∈ ys) :
    ∃ x ∈ xs, f x = .ok (some y) := by
  induction xs generalizing ys with
  | nil =>
    rw [← Except.ok.inj h] at hy
    exact absurd hy List.not_mem_nil
  | cons x rest ih =>
    rw [List.filterMapM_cons] at h
    obtain ⟨first, hfirst, h⟩ := ok_bind h
    cases first with
    | none =>
      obtain ⟨x', hx', hf⟩ := ih h hy
      exact ⟨x', List.mem_cons_of_mem _ hx', hf⟩
    | some z =>
      obtain ⟨others, hothers, h⟩ := ok_bind h
      rw [← Except.ok.inj h] at hy
      rcases List.mem_cons.mp hy with heq | hy
      · exact ⟨x, List.mem_cons_self, heq ▸ hfirst⟩
      · obtain ⟨x', hx', hf⟩ := ih hothers hy
        exact ⟨x', List.mem_cons_of_mem _ hx', hf⟩

/-- A candidate has the reaction of a card in the game. -/
theorem GameState.candidates_card {s : GameState} {kind : ReactionKind} {found : List Candidate}
    (h : s.candidates kind = .ok found) {k : Candidate} (hk : k ∈ found) :
    ∃ c, s.card? k.card = some c ∧ c.definition.reactions.get? kind = some k.reaction := by
  obtain ⟨rows, hrows, heq⟩ := ok_bind h
  rw [← Except.ok.inj heq] at hk
  obtain ⟨row, hrow, hk⟩ := List.mem_flatten.mp hk
  obtain ⟨cells, hcells, hrow⟩ := List.mem_flatten.mp hrow
  obtain ⟨p, -, hp⟩ := mem_of_mapM_ok hrows hcells
  obtain ⟨⟨zone, cards⟩, -, hcards⟩ := mem_of_mapM_ok hp hrow
  obtain ⟨id, -, hid⟩ := mem_of_filterMapM_ok hcards hk
  cases hc : s.card? id with
  | none => simp [hc] at hid
  | some c =>
    simp only [hc] at hid
    cases hr : c.definition.reactions.get? kind with
    | none => simp [hr, pure, Except.pure] at hid
    | some reaction =>
      simp only [hr] at hid
      have hfound := Except.ok.inj hid
      by_cases hzone : reaction.zone = zone
      · rw [if_pos hzone] at hfound
        rw [← Option.some.inj hfound]
        exact ⟨c, hc, hr⟩
      · rw [if_neg hzone] at hfound
        simp at hfound

namespace Engine

variable {M : Type} {α β : Type} {L : Licence}

variable (L) in
def Heeds (e : Engine M α) (Q : α → Prop) : Prop :=
  ∀ g : Game M, g.state.Ready L.locked →
    Ensures e g (fun a g' => L.Allows g.state g'.state ∧ Q a)
      (fun _ g' => L.Allows g.state g'.state)

namespace Heeds

variable {Q : α → Prop}

/-- After allowed changes such a computation goes on making allowed changes. -/
theorem after {e : Engine M α} {g g' : Game M} (he : Heeds L e Q)
    (h : L.Allows g.state g'.state) (hg : g.state.Ready L.locked) :
    Ensures e g' (fun a g'' => L.Allows g.state g''.state ∧ Q a)
      (fun _ g'' => L.Allows g.state g''.state) := by
  refine (he g' (h.ready hg)).mono ?_ ?_
  · intro a g'' h'
    exact ⟨h.trans h'.1, h'.2⟩
  · intro _ g'' h'
    exact h.trans h'

theorem bind {R : β → Prop} {e : Engine M α} {f : α → Engine M β} (he : Heeds L e Q)
    (hf : ∀ a, Q a → Heeds L (f a) R) : Heeds L (e >>= f) R := by
  intro g hg
  rw [ensures_bind]
  refine (he g hg).imp ?_
  intro a g' h
  exact (hf a h.2).after h.1 hg

theorem imp {Q' : α → Prop} {e : Engine M α} (he : Heeds L e Q) (hQ : ∀ a, Q a → Q' a) :
    Heeds L e Q' :=
  fun g hg => (he g hg).imp fun a _ h => ⟨h.1, hQ a h.2⟩

theorem pure {a : α} (h : Q a) : Heeds L (Pure.pure a : Engine M α) Q :=
  fun g _ => ⟨.refl g.state, h⟩

theorem throw {r : Halt} : Heeds L (MonadExcept.throw r : Engine M α) Q := fun g _ => .refl g.state

theorem fail {error : GameError} : Heeds L (Engine.fail error : Engine M α) Q :=
  fun g _ => .refl g.state

theorem ite {c : Prop} [Decidable c] {e e' : Engine M α} (he : c → Heeds L e Q)
    (he' : ¬ c → Heeds L e' Q) : Heeds L (if c then e else e') Q := by
  by_cases hc : c
  · rw [if_pos hc]
    exact he hc
  · rw [if_neg hc]
    exact he' hc

theorem forM {f : α → Engine M PUnit} {xs : List α} (hf : ∀ a ∈ xs, Heeds L (f a) fun _ => True) :
    Heeds L (xs.forM f) fun _ => True := by
  induction xs with
  | nil => exact pure trivial
  | cons a rest ih =>
    change Heeds L (f a >>= fun _ => rest.forM f) _
    refine (hf a List.mem_cons_self).bind fun _ _ => ih ?_
    exact fun b hb => hf b (List.mem_cons_of_mem _ hb)

theorem state : Heeds L (Engine.state : Engine M GameState) (GameState.Ready L.locked) :=
  fun g hg => ⟨.refl g.state, hg⟩

theorem modifyState {f : GameState → GameState} (h : ∀ s, L.Allows s (f s)) :
    Heeds L (Engine.modifyState f : Engine M Unit) fun _ => True :=
  fun g _ => ⟨h g.state, trivial⟩

theorem publish (id : PlayerId) {kind : EventKind} (h : kind.bought? = none)
    (hdeed : kind.deed? = none) : Heeds L (Engine.publish id kind : Engine M Unit) fun _ => True :=
  modifyState fun s => .publish s id (fun _ => h) hdeed

theorem verbose (message : String) : Heeds L (Engine.verbose message : Engine M Unit) fun _ => True :=
  modifyState fun s => .onLogger s _

theorem warn (message : String) : Heeds L (Engine.warn message : Engine M Unit) fun _ => True :=
  modifyState fun s => .onLogger s _

theorem player (id : PlayerId) : Heeds L (Engine.player id : Engine M Player) (Player.Ready L.locked) := by
  intro g hg
  rw [ensures_player]
  cases hp : g.state.player? id with
  | none => exact .refl g.state
  | some p => exact ⟨.refl g.state, hg.players p (GameState.player?_mem hp)⟩

theorem card (id : CardId) :
    Heeds L (Engine.card id : Engine M Card) fun c => c.definition.Mild := by
  intro g hg
  rw [ensures_card]
  cases hc : g.state.card? id with
  | none => exact .refl g.state
  | some c => exact ⟨.refl g.state, hg.cards id c hc⟩

theorem definition (id : CardId) :
    Heeds L (Engine.definition id : Engine M CardDefinition) CardDefinition.Mild :=
  (card id).bind fun _ hc => pure hc

theorem modifyPlayer {id : PlayerId} {f : Player → Player} (h : ∀ p, L.AllowsPlayer id p (f p)) :
    Heeds L (Engine.modifyPlayer id f : Engine M Unit) fun _ => True := by
  intro g _
  rw [ensures_modifyPlayer]
  cases hp : g.state.player? id with
  | none => exact .refl g.state
  | some p => exact ⟨.setPlayer hp (h p), trivial⟩

/-- A step of the state that is allowed if it is made at all. -/
theorem step {f : GameState → Except GameError (α × GameState)}
    (h : ∀ s a s', s.Ready L.locked → f s = .ok (a, s') → L.Allows s s' ∧ Q a) :
    Heeds L (Engine.step f : Engine M α) Q := by
  intro g hg
  rw [ensures_step]
  cases hf : f g.state with
  | error e => exact .refl g.state
  | ok result => exact h g.state result.1 result.2 hg hf

end Heeds

/-! ### Operations -/

theorem draw_heeds (id : PlayerId) (count : Nat) :
    Heeds L (draw id count : Engine M (List CardId)) fun _ => True :=
  .step fun _ _ _ _ h => ⟨.draw h, trivial⟩

theorem topCards_heeds (id : PlayerId) (count : Nat) :
    Heeds L (topCards id count : Engine M (List CardId)) fun cards =>
      ∀ card ∈ cards, ¬ L.locked card :=
  .step fun _ _ _ hs h => Licence.Allows.topCards h hs

theorem move_heeds {card : CardId} (id : PlayerId) {target : Zone} (position : Position)
    (hcard : ¬ L.locked card) (htarget : ¬ PlayerZones.OnTable target)
    (hholds : PlayerZones.holds target) :
    Heeds L (move card id target position : Engine M (Option Zone)) fun _ => True :=
  .step fun _ _ _ _ h => ⟨.move h hcard htarget hholds, trivial⟩

theorem reveal_heeds (cards : List CardId) (id : PlayerId) :
    Heeds L (reveal cards id : Engine M Unit) fun _ => True :=
  .ite (fun _ => .pure trivial) fun _ => Heeds.state.bind fun _ _ => .publish id rfl rfl

theorem blocksAttack_heeds (target : PlayerId) (attack : CardId) :
    Heeds L (blocksAttack target attack : Engine M Bool) fun _ => True := by
  refine (Heeds.player target).bind fun p _ => Heeds.state.bind fun s _ => ?_
  cases p.hand.find? (s.grants .revealFromHand) with
  | some card =>
    refine (reveal_heeds [card] target).bind fun _ _ => ?_
    exact (Heeds.publish target rfl rfl).bind fun _ _ => .pure trivial
  | none =>
    refine .ite (fun _ => ?_) fun _ => .pure trivial
    exact (Heeds.verbose _).bind fun _ _ => .pure trivial

theorem recover_heeds (card : CardId) (id : PlayerId) :
    Heeds L (recover card id : Engine M Unit) fun _ => True := by
  refine Heeds.bind (Q := fun s => ∀ c ∈ s.trash, ¬ L.locked c) ?_ fun s hs => ?_
  · exact Heeds.state.imp fun _ hs => hs.trash
  refine .ite (fun hmem => ?_) fun _ => .pure trivial
  have hcard : ¬ L.locked card := hs card (by simpa using hmem)
  refine Heeds.bind (Q := fun _ => True) ?_ fun _ _ => Heeds.bind (Q := fun _ => True) ?_ fun _ _ => ?_
  · refine .modifyPlayer fun p => .arrange ?_
    exact .put p.zones .hand hcard not_false .top
  · refine .modifyState fun s => .withTrash s _ ?_
    intro hs c hc
    exact hs.trash c (List.mem_of_mem_erase hc)
  · exact Heeds.state.bind fun _ _ => .publish id rfl rfl

theorem credit_heeds {id : PlayerId} (h : L.payee id) (counter : Counter) (k : Nat) :
    Heeds L (modifyPlayer id (·.onTableau (·.credit k counter)) : Engine M Unit) fun _ => True := by
  refine .modifyPlayer fun p => ?_
  cases counter <;>
    exact ⟨.refl p.zones, fun hid => absurd h hid, fun _ => rfl,
      fun hp => ⟨hp.clear, hp.gain, hp.play⟩⟩

theorem addCostModifier_heeds (h : L.sways) (modifier : CardFace → Int) :
    Heeds L (addCostModifier modifier : Engine M Unit) fun _ => True :=
  .modifyState fun _ =>
    .aside rfl (fun _ => rfl) rfl rfl rfl (fun _ => rfl) (fun hnone => absurd h hnone) rfl

theorem addDuration_heeds {card : CardId} {callback : EffectContext → Program}
    (h : L.hangs card callback) :
    Heeds L (addDuration card callback : Engine M Unit) fun _ => True :=
  (Heeds.card card).bind fun _ _ => .modifyState fun s => .hang s card h

theorem addGainTrigger_heeds {id : PlayerId} (h : L.payee id) {callback : GainInfo → Program}
    (hcallback : GainInfo.Mild callback) :
    Heeds L (addGainTrigger id callback : Engine M Unit) fun _ => True := by
  refine .modifyPlayer fun p => ⟨.refl p.zones, fun hid => absurd h hid, fun _ => rfl,
    fun hp => ⟨hp.clear, ?_, hp.play⟩⟩
  intro t ht
  rcases List.mem_append.mp ht with ht | ht
  · exact hp.gain t ht
  · rw [List.mem_singleton.mp ht]
    exact hcallback

theorem addPlayTrigger_heeds {id : PlayerId} (h : L.payee id) (hsways : L.sways)
    {callback : PlayerId → CardId → Program} (hcallback : PlayerId.Fair callback) :
    Heeds L (addPlayTrigger id callback : Engine M Unit) fun _ => True := by
  refine .modifyPlayer fun p => ⟨.refl p.zones, fun hid => absurd h hid,
    fun hnone => absurd hsways hnone, fun hp => ⟨hp.clear, hp.gain, ?_⟩⟩
  intro t ht
  rcases List.mem_append.mp ht with ht | ht
  · exact hp.play t ht
  · rw [List.mem_singleton.mp ht]
    exact hcallback

/-! ### Questions -/

section Questions

variable [Controllers M]

/-- While a player is asked, nothing happens but that controllers think. -/
theorem ask_ponders (id : PlayerId) (q : Question) (g : Game M) :
    Ensures (ask id q) g (fun _ g' => g.state.Pondered g'.state)
      (fun _ g' => g.state.Pondered g'.state) := by
  rw [Ensures, runOn_ask]
  by_cases hid : id.seat < g.state.players.length
  · rw [if_pos hid]
    exact .think g.state id _ _
  · rw [if_neg hid]
    exact .refl g.state

theorem askUntil_ponders (id : PlayerId) (q : Question) (what : String)
    (accept : q.Answer → Option β) (g : Game M) :
    Ensures (askUntil id q what accept) g
      (fun b g' => g.state.Pondered g'.state ∧ ∃ a, accept a = some b)
      (fun _ g' => g.state.Pondered g'.state) := by
  refine ensures_askTimes (I := fun _ g' => g.state.Pondered g'.state) (.refl g.state) ?_
    fun g' h => h
  intro _ g₁ h₁
  refine (ask_ponders id q g₁).mono ?_ fun _ _ h => h₁.trans h
  intro a g₂ h₂
  cases ha : accept a with
  | some b => exact ⟨h₁.trans h₂, a, ha⟩
  | none => exact (h₁.trans h₂).trans (.warn g₂.state _)

theorem chooseCards_ponders (id : PlayerId) (choice : CardChoice) (g : Game M) :
    Ensures (chooseCards id choice) g
      (fun cards g' => g.state.Pondered g'.state ∧ ∀ card ∈ cards, card ∈ choice.cards)
      (fun _ g' => g.state.Pondered g'.state) := by
  rw [chooseCards, ensures_ite]
  refine ⟨fun _ => ⟨.refl g.state, List.forall_mem_nil _⟩, fun _ => ?_⟩
  rw [ensures_ite]
  refine ⟨fun _ => ⟨.refl g.state, fun _ h => h⟩, fun _ => ?_⟩
  refine (askUntil_ponders id _ _ _ g).imp ?_
  rintro cards g' ⟨h, answer, haccepted⟩
  exact ⟨h, mem_of_selection haccepted⟩

theorem ask_heeds (id : PlayerId) (q : Question) :
    Heeds L (ask id q : Engine M q.Answer) fun _ => True :=
  fun g _ => (ask_ponders id q g).mono (fun _ _ h => ⟨.ponder h, trivial⟩) fun _ _ h => .ponder h

theorem askUntil_heeds {Q : β → Prop} (id : PlayerId) {q : Question} (what : String)
    {accept : q.Answer → Option β} (h : ∀ a b, accept a = some b → Q b) :
    Heeds L (askUntil id q what accept : Engine M β) Q := by
  intro g _
  refine (askUntil_ponders id q what accept g).mono ?_ fun _ _ hp => .ponder hp
  rintro b g' ⟨hp, a, ha⟩
  exact ⟨.ponder hp, h a b ha⟩

theorem chooseCards_heeds (id : PlayerId) (choice : CardChoice) :
    Heeds L (chooseCards id choice : Engine M (List CardId)) fun cards =>
      ∀ card ∈ cards, card ∈ choice.cards :=
  fun g _ => (chooseCards_ponders id choice g).mono (fun _ _ h => ⟨.ponder h.1, h.2⟩)
    fun _ _ h => .ponder h

theorem choosePile_heeds (id : PlayerId) (prompt : String) (source : Option CardId)
    (eligible : PileOffer → Bool) :
    Heeds L (choosePile id prompt source eligible : Engine M (Option String)) fun _ => True :=
  Heeds.state.bind fun _ _ => .ite (fun _ => .pure trivial) fun _ =>
    askUntil_heeds id _ fun _ _ _ => trivial

theorem chooseOptions_heeds (id : PlayerId) (choice : OptionChoice) :
    Heeds L (chooseOptions id choice : Engine M (List Nat)) fun _ => True :=
  .ite (fun _ => .pure trivial) fun _ => .ite (fun _ => .pure trivial) fun _ =>
    askUntil_heeds id _ fun _ _ _ => trivial

/-- Choosing is thinking; what is chosen was offered. -/
theorem chooseAction_ponders (id : PlayerId) (playable : List CardId) (g : Game M) :
    Ensures (chooseAction id playable) g
      (fun choice g' => g.state.Pondered g'.state ∧ ∀ card ∈ choice, card ∈ playable)
      (fun _ g' => g.state.Pondered g'.state) := by
  refine (askUntil_ponders id (.action playable) "action to play" (offered playable) g).imp ?_
  rintro choice g' ⟨h, answer, haccepted⟩
  exact ⟨h, mem_of_offered haccepted⟩

theorem chooseTreasures_ponders (id : PlayerId) (playable : List CardId) (g : Game M) :
    Ensures (chooseTreasures id playable) g
      (fun choice g' => g.state.Pondered g'.state ∧
        ∀ cards ∈ choice, ∀ card ∈ cards, card ∈ playable)
      (fun _ g' => g.state.Pondered g'.state) := by
  refine (askUntil_ponders id (.treasures playable) "treasures to play" _ g).imp ?_
  rintro choice g' ⟨h, answer, haccepted⟩
  refine ⟨h, ?_⟩
  intro cards hcards
  cases answer with
  | none =>
    obtain rfl := Option.some.inj haccepted
    exact absurd hcards (by simp)
  | some answer =>
    obtain ⟨chosen, hchosen, rfl⟩ := Option.map_eq_some_iff.mp haccepted
    obtain rfl := Option.mem_some_iff.mp hcards
    exact mem_of_selectFrom hchosen

theorem choosePurchase_ponders (id : PlayerId) (buyable : List String) (g : Game M) :
    Ensures (choosePurchase id buyable) g
      (fun choice g' => g.state.Pondered g'.state ∧ ∀ pile ∈ choice, pile ∈ buyable)
      (fun _ g' => g.state.Pondered g'.state) := by
  refine (askUntil_ponders id (.purchase buyable) "card to buy" (offered buyable) g).imp ?_
  rintro choice g' ⟨h, answer, haccepted⟩
  exact ⟨h, mem_of_offered haccepted⟩

end Questions

/-- Looking through the hand changes nothing and finds the cards with the property. -/
theorem ensures_handWhere_eq (id : PlayerId) (pred : CardFace → Bool) (g : Game M) :
    Ensures (handWhere id pred) g
      (fun cards g' => g' = g ∧ ∃ p, g.state.player? id = some p ∧
        cards = p.hand.filter fun card => (g.state.face? card).any pred)
      (fun _ g' => g' = g) := by
  simp only [handWhere, ensures_bind, ensures_player]
  cases hp : g.state.player? id with
  | none => exact trivial
  | some p =>
    refine (ensures_filterM_eq (I := fun g' => g' = g)
      (f := fun card => (g.state.face? card).any pred) rfl ?_).imp ?_
    · rintro c _ g' heq
      rw [heq]
      simp only [ensures_bind, ensures_card, GameState.face?]
      cases g.state.card? c with
      | none => exact trivial
      | some k => exact ⟨rfl, rfl⟩
    · rintro cards _ ⟨rfl, heq⟩
      exact ⟨rfl, p, rfl, heq⟩

/-! ### What is provoked -/

theorem executeAll_heeds {K : Licence} {provoke : Program → Engine M Bool}
    (hprovoke : ∀ p : Program, p.Within K → Heeds L (provoke p) fun _ => True)
    {effects : List Effect} {ctx : EffectContext} (he : Effect.WithinAll K ctx effects) :
    Heeds L (executeAll provoke effects ctx) fun _ => True := by
  refine .ite (fun _ => .pure trivial) fun _ => ?_
  have hprogram := Effect.WithinAll.program effects he (k := .finish false) trivial
  exact (hprovoke _ hprogram).bind fun _ _ => .pure trivial

section Provoking

variable {provoke : Program → Engine M Bool}
variable (hprovoke : ∀ p : Program, p.Within (.modest L.locked) → Heeds L (provoke p) fun _ => True)

include hprovoke

theorem fireReactions_heeds {trigger : ReactionTrigger}
    (h : ∀ d : CardDefinition, d.Mild → ∀ r, d.reactions.get? trigger.kind = some r →
      ∀ card owner, (r.effect ⟨card, owner, trigger⟩).Within (.modest L.locked)) :
    Heeds L (fireReactions provoke trigger) fun _ => True := by
  have hsearch : Heeds L (do lift ((← state).candidates trigger.kind) : Engine M (List Candidate))
      fun found => ∀ k ∈ found, ∀ card owner,
        (k.reaction.effect ⟨card, owner, trigger⟩).Within (.modest L.locked) := by
    intro g hg
    simp only [ensures_bind, ensures_state]
    cases hfound : g.state.candidates trigger.kind with
    | error e => exact .refl g.state
    | ok found =>
      refine ⟨.refl g.state, fun k hk card owner => ?_⟩
      obtain ⟨c, hc, hr⟩ := GameState.candidates_card hfound hk
      exact h c.definition (hg.cards k.card c hc) k.reaction hr card owner
  have hfire : Heeds L (do
      let found ← (do lift ((← state).candidates trigger.kind) : Engine M (List Candidate))
      found.forM fun c => do
        if (← player c.owner).zones.locate c.card = some c.reaction.zone then
          let _ ← provoke (c.reaction.effect ⟨c.card, c.owner, trigger⟩)) fun _ => True := by
    refine hsearch.bind fun found hfound => ?_
    refine .forM fun k hk => (Heeds.player k.owner).bind fun p _ => ?_
    refine .ite (fun _ => ?_) fun _ => .pure trivial
    exact (hprovoke _ (hfound k hk k.card k.owner)).bind fun _ _ => .pure trivial
  simpa only [fireReactions, bind_assoc] using hfire

theorem discard_heeds {id : CardId} (hid : ¬ L.locked id) (owner : PlayerId) :
    Heeds L (discard provoke id owner) fun _ => True := by
  refine Heeds.state.bind fun s _ => ?_
  intro g hg
  rw [ensures_bind, ensures_player]
  cases hp : g.state.player? owner with
  | none => exact .refl g.state
  | some p =>
    dsimp only
    cases hremove : p.toTableau.remove? id with
    | none =>
      exact (Heeds.warn _).bind (fun _ _ => .pure trivial) g hg
    | some taken =>
      obtain ⟨zone, tableau⟩ := taken
      obtain ⟨zones, hzones, htableau⟩ := Tableau.remove?_eq_some hremove
      have hset : L.Allows g.state
          (g.state.setPlayer owner { p with toTableau := tableau.put id .discard .top }) := by
        rw [htableau]
        refine .arrange hp ((PlayerZones.Loosened.remove? hid hzones).trans ?_)
        exact .put zones .discard hid not_false .top
      dsimp only
      rw [ensures_bind, ensures_modifyState]
      refine Heeds.after (g := g) (Heeds.bind (.publish owner rfl rfl) fun _ _ => ?_) hset hg
      refine (fireReactions_heeds hprovoke ?_).bind fun _ _ => .pure trivial
      intro d hd r hr card reacting
      exact hd.onDiscard r hr L.locked card reacting owner id

theorem trash_heeds {id : CardId} (hid : ¬ L.locked id) (owner : PlayerId) :
    Heeds L (trash provoke id owner) fun _ => True := by
  refine (Heeds.definition id).bind fun d hd => ?_
  intro g hg
  rw [ensures_bind, ensures_player]
  cases hp : g.state.player? owner with
  | none => exact .refl g.state
  | some p =>
    dsimp only
    cases hremove : p.toTableau.remove? id with
    | none =>
      exact (Heeds.warn _).bind (fun _ _ => .pure trivial) g hg
    | some taken =>
      obtain ⟨zone, tableau⟩ := taken
      obtain ⟨zones, hzones, htableau⟩ := Tableau.remove?_eq_some hremove
      have hset : L.Allows g.state (g.state.setPlayer owner { p with toTableau := tableau }) := by
        rw [htableau]
        exact .arrange hp (.remove? hid hzones)
      have htrash := hset.trans (.withTrash _ (g.state.trash ++ [id]) fun hs => ?_)
      · dsimp only
        rw [ensures_bind, ensures_modifyState]
        refine Heeds.after (g := g) (Heeds.bind (.publish owner rfl rfl) fun _ _ => ?_) htrash hg
        have honTrash := executeAll_heeds hprovoke (hd.trash L.locked ⟨id, owner⟩ hid)
        exact honTrash.bind fun _ _ => .pure trivial
      · exact List.forall_mem_append.mpr ⟨hs.trash, List.forall_mem_singleton.mpr hid⟩

end Provoking

/-- What a gain provokes: the card's own hooks, then the triggers of the player, then the reactions. -/
def welcome (provoke : Program → Engine M Bool) (info : GainInfo) : Engine M Unit := do
  executeAll provoke (← definition info.card).onGain ⟨info.card, info.player⟩
  (← player info.player).gainTriggers.forM fun trigger => do
    let _ ← provoke (trigger info)
  fireReactions provoke (.gain info)

/-- A gain moves the card and leaves the rest to what it provokes. -/
theorem ensures_gain_iff {provoke : Program → Engine M Bool} {pile : String} {owner : PlayerId}
    {bought : Bool} {destination : GainDestination} {g : Game M} {Q : CardId → Game M → Prop}
    {E : Halt → Game M → Prop} {q : Pile} {card : CardId} {p : Player}
    (hpile : g.state.supply.pile? pile = some q) (htop : q.top? = some card)
    (hp : g.state.player? owner = some p) :
    Ensures (gain provoke pile owner bought destination) g Q E ↔
      Ensures (welcome provoke ⟨owner, card, bought, destination⟩)
        ⟨g.state.gained pile owner p card bought destination, g.memory⟩ (fun _ => Q card) E := by
  have hp' : GameState.player? { g.state with
      supply := g.state.supply.updatePile pile Pile.pop } owner = some p := hp
  simp only [gain, welcome, ensures_bind, ensures_state, hpile, htop, ensures_modifyState,
    ensures_modifyPlayer, hp', ensures_publish, ensures_pure]
  exact Iff.rfl

section Gaining

variable {provoke : Program → Engine M Bool}
variable (hprovoke : ∀ p : Program, p.Within (.modest L.locked) → Heeds L (provoke p) fun _ => True)

include hprovoke

theorem welcome_heeds {info : GainInfo} (hcard : ¬ L.locked info.card) :
    Heeds L (welcome provoke info) fun _ => True := by
  refine (Heeds.definition info.card).bind fun d hd => ?_
  refine (executeAll_heeds hprovoke (hd.gain L.locked ⟨info.card, info.player⟩ hcard)).bind fun _ _ => ?_
  refine (Heeds.player info.player).bind fun p hp => Heeds.bind (Q := fun _ => True) ?_ fun _ _ => ?_
  · refine .forM fun trigger htrigger => ?_
    exact (hprovoke _ (hp.gain trigger htrigger L.locked info hcard)).bind fun _ _ => .pure trivial
  · refine fireReactions_heeds hprovoke ?_
    intro d hd r hr card owner
    exact hd.onGain r hr L.locked card owner info hcard

theorem gain_heeds (pile : String) (owner : PlayerId) {bought : Bool}
    (hbought : bought = true → L.buys) (destination : GainDestination) :
    Heeds L (gain provoke pile owner bought destination) fun _ => True := by
  intro g hg
  cases hpile : g.state.supply.pile? pile with
  | none =>
    simp only [gain, ensures_bind, ensures_state, hpile]
    exact .refl g.state
  | some q =>
  cases htop : q.top? with
  | none =>
    simp only [gain, ensures_bind, ensures_state, hpile, htop]
    exact .refl g.state
  | some card =>
  cases hp : g.state.player? owner with
  | none =>
    have hp' : GameState.player? { g.state with
        supply := g.state.supply.updatePile pile Pile.pop } owner = none := hp
    simp only [gain, ensures_bind, ensures_state, hpile, htop, ensures_modifyState,
      ensures_modifyPlayer, hp']
    exact .updatePile g.state pile
  | some p =>
    rw [ensures_gain_iff hpile htop hp]
    have hcard : ¬ L.locked card :=
      hg.supply q (List.mem_of_find?_eq_some hpile) card (List.mem_of_getLast? htop)
    have hgained := Licence.Allows.gained hg hpile htop hp hbought destination
    exact (welcome_heeds hprovoke hcard).after (g := g) hgained hg

theorem gainIfAvailable_heeds (pile : String) (owner : PlayerId) (destination : GainDestination) :
    Heeds L (gainIfAvailable provoke pile owner destination) fun _ => True := by
  refine Heeds.state.bind fun s _ => .ite (fun _ => ?_) fun _ => ?_
  · exact (Heeds.verbose _).bind fun _ _ => .pure trivial
  · exact (gain_heeds hprovoke pile owner (by simp) destination).bind fun _ _ => .pure trivial

/-- Who is licensed to buy and to pay can buy. -/
theorem buy_heeds (pile : String) {owner : PlayerId} (hbuys : L.buys) (howner : L.payee owner) :
    Heeds L (buy provoke pile owner) fun _ => True := by
  refine Heeds.state.bind fun s _ => ?_
  cases s.pileCost? pile with
  | none => exact .fail
  | some cost =>
    refine (gain_heeds hprovoke pile owner (fun _ => hbuys) .discard).bind fun card _ => ?_
    refine Heeds.bind (Q := fun _ => True) (.modifyPlayer fun p => ?_) fun _ _ => .pure trivial
    exact ⟨.refl p.zones, fun h => absurd howner h, fun _ => rfl,
      fun hp => ⟨hp.clear, hp.gain, hp.play⟩⟩

end Gaining

/-! ### Plays -/

/-- A play moves the card and leaves the rest to the triggers of the player. -/
theorem ensures_play_iff {provoke : Program → Engine M Bool} {card : CardId} {owner : PlayerId}
    {g : Game M} {Q : Unit → Game M → Prop} {E : Halt → Game M → Prop} {c : Card} {p : Player}
    {zone : Zone} {tableau : Tableau} (hc : g.state.card? card = some c)
    (hp : g.state.player? owner = some p) (hremove : p.toTableau.remove? card = some (zone, tableau)) :
    Ensures (play provoke card owner) g Q E ↔
      Ensures (firePlayTriggers provoke owner card)
        ⟨(g.state.setPlayer owner
          { p with toTableau := afterPlay c.definition card tableau }).publish owner
            (.playCard card c.definition.name), g.memory⟩ Q E := by
  simp only [play, ensures_bind, ensures_definition, hc, ensures_player, hp, hremove,
    ensures_modifyState, ensures_publish]
  exact Iff.rfl

theorem keepers_heeds {provoke : α → Engine M Bool} {xs : List α}
    (h : ∀ a ∈ xs, Heeds L (provoke a) fun _ => True) :
    Heeds L (keepers provoke xs) fun ys => ys.Sublist xs := by
  induction xs with
  | nil => exact .pure (List.Sublist.refl _)
  | cons a rest ih =>
    refine (h a List.mem_cons_self).bind fun kept _ => ?_
    refine (ih fun b hb => h b (List.mem_cons_of_mem _ hb)).bind fun ys hys => .pure ?_
    cases kept with
    | true => exact hys.cons_cons a
    | false => exact hys.cons a

/-- The triggers of a player who may be paid. -/
theorem firePlayTriggers_heeds {provoke : Program → Engine M Bool}
    (hprovoke : ∀ p : Program, p.Within L → Heeds L (provoke p) fun _ => True) {id : PlayerId}
    (hid : L.payee id) (hsways : L.sways) (card : CardId) :
    Heeds L (firePlayTriggers provoke id card) fun _ => True := by
  refine (Heeds.player id).bind fun p hp => Heeds.bind (Q := fun _ => True) ?_ fun _ _ => ?_
  · refine .modifyPlayer fun p => ⟨.refl p.zones, fun h => absurd hid h,
      fun hnone => absurd hsways hnone, fun hp => ?_⟩
    exact ⟨hp.clear, hp.gain, by simp⟩
  refine (keepers_heeds fun trigger htrigger => ?_).bind fun kept hkept => ?_
  · exact hprovoke _ (hp.play trigger htrigger L id card hid)
  · refine .modifyPlayer fun q => ⟨.refl q.zones, fun h => absurd hid h,
      fun hnone => absurd hsways hnone, fun hq => ?_⟩
    refine ⟨hq.clear, hq.gain, List.forall_mem_append.mpr ⟨?_, hq.play⟩⟩
    exact fun trigger htrigger => hp.play trigger (hkept.mem htrigger)

/-! ### Programs -/

theorem interpret_heeds {call : (c : Call) → Engine M c.Answer}
    (hcall : ∀ c, c.Within L → Heeds L (call c) (c.Known L)) {p : Program} (hp : p.Within L) :
    Heeds L (interpret call p) fun _ => True := by
  induction p with
  | finish keep => exact .pure trivial
  | fail error => exact .fail
  | look next ih =>
    refine Heeds.state.bind fun s hs => ih s.outlook (hp s.outlook ?_)
    intro id t ht
    obtain ⟨p, hplayer, heq⟩ := Option.map_eq_some_iff.mp ht
    rw [← heq]
    exact (hs.players p (GameState.player?_mem hplayer)).clear
  | call c next ih => exact (hcall c hp.1).bind fun a ha => ih a (hp.2 a ha)
  | addDuration card callback next _ ih =>
    exact (addDuration_heeds hp.1).bind fun _ _ => ih hp.2
  | addGainTrigger id callback next _ ih =>
    exact (addGainTrigger_heeds hp.1 hp.2.1).bind fun _ _ => ih hp.2.2
  | addPlayTrigger id callback next _ ih =>
    exact (addPlayTrigger_heeds hp.1 hp.2.1 hp.2.2.1).bind fun _ _ => ih hp.2.2.2

/-- What heeds the licence to move cards heeds every licence with the same cards locked. -/
theorem Heeds.of_modest {Q : α → Prop} {e : Engine M α} (he : Heeds (.modest L.locked) e Q) :
    Heeds L e Q :=
  fun g hg => (he g hg).mono (fun _ _ h => ⟨.of_modest h.1, h.2⟩) fun _ _ h => .of_modest h

variable [Controllers M]

theorem perform_heeds {provoke : Program → Engine M Bool}
    (hprovoke : ∀ p : Program, p.Within (.modest L.locked) → Heeds L (provoke p) fun _ => True)
    {c : Call} (hc : c.Within L) : Heeds L (perform provoke c) (c.Known L) := by
  cases c with
  | draw id count => exact draw_heeds id count
  | topCards id count => exact topCards_heeds id count
  | move card id target position => exact move_heeds id position hc.1 hc.2.1 hc.2.2
  | discard card id => exact discard_heeds hprovoke hc id
  | trash card id => exact trash_heeds hprovoke hc id
  | recover card id => exact recover_heeds card id
  | reveal cards id => exact reveal_heeds cards id
  | play card id => exact hc.elim
  | resolve card id => exact hc.elim
  | gain pile id bought destination =>
    obtain rfl : bought = false := hc
    exact gain_heeds hprovoke pile id (by simp) destination
  | gainIfAvailable pile id destination =>
    exact gainIfAvailable_heeds hprovoke pile id destination
  | buy pile id => exact hc.elim
  | credit id counter k => exact credit_heeds hc counter k
  | addCostModifier modifier => exact addCostModifier_heeds hc modifier
  | costOf card =>
    exact Heeds.state.bind fun s _ => (Heeds.definition card).bind fun d _ => .pure trivial
  | opponents id => exact Heeds.state.bind fun s _ => .pure trivial
  | blocksAttack target attack => exact blocksAttack_heeds target attack
  | chooseCards id choice => exact chooseCards_heeds id choice
  | choosePile id prompt source eligible => exact choosePile_heeds id prompt source eligible
  | chooseBoolean id choice => exact ask_heeds id _
  | chooseOptions id choice => exact chooseOptions_heeds id choice
  | chooseInteger id choice => exact (ask_heeds id _).bind fun _ _ => .pure trivial
  | note message => exact .verbose message

/-- However deep programs provoke each other, each heeds the licence that it is within. -/
theorem runWithin_heeds (depth : Nat) {L : Licence} {p : Program} (hp : p.Within L) :
    Heeds L (runWithin depth p : Engine M Bool) fun _ => True := by
  induction depth generalizing L p with
  | zero => exact .throw
  | succ depth ih =>
    refine interpret_heeds (fun c hc => perform_heeds ?_ hc) hp
    exact fun q hq => (ih hq).of_modest

theorem run_heeds {p : Program} (hp : p.Within L) : Heeds L (run p : Engine M Bool) fun _ => True :=
  Heeds.state.bind fun _ _ => runWithin_heeds _ hp

end Engine

end DeckBuilder
