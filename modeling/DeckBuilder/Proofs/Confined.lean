import DeckBuilder.Proofs.Scope
import DeckBuilder.Proofs.TurnParts
import DeckBuilder.Proofs.Upholding

/-!
Inside a scope. What operations do for a player of the scope is inside the scope, if the programs that they
provoke are run so that these stay inside; and a run of such a program is. It is shown for each operation,
by whatever means programs are run, together with any further assertion about the game that no change
inside the scope can break.
-/
namespace DeckBuilder

open Engine

variable {M : Type} [Controllers M] {α β : Type}

namespace Scope

variable (S : Scope)

/-- An assertion about a game that no change inside the scope, and no question, can break. -/
structure Regards (J : Game M → Prop) : Prop where
  stroke : ∀ {n : Game M} {s}, S.Suits n.state → J n → S.Stroke n.state s → J { n with state := s }
  asked : ∀ {n : Game M} {id} q, J n → id.seat < n.state.players.length → J (asked n id q).2

/-- The assertion holds, of a state in which all that waits stays inside the scope. -/
def Keeps (J : Game M → Prop) (n : Game M) : Prop := S.Suits n.state ∧ J n

variable {S} {J : Game M → Prop}

namespace Regards

variable (hJ : S.Regards J)
include hJ

theorem keeps {n : Game M} {s : GameState} (hn : S.Keeps J n) (h : S.Stroke n.state s) :
    S.Keeps J { n with state := s } :=
  ⟨hn.1.reach h.toReach, hJ.stroke hn.1 hn.2 h⟩

/-! ### Writing -/

theorem write {f : GameState → GameState} (h : ∀ s, S.Suits s → S.Stroke s (f s)) :
    Upholds (S.Keeps J) (modifyState f) :=
  .modifyState fun n hn => hJ.keeps hn (h n.state hn.1)

theorem publish (id : PlayerId) {kind : EventKind} (h : kind.Plain) :
    Upholds (S.Keeps J) (Engine.publish id kind) :=
  hJ.write fun s _ => .aside (.publish s id kind h) rfl rfl

theorem warn (message : String) : Upholds (S.Keeps J) (Engine.warn message) :=
  hJ.write fun s _ => .aside (.remark s _ nofun) rfl rfl

theorem verbose (message : String) : Upholds (S.Keeps J) (Engine.verbose message) :=
  hJ.write fun s _ => .aside (.remark s _ nofun) rfl rfl

theorem enter (phase : Phase) :
    Upholds (S.Keeps J) (modifyState fun s => { s with phase }) :=
  hJ.write fun s _ => .aside (.enter s phase) rfl rfl

theorem addCostModifier (modifier : CardFace → Int) :
    Upholds (S.Keeps J) (Engine.addCostModifier modifier) :=
  hJ.write fun s _ => .aside (.reprice s _) rfl rfl

/-- Counters and triggers of a player of the scope change, but not the victory tokens. -/
theorem adjust {id : PlayerId} (hid : S.seats id) {f : Player → Player}
    (htableau : ∀ p, (f p).id = p.id ∧ (f p).turns = p.turns ∧ (f p).zones = p.zones ∧
      (f p).victoryTokens = p.victoryTokens)
    (hhooks : ∀ p, S.hooks.AllowPlayer p → S.hooks.AllowPlayer (f p)) :
    Upholds (S.Keeps J) (modifyPlayer id f) := by
  refine .withPlayer fun n p hn hp => hJ.keeps hn ?_
  obtain ⟨hpid, hturns, hzones, htokens⟩ := htableau p
  refine .seat (.arrange n.state id p _ hp hpid hturns (fun hm => ?_) (hhooks p)) hp hid rfl rfl htokens
  exact ⟨by rw [hzones]; exact hm, by rw [Tableau.allCards, hzones]; rfl⟩

theorem credit {id : PlayerId} (hid : S.seats id) (counter : Counter) (k : Nat)
    (htokens : ∀ id' k', Call.credit id counter k = .credit id' .victoryTokens k' →
      ∀ {n : Game M} {s}, S.Suits n.state → J n → S.Reach n.state s → J { n with state := s }) :
    Upholds (S.Keeps J) (modifyPlayer id (·.onTableau (·.credit k counter)) : Engine M Unit) := by
  cases counter with
  | victoryTokens =>
    refine .withPlayer fun n p hn hp => ?_
    have hreach := Reach.credit (S := S) hp hid k .victoryTokens
    exact ⟨hn.1.reach hreach, htokens id k rfl hn.1 hn.2 hreach⟩
  | _ =>
    exact hJ.adjust hid (fun _ => ⟨rfl, rfl, rfl, rfl⟩) fun _ hallow => ⟨hallow.gain, hallow.play⟩

/-! ### Asking -/

theorem ask (id : PlayerId) (q : Question) : Upholds (S.Keeps J) (Engine.ask id q) := by
  intro n hn
  unfold Ensures
  rw [runOn_ask]
  by_cases hid : id.seat < n.state.players.length
  · rw [if_pos hid]
    obtain ⟨logger, hstate⟩ := asked_state n id q
    have haside : S.Stroke n.state (Engine.asked n id q).2.state :=
      .aside (.think n.state id _ _) (by rw [hstate]) (by rw [hstate]; rfl)
    exact ⟨hn.1.reach haside.toReach, hJ.asked q hn.2 hid⟩
  · rw [if_neg hid]
    exact hn

theorem askTimes (id : PlayerId) (q : Question) (what : String) (accept : q.Answer → Option β)
    (k : Nat) : Upholds (S.Keeps J) (Engine.askTimes id q what accept k) := by
  induction k with
  | zero => exact .fail _
  | succ k ih =>
    refine .bind (hJ.ask id q) fun answer => ?_
    cases accept answer with
    | some b => exact .pure b
    | none => exact .bind (hJ.warn _) fun _ => ih

theorem chooseCards (id : PlayerId) (choice : CardChoice) :
    Upholds (S.Keeps J) (Engine.chooseCards id choice) :=
  .ite (.pure _) (.ite (.pure _) (hJ.askTimes _ _ _ _ _))

theorem choosePile (id : PlayerId) (prompt : String) (source : Option CardId)
    (eligible : PileOffer → Bool) :
    Upholds (S.Keeps J) (Engine.choosePile id prompt source eligible) :=
  .bind .state fun _ => .ite (.pure _) (hJ.askTimes _ _ _ _ _)

theorem chooseOptions (id : PlayerId) (choice : OptionChoice) :
    Upholds (S.Keeps J) (Engine.chooseOptions id choice) :=
  .ite (.pure _) (.ite (.pure _) (hJ.askTimes _ _ _ _ _))

theorem chooseInteger (id : PlayerId) (choice : IntegerChoice) :
    Upholds (S.Keeps J) (Engine.chooseInteger id choice) :=
  .bind (hJ.ask id _) fun _ => .pure _

/-! ### Moving cards -/

theorem draw {id : PlayerId} (hid : S.seats id) (count : Nat) :
    Upholds (S.Keeps J) (Engine.draw id count) :=
  .step fun n _ _ hn h => GameState.draw_keeps (I := fun s => S.Keeps J ⟨s, n.memory⟩)
    (fun s _ hs hp => hJ.keeps (n := ⟨s, n.memory⟩) hs (.drawOne hp hid))
    (fun s count hs => hJ.keeps (n := ⟨s, n.memory⟩) hs
      (.aside (.publish s id (.drawCards count) trivial) rfl rfl)) hn h

theorem topCards {id : PlayerId} (hid : S.seats id) (count : Nat) :
    Upholds (S.Keeps J) (Engine.topCards id count) :=
  .step fun _ _ _ hn h => hJ.keeps hn (.topCards h hid)

theorem move (card : CardId) {id : PlayerId} (hid : S.seats id) (target : Zone) (position : Position) :
    Upholds (S.Keeps J) (Engine.move card id target position) := by
  refine .step fun n _ _ hn h => GameState.move_keeps (I := fun s => S.Keeps J ⟨s, n.memory⟩)
    (fun s _ hs => hJ.keeps (n := ⟨s, n.memory⟩) hs (.aside (.remark s _ nofun) rfl rfl)) ?_ hn h
  intro p zone hp hloc
  refine ⟨hJ.keeps hn (.transfer hp hid hloc target position), fun s name hs => ?_⟩
  refine hJ.keeps (n := ⟨s, n.memory⟩) hs
    (.aside (.publish s id (.moveCard card name zone target) ?_) rfl rfl)
  rintro rfl
  exact Bool.noConfusion
    (PlayerZones.mem_row_of_locate (hn.1.sound.mats p (GameState.player?_mem hp)) hloc).1

theorem reveal (cards : List CardId) (id : PlayerId) :
    Upholds (S.Keeps J) (Engine.reveal cards id) :=
  .ite (.pure _) (.bind .state fun _ => hJ.publish _ trivial)

theorem recover (card : CardId) {id : PlayerId} (hid : S.seats id) :
    Upholds (S.Keeps J) (Engine.recover card id) := by
  intro n hn
  cases hp : n.state.player? id with
  | none =>
    rw [Engine.recover, ensures_bind, ensures_state, ensures_ite]
    refine ⟨fun _ => ?_, fun _ => hn⟩
    rw [ensures_bind, ensures_modifyPlayer, hp]
    exact hn
  | some p => exact ensures_recover hn hp fun hcard name => hJ.keeps hn (.recover hp hid hcard name)

theorem blocksAttack (target : PlayerId) (attack : CardId) :
    Upholds (S.Keeps J) (Engine.blocksAttack target attack) := by
  refine .bind (.player target) fun p => .bind .state fun s => ?_
  cases p.hand.find? (s.grants .revealFromHand) with
  | some card =>
    exact .bind (hJ.reveal _ _) fun _ => .bind (hJ.publish _ trivial) fun _ => .pure _
  | none => exact .ite (.bind (hJ.verbose _) fun _ => .pure _) (.pure _)

/-! ### What waits -/

theorem hang {card : CardId} (hcard : ¬ S.foreign card) {f : Card → Card}
    (hf : ∀ c, (f c).definition = c.definition)
    (hhooks : ∀ c, S.hooks.AllowCard c → S.hooks.AllowCard (f c)) :
    Upholds (S.Keeps J) (modifyState fun s => { s with cards := s.cards.modify card f }) :=
  hJ.write fun _ _ => .hang hcard hf fun c _ => hhooks c

theorem addDuration {card : CardId} (hcard : ¬ S.foreign card) {callback : EffectContext → Program}
    (hcallback : S.hooks.duration callback) :
    Upholds (S.Keeps J) (Engine.addDuration card callback) := by
  refine .bind (.card card) fun _ => hJ.hang hcard (fun _ => rfl) fun c hallow d hd => ?_
  rcases List.mem_append.mp hd with hd | hd
  · exact hallow d hd
  · rw [List.mem_singleton.mp hd]
    exact hcallback

theorem addGainTrigger {id : PlayerId} (hid : S.seats id) {callback : GainInfo → Program}
    (hcallback : S.hooks.gain callback) :
    Upholds (S.Keeps J) (Engine.addGainTrigger id callback) := by
  refine hJ.adjust hid (fun _ => ⟨rfl, rfl, rfl, rfl⟩) fun p hallow => ⟨fun t ht => ?_, hallow.play⟩
  rcases List.mem_append.mp ht with ht | ht
  · exact hallow.gain t ht
  · rw [List.mem_singleton.mp ht]
    exact hcallback

theorem addPlayTrigger {id : PlayerId} (hid : S.seats id) {callback : PlayerId → CardId → Program}
    (hcallback : S.hooks.play callback) :
    Upholds (S.Keeps J) (Engine.addPlayTrigger id callback) := by
  refine hJ.adjust hid (fun _ => ⟨rfl, rfl, rfl, rfl⟩) fun p hallow => ⟨hallow.gain, fun t ht => ?_⟩
  rcases List.mem_append.mp ht with ht | ht
  · exact hallow.play t ht
  · rw [List.mem_singleton.mp ht]
    exact hcallback

/-! ### What is provoked -/

omit [Controllers M] hJ in
/-- What comes after a card was looked at may rely on it that the card stays inside. -/
theorem withDefinition {card : CardId} {k : CardDefinition → Engine M β}
    (h : ∀ d, d.Inside S → Upholds (S.Keeps J) (k d)) :
    Upholds (S.Keeps J) (definition card >>= k) := by
  intro n hn
  rw [ensures_bind, ensures_definition]
  cases hc : n.state.card? card with
  | none => exact hn
  | some c => exact h _ (hn.1.rules card c hc) n hn

section

variable {provoke : Program → Engine M Bool}
  (hprovoke : ∀ p : Program, p.Inside S → Upholds (S.Keeps J) (provoke p))
include hprovoke

omit [Controllers M] hJ in
theorem executeAll {effects : List Effect} (heffects : S.Runs effects) {ctx : EffectContext}
    (hctx : S.Acting ctx) : Upholds (S.Keeps J) (Engine.executeAll provoke effects ctx) :=
  .ite (.pure _) (.bind (hprovoke _ (heffects ctx hctx)) fun _ => .pure _)

omit [Controllers M] hJ in
theorem fireReactions (trigger : ReactionTrigger) (hplayer : S.Seat trigger.player)
    (hcard : ∀ card ∈ trigger.card?, ¬ S.foreign card) :
    Upholds (S.Keeps J) (Engine.fireReactions provoke trigger) := by
  intro n hn
  obtain ⟨found, hfound, hall⟩ := hn.1.sound.candidates trigger.kind
  simp only [Engine.fireReactions, ensures_bind, ensures_state, hfound, ensures_lift_ok]
  refine ensures_forM hn fun c hmem => ?_
  obtain ⟨⟨k, hk, hreaction⟩, howner⟩ := hall c hmem
  refine Upholds.withPlayer fun n' p hn' hp => ?_
  by_cases hloc : p.zones.locate c.card = some c.reaction.zone
  · rw [if_pos hloc]
    have hmats := hn'.1.sound.mats p (GameState.player?_mem hp)
    have hheld : c.card ∈ p.allCards :=
      PlayerZones.mem_allCards_of_mem_row (PlayerZones.mem_row_of_locate hmats hloc).2
    have hreacting : S.Reacting ⟨c.card, c.owner, trigger⟩ :=
      ⟨hn.1.table ▸ howner, hn'.1.parts.foreign_iff hn'.1.sound hp hheld, hplayer, hcard⟩
    have hinside := (hn.1.rules c.card k hk).reactions _ _ hreaction _ hreacting
    exact Upholds.bind (hprovoke _ hinside) (fun _ => .pure _) n' hn'
  · rw [if_neg hloc]
    exact hn'

theorem firePlayTriggers {id : PlayerId} (hid : S.Seat id) (card : CardId) :
    Upholds (S.Keeps J) (Engine.firePlayTriggers provoke id card) := by
  refine .withPlayer fun n p hn hp => ?_
  have hallow := hn.1.hooks.players p (GameState.player?_mem hp)
  have hclear : Upholds (S.Keeps J) (modifyPlayer id fun p => { p with playTriggers := [] }) :=
    hJ.adjust hid.1 (fun _ => ⟨rfl, rfl, rfl, rfl⟩) fun _ hallow => ⟨hallow.gain, nofun⟩
  refine ensures_bind.mpr ((hclear n hn).imp fun _ n₁ hn₁ => ?_)
  have hrun : ∀ t ∈ p.playTriggers, Upholds (S.Keeps J) (provoke (t id card)) :=
    fun t ht => hprovoke _ (hallow.play t ht id card hid)
  refine ensures_bind.mpr ((ensures_keepers hn₁ fun t ht => hrun t ht).imp ?_)
  rintro kept n₂ ⟨hn₂, hsub⟩
  refine hJ.adjust hid.1 (f := fun q => { q with playTriggers := kept ++ q.playTriggers })
    (fun _ => ⟨rfl, rfl, rfl, rfl⟩) (fun q hallow' => ⟨hallow'.gain, ?_⟩) n₂ hn₂
  exact List.forall_mem_append.mpr ⟨fun t ht => hallow.play t (hsub.mem ht), hallow'.play⟩

theorem fireDurations {id : PlayerId} (hid : S.Seat id) :
    Upholds (S.Keeps J) (Engine.fireDurations provoke id) := by
  refine .withPlayer fun n p hn hp => ensures_bind.mpr (ensures_state.mpr ?_)
  refine ensures_forM hn fun holder hholder => ?_
  have hwaiting : holder ∈ p.inPlay ++ p.zones.setAside := List.mem_of_mem_filter hholder
  have hheld : holder ∈ p.allCards := by
    rcases List.mem_append.mp hwaiting with h | h
    · exact PlayerZones.mem_allCards_of_mem_row (show holder ∈ p.zones.row .inPlay from h)
    · exact PlayerZones.mem_allCards_of_mem_row (show holder ∈ p.zones.row .setAside from h)
  have hmine := hn.1.own hp hid.1 hheld
  intro n₁ hn₁
  rw [ensures_bind, ensures_card]
  cases hc : n₁.state.card? holder with
  | none => exact hn₁
  | some c =>
  have hallow := hn₁.1.hooks.cards holder c hc
  have hclear : Upholds (S.Keeps J) (modifyState fun s =>
      { s with cards := s.cards.modify holder fun c => { c with durations := [] } }) :=
    hJ.hang hmine (fun _ => rfl) fun _ _ => nofun
  refine ensures_bind.mpr ((hclear n₁ hn₁).imp fun _ n₂ hn₂ => ?_)
  have hrun : ∀ d ∈ c.durations, Upholds (S.Keeps J) (provoke (d ⟨holder, id⟩)) :=
    fun d hd => hprovoke _ (hallow d hd _ ⟨hid, hmine⟩)
  refine ensures_bind.mpr ((ensures_keepers hn₂ fun d hd => hrun d hd).imp ?_)
  rintro kept n₃ ⟨hn₃, hsub⟩
  refine Upholds.bind (.card holder) (fun _ => ?_) n₃ hn₃
  refine hJ.hang hmine (fun _ => rfl) fun q hallow' => ?_
  exact List.forall_mem_append.mpr ⟨fun d hd => hallow d (hsub.mem hd), hallow'⟩

theorem play (card : CardId) {owner : PlayerId} (howner : S.seats owner) :
    Upholds (S.Keeps J) (Engine.play provoke card owner) := by
  refine .bind (.definition card) fun d => .withPlayer fun n p hn hp => ?_
  cases hremove : p.toTableau.remove? card with
  | none => exact hJ.warn _ n hn
  | some taken =>
    obtain ⟨zone, tableau⟩ := taken
    have hplayed : S.Stroke n.state
        (n.state.setPlayer owner { p with toTableau := afterPlay d card tableau }) := by
      refine .lay hp howner hremove (z := .inPlay) rfl ?_ (afterPlay_zones d card tableau)
      unfold afterPlay
      by_cases htreasure : d.isTreasure = true <;> simp only [htreasure] <;> exact ⟨rfl, rfl, rfl⟩
    have hrest : Upholds (S.Keeps J) (do
        Engine.publish owner (.playCard card d.name)
        Engine.firePlayTriggers provoke owner card) :=
      .bind (hJ.publish _ trivial) fun _ =>
        hJ.firePlayTriggers hprovoke (hn.1.seat hp howner) card
    exact ensures_bind.mpr (hrest _ (hJ.keeps hn hplayed))

omit [Controllers M] hJ in
theorem resolve {card : CardId} {owner : PlayerId} (hctx : S.Acting ⟨card, owner⟩) :
    Upholds (S.Keeps J) (Engine.resolve provoke card owner) :=
  withDefinition fun _ hd => executeAll hprovoke hd.play hctx

theorem gain (pile : String) {owner : PlayerId} (howner : S.Seat owner) (bought : Bool)
    (destination : GainDestination) :
    Upholds (S.Keeps J) (Engine.gain provoke pile owner bought destination) := by
  intro n hn
  obtain ⟨p, hp⟩ := GameState.player?_of_lt (s := n.state) (hn.1.table ▸ howner.2)
  rw [Engine.gain, ensures_bind, ensures_state]
  cases hpile : n.state.supply.pile? pile with
  | none => exact hn
  | some q =>
  dsimp only
  cases htop : q.top? with
  | none => exact hn
  | some card =>
  have hgained := hJ.keeps hn (.gain hpile htop hp howner.1 bought destination)
  have hcard := hn.1.supplied hpile htop
  have hp' : GameState.player? { n.state with
      supply := n.state.supply.updatePile pile Pile.pop } owner = some p := hp
  have hrest : Upholds (S.Keeps J) (do
      Engine.executeAll provoke (← definition card).onGain ⟨card, owner⟩
      let info : GainInfo := ⟨owner, card, bought, destination⟩
      (← Engine.player owner).gainTriggers.forM fun trigger => do
        let _ ← provoke (trigger info)
      Engine.fireReactions provoke (.gain info)
      return card) := by
    refine withDefinition fun d hd => .bind (executeAll hprovoke hd.gain ⟨howner, hcard⟩) fun _ => ?_
    refine .withPlayer fun n₁ p₁ hn₁ hp₁ => ?_
    have hallow := hn₁.1.hooks.players p₁ (GameState.player?_mem hp₁)
    refine ensures_bind.mpr ((ensures_forM hn₁ fun trigger htrigger => ?_).imp fun _ n₂ hn₂ => ?_)
    · exact Upholds.bind (hprovoke _ (hallow.gain trigger htrigger _ howner)) fun _ => .pure _
    · refine Upholds.bind (fireReactions hprovoke (.gain ⟨owner, card, bought, destination⟩) howner ?_)
        (fun _ => .pure _) n₂ hn₂
      rintro _ ⟨⟩
      exact hcard
  rw [ensures_bind, ensures_modifyState, ensures_bind, ensures_modifyPlayer]
  simp only [hp']
  exact ensures_bind.mpr (hrest _ hgained)

theorem gainIfAvailable (pile : String) {owner : PlayerId} (howner : S.Seat owner)
    (destination : GainDestination) :
    Upholds (S.Keeps J) (Engine.gainIfAvailable provoke pile owner destination) :=
  .bind .state fun _ => .ite (.bind (hJ.verbose _) fun _ => .pure _)
    (.map _ (hJ.gain hprovoke pile howner false destination))

theorem buy (pile : String) {owner : PlayerId} (howner : S.Seat owner) :
    Upholds (S.Keeps J) (Engine.buy provoke pile owner) := by
  refine .bind .state fun s => ?_
  cases s.pileCost? pile with
  | none => exact .fail _
  | some cost =>
    refine .bind (hJ.gain hprovoke pile howner true .discard) fun _ => .bind ?_ fun _ => .pure _
    exact hJ.adjust howner.1 (fun _ => ⟨rfl, rfl, rfl, rfl⟩) fun _ hallow => ⟨hallow.gain, hallow.play⟩

theorem discard (card : CardId) {owner : PlayerId} (howner : S.seats owner) :
    Upholds (S.Keeps J) (Engine.discard provoke card owner) := by
  refine .bind .state fun s => .withPlayer fun n p hn hp => ?_
  cases hremove : p.toTableau.remove? card with
  | none => exact Upholds.bind (hJ.warn _) (fun _ => .pure _) n hn
  | some taken =>
    obtain ⟨zone, tableau⟩ := taken
    have hlaid := hJ.keeps hn (.lay (t := tableau.put card .discard .top) hp howner hremove
      (z := .discard) rfl ⟨rfl, rfl, rfl⟩ rfl)
    have hmine := hn.1.removed hp howner hremove
    refine ensures_bind.mpr ((?_ : Upholds (S.Keeps J) _) _ hlaid)
    refine .bind (hJ.publish _ trivial) fun _ =>
      .bind (fireReactions hprovoke (.discard _ _) ?_ ?_) fun _ => .pure _
    · exact hn.1.seat hp howner
    · rintro _ ⟨⟩
      exact hmine

theorem trash (card : CardId) {owner : PlayerId} (howner : S.seats owner) :
    Upholds (S.Keeps J) (Engine.trash provoke card owner) := by
  refine withDefinition fun d hd => .withPlayer fun n p hn hp => ?_
  cases hremove : p.toTableau.remove? card with
  | none => exact Upholds.bind (hJ.warn _) (fun _ => .pure _) n hn
  | some taken =>
    obtain ⟨zone, tableau⟩ := taken
    have htrashed := hJ.keeps hn (.trash hp howner hremove d.name)
    have hctx : S.Acting ⟨card, owner⟩ := ⟨hn.1.seat hp howner, hn.1.removed hp howner hremove⟩
    have hrest : Upholds (S.Keeps J) (do
        Engine.executeAll provoke d.onTrash ⟨card, owner⟩
        return true) := .bind (executeAll hprovoke hd.trash hctx) fun _ => .pure _
    exact ensures_bind.mpr (ensures_bind.mpr (hrest _ htrashed))

/-! ### Programs -/

/-- A call inside the scope is carried out; what is known of its answer can be relied on. Tokens may be
credited if the assertion bears it. -/
theorem perform {c : Call} (hc : c.Inside S)
    (htokens : ∀ id k, c = .credit id .victoryTokens k → ∀ {n : Game M} {s}, S.Suits n.state → J n →
      S.Reach n.state s → J { n with state := s })
    {n : Game M} (hn : S.Keeps J n) :
    Ensures (Engine.perform provoke c) n (fun a n' => S.Keeps J n' ∧ c.Told S a)
      (fun _ => S.Keeps J) := by
  have hany {c : Call} {e : Engine M c.Answer} (htold : ∀ a, c.Told S a)
      (he : Upholds (S.Keeps J) e) :
      Ensures e n (fun a n' => S.Keeps J n' ∧ c.Told S a) (fun _ => S.Keeps J) :=
    (he n hn).imp fun a _ hn' => ⟨hn', htold a⟩
  cases c with
  | draw id count => exact hany (fun _ => trivial) (hJ.draw hc count)
  | topCards id count => exact hany (fun _ => trivial) (hJ.topCards hc count)
  | move card id target position => exact hany (fun _ => trivial) (hJ.move card hc target position)
  | discard card id => exact hany (fun _ => trivial) (hJ.discard hprovoke card hc)
  | trash card id => exact hany (fun _ => trivial) (hJ.trash hprovoke card hc)
  | recover card id => exact hany (fun _ => trivial) (hJ.recover card hc)
  | reveal cards id => exact hany (fun _ => trivial) (hJ.reveal cards id)
  | play card id => exact hany (fun _ => trivial) (hJ.play hprovoke card hc)
  | resolve card id => exact hany (fun _ => trivial) (resolve hprovoke hc)
  | gain pile id bought destination =>
    exact hany (fun _ => trivial) (hJ.gain hprovoke pile hc bought destination)
  | gainIfAvailable pile id destination =>
    exact hany (fun _ => trivial) (hJ.gainIfAvailable hprovoke pile hc destination)
  | buy pile id => exact hany (fun _ => trivial) (hJ.buy hprovoke pile hc)
  | credit id counter k => exact hany (fun _ => trivial) (hJ.credit hc counter k htokens)
  | addCostModifier modifier => exact hany (fun _ => trivial) (hJ.addCostModifier modifier)
  | costOf card =>
    exact hany (fun _ => trivial) (.bind .state fun _ => .bind (.definition card) fun _ => .pure _)
  | opponents id =>
    refine ⟨hn, fun other hother => ?_⟩
    obtain ⟨i, -, rfl⟩ := List.mem_map.mp hother
    have hpos : 0 < n.state.players.length := Nat.lt_of_le_of_lt (Nat.zero_le _) hn.1.sound.active
    exact hn.1.table ▸ Nat.mod_lt (id.seat + (i + 1)) hpos
  | blocksAttack target attack => exact hany (fun _ => trivial) (hJ.blocksAttack target attack)
  | chooseCards id choice =>
    have hboth := (hJ.chooseCards id choice n hn).and (chooseCards_ponders id choice n)
    exact hboth.mono (fun _ _ h => ⟨h.1, h.2.2⟩) fun _ _ h => h.1
  | choosePile id prompt source eligible =>
    exact hany (fun _ => trivial) (hJ.choosePile id prompt source eligible)
  | chooseBoolean id choice => exact hany (fun _ => trivial) (hJ.ask id _)
  | chooseOptions id choice => exact hany (fun _ => trivial) (hJ.chooseOptions id choice)
  | chooseInteger id choice => exact hany (fun _ => trivial) (hJ.chooseInteger id choice)
  | note message => exact hany (fun _ => trivial) (hJ.verbose message)

end

/-- A program that stays inside the scope is run inside of it, if its calls are carried out so, and if one
with which it goes beyond the scope is the last. -/
theorem interpret {call : (c : Call) → Engine M c.Answer}
    (hcall : ∀ c, c.Inside S → ∀ n, S.Keeps J n → Ensures (call c) n
      (fun a n' => S.Keeps J n' ∧ ¬ S.leaves c ∧ c.Told S a) (fun _ => S.Keeps J))
    {p : Program} (hp : p.Inside S) : Upholds (S.Keeps J) (Engine.interpret call p) := by
  induction p with
  | finish keep => exact .pure keep
  | fail error => exact .fail error
  | look next ih =>
    intro n hn
    exact ih _ (hp _ ⟨n.state, hn.1.sound, hn.1.table, hn.1.parts, rfl⟩) n hn
  | call c next ih =>
    intro n hn
    refine ensures_bind.mpr ((hcall c hp.1 n hn).imp fun a n' h => ?_)
    exact ih a (hp.2 h.2.1 a h.2.2) n' h.1
  | addDuration card callback next _ ih =>
    exact .bind (hJ.addDuration hp.1 hp.2.1) fun _ => ih hp.2.2
  | addGainTrigger id callback next _ ih =>
    exact .bind (hJ.addGainTrigger hp.1 hp.2.1) fun _ => ih hp.2.2
  | addPlayTrigger id callback next _ ih =>
    exact .bind (hJ.addPlayTrigger hp.1 hp.2.1) fun _ => ih hp.2.2

/-! ### Turns -/

section

variable {provoke : Program → Engine M Bool}
  (hprovoke : ∀ p : Program, p.Inside S → Upholds (S.Keeps J) (provoke p))
include hprovoke

theorem startTurnBy {n : Game M} (hn : S.Keeps J n) (hactive : S.Seat n.state.activePlayer) :
    Ensures (Engine.startTurnBy provoke) n (fun _ => S.Keeps J) (fun _ => S.Keeps J) := by
  generalize hid : n.state.activePlayer = id at hactive
  obtain ⟨p, hp⟩ := GameState.player?_of_lt (s := n.state) (hn.1.table ▸ hactive.2)
  have hbegun := hJ.keeps hn (.seat (.begin n.state id p hp) hp hactive.1
    (q := p.onTableau fun t => { t with turns := t.turns + 1 }) rfl rfl rfl)
  have hrest : Upholds (S.Keeps J) (do
      Engine.fireDurations provoke id
      Engine.fireReactions provoke (.startTurn id)) :=
    .bind (hJ.fireDurations hprovoke hactive) fun _ =>
      fireReactions hprovoke (.startTurn id) hactive fun _ => nofun
  have hp' : GameState.player? { n.state with
      turn := n.state.turn + 1, phase := .action, turnStart := n.state.events.lastSeq } id =
        some p := hp
  rw [Engine.startTurnBy, ensures_bind, Catalog.ensures_active, hid, ensures_bind, ensures_modifyState,
    ensures_bind, ensures_modifyPlayer]
  simp only [hp']
  exact ensures_bind.mpr (hrest _ hbegun)

omit [Controllers M] hJ in
theorem cleanUpHook {id : PlayerId} (hid : S.Seat id) (card : CardId) :
    Upholds (S.Keeps J) (Engine.cleanUpHook provoke id card) := by
  refine withDefinition fun d hd => .withPlayer fun n p hn hp => ensures_ite.mpr ⟨fun hhook => ?_, ?_⟩
  · have hcard : card ∈ p.zones.row .inPlay :=
      List.contains_iff_mem.mp (Bool.and_eq_true_iff.mp hhook).2
    have hmine := hn.1.own hp hid.1 (PlayerZones.mem_allCards_of_mem_row hcard)
    exact executeAll hprovoke hd.cleanUp ⟨hid, hmine⟩ n hn
  · exact fun _ => hn

omit hprovoke in
theorem cleanUpRest {id : PlayerId} (hid : S.Seat id) :
    Upholds (S.Keeps J) (Engine.cleanUpRest id) := by
  refine .bind (.player id) fun p => .bind (.filterM (fun c => .bind (.card c) fun _ => .pure _) _) ?_
  refine fun done => .bind (.withPlayer fun n p hn hp => hJ.keeps hn ?_) fun _ => ?_
  · refine .seat (.layDown hn.1.sound hp done) hp hid.1 rfl rfl ?_
    have hmats := hn.1.sound.mats p (GameState.player?_mem hp)
    obtain ⟨zones, -, -, heq⟩ := Tableau.foldl_transfer done .inPlay rfl .discard .top hmats
    simp only [Player.onTableau, Tableau.layDown, heq]
  refine .bind (hJ.publish id trivial) fun _ => .bind (hJ.draw hid.1 handSize) fun _ => ?_
  have hnone (p : Player) : S.hooks.AllowPlayer { toTableau := p.toTableau.resetCounters } :=
    ⟨fun _ ht => absurd ht List.not_mem_nil, fun _ ht => absurd ht List.not_mem_nil⟩
  refine .bind (hJ.adjust hid.1 (fun _ => ⟨rfl, rfl, rfl, rfl⟩) fun p _ => hnone p) fun _ => ?_
  exact hJ.write fun s _ => .aside (.pass s) rfl rfl

theorem cleanUpBy {n : Game M} (hn : S.Keeps J n) (hactive : S.Seat n.state.activePlayer) :
    Ensures (Engine.cleanUpBy provoke) n (fun _ => S.Keeps J) (fun _ => S.Keeps J) := by
  rw [Engine.cleanUpBy, ensures_bind, Catalog.ensures_active]
  refine Upholds.bind (hJ.enter _) (fun _ => .bind ?_ fun _ => hJ.cleanUpRest hactive) n hn
  exact .bind (.player _) fun _ => .forM (fun card => cleanUpHook hprovoke hactive card) _

end

theorem finish (turns : Nat) (reason : EndReason) :
    Upholds (S.Keeps J) (Engine.finish turns reason) :=
  .bind .state fun _ => .bind (.lift _) fun _ => .bind .state fun _ => .bind (.lift _) fun _ =>
    .bind (hJ.publish _ trivial) fun _ => .pure _

end Regards

end Scope

end DeckBuilder
