import DeckBuilder.Proofs.CatalogSeated
import DeckBuilder.Proofs.Conduct
import DeckBuilder.Proofs.Pending

/-!
How far a program may reach. A scope names players at a table, and the cards of all the others. A program
inside the scope changes the cards, counters and triggers of these players only, and it hangs nothing on the
cards of others, nor has them do what they do. It may go beyond the scope with certain calls; of what it
does after such a call nothing is said. Programs look at the table as they go, so it is said of a program
together with what it may see.
-/
namespace DeckBuilder

structure Scope where
  /-- How many sit at the table. -/
  table : Nat
  /-- The players whose cards, counters and triggers may change. -/
  seats : PlayerId → Prop
  /-- The cards of the other players. -/
  foreign : CardId → Prop
  /-- The calls with which a program goes beyond the scope. -/
  leaves : Call → Prop

/-- The card that a trigger for reactions is about. -/
def ReactionTrigger.card? : ReactionTrigger → Option CardId
  | .gain info => some info.card
  | .discard _ card => some card
  | .startTurn _ => none

namespace Scope

/-- Every player of a table of `n`, so that nothing is beyond it. -/
def everybody (n : Nat) : Scope := ⟨n, fun _ => True, fun _ => False, fun _ => False⟩

variable (S : Scope)

/-- A player of the scope who sits at the table. -/
def Seat (id : PlayerId) : Prop := S.seats id ∧ id.seat < S.table

/-- A card acts for a player of the scope, and it is not one of the others'. -/
structure Acting (ctx : EffectContext) : Prop where
  seat : S.Seat ctx.player
  card : ¬ S.foreign ctx.card

/-- A card reacts to what happens to a player of the scope, with a card that is not one of the others'. The
reacting card itself may be anybody's. -/
structure Reacting (ctx : ReactionContext) : Prop where
  owner : ctx.owner.seat < S.table
  foreign : S.foreign ctx.card ↔ ¬ S.seats ctx.owner
  player : S.Seat ctx.trigger.player
  card : ∀ card ∈ ctx.trigger.card?, ¬ S.foreign card

/-- The foreign cards are those that players outside the scope have. -/
def Parts (s : GameState) : Prop :=
  ∀ card, S.foreign card ↔ ∃ id p, ¬ S.seats id ∧ s.player? id = some p ∧ card ∈ p.allCards

/-- What a program may look at. -/
def Shows (o : Outlook) : Prop :=
  ∃ s : GameState, s.Sound ∧ s.players.length = S.table ∧ S.Parts s ∧ o = s.outlook

variable {S}

theorem Parts.foreign_iff {s : GameState} (h : S.Parts s) (hs : s.Sound) {id : PlayerId} {p : Player}
    (hp : s.player? id = some p) {card : CardId} (hcard : card ∈ p.allCards) :
    S.foreign card ↔ ¬ S.seats id := by
  rw [h card]
  constructor
  · rintro ⟨other, q, hother, hq, hcq⟩
    rw [hs.owner_unique hp hq hcard hcq]
    exact hother
  · exact fun hid => ⟨id, p, hid, hp, hcard⟩

/-- A player of the scope has no foreign card. -/
theorem Parts.own {s : GameState} (h : S.Parts s) (hs : s.Sound) {id : PlayerId} {p : Player}
    (hp : s.player? id = some p) (hid : S.seats id) {card : CardId} (hcard : card ∈ p.allCards) :
    ¬ S.foreign card :=
  fun hforeign => (h.foreign_iff hs hp hcard).mp hforeign hid

end Scope

/-! ### Programs -/

namespace Call

def Inside (S : Scope) : Call → Prop
  | .draw id _ | .topCards id _ | .move _ id _ _ | .discard _ id | .trash _ id | .recover _ id
  | .play _ id | .credit id _ _ => S.seats id
  | .gain _ id _ _ | .gainIfAvailable _ id _ | .buy _ id => S.Seat id
  | .resolve card id => S.Acting ⟨card, id⟩
  | _ => True

/-- Where everybody is in the scope, so is a call for a player at the table. -/
theorem Seated.inside {n : Nat} {c : Call} (h : c.Seated n) : c.Inside (.everybody n) := by
  cases c <;> first | trivial | exact ⟨trivial, h⟩ | exact ⟨⟨trivial, h⟩, not_false⟩

/-- What can be relied on about the answer of a call. -/
def Told (S : Scope) : (c : Call) → c.Answer → Prop
  | .opponents _, players => ∀ id ∈ players, id.seat < S.table
  | .chooseCards _ choice, cards => ∀ card ∈ cards, card ∈ choice.cards
  | _, _ => True

end Call

namespace Program

def Inside (S : Scope) : Program → Prop
  | .finish _ => True
  | .fail _ => True
  | .look next => ∀ o, S.Shows o → (next o).Inside S
  | .call c next => c.Inside S ∧ (¬ S.leaves c → ∀ a, c.Told S a → (next a).Inside S)
  | .addDuration card callback next =>
    ¬ S.foreign card ∧ (∀ ctx, S.Acting ctx → (callback ctx).Inside S) ∧ next.Inside S
  | .addGainTrigger id callback next =>
    S.seats id ∧ (∀ info, S.Seat info.player → (callback info).Inside S) ∧ next.Inside S
  | .addPlayTrigger id callback next =>
    S.seats id ∧ (∀ id card, S.Seat id → (callback id card).Inside S) ∧ next.Inside S

variable {S : Scope}

theorem Inside.andThen {p k : Program} (hp : p.Inside S) (hk : k.Inside S) :
    (p.andThen k).Inside S := by
  induction p with
  | finish _ => exact hk
  | fail _ => trivial
  | look next ih => exact fun o ho => ih o (hp o ho)
  | call c next ih => exact ⟨hp.1, fun hc a ha => ih a (hp.2 hc a ha)⟩
  | addDuration _ _ _ _ ih => exact ⟨hp.1, hp.2.1, ih hp.2.2⟩
  | addGainTrigger _ _ _ _ ih => exact ⟨hp.1, hp.2.1, ih hp.2.2⟩
  | addPlayTrigger _ _ _ _ ih => exact ⟨hp.1, hp.2.1, ih hp.2.2⟩

/-- Where everybody is in the scope, a program that gains for players at the table is inside. -/
theorem Seated.inside {n : Nat} {p : Program} (h : p.Seated n) : p.Inside (.everybody n) := by
  induction p with
  | finish _ => trivial
  | fail _ => trivial
  | look next ih =>
    rintro o ⟨s, hs, hlength, -, rfl⟩
    exact ih _ (h _ ⟨s, hs, hlength, rfl⟩)
  | call c next ih =>
    refine ⟨h.1.inside, fun _ a ha => ih a (h.2 a ?_)⟩
    cases c <;> first | exact ha | trivial
  | addDuration card callback next ih ih' =>
    exact ⟨not_false, fun ctx hctx => ih ctx (h.1 ctx hctx.seat.2), ih' h.2⟩
  | addGainTrigger id callback next ih ih' =>
    exact ⟨trivial, fun info hinfo => ih info (h.1 info hinfo.2), ih' h.2⟩
  | addPlayTrigger id callback next ih ih' =>
    exact ⟨trivial, fun id card hid => ih id card (h.1 id card hid.2), ih' h.2⟩

end Program

/-! ### Cards -/

namespace Scope

variable (S : Scope)

/-- What may hang on cards and players. -/
def hooks : Hooks where
  gain t := ∀ info, S.Seat info.player → (t info).Inside S
  play t := ∀ id card, S.Seat id → (t id card).Inside S
  duration t := ∀ ctx, S.Acting ctx → (t ctx).Inside S

/-- Effects that stay inside when a card carries them out for a player of the scope. -/
def Runs (effects : List Effect) : Prop :=
  ∀ ctx, S.Acting ctx → (Effect.programAll ctx effects (.finish false)).Inside S

end Scope

/-- A card of which everything that it does for players of the scope stays inside. -/
structure CardDefinition.Inside (S : Scope) (d : CardDefinition) : Prop where
  play : S.Runs d.onPlay
  gain : S.Runs d.onGain
  trash : S.Runs d.onTrash
  cleanUp : S.Runs d.onCleanUp
  reactions : ∀ kind r, d.reactions.get? kind = some r →
    ∀ ctx, S.Reacting ctx → (r.effect ctx).Inside S

theorem CardDefinition.Seated.inside {n : Nat} {d : CardDefinition} (h : d.Seated n) :
    d.Inside (.everybody n) := by
  have hruns {effects : List Effect} (he : Effect.SeatedAll n effects) :
      (Scope.everybody n).Runs effects :=
    fun _ hctx => (Effect.SeatedAll.program hctx.seat.2 effects he (k := .finish false) trivial).inside
  refine ⟨hruns h.play, hruns h.gain, hruns h.trash, hruns h.cleanUp, fun kind r hr ctx hctx => ?_⟩
  exact (h.reactions kind r hr ctx hctx.owner hctx.player.2).inside

theorem Hooks.Allow.everybody {n : Nat} {s : GameState} (h : (Hooks.seated n).Allow s) :
    (Scope.everybody n).hooks.Allow s where
  players p hp :=
    ⟨fun t ht info hinfo => ((h.players p hp).gain t ht info hinfo.2).inside,
      fun t ht id card hid => ((h.players p hp).play t ht id card hid.2).inside⟩
  cards id c hc t ht ctx hctx := (h.cards id c hc t ht ctx hctx.seat.2).inside

/-! ### States -/

namespace Scope

variable (S : Scope)

/-- A state in which everything that cards and players may have done stays inside the scope. -/
structure Suits (s : GameState) : Prop where
  sound : s.Sound
  table : s.players.length = S.table
  hooks : S.hooks.Allow s
  rules : ∀ id c, s.card? id = some c → c.definition.Inside S
  parts : S.Parts s

/-- The players outside the scope, and what waits on their cards, stay as they are. -/
structure Spares (s s' : GameState) : Prop where
  players : ∀ id, ¬ S.seats id → s'.player? id = s.player? id
  cards : ∀ card, S.foreign card → s'.card? card = s.card? card

/-- A change inside the scope. -/
structure Reach (s s' : GameState) : Prop extends S.Spares s s' where
  change : Change S.hooks s s'

/-- Such a change that leaves the victory tokens of all players alone. -/
structure Stroke (s s' : GameState) : Prop extends S.Reach s s' where
  tokens : ∀ id, (s'.player? id).map (·.victoryTokens) = (s.player? id).map (·.victoryTokens)

variable {S} {s s' : GameState}

theorem Spares.refl (s : GameState) : S.Spares s s := ⟨fun _ _ => rfl, fun _ _ => rfl⟩

theorem Spares.trans {s'' : GameState} (h : S.Spares s s') (h' : S.Spares s' s'') :
    S.Spares s s'' where
  players id hid := (h'.players id hid).trans (h.players id hid)
  cards card hcard := (h'.cards card hcard).trans (h.cards card hcard)

theorem Suits.reach (hs : S.Suits s) (h : S.Reach s s') : S.Suits s' where
  sound := h.change.sound hs.sound
  table := h.change.kept.seats.trans hs.table
  hooks := h.change.allow hs.hooks
  rules := by
    intro id c hc
    obtain ⟨before, hbefore, hdef⟩ := h.change.kept.carded_before hc
    rw [← hdef]
    exact hs.rules id before hbefore
  parts := by
    intro card
    rw [hs.parts card]
    constructor <;> rintro ⟨id, p, hid, hp, hcard⟩
    · exact ⟨id, p, hid, (h.players id hid).trans hp, hcard⟩
    · exact ⟨id, p, hid, (h.players id hid).symm.trans hp, hcard⟩

theorem Suits.seat (hs : S.Suits s) {id : PlayerId} {p : Player} (hp : s.player? id = some p)
    (hid : S.seats id) : S.Seat id :=
  ⟨hid, hs.table ▸ GameState.seat_lt_of_player? hp⟩

theorem Suits.own (hs : S.Suits s) {id : PlayerId} {p : Player} (hp : s.player? id = some p)
    (hid : S.seats id) {card : CardId} (hcard : card ∈ p.allCards) : ¬ S.foreign card :=
  hs.parts.own hs.sound hp hid hcard

/-- A card that a player of the scope takes up is the player's own. -/
theorem Suits.removed (hs : S.Suits s) {id : PlayerId} {p : Player} (hp : s.player? id = some p)
    (hid : S.seats id) {card : CardId} {zone : Zone} {tableau : Tableau}
    (hremove : p.toTableau.remove? card = some (zone, tableau)) : ¬ S.foreign card := by
  obtain ⟨zones, hzones, -⟩ := Tableau.remove?_eq_some hremove
  have hmats := hs.sound.mats p (GameState.player?_mem hp)
  have hloc := (PlayerZones.remove?_eq_some_iff.mp hzones).1
  exact hs.own hp hid (PlayerZones.mem_allCards_of_mem_row (PlayerZones.mem_row_of_locate hmats hloc).2)

/-- A card on a pile is nobody's. -/
theorem Suits.supplied (hs : S.Suits s) {pile : String} {q : Pile} {card : CardId}
    (hpile : s.supply.pile? pile = some q) (htop : q.top? = some card) : ¬ S.foreign card := by
  intro hforeign
  obtain ⟨id, p, -, hp, hcard⟩ := (hs.parts card).mp hforeign
  exact hs.sound.notMem_pile hp hcard (List.mem_of_find?_eq_some hpile) (List.mem_of_getLast? htop)

/-- A change of one player of the scope. -/
theorem Reach.seat (h : Change S.hooks s s') {id : PlayerId} {p' : Player} (hid : S.seats id)
    (hplayers : s'.players = (s.setPlayer id p').players) (hcards : s'.card? = s.card?) :
    S.Reach s s' where
  change := h
  players other hother := by
    rw [GameState.player?, hplayers, ← GameState.player?]
    exact GameState.player?_setPlayer_of_ne (fun heq : other = id => hother (heq ▸ hid)) p'
  cards card _ := by rw [hcards]

/-- Something is credited to a player of the scope. -/
theorem Reach.credit {id : PlayerId} {p : Player} (hp : s.player? id = some p) (hid : S.seats id)
    (k : Nat) (counter : Counter) :
    S.Reach s (s.setPlayer id (p.onTableau (·.credit k counter))) := by
  refine .seat (.arrange s id p _ hp ?_ ?_ (fun hm => ?_) fun hallow => ?_) hid rfl rfl
  all_goals cases counter <;> first | rfl | exact ⟨hm, .rfl⟩ | exact ⟨hallow.gain, hallow.play⟩

namespace Stroke

/-- A change that has to do neither with a player nor with what waits on a card. -/
theorem aside (h : Change S.hooks s s') (hplayers : s'.players = s.players)
    (hcards : s'.card? = s.card?) : S.Stroke s s' where
  change := h
  players id _ := by rw [GameState.player?, hplayers, ← GameState.player?]
  cards card _ := by rw [hcards]
  tokens id := by rw [GameState.player?, hplayers, ← GameState.player?]

/-- A change of one player of the scope, but not of the tokens. -/
theorem seat (h : Change S.hooks s s') {id : PlayerId} {p q : Player} (hp : s.player? id = some p)
    (hid : S.seats id) (hplayers : s'.players = (s.setPlayer id q).players)
    (hcards : s'.card? = s.card?) (htokens : q.victoryTokens = p.victoryTokens) :
    S.Stroke s s' := by
  refine ⟨.seat h hid hplayers hcards, fun other => ?_⟩
  rw [GameState.player?, hplayers, ← GameState.player?,
    GameState.player?_setPlayer (GameState.seat_lt_of_player? hp)]
  by_cases heq : id = other
  · rw [if_pos heq, ← heq, hp, Option.map_some, Option.map_some, htokens]
  · rw [if_neg heq]

theorem drawOne {id : PlayerId} {p : Player} (hp : s.player? id = some p) (hid : S.seats id) :
    S.Stroke s (s.drawOne id p).2 := by
  obtain ⟨rng, events, logger, heq⟩ := GameState.drawOne_eq s id p
  obtain ⟨hand, deck, discard, hdraw⟩ := Tableau.draw_eq p.toTableau s.rng
  refine seat (.draw s id p hp) hp hid (q := { p with toTableau := (p.toTableau.draw s.rng).2.1 })
    (by rw [heq]) (by rw [heq]; rfl) ?_
  rw [hdraw]

theorem topCards {id : PlayerId} {n : Nat} {cards : List CardId}
    (h : s.topCards id n = .ok (cards, s')) (hid : S.seats id) : S.Stroke s s' := by
  obtain ⟨p, rng, events, logger, hp, -, heq⟩ := GameState.topCards_eq h
  obtain ⟨deck, discard, hprepare⟩ := Tableau.prepare_eq p.toTableau n s.rng
  have htokens : (p.toTableau.topCards n s.rng).2.1.victoryTokens = p.victoryTokens := by
    change (p.toTableau.prepare n s.rng).1.victoryTokens = _
    rw [hprepare]
  exact seat (.peek s s' id n cards h) hp hid
    (q := { p with toTableau := (p.toTableau.topCards n s.rng).2.1 })
    (by rw [heq]) (by rw [heq]; rfl) htokens

/-- The cards of a player change places among the player's zones, or counters or triggers change. -/
theorem arrange {id : PlayerId} {p p' : Player} (hp : s.player? id = some p) (hid : S.seats id)
    (hpid : p'.id = p.id) (hturns : p'.turns = p.turns) (htokens : p'.victoryTokens = p.victoryTokens)
    (hcards : p.zones.MatsSorted → p'.zones.MatsSorted ∧ p'.allCards.Perm p.allCards)
    (hhooks : S.hooks.AllowPlayer p → S.hooks.AllowPlayer p') : S.Stroke s (s.setPlayer id p') :=
  seat (.arrange s id p p' hp hpid hturns hcards hhooks) hp hid rfl rfl htokens

theorem transfer {id : PlayerId} {p : Player} {card : CardId} {source : Zone}
    (hp : s.player? id = some p) (hid : S.seats id) (hloc : p.zones.locate card = some source)
    (target : Zone) (position : Position) :
    S.Stroke s (s.setPlayer id
      { p with toTableau := (p.toTableau.transfer card source target position).2 }) := by
  refine arrange hp hid rfl rfl rfl (fun hm => ⟨hm.transfer card source target position, ?_⟩)
    fun hallow => ⟨hallow.gain, hallow.play⟩
  obtain ⟨hz, -⟩ := PlayerZones.mem_row_of_locate hm hloc
  exact List.perm_iff_count.mpr (PlayerZones.count_transfer hm card hz target position)

/-- A card is taken up and laid down in a zone, with whatever becomes of money. -/
theorem lay {id : PlayerId} {p : Player} {card : CardId} {zone z : Zone} {tableau t : Tableau}
    (hp : s.player? id = some p) (hid : S.seats id)
    (hremove : p.toTableau.remove? card = some (zone, tableau)) (hholds : PlayerZones.holds z)
    (ht : t.id = tableau.id ∧ t.turns = tableau.turns ∧ t.victoryTokens = tableau.victoryTokens)
    (hz : t.zones = tableau.zones.update z (·.insert card .top)) :
    S.Stroke s (s.setPlayer id { p with toTableau := t }) := by
  obtain ⟨zones, hzones, rfl⟩ := Tableau.remove?_eq_some hremove
  refine arrange hp hid ht.1 ht.2.1 ht.2.2 (fun hm => ?_) fun hallow => ⟨hallow.gain, hallow.play⟩
  rw [Tableau.allCards, Tableau.allCards, hz]
  exact ⟨(hm.remove? hzones).update z _, PlayerZones.perm_put_remove? hm hzones hholds .top⟩

theorem gain {pile : String} {q : Pile} {card : CardId} {id : PlayerId} {p : Player}
    (hpile : s.supply.pile? pile = some q) (htop : q.top? = some card) (hp : s.player? id = some p)
    (hid : S.seats id) (bought : Bool) (destination : GainDestination) :
    S.Stroke s (s.gained pile id p card bought destination) :=
  seat (.gain s pile q card id p bought destination hpile htop hp) hp hid
    (q := p.onTableau (·.put card destination.zone destination.position)) rfl rfl rfl

theorem trash {id : PlayerId} {p : Player} {card : CardId} {zone : Zone} {tableau : Tableau}
    (hp : s.player? id = some p) (hid : S.seats id)
    (hremove : p.toTableau.remove? card = some (zone, tableau)) (name : String) :
    S.Stroke s (({ s.setPlayer id { p with toTableau := tableau } with
      trash := s.trash ++ [card] } : GameState).publish id (.trashCard card name)) := by
  refine seat (.trash s id p card zone tableau name hp hremove) hp hid
    (q := { p with toTableau := tableau }) rfl rfl ?_
  obtain ⟨zones, -, rfl⟩ := Tableau.remove?_eq_some hremove
  rfl

theorem recover {id : PlayerId} {p : Player} {card : CardId} (hp : s.player? id = some p)
    (hid : S.seats id) (hcard : card ∈ s.trash) (name : String) :
    S.Stroke s (({ s.setPlayer id (p.onTableau (·.put card .hand .top)) with
      trash := s.trash.erase card } : GameState).publish id (.moveCard card name .trash .hand)) :=
  seat (.recover s id p card name hp hcard) hp hid
    (q := p.onTableau (·.put card .hand .top)) rfl rfl rfl

/-- Something is done about what waits on a card that is not foreign. -/
theorem hang {card : CardId} (hcard : ¬ S.foreign card) {f : Card → Card}
    (hf : ∀ c, (f c).definition = c.definition)
    (hhooks : ∀ c, s.card? card = some c → S.hooks.AllowCard c → S.hooks.AllowCard (f c)) :
    S.Stroke s { s with cards := s.cards.modify card f } where
  change := .hang s card f hf hhooks
  players _ _ := rfl
  cards other hother := by
    change (s.cards.modify card f).get? other = s.cards.get? other
    rw [Store.get?_modify, if_neg fun heq : card = other => hcard (heq ▸ hother)]
  tokens _ := rfl

end Stroke

end Scope

end DeckBuilder
