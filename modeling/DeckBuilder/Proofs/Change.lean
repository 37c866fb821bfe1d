import DeckBuilder.Controllers
import DeckBuilder.Proofs.Census
import Mathlib.Logic.Relation

/-!
The changes that a game is made of. Whatever the engine does, it does by a sequence of these
fourteen changes, an error leaves the state after some of them, and what each of them keeps holds all
along a run. A change that moves a card between places comes together with its event, so that no
state lies between the two. What may hang on cards and players is bound by `Hooks`: a change hangs
only programs that these allow.
-/
namespace DeckBuilder

/-- Which programs may wait on a player's gains, on a player's plays, and on a card. -/
structure Hooks where
  gain : (GainInfo → Program) → Prop
  play : (PlayerId → CardId → Program) → Prop
  duration : (EffectContext → Program) → Prop

namespace Hooks

structure AllowPlayer (H : Hooks) (p : Player) : Prop where
  gain : ∀ t ∈ p.gainTriggers, H.gain t
  play : ∀ t ∈ p.playTriggers, H.play t

def AllowCard (H : Hooks) (c : Card) : Prop := ∀ d ∈ c.durations, H.duration d

structure Allow (H : Hooks) (s : GameState) : Prop where
  players : ∀ p ∈ s.players, H.AllowPlayer p
  cards : ∀ id c, s.card? id = some c → H.AllowCard c

/-- Any program may wait anywhere. -/
def any : Hooks := ⟨fun _ => True, fun _ => True, fun _ => True⟩

end Hooks

/-- The kinds of events that go with no card entering or leaving a player, no shuffle and no new
turn. -/
def EventKind.Plain : EventKind → Prop
  | .playCard .. | .drawCards _ | .discardCard .. | .revealCards .. | .attackBlocked _
  | .cleanUp | .gameEnd .. => True
  | .moveCard _ _ source _ => source ≠ .trash
  | .gameStart _ | .startTurn | .shuffle _ | .gainCard .. | .trashCard .. => False

inductive Change (H : Hooks) : GameState → GameState → Prop
  /-- A controller may draw from the generator and leaves notes. -/
  | think (s : GameState) (id : PlayerId) (rng : Generator) (notes : Array Note) :
      Change H s ({ s with rng }.enterAll id notes)
  | remark (s : GameState) (entry : LogEntry) (h : entry.category ≠ some .event) :
      Change H s (s.onLogger (·.log entry))
  | publish (s : GameState) (id : PlayerId) (kind : EventKind) (h : kind.Plain) :
      Change H s (s.publish id kind)
  /-- The cards of a player change places among the player's zones, or counters or triggers
  change. -/
  | arrange (s : GameState) (id : PlayerId) (p p' : Player) (hp : s.player? id = some p)
      (hid : p'.id = p.id) (hturns : p'.turns = p.turns)
      (hcards : p.zones.MatsSorted → p'.zones.MatsSorted ∧ p'.allCards.Perm p.allCards)
      (hhooks : H.AllowPlayer p → H.AllowPlayer p') : Change H s (s.setPlayer id p')
  | draw (s : GameState) (id : PlayerId) (p : Player) (hp : s.player? id = some p) :
      Change H s (s.drawOne id p).2
  | peek (s s' : GameState) (id : PlayerId) (n : Nat) (cards : List CardId)
      (h : s.topCards id n = .ok (cards, s')) : Change H s s'
  | gain (s : GameState) (pile : String) (p : Pile) (card : CardId) (id : PlayerId)
      (owner : Player) (bought : Bool) (destination : GainDestination)
      (hpile : s.supply.pile? pile = some p) (htop : p.top? = some card)
      (howner : s.player? id = some owner) :
      Change H s
        ((({ s with supply := s.supply.updatePile pile Pile.pop }).setPlayer id
          (owner.onTableau (·.put card destination.zone destination.position))).publish id
          (.gainCard card pile bought destination))
  | trash (s : GameState) (id : PlayerId) (p : Player) (card : CardId) (zone : Zone)
      (tableau : Tableau) (name : String) (hp : s.player? id = some p)
      (hremove : p.toTableau.remove? card = some (zone, tableau)) :
      Change H s
        (({ s.setPlayer id { p with toTableau := tableau } with
          trash := s.trash ++ [card] } : GameState).publish id (.trashCard card name))
  | recover (s : GameState) (id : PlayerId) (p : Player) (card : CardId) (name : String)
      (hp : s.player? id = some p) (hcard : card ∈ s.trash) :
      Change H s
        (({ s.setPlayer id (p.onTableau (·.put card .hand .top)) with
          trash := s.trash.erase card } : GameState).publish id (.moveCard card name .trash .hand))
  /-- What waits on a card changes. -/
  | hang (s : GameState) (card : CardId) (f : Card → Card)
      (hf : ∀ c, (f c).definition = c.definition)
      (hhooks : ∀ c, s.card? card = some c → H.AllowCard c → H.AllowCard (f c)) :
      Change H s { s with cards := s.cards.modify card f }
  | reprice (s : GameState) (modifiers : List (CardFace → Int)) :
      Change H s { s with costModifiers := modifiers }
  | begin (s : GameState) (id : PlayerId) (p : Player) (hp : s.player? id = some p) :
      Change H s
        ((({ s with turn := s.turn + 1, phase := .action, turnStart := s.events.lastSeq }).setPlayer
          id (p.onTableau fun t => { t with turns := t.turns + 1 })).publish id .startTurn)
  | enter (s : GameState) (phase : Phase) : Change H s { s with phase }
  | pass (s : GameState) :
      Change H s
        { s with active := (s.active + 1) % s.players.length, costModifiers := [], phase := .action }

abbrev Changes (H : Hooks) : GameState → GameState → Prop := Relation.ReflTransGen (Change H)

namespace GameState

theorem enterAll_eq (s : GameState) (id : PlayerId) (notes : Array Note) :
    ∃ logger, s.enterAll id notes = { s with logger } := by
  unfold enterAll
  refine Array.foldl_induction (fun _ (t : GameState) => ∃ logger, t = { s with logger })
    ⟨s.logger, rfl⟩ ?_
  rintro i t ⟨logger, rfl⟩
  cases notes[i] with
  | log entry => exact ⟨_, rfl⟩
  | screen text => exact ⟨_, rfl⟩

/-- Drawing a card changes the one tableau; apart from it only the generator, the events and the log
book change. -/
theorem drawOne_eq (s : GameState) (id : PlayerId) (p : Player) :
    ∃ rng events logger,
      (s.drawOne id p).2 =
        { s.setPlayer id { p with toTableau := (p.toTableau.draw s.rng).2.1 } with
          rng, events, logger } := by
  unfold drawOne
  dsimp only
  generalize (if p.zones.deck.isEmpty = true then p.zones.discard.length else 0) = shuffled
  by_cases h : 0 < shuffled
  · rw [if_pos h]
    exact ⟨_, _, _, rfl⟩
  · rw [if_neg h]
    exact ⟨_, s.events, s.logger, rfl⟩

theorem topCards_eq {s s' : GameState} {id : PlayerId} {n : Nat} {cards : List CardId}
    (h : s.topCards id n = .ok (cards, s')) :
    ∃ p rng events logger, s.player? id = some p ∧ cards = (p.toTableau.topCards n s.rng).1 ∧
      s' = { s.setPlayer id { p with toTableau := (p.toTableau.topCards n s.rng).2.1 } with
          rng, events, logger } := by
  unfold topCards at h
  cases hp : s.player? id with
  | none => simp [hp] at h
  | some p =>
    simp only [hp, Except.ok.injEq, Prod.mk.injEq] at h
    obtain ⟨rfl, rfl⟩ := h
    refine ⟨p, ?_⟩
    generalize (if p.zones.deck.length < n then p.zones.discard.length else 0) = shuffled
    by_cases h : 0 < shuffled
    · rw [if_pos h]
      exact ⟨_, _, _, rfl, rfl, rfl⟩
    · rw [if_neg h]
      exact ⟨_, s.events, s.logger, rfl, rfl, rfl⟩

/-- A player draws: the cards stay the player's. -/
theorem Sound.drawOne {s : GameState} (h : s.Sound) {id : PlayerId} {p : Player}
    (hp : s.player? id = some p) : (s.drawOne id p).2.Sound := by
  obtain ⟨rng, events, logger, heq⟩ := drawOne_eq s id p
  obtain ⟨hand, deck, discard, hdraw⟩ := Tableau.draw_eq p.toTableau s.rng
  have hperm := Tableau.perm_draw p.toTableau s.rng
  have hset := h.setPlayer hp { p with toTableau := (p.toTableau.draw s.rng).2.1 }
    (by rw [hdraw]) (by rw [hdraw]; exact h.mats p (player?_mem hp)) hperm
  rw [heq]
  exact hset.congr rfl rfl rfl rfl fun _ => rfl

theorem Sound.topCards {s s' : GameState} (h : s.Sound) {id : PlayerId} {n : Nat}
    {cards : List CardId} (ht : s.topCards id n = .ok (cards, s')) : s'.Sound := by
  obtain ⟨p, rng, events, logger, hp, -, rfl⟩ := topCards_eq ht
  obtain ⟨deck, discard, hprepare⟩ := Tableau.prepare_eq p.toTableau n s.rng
  have hperm := Tableau.perm_topCards p.toTableau n s.rng
  have heq : (p.toTableau.topCards n s.rng).2.1 = (p.toTableau.prepare n s.rng).1 := rfl
  have hset := h.setPlayer hp { p with toTableau := (p.toTableau.topCards n s.rng).2.1 }
    (by rw [heq, hprepare]) (by rw [heq, hprepare]; exact h.mats p (player?_mem hp)) hperm
  exact hset.congr rfl rfl rfl rfl fun _ => rfl

/-- The top card of a pile comes to a player. -/
theorem Sound.gain {s : GameState} (h : s.Sound) {pile : String} {p : Pile} {card : CardId}
    {id : PlayerId} {owner : Player} {zone : Zone} (position : Position)
    (hpile : s.supply.pile? pile = some p) (htop : p.top? = some card)
    (howner : s.player? id = some owner) (hz : PlayerZones.holds zone) :
    (({ s with supply := s.supply.updatePile pile Pile.pop } : GameState).setPlayer id
      (owner.onTableau (·.put card zone position))).Sound := by
  have hm := h.mats owner (player?_mem howner)
  refine h.replace howner (owner.onTableau (·.put card zone position)) rfl
    (hm.update zone _) rfl rfl rfl ?_
  intro c
  have hw := weigh_gained (Scale.only c) position hpile htop howner hm hz
  simp only [Scale.only] at hw ⊢
  omega

/-- A card of a player goes to the trash. -/
theorem Sound.trash {s : GameState} (h : s.Sound) {id : PlayerId} {p : Player} {card : CardId}
    {zone : Zone} {tableau : Tableau} (hp : s.player? id = some p)
    (hremove : p.toTableau.remove? card = some (zone, tableau)) :
    ({ s.setPlayer id { p with toTableau := tableau } with
      trash := s.trash ++ [card] } : GameState).Sound := by
  have hm := h.mats p (player?_mem hp)
  obtain ⟨zones, hzones, rfl⟩ := Tableau.remove?_eq_some hremove
  refine h.replace hp { p with zones } rfl (hm.remove? hzones) rfl rfl rfl ?_
  intro c
  have hw := weigh_trashed (Scale.only c) hp hm hremove
  simp only [Scale.only] at hw ⊢
  omega

/-- A card comes back from the trash. -/
theorem Sound.recover {s : GameState} (h : s.Sound) {id : PlayerId} {p : Player} {card : CardId}
    {zone : Zone} (position : Position) (hp : s.player? id = some p) (hcard : card ∈ s.trash)
    (hz : PlayerZones.holds zone) :
    ({ s.setPlayer id (p.onTableau (·.put card zone position)) with
      trash := s.trash.erase card } : GameState).Sound := by
  have hm := h.mats p (player?_mem hp)
  refine h.replace hp (p.onTableau (·.put card zone position)) rfl (hm.update zone _)
    rfl rfl rfl ?_
  intro c
  have hw := weigh_recovered (Scale.only c) position hp hm hcard hz
  simp only [Scale.only] at hw ⊢
  omega

theorem contains_modify (s : GameState) (card : CardId) (f : Card → Card) (c : CardId) :
    (s.cards.modify card f).contains c = s.cards.contains c := by
  have h : ∀ t : Store Card, t.contains c = (t.get? c).isSome := fun t => by
    simp [Store.contains, Store.get?, Std.TreeMap.isSome_getElem?_eq_contains]
  rw [h, h, Store.get?_modify]
  split
  · rw [Option.isSome_map]
  · rfl

end GameState

/-! ### What every change keeps -/

namespace Change

variable {H : Hooks} {s s' : GameState}

theorem sound (h : Change H s s') (hs : s.Sound) : s'.Sound := by
  cases h with
  | think id rng notes =>
    obtain ⟨logger, heq⟩ := GameState.enterAll_eq { s with rng } id notes
    rw [heq]
    exact hs.congr rfl rfl rfl rfl fun _ => rfl
  | remark entry _ => exact hs.congr rfl rfl rfl rfl fun _ => rfl
  | publish id kind _ => exact hs.congr rfl rfl rfl rfl fun _ => rfl
  | arrange id p p' hp hid _ hcards _ =>
    obtain ⟨hm, hperm⟩ := hcards (hs.mats p (GameState.player?_mem hp))
    exact hs.setPlayer hp p' hid hm hperm
  | draw id p hp => exact hs.drawOne hp
  | peek _ id n cards ht => exact hs.topCards ht
  | gain pile p card id owner bought destination hpile htop howner =>
    have hz : PlayerZones.holds destination.zone := by cases destination <;> rfl
    exact (hs.gain destination.position hpile htop howner hz).congr rfl rfl rfl rfl fun _ => rfl
  | trash id p card zone tableau name hp hremove =>
    exact (hs.trash hp hremove).congr rfl rfl rfl rfl fun _ => rfl
  | recover id p card name hp hcard =>
    have hz : PlayerZones.holds .hand := rfl
    exact (hs.recover .top hp hcard hz).congr rfl rfl rfl rfl fun _ => rfl
  | hang card f _ _ =>
    exact hs.congr rfl rfl rfl rfl (GameState.contains_modify s card f)
  | reprice modifiers => exact hs.congr rfl rfl rfl rfl fun _ => rfl
  | begin id p hp =>
    have hset := hs.setPlayer hp (p.onTableau fun t => { t with turns := t.turns + 1 }) rfl
      (hs.mats p (GameState.player?_mem hp)) (List.Perm.refl _)
    exact hset.congr rfl rfl rfl rfl fun _ => rfl
  | enter phase => exact hs.congr rfl rfl rfl rfl fun _ => rfl
  | pass =>
    have hpos : 0 < s.players.length := Nat.lt_of_le_of_lt (Nat.zero_le _) hs.active
    exact ⟨hs.seats, Nat.mod_lt _ hpos, hs.mats, hs.census⟩

theorem allow (h : Change H s s') (hs : H.Allow s) : H.Allow s' := by
  have hset : ∀ {id : PlayerId} {p p' : Player}, s.player? id = some p →
      (H.AllowPlayer p → H.AllowPlayer p') →
      ∀ q ∈ (s.setPlayer id p').players, H.AllowPlayer q := by
    intro id p p' hp himp q hq
    rcases List.mem_or_eq_of_mem_set hq with hq | rfl
    · exact hs.players q hq
    · exact himp (hs.players p (GameState.player?_mem hp))
  cases h with
  | think id rng notes =>
    obtain ⟨logger, heq⟩ := GameState.enterAll_eq { s with rng } id notes
    rw [heq]
    exact ⟨hs.players, hs.cards⟩
  | arrange id p p' hp _ _ _ hhooks => exact ⟨hset hp hhooks, hs.cards⟩
  | draw id p hp =>
    obtain ⟨rng, events, logger, heq⟩ := GameState.drawOne_eq s id p
    rw [heq]
    exact ⟨hset hp fun hallow => ⟨hallow.gain, hallow.play⟩, hs.cards⟩
  | peek _ id n cards ht =>
    obtain ⟨p, rng, events, logger, hp, -, rfl⟩ := GameState.topCards_eq ht
    exact ⟨hset hp fun hallow => ⟨hallow.gain, hallow.play⟩, hs.cards⟩
  | gain pile p card id owner bought destination hpile htop howner =>
    exact ⟨hset howner fun hallow => ⟨hallow.gain, hallow.play⟩, hs.cards⟩
  | trash id p card zone tableau name hp hremove =>
    exact ⟨hset hp fun hallow => ⟨hallow.gain, hallow.play⟩, hs.cards⟩
  | recover id p card name hp hcard =>
    exact ⟨hset hp fun hallow => ⟨hallow.gain, hallow.play⟩, hs.cards⟩
  | begin id p hp => exact ⟨hset hp fun hallow => ⟨hallow.gain, hallow.play⟩, hs.cards⟩
  | hang card f _ hhooks =>
    refine ⟨hs.players, ?_⟩
    intro id c hc
    simp only [GameState.card?, Store.get?_modify] at hc
    by_cases hid : card = id
    · rw [if_pos hid] at hc
      obtain ⟨old, hold, rfl⟩ := Option.map_eq_some_iff.mp hc
      have hallow := hs.cards id old hold
      exact hhooks old (hid ▸ hold) hallow
    · rw [if_neg hid] at hc
      exact hs.cards id c hc
  | _ => exact ⟨hs.players, hs.cards⟩

/-- Where any program may wait, every change may be made. -/
theorem any (h : Change H s s') : Change Hooks.any s s' := by
  cases h with
  | think id rng notes => exact .think s id rng notes
  | remark entry hentry => exact .remark s entry hentry
  | publish id kind hplain => exact .publish s id kind hplain
  | arrange id p p' hp hid hturns hcards _ =>
    exact .arrange s id p p' hp hid hturns hcards fun _ => ⟨fun _ _ => trivial, fun _ _ => trivial⟩
  | draw id p hp => exact .draw s id p hp
  | peek _ id n cards ht => exact .peek s s' id n cards ht
  | gain pile p card id owner bought destination hpile htop howner =>
    exact .gain s pile p card id owner bought destination hpile htop howner
  | trash id p card zone tableau name hp hremove =>
    exact .trash s id p card zone tableau name hp hremove
  | recover id p card name hp hcard => exact .recover s id p card name hp hcard
  | hang card f hf _ => exact .hang s card f hf fun _ _ _ _ _ => trivial
  | reprice modifiers => exact .reprice s modifiers
  | begin id p hp => exact .begin s id p hp
  | enter phase => exact .enter s phase
  | pass => exact .pass s

end Change

/-- What no change ever changes: the seats, what is printed on the cards, how many cards and which
piles there are. The supply can only shrink. -/
structure Kept (s s' : GameState) : Prop where
  seats : s'.players.length = s.players.length
  definitions : ∀ id, (s'.card? id).map (·.definition) = (s.card? id).map (·.definition)
  store : s'.cards.size = s.cards.size
  piles : s'.supply.piles.map Pile.definition = s.supply.piles.map Pile.definition
  supply : s'.supply.size ≤ s.supply.size

namespace Kept

theorem refl (s : GameState) : Kept s s :=
  ⟨rfl, fun _ => rfl, rfl, rfl, Nat.le_refl _⟩

theorem trans {s s' s'' : GameState} (h : Kept s s') (h' : Kept s' s'') : Kept s s'' :=
  ⟨h'.seats.trans h.seats, fun id => (h'.definitions id).trans (h.definitions id),
    h'.store.trans h.store, h'.piles.trans h.piles, Nat.le_trans h'.supply h.supply⟩

/-- A seat that was taken is taken. -/
theorem seated {s s' : GameState} (h : Kept s s') {id : PlayerId}
    (hid : id.seat < s.players.length) : id.seat < s'.players.length := by
  rw [h.seats]
  exact hid

/-- A card that was there is there, with the same definition. -/
theorem carded {s s' : GameState} (h : Kept s s') {id : CardId} {c : Card}
    (hc : s.card? id = some c) :
    ∃ c', s'.card? id = some c' ∧ c'.definition = c.definition := by
  have hdef := h.definitions id
  rw [hc] at hdef
  exact Option.map_eq_some_iff.mp hdef

/-- A card that is there was there before, with the same definition. -/
theorem carded_before {s s' : GameState} (h : Kept s s') {id : CardId} {c' : Card}
    (hc' : s'.card? id = some c') :
    ∃ c, s.card? id = some c ∧ c.definition = c'.definition := by
  have hdef := h.definitions id
  rw [hc'] at hdef
  exact Option.map_eq_some_iff.mp hdef.symm

theorem names {s s' : GameState} (h : Kept s s') :
    s'.supply.piles.map Pile.name = s.supply.piles.map Pile.name := by
  have hnames : ∀ t : GameState,
      t.supply.piles.map Pile.name = (t.supply.piles.map Pile.definition).map (·.name) := by
    intro t
    rw [List.map_map]
    rfl
  rw [hnames, h.piles, ← hnames]

theorem contains {s s' : GameState} (h : Kept s s') (card : CardId) :
    s'.cards.contains card = s.cards.contains card := by
  have hisSome : ∀ t : GameState,
      t.cards.contains card = ((t.card? card).map (·.definition)).isSome := fun t => by
    simp [Store.contains, GameState.card?, Store.get?, Std.TreeMap.isSome_getElem?_eq_contains]
  rw [hisSome, hisSome, h.definitions]

end Kept

theorem size_modify (cards : Store Card) (card : CardId) (f : Card → Card) :
    (cards.modify card f).size = cards.size := by
  unfold Store.modify
  split
  · next value hvalue =>
    have hmem : cards.entries.contains card.number = true := by
      rw [← Std.TreeMap.isSome_getElem?_eq_contains]
      simp [Store.get?] at hvalue
      simp [hvalue]
    simp [Store.size, Store.insert, Std.TreeMap.size_insert, hmem]
  · rfl

theorem definitions_updatePile (supply : Supply) (name : String) :
    (supply.updatePile name Pile.pop).piles.map Pile.definition =
      supply.piles.map Pile.definition := by
  simp only [Supply.updatePile]
  apply List.ext_getElem?
  intro i
  simp only [List.getElem?_map, List.getElem?_modify]
  split <;> cases supply.piles[i]? <;> rfl

theorem Supply.size_eq_sum (supply : Supply) : supply.size = (supply.piles.map Pile.size).sum := rfl

/-- A pile without its top card is one card smaller. -/
theorem size_updatePile {supply : Supply} {name : String} {p : Pile} {card : CardId}
    (hpile : supply.pile? name = some p) (htop : p.top? = some card) :
    (supply.updatePile name Pile.pop).size + 1 = supply.size := by
  have hsum := sum_map_modify_findIdx Pile.size (·.name == name) Pile.pop hpile
  have hpos : p.cards ≠ [] := by
    rintro hnil
    simp [Pile.top?, hnil] at htop
  have hlen := List.length_pos_iff.mpr hpos
  simp only [Supply.size_eq_sum, Supply.updatePile, Pile.size, Pile.pop, List.length_dropLast]
    at hsum ⊢
  omega

/-- The state when a player has put the top card of a pile where it goes. -/
def GameState.gained (s : GameState) (pile : String) (id : PlayerId) (p : Player) (card : CardId)
    (bought : Bool) (destination : GainDestination) : GameState :=
  (({ s with supply := s.supply.updatePile pile Pile.pop }).setPlayer id
    (p.onTableau (·.put card destination.zone destination.position))).publish id
    (.gainCard card pile bought destination)

namespace Change

variable {H : Hooks} {s s' : GameState}

theorem kept (h : Change H s s') : Kept s s' := by
  have hset : ∀ (id : PlayerId) (p : Player), Kept s (s.setPlayer id p) := fun id p =>
    ⟨GameState.length_players_setPlayer s id p, fun _ => rfl, rfl, rfl, Nat.le_refl _⟩
  cases h with
  | think id rng notes =>
    obtain ⟨logger, heq⟩ := GameState.enterAll_eq { s with rng } id notes
    rw [heq]
    exact ⟨rfl, fun _ => rfl, rfl, rfl, Nat.le_refl _⟩
  | arrange id p p' _ _ _ _ _ => exact hset id p'
  | draw id p hp =>
    obtain ⟨rng, events, logger, heq⟩ := GameState.drawOne_eq s id p
    have h := hset id { p with toTableau := (p.toTableau.draw s.rng).2.1 }
    rw [heq]
    exact ⟨h.seats, h.definitions, h.store, h.piles, h.supply⟩
  | peek _ id n cards ht =>
    obtain ⟨p, rng, events, logger, hp, -, rfl⟩ := GameState.topCards_eq ht
    have h := hset id { p with toTableau := (p.toTableau.topCards n s.rng).2.1 }
    exact ⟨h.seats, h.definitions, h.store, h.piles, h.supply⟩
  | gain pile p card id owner bought destination hpile htop howner =>
    have h := hset id (owner.onTableau (·.put card destination.zone destination.position))
    have hsize := size_updatePile hpile htop
    refine ⟨h.seats, h.definitions, h.store, definitions_updatePile s.supply pile, ?_⟩
    change (s.supply.updatePile pile Pile.pop).size ≤ s.supply.size
    omega
  | trash id p card zone tableau name hp hremove =>
    have h := hset id { p with toTableau := tableau }
    exact ⟨h.seats, h.definitions, h.store, h.piles, h.supply⟩
  | recover id p card name hp hcard =>
    have h := hset id (p.onTableau (·.put card .hand .top))
    exact ⟨h.seats, h.definitions, h.store, h.piles, h.supply⟩
  | begin id p hp =>
    have h := hset id (p.onTableau fun t => { t with turns := t.turns + 1 })
    exact ⟨h.seats, h.definitions, h.store, h.piles, h.supply⟩
  | hang card f hf _ =>
    refine ⟨rfl, ?_, size_modify s.cards card f, rfl, Nat.le_refl _⟩
    intro id
    simp only [GameState.card?, Store.get?_modify]
    split
    · cases s.cards.get? id <;> simp [hf]
    · rfl
  | _ => exact ⟨rfl, fun _ => rfl, rfl, rfl, Nat.le_refl _⟩

end Change

/-- What is in play and in hand goes to the discard pile, and stays the player's. -/
theorem Change.layDown {H : Hooks} {s : GameState} (hs : s.Sound) {id : PlayerId} {p : Player}
    (hp : s.player? id = some p) (done : List CardId) :
    Change H s (s.setPlayer id (p.onTableau fun t =>
      let t := done.foldl (fun t c => (t.transfer c .inPlay .discard .top).2) t
      { t with
        zones := { t.zones with hand := [], discard := t.zones.discard ++ t.zones.hand } })) := by
  have hm := hs.mats p (GameState.player?_mem hp)
  obtain ⟨zones, hm', hperm, heq⟩ := Tableau.foldl_transfer done .inPlay rfl .discard .top hm
  refine .arrange s id p _ hp ?_ ?_ ?_ fun hallow => ⟨hallow.gain, hallow.play⟩
  · simp only [Player.onTableau, heq]
  · simp only [Player.onTableau, heq]
  · intro _
    simp only [Player.onTableau, heq]
    exact ⟨hm', (PlayerZones.perm_layDown zones).trans hperm⟩

/-! ### Along a run -/

namespace Changes

variable {H : Hooks} {s s' : GameState}

theorem single (h : Change H s s') : Changes H s s' := Relation.ReflTransGen.single h

theorem any (h : Changes H s s') : Changes Hooks.any s s' := by
  induction h with
  | refl => exact .refl
  | tail _ hstep ih => exact ih.tail hstep.any

theorem sound (h : Changes H s s') (hs : s.Sound) : s'.Sound := by
  induction h with
  | refl => exact hs
  | tail _ hstep ih => exact hstep.sound ih

theorem allow (h : Changes H s s') (hs : H.Allow s) : H.Allow s' := by
  induction h with
  | refl => exact hs
  | tail _ hstep ih => exact hstep.allow ih

theorem kept (h : Changes H s s') : Kept s s' := by
  induction h with
  | refl => exact Kept.refl s
  | tail _ hstep ih => exact ih.trans hstep.kept

end Changes

end DeckBuilder
