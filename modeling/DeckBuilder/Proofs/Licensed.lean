import DeckBuilder.Proofs.Licence
import DeckBuilder.Proofs.Steady
import DeckBuilder.Proofs.Prompts

/-!
What a program within its licence leaves as it was. Whatever it provokes and whatever the controllers
answer, locked cards stay on the tables where they lie, only payees have their counters and triggers
changed, nothing is bought or played, and on a card is hung only what the licence allows; what was hung on
cards before stays. It is shown for each operation, then for programs by induction on the depth and on the
program.
-/
namespace DeckBuilder

open DeckBuilder.Random

/-! ### What was bought -/

/-- The pile and the card, if something was bought. -/
def EventKind.bought? : EventKind → Option (String × CardId)
  | .gainCard card pile true _ => some (pile, card)
  | _ => none

/-- The buyer, the pile and the card, if something was bought. -/
def GameEvent.bought? (e : GameEvent) : Option (PlayerId × String × CardId) :=
  e.kind.bought?.map fun (pile, card) => (e.player, pile, card)

/-- All that was bought so far, in order. -/
def GameState.bought (s : GameState) : List (PlayerId × String × CardId) :=
  s.events.events.toList.filterMap (·.bought?)

theorem GameState.bought_publish (s : GameState) (id : PlayerId) (kind : EventKind) :
    (s.publish id kind).bought =
      s.bought ++ (kind.bought?.map fun (pile, card) => (id, pile, card)).toList := by
  change ((s.events.publish id s.turn kind).events.toList).filterMap _ = _
  rw [EventLog.publish, Array.toList_push, List.filterMap_append]
  congr 1

/-! ### What was begun and played -/

/-- What a player does of which the log tells: a turn begins, or a card is played. -/
inductive Deed
  | turn
  | play (card : CardId)

def EventKind.deed? : EventKind → Option Deed
  | .startTurn => some .turn
  | .playCard card _ => some (.play card)
  | _ => none

def GameEvent.deed? (e : GameEvent) : Option (PlayerId × Deed) :=
  e.kind.deed?.map fun deed => (e.player, deed)

/-- The turns begun and the cards played so far, in order. -/
def GameState.deeds (s : GameState) : List (PlayerId × Deed) :=
  s.events.events.toList.filterMap (·.deed?)

theorem GameState.deeds_publish (s : GameState) (id : PlayerId) (kind : EventKind) :
    (s.publish id kind).deeds = s.deeds ++ (kind.deed?.map fun deed => (id, deed)).toList := by
  change ((s.events.publish id s.turn kind).events.toList).filterMap _ = _
  rw [EventLog.publish, Array.toList_push, List.filterMap_append]
  congr 1

/-! ### Thinking -/

/-- Nothing has changed but the generator and the log book: controllers may have thought. -/
def GameState.Pondered (s s' : GameState) : Prop := ∃ rng logger, s' = { s with rng, logger }

namespace GameState.Pondered

theorem refl (s : GameState) : s.Pondered s := ⟨s.rng, s.logger, rfl⟩

theorem trans {s s' s'' : GameState} (h : s.Pondered s') (h' : s'.Pondered s'') :
    s.Pondered s'' := by
  obtain ⟨rng, logger, heq⟩ := h
  obtain ⟨rng', logger', heq'⟩ := h'
  refine ⟨rng', logger', ?_⟩
  rw [heq', heq]

theorem think (s : GameState) (id : PlayerId) (rng : Generator) (notes : Array Note) :
    s.Pondered ({ s with rng }.enterAll id notes) := by
  obtain ⟨logger, heq⟩ := GameState.enterAll_eq { s with rng } id notes
  exact ⟨rng, logger, heq⟩

theorem onLogger (s : GameState) (f : Logger → Logger) : s.Pondered (s.onLogger f) :=
  ⟨s.rng, f s.logger, rfl⟩

theorem warn (s : GameState) (message : String) : s.Pondered (s.warn message) := onLogger s _

end GameState.Pondered

/-! ### Licensed changes -/

/-- A player of whom no card is locked elsewhere than on the table, and whose triggers keep to their
licences. -/
structure Player.Ready (locked : CardId → Prop) (p : Player) : Prop where
  clear : p.zones.Clear locked
  gain : ∀ t ∈ p.gainTriggers, GainInfo.Mild t
  play : ∀ t ∈ p.playTriggers, PlayerId.Fair t

/-- A state in which no card is locked elsewhere than on a table, and in which what is provoked is
mild. -/
structure GameState.Ready (locked : CardId → Prop) (s : GameState) : Prop where
  cards : ∀ id c, s.card? id = some c → c.definition.Mild
  players : ∀ p ∈ s.players, p.Ready locked
  supply : ∀ q ∈ s.supply.piles, ∀ card ∈ q.cards, ¬ locked card
  trash : ∀ card ∈ s.trash, ¬ locked card

theorem GameState.Ready.congr {locked : CardId → Prop} {s s' : GameState} (h : s.Ready locked)
    (hcards : ∀ card, s'.card? card = s.card? card) (hplayers : s'.players = s.players)
    (hsupply : s'.supply = s.supply) (htrash : s'.trash = s.trash) : s'.Ready locked where
  cards := by
    intro id c hc
    rw [hcards] at hc
    exact h.cards id c hc
  players := by
    rw [hplayers]
    exact h.players
  supply := by
    rw [hsupply]
    exact h.supply
  trash := by
    rw [htrash]
    exact h.trash

theorem GameState.Ready.mono {locked locked' : CardId → Prop} {s : GameState} (h : s.Ready locked)
    (hle : ∀ card, locked' card → locked card) : s.Ready locked' where
  cards := h.cards
  players p hp :=
    ⟨fun c hc hl => (h.players p hp).clear c hc (hle c hl), (h.players p hp).gain,
      (h.players p hp).play⟩
  supply q hq card hcard hl := h.supply q hq card hcard (hle card hl)
  trash card hcard hl := h.trash card hcard (hle card hl)

theorem GameState.Ready.setPlayer {locked : CardId → Prop} {s : GameState} (h : s.Ready locked)
    (id : PlayerId) {p : Player} (hp : p.Ready locked) : (s.setPlayer id p).Ready locked where
  cards := h.cards
  players := by
    intro q hq
    rcases List.mem_or_eq_of_mem_set hq with hq | heq
    · exact h.players q hq
    · rw [heq]
      exact hp
  supply := h.supply
  trash := h.trash

namespace Licence

structure AllowsPlayer (L : Licence) (id : PlayerId) (p p' : Player) : Prop where
  zones : p.zones.Loosened L.locked p'.zones
  rest : ¬ L.payee id → p' = { p with zones := p'.zones }
  waits : ¬ L.sways → p'.playTriggers = p.playTriggers
  ready : p.Ready L.locked → p'.Ready L.locked

structure Allows (L : Licence) (s s' : GameState) : Prop where
  seats : s'.players.length = s.players.length
  active : s'.active = s.active
  cards : ∀ id, ∃ hung, (∀ callback ∈ hung, L.hangs id callback) ∧
    s'.card? id = (s.card? id).map fun c => { c with durations := c.durations ++ hung }
  players : ∀ id p, s.player? id = some p →
    ∃ p', s'.player? id = some p' ∧ L.AllowsPlayer id p p'
  ready : s.Ready L.locked → s'.Ready L.locked
  bought : ¬ L.buys → s'.bought = s.bought
  prices : ¬ L.sways → s'.costModifiers = s.costModifiers
  deeds : s'.deeds = s.deeds

variable {L : Licence} {s s' s'' : GameState} {id : PlayerId} {p p' p'' : Player}

theorem AllowsPlayer.refl (id : PlayerId) (p : Player) : L.AllowsPlayer id p p :=
  ⟨.refl _, fun _ => rfl, fun _ => rfl, fun h => h⟩

theorem AllowsPlayer.trans (h : L.AllowsPlayer id p p') (h' : L.AllowsPlayer id p' p'') :
    L.AllowsPlayer id p p'' where
  zones := h.zones.trans h'.zones
  rest := by
    intro hid
    rw [h'.rest hid, h.rest hid]
  waits hsways := (h'.waits hsways).trans (h.waits hsways)
  ready hp := h'.ready (h.ready hp)

/-- Cards of the player are moved. -/
theorem AllowsPlayer.arrange {zones : PlayerZones} (h : p.zones.Loosened L.locked zones) :
    L.AllowsPlayer id p { p with zones } :=
  ⟨h, fun _ => rfl, fun _ => rfl, fun hp => ⟨h.clear hp.clear, hp.gain, hp.play⟩⟩

namespace Allows

theorem refl (s : GameState) : L.Allows s s where
  seats := rfl
  active := rfl
  cards id := by
    refine ⟨[], by simp, ?_⟩
    cases s.card? id <;> simp
  players id p hp := ⟨p, hp, .refl id p⟩
  ready h := h
  bought _ := rfl
  prices _ := rfl
  deeds := rfl

theorem trans (h : L.Allows s s') (h' : L.Allows s' s'') : L.Allows s s'' where
  seats := h'.seats.trans h.seats
  active := h'.active.trans h.active
  cards := by
    intro id
    obtain ⟨hung, hall, heq⟩ := h.cards id
    obtain ⟨hung', hall', heq'⟩ := h'.cards id
    refine ⟨hung ++ hung', ?_, ?_⟩
    · intro callback hcallback
      rcases List.mem_append.mp hcallback with hcallback | hcallback
      · exact hall callback hcallback
      · exact hall' callback hcallback
    · rw [heq', heq, Option.map_map]
      simp only [Function.comp_def, List.append_assoc]
  players := by
    intro id p hp
    obtain ⟨p', hp', hallows⟩ := h.players id p hp
    obtain ⟨p'', hp'', hallows'⟩ := h'.players id p' hp'
    exact ⟨p'', hp'', hallows.trans hallows'⟩
  ready hs := h'.ready (h.ready hs)
  bought hbuys := (h'.bought hbuys).trans (h.bought hbuys)
  prices hsways := (h'.prices hsways).trans (h.prices hsways)
  deeds := h'.deeds.trans h.deeds

/-- What a licence allows is allowed by every wider one with the same cards locked. -/
theorem mono {K : Licence} (h : K.Allows s s') (hlocked : K.locked = L.locked)
    (hpayee : ∀ id, K.payee id → L.payee id)
    (hhangs : ∀ card callback, K.hangs card callback → L.hangs card callback)
    (hbuys : K.buys → L.buys) (hsways : K.sways → L.sways) : L.Allows s s' where
  seats := h.seats
  active := h.active
  cards := by
    intro id
    obtain ⟨hung, hall, heq⟩ := h.cards id
    exact ⟨hung, fun callback hcallback => hhangs id callback (hall callback hcallback), heq⟩
  players := by
    intro id p hp
    obtain ⟨p', hp', hallows⟩ := h.players id p hp
    refine ⟨p', hp', ?_, fun hid => hallows.rest fun h => hid (hpayee id h),
      fun hnone => hallows.waits fun hsome => hnone (hsways hsome), ?_⟩
    · exact hlocked ▸ hallows.zones
    · exact hlocked ▸ hallows.ready
  ready := by
    rw [← hlocked]
    exact h.ready
  bought hnone := h.bought fun hsome => hnone (hbuys hsome)
  prices hnone := h.prices fun hsome => hnone (hsways hsome)
  deeds := h.deeds

/-- The licence to move cards is the narrowest. -/
theorem of_modest (h : (modest L.locked).Allows s s') : L.Allows s s' :=
  h.mono rfl (fun _ h => h.elim) (fun _ _ h => h.elim) (fun h => h.elim) fun h => h.elim

/-- Whatever else changes is allowed. -/
theorem aside (hactive : s'.active = s.active) (hcards : ∀ card, s'.card? card = s.card? card)
    (hplayers : s'.players = s.players) (hsupply : s'.supply = s.supply)
    (htrash : s'.trash = s.trash) (hbought : ¬ L.buys → s'.bought = s.bought)
    (hprices : ¬ L.sways → s'.costModifiers = s.costModifiers) (hdeeds : s'.deeds = s.deeds) :
    L.Allows s s' where
  seats := by rw [hplayers]
  active := hactive
  cards id := by
    refine ⟨[], by simp, ?_⟩
    rw [hcards]
    cases s.card? id <;> simp
  players id p hp := by
    refine ⟨p, ?_, .refl id p⟩
    rw [GameState.player?, hplayers]
    exact hp
  ready h := h.congr hcards hplayers hsupply htrash
  bought := hbought
  prices := hprices
  deeds := hdeeds

theorem publish (s : GameState) (id : PlayerId) {kind : EventKind}
    (h : ¬ L.buys → kind.bought? = none) (hdeed : kind.deed? = none) :
    L.Allows s (s.publish id kind) := by
  refine aside rfl (fun _ => rfl) rfl rfl rfl ?_ (fun _ => rfl) ?_
  · intro hbuys
    rw [GameState.bought_publish, h hbuys]
    exact List.append_nil _
  · rw [GameState.deeds_publish, hdeed]
    exact List.append_nil _

theorem onLogger (s : GameState) (f : Logger → Logger) : L.Allows s (s.onLogger f) :=
  aside rfl (fun _ => rfl) rfl rfl rfl (fun _ => rfl) (fun _ => rfl) rfl

theorem ponder (h : s.Pondered s') : L.Allows s s' := by
  obtain ⟨rng, logger, heq⟩ := h
  rw [heq]
  exact aside rfl (fun _ => rfl) rfl rfl rfl (fun _ => rfl) (fun _ => rfl) rfl

theorem setPlayer (hp : s.player? id = some p) (h : L.AllowsPlayer id p p') :
    L.Allows s (s.setPlayer id p') where
  seats := by simp
  active := rfl
  cards card := by
    refine ⟨[], by simp, ?_⟩
    change s.card? card = _
    cases s.card? card <;> simp
  players other q hq := by
    rw [GameState.player?_setPlayer (GameState.seat_lt_of_player? hp)]
    by_cases hother : id = other
    · rw [← hother, hp] at hq
      rw [if_pos hother, ← Option.some.inj hq, ← hother]
      exact ⟨p', rfl, h⟩
    · rw [if_neg hother]
      exact ⟨q, hq, .refl other q⟩
  ready hs := hs.setPlayer id (h.ready (hs.players p (GameState.player?_mem hp)))
  bought _ := rfl
  prices _ := rfl
  deeds := rfl

/-- Cards of a player are moved. -/
theorem arrange (hp : s.player? id = some p) {zones : PlayerZones}
    (h : p.zones.Loosened L.locked zones) : L.Allows s (s.setPlayer id { p with zones }) :=
  setPlayer hp (.arrange h)

/-- The trash holds other cards, but no locked ones. -/
theorem withTrash (s : GameState) (trash : List CardId)
    (h : s.Ready L.locked → ∀ card ∈ trash, ¬ L.locked card) : L.Allows s { s with trash } where
  seats := rfl
  active := rfl
  cards := (refl s).cards
  players := (refl s).players
  ready hs := ⟨hs.cards, hs.players, hs.supply, h hs⟩
  bought _ := rfl
  prices _ := rfl
  deeds := rfl

/-- Cards leave the supply. -/
theorem updatePile (s : GameState) (pile : String) :
    L.Allows s { s with supply := s.supply.updatePile pile Pile.pop } where
  seats := rfl
  active := rfl
  cards := (refl s).cards
  players := (refl s).players
  ready hs := by
    refine ⟨hs.cards, hs.players, ?_, hs.trash⟩
    intro q hq card hcard
    obtain ⟨i, hi⟩ := List.mem_iff_getElem?.mp hq
    rw [Supply.updatePile, List.getElem?_modify] at hi
    obtain ⟨before, hbefore, heq⟩ := Option.map_eq_some_iff.mp hi
    have hmem := List.mem_of_getElem? hbefore
    by_cases hpile : s.supply.piles.findIdx (·.name == pile) = i
    · rw [if_pos hpile] at heq
      rw [← heq] at hcard
      exact hs.supply before hmem card (List.dropLast_subset _ hcard)
    · rw [if_neg hpile] at heq
      rw [← heq] at hcard
      exact hs.supply before hmem card hcard
  bought _ := rfl
  prices _ := rfl
  deeds := rfl

/-- The top card of a pile comes to a player. -/
theorem take {pile : String} {q : Pile} {card : CardId} (hs : s.Ready L.locked)
    (hpile : s.supply.pile? pile = some q) (htop : q.top? = some card)
    (hp : s.player? id = some p) (destination : GainDestination) :
    L.Allows s (({ s with supply := s.supply.updatePile pile Pile.pop } : GameState).setPlayer id
      (p.onTableau (·.put card destination.zone destination.position))) := by
  have hcard : ¬ L.locked card :=
    hs.supply q (List.mem_of_find?_eq_some hpile) card (List.mem_of_getLast? htop)
  have hloosened : p.zones.Loosened L.locked
      (p.zones.update destination.zone (·.insert card destination.position)) := by
    refine .put p.zones destination.zone hcard ?_ destination.position
    cases destination <;> exact not_false
  have hp' : GameState.player? { s with
      supply := s.supply.updatePile pile Pile.pop } id = some p := hp
  exact (updatePile s pile).trans (arrange hp' hloosened)

/-- It is told that the player has gained the card. -/
theorem gained {pile : String} {q : Pile} {card : CardId} (hs : s.Ready L.locked)
    (hpile : s.supply.pile? pile = some q) (htop : q.top? = some card)
    (hp : s.player? id = some p) {bought : Bool} (hbought : bought = true → L.buys)
    (destination : GainDestination) : L.Allows s (s.gained pile id p card bought destination) := by
  refine (take hs hpile htop hp destination).trans (publish _ id ?_ rfl)
  intro hbuys
  cases bought with
  | true => exact absurd (hbought rfl) hbuys
  | false => rfl

/-- Something that the licence allows is hung on a card. -/
theorem hang (s : GameState) (card : CardId) {callback : EffectContext → Program}
    (h : L.hangs card callback) :
    L.Allows s { s with
      cards := s.cards.modify card fun c => { c with durations := c.durations ++ [callback] } } where
  seats := rfl
  active := rfl
  cards id := by
    have hget := s.cards.get?_modify card id
      fun c => { c with durations := c.durations ++ [callback] }
    by_cases hid : card = id
    · refine ⟨[callback], ?_, ?_⟩
      · intro d hd
        rw [List.mem_singleton.mp hd, ← hid]
        exact h
      · rw [if_pos hid] at hget
        exact hget
    · refine ⟨[], by simp, ?_⟩
      rw [if_neg hid] at hget
      refine hget.trans ?_
      change s.card? id = _
      cases s.card? id <;> simp
  players := (refl s).players
  ready hs := by
    refine ⟨?_, hs.players, hs.supply, hs.trash⟩
    intro id c hc
    change (s.cards.modify card _).get? id = some c at hc
    rw [Store.get?_modify] at hc
    by_cases hid : card = id
    · rw [if_pos hid] at hc
      obtain ⟨before, hbefore, heq⟩ := Option.map_eq_some_iff.mp hc
      rw [← heq]
      exact hs.cards id before hbefore
    · rw [if_neg hid] at hc
      exact hs.cards id c hc
  bought _ := rfl
  prices _ := rfl
  deeds := rfl

/-! ### Draws, looks and moves -/

/-- The publishing of a shuffle, if there was one. -/
theorem shuffled (s : GameState) (id : PlayerId) (n : Nat) :
    L.Allows s (if 0 < n then s.publish id (.shuffle n) else s) := by
  by_cases h : 0 < n
  · rw [if_pos h]
    exact publish s id (fun _ => rfl) rfl
  · rw [if_neg h]
    exact refl s

theorem drawOne (hp : s.player? id = some p) : L.Allows s (s.drawOne id p).2 := by
  obtain ⟨hand, deck, discard, hdraw⟩ := Tableau.draw_eq p.toTableau s.rng
  have hloosened : p.zones.Loosened L.locked (p.toTableau.draw s.rng).2.1.zones :=
    p.toTableau.loosened_draw s.rng
  rw [hdraw] at hloosened
  have hset := arrange hp hloosened
  have hrng : L.Allows s { s.setPlayer id
      { p with toTableau := (p.toTableau.draw s.rng).2.1 } with
        rng := (p.toTableau.draw s.rng).2.2 } := by
    rw [hdraw]
    exact hset.trans (aside rfl (fun _ => rfl) rfl rfl rfl (fun _ => rfl) (fun _ => rfl) rfl)
  exact hrng.trans (shuffled _ id _)

theorem drawEach {n : Nat} {cards : List CardId}
    (h : GameState.drawEach id n s = .ok (cards, s')) : L.Allows s s' := by
  induction n generalizing s cards with
  | zero =>
    obtain ⟨-, rfl⟩ := Prod.mk.inj (Except.ok.inj h)
    exact refl s
  | succ n ih =>
    rw [GameState.drawEach] at h
    cases hp : s.player? id with
    | none => simp [hp] at h
    | some p =>
      have hone := drawOne (L := L) hp
      simp only [hp] at h
      generalize s.drawOne id p = drawn at h hone
      obtain ⟨_ | card, s₁⟩ := drawn
      · obtain ⟨-, rfl⟩ := Prod.mk.inj (Except.ok.inj h)
        exact hone
      · obtain ⟨⟨rest, s₂⟩, hrest, heq⟩ := ok_bind h
        obtain ⟨-, rfl⟩ := Prod.mk.inj (Except.ok.inj heq)
        exact hone.trans (ih hrest)

theorem draw {n : Nat} {cards : List CardId} (h : s.draw id n = .ok (cards, s')) :
    L.Allows s s' := by
  obtain ⟨⟨drawn, s₁⟩, hdraw, heq⟩ := ok_bind h
  obtain ⟨-, rfl⟩ := Prod.mk.inj (Except.ok.inj heq)
  refine (drawEach hdraw).trans ?_
  by_cases hnone : drawn.isEmpty = true
  · rw [if_pos hnone]
    exact refl s₁
  · rw [if_neg hnone]
    exact publish s₁ id (fun _ => rfl) rfl

/-- None of the cards looked at is locked. -/
theorem topCards {n : Nat} {cards : List CardId} (h : s.topCards id n = .ok (cards, s'))
    (hs : s.Ready L.locked) : L.Allows s s' ∧ ∀ card ∈ cards, ¬ L.locked card := by
  rw [GameState.topCards] at h
  cases hp : s.player? id with
  | none => simp [hp] at h
  | some p =>
    simp only [hp, Except.ok.injEq, Prod.mk.injEq] at h
    obtain ⟨rfl, rfl⟩ := h
    obtain ⟨deck, discard, hprepare⟩ := Tableau.prepare_eq p.toTableau n s.rng
    have hloosened : p.zones.Loosened L.locked (p.toTableau.topCards n s.rng).2.1.zones :=
      p.toTableau.loosened_topCards n s.rng
    constructor
    · have heq : (p.toTableau.topCards n s.rng).2.1 = (p.toTableau.prepare n s.rng).1 := rfl
      rw [heq, hprepare] at hloosened
      have hset := arrange hp hloosened
      have hrng : L.Allows s { s.setPlayer id
          { p with toTableau := (p.toTableau.topCards n s.rng).2.1 } with
            rng := (p.toTableau.topCards n s.rng).2.2 } := by
        rw [heq, hprepare]
        exact hset.trans (aside rfl (fun _ => rfl) rfl rfl rfl (fun _ => rfl) (fun _ => rfl) rfl)
      exact hrng.trans (shuffled _ id _)
    · intro card hcard
      have hdeck := Tableau.mem_deck_of_topCards hcard
      have hclear := hloosened.clear (hs.players p (GameState.player?_mem hp)).clear
      exact hclear card (PlayerZones.mem_elsewhere.mpr (Or.inr (Or.inl hdeck)))

theorem move {card : CardId} {target : Zone} {position : Position} {source : Option Zone}
    (h : s.move card id target position = .ok (source, s')) (hcard : ¬ L.locked card)
    (htarget : ¬ PlayerZones.OnTable target) (hholds : PlayerZones.holds target) :
    L.Allows s s' := by
  rw [GameState.move] at h
  cases hp : s.player? id with
  | none => simp [hp] at h
  | some p =>
    simp only [hp] at h
    cases hloc : p.zones.locate card with
    | none =>
      simp only [hloc, Except.ok.injEq, Prod.mk.injEq] at h
      rw [← h.2]
      exact onLogger s _
    | some zone =>
      simp only [hloc] at h
      have hset : L.Allows s (s.setPlayer id { p with
          toTableau := (p.toTableau.transfer card zone target position).2 }) :=
        arrange hp (.transfer p.zones hcard htarget hholds position)
      by_cases hmoved : (p.toTableau.transfer card zone target position).1 = true
      · rw [if_pos hmoved] at h
        obtain ⟨-, rfl⟩ := Prod.mk.inj (Except.ok.inj h)
        exact hset.trans (publish _ id (fun _ => rfl) rfl)
      · rw [if_neg hmoved] at h
        obtain ⟨-, rfl⟩ := Prod.mk.inj (Except.ok.inj h)
        exact hset.trans (onLogger _ _)

end Allows

end Licence

end DeckBuilder
