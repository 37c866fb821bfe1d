import DeckBuilder.Proofs.Conservation

/-!
The log as a ledger. From the events alone one can tell which cards have left each pile, in which
order, what lies in the trash, and which cards have come to each player and left again: what is in the
piles, in the trash and with the players agrees with that at any time.
-/
namespace DeckBuilder

/-! ### Reading the log -/

namespace GameEvent

/-- The card that was gained from the pile, if it was that. -/
def gainedFrom? (pile : String) (e : GameEvent) : Option CardId :=
  match e.kind with
  | .gainCard card name _ _ => if name = pile then some card else none
  | _ => none

/-- The card that the player gained. -/
def gainedBy? (id : PlayerId) (e : GameEvent) : Option CardId :=
  match e.kind with
  | .gainCard card _ _ _ => if e.player = id then some card else none
  | _ => none

/-- The card that the player trashed. -/
def trashedBy? (id : PlayerId) (e : GameEvent) : Option CardId :=
  match e.kind with
  | .trashCard card _ => if e.player = id then some card else none
  | _ => none

/-- The card that the player took out of the trash. -/
def recoveredBy? (id : PlayerId) (e : GameEvent) : Option CardId :=
  match e.kind with
  | .moveCard card _ .trash _ => if e.player = id then some card else none
  | _ => none

/-- The trash after the event: a card that is trashed is pushed onto it, and a card that is moved
from it is removed. -/
def onTrash (trash : List CardId) (e : GameEvent) : List CardId :=
  match e.kind with
  | .trashCard card _ => trash ++ [card]
  | .moveCard card _ .trash _ => trash.erase card
  | _ => trash

end GameEvent

/-- The kinds of events that go with no card coming to a player or leaving one. -/
def EventKind.Idle : EventKind → Prop
  | .gainCard .. | .trashCard .. => False
  | .moveCard _ _ source _ => source ≠ .trash
  | _ => True

theorem EventKind.Plain.idle {kind : EventKind} (h : kind.Plain) : kind.Idle := by
  cases kind <;> first | exact h | trivial

namespace GameEvent

variable {e : GameEvent} (h : e.kind.Idle)

include h

theorem gainedFrom?_idle (pile : String) : e.gainedFrom? pile = none := by
  unfold gainedFrom?
  split
  · next hkind => simp [hkind, EventKind.Idle] at h
  · rfl

theorem gainedBy?_idle (id : PlayerId) : e.gainedBy? id = none := by
  unfold gainedBy?
  split
  · next hkind => simp [hkind, EventKind.Idle] at h
  · rfl

theorem trashedBy?_idle (id : PlayerId) : e.trashedBy? id = none := by
  unfold trashedBy?
  split
  · next hkind => simp [hkind, EventKind.Idle] at h
  · rfl

theorem recoveredBy?_idle (id : PlayerId) : e.recoveredBy? id = none := by
  unfold recoveredBy?
  split
  · next hkind => simp [hkind, EventKind.Idle] at h
  · rfl

theorem onTrash_idle (trash : List CardId) : onTrash trash e = trash := by
  unfold onTrash
  split
  · next hkind => simp [hkind, EventKind.Idle] at h
  · next hkind => simp [hkind, EventKind.Idle] at h
  · rfl

end GameEvent

/-! ### Balance -/

/-- A pile after some events: what was gained from it is gone from its top, the first card first. -/
structure Pile.Drained (events : List GameEvent) (before after : Pile) : Prop where
  definition : after.definition = before.definition
  cards : before.cards = after.cards ++ (events.filterMap (·.gainedFrom? before.name)).reverse

/-- A player's cards after some events: those from before and those that came, less those that were
trashed. -/
def Tableau.Settled (events : List GameEvent) (id : PlayerId) (before after : Tableau) : Prop :=
  (after.allCards ++ events.filterMap (·.trashedBy? id)).Perm
    (before.allCards ++ events.filterMap (·.gainedBy? id) ++ events.filterMap (·.recoveredBy? id))

/-- From one state to another the log has grown by some events, and these account for what is in the
piles, in the trash and with the players. -/
structure Balance (events : List GameEvent) (s s' : GameState) : Prop where
  log : s'.events.events.toList = s.events.events.toList ++ events
  piles : ∀ (i : Nat) (p : Pile), s.supply.piles[i]? = some p →
    ∃ p', s'.supply.piles[i]? = some p' ∧ p.Drained events p'
  trash : s'.trash = events.foldl GameEvent.onTrash s.trash
  players : ∀ id p, s.player? id = some p →
    ∃ p', s'.player? id = some p' ∧ p.Settled events id p'.toTableau

theorem Pile.Drained.trans {events events' : List GameEvent} {p p' p'' : Pile}
    (h : p.Drained events p') (h' : p'.Drained events' p'') :
    p.Drained (events ++ events') p'' where
  definition := h'.definition.trans h.definition
  cards := by
    have hname : p'.name = p.name := by rw [Pile.name, Pile.name, h.definition]
    rw [h.cards, h'.cards, hname, List.filterMap_append, List.reverse_append, List.append_assoc]

theorem Tableau.Settled.trans {events events' : List GameEvent} {id : PlayerId}
    {t t' t'' : Tableau} (h : t.Settled events id t') (h' : t'.Settled events' id t'') :
    t.Settled (events ++ events') id t'' := by
  apply List.perm_iff_count.mpr
  intro card
  have hcount := h.count_eq card
  have hcount' := h'.count_eq card
  simp only [List.count_append, List.filterMap_append] at hcount hcount' ⊢
  omega

namespace Balance

variable {events events' : List GameEvent} {s s' s'' : GameState}

theorem trans (h : Balance events s s') (h' : Balance events' s' s'') :
    Balance (events ++ events') s s'' where
  log := by rw [h'.log, h.log, List.append_assoc]
  piles := by
    intro i p hp
    obtain ⟨p', hp', hdrained⟩ := h.piles i p hp
    obtain ⟨p'', hp'', hdrained'⟩ := h'.piles i p' hp'
    exact ⟨p'', hp'', hdrained.trans hdrained'⟩
  trash := by rw [h'.trash, h.trash, List.foldl_append]
  players := by
    intro id p hp
    obtain ⟨p', hp', hsettled⟩ := h.players id p hp
    obtain ⟨p'', hp'', hsettled'⟩ := h'.players id p' hp'
    exact ⟨p'', hp'', hsettled.trans hsettled'⟩

end Balance

/-- From one state to another the log has grown by idle events, and no card has come to a player or
left one. -/
structure Idling (events : List GameEvent) (s s' : GameState) : Prop where
  log : s'.events.events.toList = s.events.events.toList ++ events
  idle : ∀ e ∈ events, e.kind.Idle
  supply : s'.supply = s.supply
  trash : s'.trash = s.trash
  players : ∀ id p, s.player? id = some p →
    ∃ p', s'.player? id = some p' ∧ p'.allCards.Perm p.allCards

namespace Idling

variable {events events' : List GameEvent} {s s' s'' : GameState}

theorem trans (h : Idling events s s') (h' : Idling events' s' s'') :
    Idling (events ++ events') s s'' where
  log := by rw [h'.log, h.log, List.append_assoc]
  idle := List.forall_mem_append.mpr ⟨h.idle, h'.idle⟩
  supply := h'.supply.trans h.supply
  trash := h'.trash.trans h.trash
  players := by
    intro id p hp
    obtain ⟨p', hp', hperm⟩ := h.players id p hp
    obtain ⟨p'', hp'', hperm'⟩ := h'.players id p' hp'
    exact ⟨p'', hp'', hperm'.trans hperm⟩

/-- Events that are idle account for nothing, and need not. -/
theorem balance (h : Idling events s s') : Balance events s s' where
  log := h.log
  piles := by
    intro i p hp
    have hnone : events.filterMap (·.gainedFrom? p.name) = [] :=
      List.filterMap_eq_nil_iff.mpr fun e he => GameEvent.gainedFrom?_idle (h.idle e he) p.name
    rw [h.supply]
    refine ⟨p, hp, rfl, ?_⟩
    rw [hnone, List.reverse_nil, List.append_nil]
  trash := by
    rw [h.trash]
    refine (List.foldlRecOn events GameEvent.onTrash (motive := (· = s.trash)) rfl ?_).symm
    intro trash heq e he
    rw [GameEvent.onTrash_idle (h.idle e he), heq]
  players := by
    intro id p hp
    obtain ⟨p', hp', hperm⟩ := h.players id p hp
    refine ⟨p', hp', ?_⟩
    have hgained : events.filterMap (·.gainedBy? id) = [] :=
      List.filterMap_eq_nil_iff.mpr fun e he => GameEvent.gainedBy?_idle (h.idle e he) id
    have htrashed : events.filterMap (·.trashedBy? id) = [] :=
      List.filterMap_eq_nil_iff.mpr fun e he => GameEvent.trashedBy?_idle (h.idle e he) id
    have hrecovered : events.filterMap (·.recoveredBy? id) = [] :=
      List.filterMap_eq_nil_iff.mpr fun e he => GameEvent.recoveredBy?_idle (h.idle e he) id
    unfold Tableau.Settled
    rw [hgained, htrashed, hrecovered, List.append_nil, List.append_nil, List.append_nil]
    exact hperm

/-- No event, and nothing goes elsewhere. -/
theorem silent (hlog : s'.events = s.events) (hsupply : s'.supply = s.supply)
    (htrash : s'.trash = s.trash)
    (hplayers : ∀ id p, s.player? id = some p →
      ∃ p', s'.player? id = some p' ∧ p'.allCards.Perm p.allCards) : Idling [] s s' where
  log := by rw [hlog, List.append_nil]
  idle := by simp
  supply := hsupply
  trash := htrash
  players := hplayers

theorem refl (s : GameState) : Idling [] s s :=
  silent rfl rfl rfl fun _ p hp => ⟨p, hp, List.Perm.refl _⟩

/-- One idle event, and nothing goes elsewhere. -/
theorem published {id : PlayerId} {turn : Nat} {kind : EventKind} (h : kind.Idle)
    (hlog : s'.events.events.toList = s.events.events.toList ++ [s.events.next id turn kind])
    (hsupply : s'.supply = s.supply) (htrash : s'.trash = s.trash)
    (hplayers : ∀ id p, s.player? id = some p →
      ∃ p', s'.player? id = some p' ∧ p'.allCards.Perm p.allCards) :
    Idling [s.events.next id turn kind] s s' where
  log := hlog
  idle := by
    intro e he
    rw [List.mem_singleton.mp he]
    exact h
  supply := hsupply
  trash := htrash
  players := hplayers

end Idling

/-! ### Shuffles -/

namespace GameState

@[simp] theorem events_publish (s : GameState) (id : PlayerId) (kind : EventKind) :
    (s.publish id kind).events.events.toList =
      s.events.events.toList ++ [s.events.next id s.turn kind] :=
  Array.toList_push

/-- A player who has become another one, while the others are the same. -/
theorem players_setPlayer {s s' : GameState} {id : PlayerId} {p : Player} (p' : Player)
    (hp : s.player? id = some p) (hs' : s'.players = (s.setPlayer id p').players)
    {R : PlayerId → Player → Player → Prop} (hrefl : ∀ other q, id ≠ other → R other q q)
    (hR : R id p p') :
    ∀ other q, s.player? other = some q → ∃ q', s'.player? other = some q' ∧ R other q q' := by
  intro other q hq
  have hset : s'.player? other = (s.setPlayer id p').player? other := by
    simp only [player?, hs']
  rw [hset, player?_setPlayer (seat_lt_of_player? hp)]
  by_cases heq : id = other
  · rw [if_pos heq]
    rw [← heq, hp] at hq
    rw [← heq, ← Option.some.inj hq]
    exact ⟨p', rfl, hR⟩
  · rw [if_neg heq]
    exact ⟨q, hq, hrefl other q heq⟩

/-- A shuffle is told of, if there was one, and the cards stay the player's. -/
theorem idling_of_shuffle {s s' : GameState} (id : PlayerId) (shuffled : Nat)
    (hevents : s'.events = s.events) (hsupply : s'.supply = s.supply) (htrash : s'.trash = s.trash)
    (hplayers : ∀ id p, s.player? id = some p →
      ∃ p', s'.player? id = some p' ∧ p'.allCards.Perm p.allCards) :
    ∃ events, Idling events s (if 0 < shuffled then s'.publish id (.shuffle shuffled) else s') := by
  by_cases h : 0 < shuffled
  · rw [if_pos h]
    have hidle : EventKind.Idle (.shuffle shuffled) := trivial
    have hlog := events_publish s' id (.shuffle shuffled)
    rw [hevents] at hlog
    exact ⟨_, .published hidle hlog hsupply htrash hplayers⟩
  · rw [if_neg h]
    exact ⟨_, .silent hevents hsupply htrash hplayers⟩

/-- Drawing a card tells at most of a shuffle. -/
theorem drawOne_idling (s : GameState) (id : PlayerId) {p : Player} (hp : s.player? id = some p) :
    ∃ events, Idling events s (s.drawOne id p).2 := by
  have hperm := Tableau.perm_draw p.toTableau s.rng
  exact idling_of_shuffle _ _ rfl rfl rfl <| players_setPlayer
    { p with toTableau := (p.toTableau.draw s.rng).2.1 } hp rfl
    (R := fun _ q q' => q'.allCards.Perm q.allCards) (fun _ q _ => List.Perm.refl _) hperm

/-- Looking at the top cards tells at most of a shuffle. -/
theorem topCards_idling {s s' : GameState} {id : PlayerId} {n : Nat} {cards : List CardId}
    (h : s.topCards id n = .ok (cards, s')) : ∃ events, Idling events s s' := by
  unfold topCards at h
  cases hp : s.player? id with
  | none => simp [hp] at h
  | some p =>
    simp only [hp, Except.ok.injEq, Prod.mk.injEq] at h
    have hperm := Tableau.perm_topCards p.toTableau n s.rng
    have hplayers := players_setPlayer
      { p with toTableau := (p.toTableau.topCards n s.rng).2.1 } hp rfl
      (R := fun _ q q' => q'.allCards.Perm q.allCards) (fun _ q _ => List.Perm.refl _) hperm
    rw [← h.2]
    exact idling_of_shuffle _ _ rfl rfl rfl hplayers

end GameState

/-! ### Every change is accounted for -/

theorem PlayerZones.perm_put {z : PlayerZones} (hs : z.MatsSorted) {zone : Zone}
    (hz : holds zone) (card : CardId) (position : Position) :
    (z.update zone (·.insert card position)).allCards.Perm (card :: z.allCards) := by
  apply List.perm_iff_count.mpr
  intro c
  have hput := weigh_put (fun _ d => if d = c then 1 else 0) hs hz card position
  simp only [weigh_indicator] at hput
  rw [hput, List.count_cons]
  simp only [beq_iff_eq]

theorem PlayerZones.perm_remove? {z z' : PlayerZones} (hs : z.MatsSorted) {card : CardId}
    {zone : Zone} (h : z.remove? card = some (zone, z')) :
    (card :: z'.allCards).Perm z.allCards := by
  apply List.perm_iff_count.mpr
  intro c
  have htake := weigh_remove? (fun _ d => if d = c then 1 else 0) hs h
  simp only [weigh_indicator] at htake
  rw [← htake, List.count_cons]
  simp only [beq_iff_eq]

/-- Where names are not repeated, what is done to the pile of a name is done to it alone. -/
theorem Supply.getElem?_updatePile {supply : Supply} (hnames : (supply.piles.map Pile.name).Nodup)
    {name : String} {p : Pile} (hp : supply.pile? name = some p) (f : Pile → Pile) {i : Nat}
    {q : Pile} (hq : supply.piles[i]? = some q) :
    q.name = name ∧ q = p ∧ (supply.updatePile name f).piles[i]? = some (f q) ∨
      q.name ≠ name ∧ (supply.updatePile name f).piles[i]? = some q := by
  have hmem := List.mem_of_find?_eq_some hp
  have hname : p.name = name := by simpa using List.find?_some hp
  obtain ⟨hi, hget⟩ := List.getElem?_eq_some_iff.mp hq
  have hlt : supply.piles.findIdx (·.name == name) < supply.piles.length :=
    List.findIdx_lt_length_of_exists ⟨p, hmem, by simpa using hname⟩
  have hfound : (supply.piles[supply.piles.findIdx (·.name == name)]).name = name := by
    simpa using List.findIdx_getElem (w := hlt)
  simp only [Supply.updatePile, List.getElem?_modify, hq, Option.map_eq_map, Option.map_some]
  by_cases hqname : q.name = name
  · left
    have hsame : q = p :=
      List.inj_on_of_nodup_map hnames (List.mem_of_getElem? hq) hmem (hqname.trans hname.symm)
    have hindex : supply.piles.findIdx (·.name == name) = i := by
      have hlt' : supply.piles.findIdx (·.name == name) < (supply.piles.map Pile.name).length := by
        simpa using hlt
      have hi' : i < (supply.piles.map Pile.name).length := by simpa using hi
      refine (@List.Nodup.getElem_inj_iff _ _ hnames _ hlt' _ hi').mp ?_
      rw [List.getElem_map, List.getElem_map, hfound, hget, hqname]
    refine ⟨hqname, hsame, ?_⟩
    rw [if_pos hindex]
  · right
    have hindex : supply.piles.findIdx (·.name == name) ≠ i := by
      intro hindex
      subst hindex
      rw [hget] at hfound
      exact hqname hfound
    refine ⟨hqname, ?_⟩
    rw [if_neg hindex]

namespace Balance

variable {s s' : GameState} {id : PlayerId} {card : CardId}

/-- The event of a gain accounts for the gain. -/
theorem gain (hs : s.Sound) (hnames : (s.supply.piles.map Pile.name).Nodup) {pile : String}
    {p : Pile} {owner : Player} {bought : Bool} {destination : GainDestination}
    (hpile : s.supply.pile? pile = some p) (htop : p.top? = some card)
    (howner : s.player? id = some owner) :
    Balance [s.events.next id s.turn (.gainCard card pile bought destination)] s
      (s.gained pile id owner card bought destination) where
  log := GameState.events_publish _ _ _
  piles := by
    intro i q hq
    obtain ⟨hname, hsame, hpop⟩ | ⟨hname, hkept⟩ :=
      Supply.getElem?_updatePile hnames hpile Pile.pop hq
    · refine ⟨q.pop, hpop, rfl, ?_⟩
      have hcards : q.cards = q.pop.cards ++ [card] := by
        rw [hsame]
        exact (List.dropLast_append_getLast? card htop).symm
      simpa [GameEvent.gainedFrom?, EventLog.next, hname] using hcards
    · refine ⟨q, hkept, rfl, ?_⟩
      simp [GameEvent.gainedFrom?, EventLog.next, Ne.symm hname]
  trash := rfl
  players := by
    have hz : PlayerZones.holds destination.zone := by cases destination <;> rfl
    have hput : (owner.onTableau (·.put card destination.zone destination.position)).allCards.Perm
        (owner.allCards ++ [card]) :=
      (PlayerZones.perm_put (hs.mats owner (GameState.player?_mem howner)) hz card
        destination.position).trans (List.perm_append_singleton card _).symm
    refine GameState.players_setPlayer
      (owner.onTableau (·.put card destination.zone destination.position)) howner rfl ?_ ?_
    · intro other q hne
      simp [Tableau.Settled, GameEvent.trashedBy?, GameEvent.gainedBy?, GameEvent.recoveredBy?,
        EventLog.next, hne]
    · simpa [Tableau.Settled, GameEvent.trashedBy?, GameEvent.gainedBy?, GameEvent.recoveredBy?,
        EventLog.next] using hput

/-- The event of a trashing accounts for it. -/
theorem trash_event (hs : s.Sound) {p : Player} {zone : Zone} {tableau : Tableau} {name : String}
    (hp : s.player? id = some p) (hremove : p.toTableau.remove? card = some (zone, tableau)) :
    Balance [s.events.next id s.turn (.trashCard card name)] s
      (({ s.setPlayer id { p with toTableau := tableau } with
        trash := s.trash ++ [card] } : GameState).publish id (.trashCard card name)) where
  log := GameState.events_publish _ _ _
  piles := by
    intro i q hq
    exact ⟨q, hq, rfl, by simp [GameEvent.gainedFrom?, EventLog.next]⟩
  trash := rfl
  players := by
    obtain ⟨zones, hzones, htableau⟩ := Tableau.remove?_eq_some hremove
    have hperm : (tableau.allCards ++ [card]).Perm p.allCards := by
      rw [htableau]
      exact (List.perm_append_singleton card _).trans
        (PlayerZones.perm_remove? (hs.mats p (GameState.player?_mem hp)) hzones)
    refine GameState.players_setPlayer { p with toTableau := tableau } hp rfl ?_ ?_
    · intro other q hne
      simp [Tableau.Settled, GameEvent.trashedBy?, GameEvent.gainedBy?, GameEvent.recoveredBy?,
        EventLog.next, hne]
    · simpa [Tableau.Settled, GameEvent.trashedBy?, GameEvent.gainedBy?, GameEvent.recoveredBy?,
        EventLog.next] using hperm

/-- The event of a move from the trash accounts for it. -/
theorem recover_event (hs : s.Sound) {p : Player} {name : String} (hp : s.player? id = some p) :
    Balance [s.events.next id s.turn (.moveCard card name .trash .hand)] s
      (({ s.setPlayer id (p.onTableau (·.put card .hand .top)) with
        trash := s.trash.erase card } : GameState).publish id
          (.moveCard card name .trash .hand)) where
  log := GameState.events_publish _ _ _
  piles := by
    intro i q hq
    exact ⟨q, hq, rfl, by simp [GameEvent.gainedFrom?, EventLog.next]⟩
  trash := rfl
  players := by
    have hz : PlayerZones.holds .hand := rfl
    have hput : (p.onTableau (·.put card .hand .top)).allCards.Perm (p.allCards ++ [card]) :=
      (PlayerZones.perm_put (hs.mats p (GameState.player?_mem hp)) hz card .top).trans
        (List.perm_append_singleton card _).symm
    refine GameState.players_setPlayer (p.onTableau (·.put card .hand .top)) hp rfl ?_ ?_
    · intro other q hne
      simp [Tableau.Settled, GameEvent.trashedBy?, GameEvent.gainedBy?, GameEvent.recoveredBy?,
        EventLog.next, hne]
    · simpa [Tableau.Settled, GameEvent.trashedBy?, GameEvent.gainedBy?, GameEvent.recoveredBy?,
        EventLog.next] using hput

end Balance

/-- Whatever changes, the events account for it. -/
theorem Change.balance {H : Hooks} {s s' : GameState} (h : Change H s s') (hs : s.Sound)
    (hnames : (s.supply.piles.map Pile.name).Nodup) : ∃ events, Balance events s s' := by
  have hsame : ∀ {t : GameState}, t.players = s.players → ∀ id p, s.player? id = some p →
      ∃ p', t.player? id = some p' ∧ p'.allCards.Perm p.allCards := by
    intro t ht id p hp
    refine ⟨p, ?_, List.Perm.refl _⟩
    rw [GameState.player?, ht]
    exact hp
  have hset : ∀ {t : GameState} {id : PlayerId} {p p' : Player}, s.player? id = some p →
      t.players = (s.setPlayer id p').players → p'.allCards.Perm p.allCards →
      ∀ id p, s.player? id = some p →
        ∃ p', t.player? id = some p' ∧ p'.allCards.Perm p.allCards := by
    intro t id p p' hp ht hperm
    exact GameState.players_setPlayer (R := fun _ q q' => q'.allCards.Perm q.allCards) p' hp ht
      (fun _ q _ => List.Perm.refl _) hperm
  cases h with
  | think id rng notes =>
    obtain ⟨logger, heq⟩ := GameState.enterAll_eq { s with rng } id notes
    rw [heq]
    exact ⟨_, Idling.balance (.silent rfl rfl rfl (hsame rfl))⟩
  | publish id kind hplain =>
    exact ⟨_, Idling.balance (.published hplain.idle (GameState.events_publish _ _ _) rfl rfl
      (hsame rfl))⟩
  | arrange id p p' hp _ _ hcards _ =>
    have hperm := (hcards (hs.mats p (GameState.player?_mem hp))).2
    exact ⟨_, Idling.balance (.silent rfl rfl rfl (hset hp rfl hperm))⟩
  | draw id p hp =>
    obtain ⟨events, h⟩ := s.drawOne_idling id hp
    exact ⟨events, h.balance⟩
  | peek _ id n cards ht =>
    obtain ⟨events, h⟩ := GameState.topCards_idling ht
    exact ⟨events, h.balance⟩
  | gain pile p card id owner bought destination hpile htop howner =>
    exact ⟨_, .gain hs hnames hpile htop howner⟩
  | trash id p card zone tableau name hp hremove => exact ⟨_, .trash_event hs hp hremove⟩
  | recover id p card name hp _ => exact ⟨_, .recover_event hs hp⟩
  | begin id p hp =>
    have hidle : EventKind.Idle .startTurn := trivial
    exact ⟨_, Idling.balance (.published hidle (GameState.events_publish _ _ _) rfl rfl
      (hset hp rfl (List.Perm.refl _)))⟩
  | _ => exact ⟨_, Idling.balance (.silent rfl rfl rfl (hsame rfl))⟩

theorem Changes.balance {H : Hooks} {s s' : GameState} (h : Changes H s s') (hs : s.Sound)
    (hnames : (s.supply.piles.map Pile.name).Nodup) : ∃ events, Balance events s s' := by
  induction h with
  | refl => exact ⟨[], (Idling.refl s).balance⟩
  | tail hbefore hstep ih =>
    obtain ⟨events, hbalance⟩ := ih
    have hnames' := hnames
    rw [← (Changes.kept hbefore).names] at hnames'
    obtain ⟨events', hbalance'⟩ := hstep.balance (Changes.sound hbefore hs) hnames'
    exact ⟨events ++ events', hbalance.trans hbalance'⟩

/-! ### From the opening on -/

theorem Setup.Dealt.idling {s s' : GameState} (h : Setup.Dealt s s') :
    ∃ events, Idling events s s' := by
  induction h with
  | refl => exact ⟨[], .refl s⟩
  | tail _ hstep ih =>
    obtain ⟨events, hbefore⟩ := ih
    cases hstep with
    | draw id p hp =>
      obtain ⟨events', hdraw⟩ := GameState.drawOne_idling _ id hp
      exact ⟨events ++ events', hbefore.trans hdraw⟩
    | tell id n =>
      have hidle : EventKind.Idle (.drawCards n) := trivial
      exact ⟨_, hbefore.trans (.published hidle (GameState.events_publish _ id _) rfl rfl
        fun _ p hp => ⟨p, hp, List.Perm.refl _⟩)⟩

/-- When the hands are dealt, nothing has happened that would have to be accounted for, the trash is
empty, and every player has as many cards as one starts with. -/
structure GameState.Blank (n : Nat) (s : GameState) : Prop where
  log : ∀ e ∈ s.events.events.toList, e.kind.Idle
  trash : s.trash = []
  players : ∀ id : PlayerId, id.seat < n → ∃ p, s.player? id = some p ∧
    p.allCards.length = Setup.startingCoppers + Setup.startingEstates

theorem initGame_blank {r : Registry} {config : GameConfig} {s : GameState}
    (h : initGame r config = .ok s) : s.Blank config.players.length := by
  obtain ⟨s₁, hlaid, hdealt⟩ := initGame_laid h
  obtain ⟨events, hidling⟩ := Setup.Dealt.idling hdealt
  refine ⟨?_, ?_, ?_⟩
  · obtain ⟨kingdom, hevents⟩ := hlaid.events
    rw [hidling.log, hevents]
    refine List.forall_mem_append.mpr ⟨?_, hidling.idle⟩
    intro e he
    have hstart : e = _ := List.mem_singleton.mp he
    rw [hstart]
    trivial
  · rw [hidling.trash, hlaid.trash]
  · intro id hid
    rw [← hlaid.seats] at hid
    obtain ⟨p, hp⟩ := GameState.player?_of_lt hid
    have hnew := hlaid.players id.seat p hp
    obtain ⟨p', hp', hperm⟩ := hidling.players id p hp
    refine ⟨p', hp', ?_⟩
    rw [hperm.length_eq, hnew.allCards, hnew.deck]

/-- The whole log accounts for what has become of the piles, the trash and the players' cards. -/
theorem GameState.Blank.balance {n : Nat} {s₀ s : GameState} (h : s₀.Blank n)
    {events : List GameEvent} (hbalance : Balance events s₀ s) :
    Balance s.events.events.toList { s₀ with events := {} } s := by
  have hstart : Idling s₀.events.events.toList { s₀ with events := {} } s₀ :=
    ⟨rfl, h.log, rfl, rfl, fun _ p hp => ⟨p, hp, List.Perm.refl _⟩⟩
  rw [hbalance.log]
  exact hstart.balance.trans hbalance

/-- The log is a ledger. What is missing from the top of a pile, from the top down, are the cards of
the gains from it, in the order of the log. The trash is what trashing and moving from the trash make
of it. The cards of a player are those to start with and those gained or moved from the trash by this
player, less those trashed by this player; so no card goes from one player to another. -/
theorem log_accounts {M : Type} [Controllers M] {r : Registry} {config : GameConfig}
    {s₀ : GameState} (hinit : initGame r config = .ok s₀)
    (hr : ∀ d ∈ r.definitions, d ∈ Registry.allCards ∨ d.Seated config.players.length)
    {operations : List Operation}
    (ho : ∀ o ∈ operations, o.Seated config.players.length) (memory : M) :
    let s := (Operation.applyAll operations ⟨s₀, memory⟩).state
    let log := s.events.events.toList
    (∀ (i : Nat) (before : Pile), s₀.supply.piles[i]? = some before →
      ∃ after, s.supply.piles[i]? = some after ∧ after.definition = before.definition ∧
        before.cards = after.cards ++ (log.filterMap (·.gainedFrom? before.name)).reverse) ∧
    s.trash = log.foldl GameEvent.onTrash [] ∧
    ∀ id : PlayerId, id.seat < config.players.length →
      ∃ before after, s₀.player? id = some before ∧ s.player? id = some after ∧
        (after.allCards ++ log.filterMap (·.trashedBy? id)).Perm
          (before.allCards ++ log.filterMap (·.gainedBy? id) ++
            log.filterMap (·.recoveredBy? id)) ∧
        after.allCards.length + (log.filterMap (·.trashedBy? id)).length =
          10 + (log.filterMap (·.gainedBy? id)).length +
            (log.filterMap (·.recoveredBy? id)).length := by
  intro s log
  have hopened := initGame_opened hinit
  have hblank := initGame_blank hinit
  have hseated := hopened.toSeated fun d hd =>
    (hr d hd).elim (Registry.allCards_seated d) id
  have hchanges := Operation.applyAll_changes (M := M) ho (g := ⟨s₀, memory⟩) hseated
  obtain ⟨events, hevents⟩ := hchanges.balance hopened.sound hopened.names
  have hbalance := hblank.balance hevents
  refine ⟨?_, ?_, ?_⟩
  · intro i before hbefore
    obtain ⟨after, hafter, hdrained⟩ := hbalance.piles i before hbefore
    exact ⟨after, hafter, hdrained.definition, hdrained.cards⟩
  · have htrash := hbalance.trash
    rw [show ({ s₀ with events := {} } : GameState).trash = [] from hblank.trash] at htrash
    exact htrash
  · intro id hid
    obtain ⟨before, hbefore, hlength⟩ := hblank.players id hid
    obtain ⟨after, hafter, hsettled⟩ := hbalance.players id before hbefore
    refine ⟨before, after, hbefore, hafter, hsettled, ?_⟩
    have hcount := hsettled.length_eq
    rw [List.length_append, List.length_append, List.length_append, hlength] at hcount
    exact hcount

/-- Two turns between players who answer at random, and a gain and a trashing between them. -/
theorem log_accounts_after_trashing :
    ∃ s₀, initGame Registry.catalog { players := ["Player 1", "Player 2"] } = .ok s₀ ∧
      let s := (Operation.applyAll
        [.playTurn 10 0, .call (.gain "Silver" ⟨0⟩ false .hand), .call (.trash ⟨120⟩ ⟨0⟩),
          .playTurn 10 1]
        ⟨s₀, Table.ofMinds [.random, .random]⟩).state
      let log := s.events.events.toList
      s.trash = log.foldl GameEvent.onTrash [] ∧
        ∃ after, s.player? ⟨0⟩ = some after ∧
          after.allCards.length + (log.filterMap (·.trashedBy? ⟨0⟩)).length =
            10 + (log.filterMap (·.gainedBy? ⟨0⟩)).length +
              (log.filterMap (·.recoveredBy? ⟨0⟩)).length := by
  obtain ⟨s₀, h⟩ := initGame_catalog
  have ho : ∀ o ∈ [.playTurn 10 0, .call (.gain "Silver" ⟨0⟩ false .hand),
      .call (.trash ⟨120⟩ ⟨0⟩), .playTurn 10 1], Operation.Seated 2 o := by
    intro o ho
    simp only [List.mem_cons, List.not_mem_nil, or_false] at ho
    rcases ho with ho | ho | ho | ho <;> rw [ho]
    · trivial
    · exact Nat.zero_lt_two
    · trivial
    · trivial
  obtain ⟨-, htrash, hplayers⟩ := log_accounts h
    (fun d hd => Or.inl (Registry.mem_catalog hd)) ho (Table.ofMinds [.random, .random])
  obtain ⟨-, after, -, hafter, -, hlength⟩ := hplayers ⟨0⟩ Nat.zero_lt_two
  exact ⟨s₀, h, htrash, after, hafter, hlength⟩

end DeckBuilder
