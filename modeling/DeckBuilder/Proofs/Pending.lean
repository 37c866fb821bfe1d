import DeckBuilder.Proofs.CatalogWithin
import DeckBuilder.Proofs.Heeded
import DeckBuilder.Proofs.Reachable

/-!
What waits on cards, and where these cards lie. Between two turns every player is at rest, and nothing
waits on a card that lies elsewhere than on a table. In the middle of a turn this holds of the players
whose turn it is not. What keeps to a licence keeps it, if the licence locks the cards with a duration
that lie on tables, and lets programs be hung only on these.
-/
namespace DeckBuilder

/-- What may wait on a card. -/
def CardDefinition.Hangs (d : CardDefinition) (callback : EffectContext → Program) : Prop :=
  d.is .duration = true ∧
    (d = Catalog.lighthouse ∧ callback = Catalog.endWatch ∨
      d ≠ Catalog.lighthouse ∧
        ∃ effects : List Effect, (∀ e ∈ effects, e.Plain) ∧ callback = Catalog.doLater effects)

namespace GameState

def definition? (s : GameState) (card : CardId) : Option CardDefinition :=
  (s.card? card).map (·.definition)

/-- The programs that wait on a card. -/
def durations (s : GameState) (card : CardId) : List (EffectContext → Program) :=
  ((s.card? card).map (·.durations)).getD []

def Pending (s : GameState) (card : CardId) : Prop := s.durations card ≠ []

/-- The card is a Lighthouse, and something waits on it. -/
def Watching (s : GameState) (card : CardId) : Prop :=
  s.definition? card = some Catalog.lighthouse ∧ s.Pending card

/-- A player between the turns: an action, a buy and no money, and in front of the player only cards
on which something waits, set aside only Lighthouses. -/
structure Resting (s : GameState) (p : Player) : Prop where
  actions : p.actions = 1
  buys : p.buys = 1
  money : p.money = 0
  inPlay : ∀ card ∈ p.inPlay, s.Pending card
  setAside : ∀ card ∈ p.zones.setAside, s.Watching card

/-- The cards in front of the player. -/
def Lies (s : GameState) (id : PlayerId) (card : CardId) : Prop :=
  ∃ p, s.player? id = some p ∧ card ∈ p.zones.table

/-- The card is one with a duration. -/
def Lasting (s : GameState) (card : CardId) : Prop :=
  ∃ d, s.definition? card = some d ∧ d.is .duration = true

/-- Cards with a duration stay where they are once they lie on a table. -/
def Fixed (s : GameState) (card : CardId) : Prop := s.Lasting card ∧ ∃ id, s.Lies id card

/-- Some players are busy, the others rest. Nothing waits on a card that is not on a table; cards that
are set aside are watching, but for those that are excused. -/
structure Midway (busy : PlayerId → Prop) (excused : CardId → Prop) (s : GameState) : Prop where
  seated : s.Seated s.players.length
  registered : ∀ id c, s.card? id = some c → c.definition ∈ Registry.allCards
  ready : s.Ready noCard
  hung : ∀ card d, s.definition? card = some d → ∀ t ∈ s.durations card, d.Hangs t
  onTable : ∀ card, s.Pending card → ∃ id, s.Lies id card
  resting : ∀ id p, s.player? id = some p → ¬ busy id → s.Resting p
  setAside : ∀ id p, s.player? id = some p → busy id →
    ∀ card ∈ p.zones.setAside, excused card ∨ s.Watching card

/-- What is kept while it is the player's turn: the seats, whose turn it is, what is printed on the
cards, and which cards with a duration lie in front of the player. -/
structure Keeps (id : PlayerId) (s s' : GameState) : Prop where
  seats : s'.players.length = s.players.length
  active : s'.active = s.active
  definitions : ∀ card, s'.definition? card = s.definition? card
  stays : ∀ card, s.Lasting card → s.Lies id card → s'.Lies id card

/-! ### One place for each card -/

namespace Sound

variable {s : GameState} {card : CardId}

theorem nodup_whereabouts (hs : s.Sound) : s.whereabouts.Nodup := by
  rw [List.nodup_iff_count_le_one]
  intro card
  have hcensus := hs.census card
  split at hcensus <;> omega

/-- A card that a player has lies on no pile. -/
theorem notMem_pile (hs : s.Sound) {id : PlayerId} {p : Player} {q : Pile} (hp : s.player? id = some p)
    (hcard : card ∈ p.allCards) (hq : q ∈ s.supply.piles) : card ∉ q.cards := by
  intro hpile
  exact (List.nodup_append.mp hs.nodup_whereabouts).2.2 card
    (List.mem_append_left _ (List.mem_flatMap.mpr ⟨q, hq, hpile⟩)) card
    (List.mem_flatMap.mpr ⟨p, player?_mem hp, hcard⟩) rfl

/-- A card that a player has is not in the trash. -/
theorem notMem_trash (hs : s.Sound) {id : PlayerId} {p : Player} (hp : s.player? id = some p)
    (hcard : card ∈ p.allCards) : card ∉ s.trash := by
  intro htrash
  exact (List.nodup_append.mp hs.nodup_whereabouts).2.2 card (List.mem_append_right _ htrash) card
    (List.mem_flatMap.mpr ⟨p, player?_mem hp, hcard⟩) rfl

/-- Who has a card is the only one who has it. -/
theorem owner_unique (hs : s.Sound) {id other : PlayerId} {p q : Player}
    (hp : s.player? id = some p) (hq : s.player? other = some q) (hcp : card ∈ p.allCards)
    (hcq : card ∈ q.allCards) : id = other := by
  have hplayers := (List.nodup_append.mp hs.nodup_whereabouts).2.1
  have hpairs := List.pairwise_iff_getElem.mp (List.nodup_flatMap.mp hplayers).2
  obtain ⟨hi, heqp⟩ := List.getElem?_eq_some_iff.mp hp
  obtain ⟨hj, heqq⟩ := List.getElem?_eq_some_iff.mp hq
  have hseat : id.seat = other.seat := by
    rcases Nat.lt_trichotomy id.seat other.seat with hlt | heq | hlt
    · have hdisjoint := hpairs id.seat other.seat hi hj hlt
      rw [heqp, heqq] at hdisjoint
      exact absurd hcq (hdisjoint hcp)
    · exact heq
    · have hdisjoint := hpairs other.seat id.seat hj hi hlt
      rw [heqp, heqq] at hdisjoint
      exact absurd hcp (hdisjoint hcq)
  obtain ⟨i⟩ := id
  obtain ⟨j⟩ := other
  exact congrArg PlayerId.mk hseat

end Sound

end GameState

namespace GameState

variable {s s' s'' : GameState} {card : CardId} {id other : PlayerId}

theorem Sound.lies_unique (hs : s.Sound) (h : s.Lies id card) (h' : s.Lies other card) :
    id = other := by
  obtain ⟨p, hp, hcp⟩ := h
  obtain ⟨q, hq, hcq⟩ := h'
  exact hs.owner_unique hp hq (PlayerZones.mem_allCards_of_table hcp)
    (PlayerZones.mem_allCards_of_table hcq)

/-- A card on a table lies nowhere else. -/
theorem Sound.apart (hs : s.Sound) (h : s.Lies id card) :
    (∀ p ∈ s.players, card ∉ p.zones.elsewhere) ∧ (∀ q ∈ s.supply.piles, card ∉ q.cards) ∧
      card ∉ s.trash := by
  obtain ⟨p, hp, hcard⟩ := h
  have hmine := PlayerZones.mem_allCards_of_table hcard
  have hfirst := List.nodup_append.mp hs.nodup_whereabouts
  have hall : card ∈ s.players.flatMap fun p => p.allCards :=
    List.mem_flatMap.mpr ⟨p, player?_mem hp, hmine⟩
  have hrest : card ∉ s.supply.piles.flatMap Pile.cards ++ s.trash :=
    fun hmem => hfirst.2.2 card hmem card hall rfl
  refine ⟨?_, ?_, ?_⟩
  · intro q hq helse
    obtain ⟨j, hj⟩ := List.mem_iff_getElem?.mp hq
    have hq' : s.player? ⟨j⟩ = some q := hj
    have hsame := hs.owner_unique hp hq' hmine (PlayerZones.mem_allCards_of_elsewhere helse)
    rw [← hsame, hp] at hq'
    obtain rfl := Option.some.inj hq'
    exact PlayerZones.not_elsewhere (hs.nodup_allCards hp) hcard helse
  · intro q hq hmem
    exact hrest (List.mem_append_left _ (List.mem_flatMap.mpr ⟨q, hq, hmem⟩))
  · intro hmem
    exact hrest (List.mem_append_right _ hmem)

/-! ### What stays as it is -/

theorem durations_congr (h : s'.card? card = s.card? card) : s'.durations card = s.durations card := by
  rw [durations, h, durations]

/-- Where a card is, one with the same definition was. -/
theorem carded_before (h : s'.definition? card = s.definition? card) {c : Card}
    (hc : s'.card? card = some c) : ∃ before, s.card? card = some before ∧
      before.definition = c.definition := by
  rw [definition?, hc] at h
  exact Option.map_eq_some_iff.mp h.symm

theorem Watching.congr (h : s.Watching card) (h' : s'.card? card = s.card? card) :
    s'.Watching card := by
  rw [Watching, definition?, Pending, durations, h']
  exact h

/-- A player goes on resting while the cards on the table stay as they are. -/
theorem Resting.congr {p : Player} (h : s.Resting p)
    (hcards : ∀ card ∈ p.zones.table, s'.card? card = s.card? card) : s'.Resting p where
  actions := h.actions
  buys := h.buys
  money := h.money
  inPlay card hcard := by
    rw [Pending, durations_congr (hcards card (List.mem_append_left _ hcard))]
    exact h.inPlay card hcard
  setAside card hcard := (h.setAside card hcard).congr (hcards card (List.mem_append_right _ hcard))

namespace Keeps

theorem refl (id : PlayerId) (s : GameState) : s.Keeps id s :=
  ⟨rfl, rfl, fun _ => rfl, fun _ _ h => h⟩

theorem activePlayer (h : s.Keeps id s') : s'.activePlayer = s.activePlayer :=
  congrArg PlayerId.mk h.active

theorem lasting (h : s.Keeps id s') (hcard : s.Lasting card) : s'.Lasting card := by
  rw [Lasting, h.definitions]
  exact hcard

/-- A seat at the table is still one. -/
theorem seated (h : s.Keeps id s') (hseat : other.seat < s.players.length) :
    other.seat < s'.players.length := by
  rw [h.seats]
  exact hseat

theorem trans (h : s.Keeps id s') (h' : s'.Keeps id s'') : s.Keeps id s'' where
  seats := h'.seats.trans h.seats
  active := h'.active.trans h.active
  definitions card := (h'.definitions card).trans (h.definitions card)
  stays card hcard hlies := h'.stays card (h.lasting hcard) (h.stays card hcard hlies)

end Keeps

namespace Midway

variable {busy : PlayerId → Prop} {excused excused' : CardId → Prop}

/-- On what something waits is a card with a duration. -/
theorem lasting (h : s.Midway busy excused) (hcard : s.Pending card) : s.Lasting card := by
  cases hc : s.card? card with
  | none =>
    rw [Pending, durations, hc] at hcard
    exact absurd rfl hcard
  | some c =>
    have hdef : s.definition? card = some c.definition := by rw [definition?, hc]; rfl
    obtain ⟨t, ht⟩ := List.exists_mem_of_ne_nil _ hcard
    exact ⟨c.definition, hdef, (h.hung card c.definition hdef t ht).1⟩

/-- So it stays where it lies. -/
theorem fixed (h : s.Midway busy excused) (hcard : s.Pending card) : s.Fixed card :=
  ⟨h.lasting hcard, h.onTable card hcard⟩

theorem ready_fixed (h : s.Midway busy excused) : s.Ready s.Fixed where
  cards := h.ready.cards
  players := by
    intro p hp
    refine ⟨?_, (h.ready.players p hp).gain, (h.ready.players p hp).play⟩
    rintro card hcard ⟨-, id, hlies⟩
    exact (h.seated.sound.apart hlies).1 p hp hcard
  supply := by
    rintro q hq card hcard ⟨-, id, hlies⟩
    exact (h.seated.sound.apart hlies).2.1 q hq hcard
  trash := by
    rintro card hcard ⟨-, id, hlies⟩
    exact (h.seated.sound.apart hlies).2.2 hcard

theorem weaken {busy' : PlayerId → Prop} (h : s.Midway busy excused)
    (hbusy : ∀ id, busy id → busy' id) (hexcused : ∀ card, excused card → excused' card) :
    s.Midway busy' excused' where
  seated := h.seated
  registered := h.registered
  ready := h.ready
  hung := h.hung
  onTable := h.onTable
  resting id p hp hid := h.resting id p hp fun hbusy' => hid (hbusy id hbusy')
  setAside := by
    intro id p hp _ card hcard
    by_cases hid : busy id
    · exact (h.setAside id p hp hid card hcard).imp_left (hexcused card)
    · exact Or.inr ((h.resting id p hp hid).setAside card hcard)

/-- Who is watching, or not set aside, needs no excuse. -/
theorem pardon (h : s.Midway busy excused)
    (hpardon : ∀ id p, s.player? id = some p → busy id → ∀ card ∈ p.zones.setAside,
      excused card → s.Watching card) : s.Midway busy noCard := by
  refine ⟨h.seated, h.registered, h.ready, h.hung, h.onTable, h.resting, ?_⟩
  intro id p hp hid card hcard
  rcases h.setAside id p hp hid card hcard with hexcused | hwatching
  · exact Or.inr (hpardon id p hp hid card hcard hexcused)
  · exact Or.inr hwatching

end Midway

end GameState

/-! ### Changes under a licence -/

/-- The licence of a turn. -/
def Licence.turn (s : GameState) (busy : PlayerId → Prop) : Licence where
  locked := s.Fixed
  payee := busy
  hangs card callback := s.Fixed card ∧ ∃ d, s.definition? card = some d ∧ d.Hangs callback
  buys := True
  sways := True

namespace Licence.Allows

variable {s s' : GameState} {L : Licence} {card : CardId}

theorem definition? (h : L.Allows s s') (card : CardId) :
    s'.definition? card = s.definition? card := by
  obtain ⟨hung, -, heq⟩ := h.cards card
  rw [GameState.definition?, heq, Option.map_map]
  rfl

/-- What waited on a card goes on waiting. -/
theorem durations (h : L.Allows s s') (card : CardId) :
    ∃ hung, (∀ callback ∈ hung, L.hangs card callback) ∧
      s'.durations card = s.durations card ++ hung := by
  obtain ⟨hung, hall, heq⟩ := h.cards card
  cases hc : s.card? card with
  | none =>
    refine ⟨[], by simp, ?_⟩
    rw [GameState.durations, GameState.durations, heq, hc]
    rfl
  | some c =>
    refine ⟨hung, hall, ?_⟩
    rw [GameState.durations, GameState.durations, heq, hc]
    rfl

theorem pending (h : L.Allows s s') (hcard : s.Pending card) : s'.Pending card := by
  obtain ⟨hung, -, heq⟩ := h.durations card
  rw [GameState.Pending, heq]
  exact List.append_ne_nil_of_left_ne_nil hcard hung

theorem watching (h : L.Allows s s') (hcard : s.Watching card) : s'.Watching card :=
  ⟨(h.definition? card).trans hcard.1, h.pending hcard.2⟩

/-- A locked card stays in front of the player. -/
theorem lies (h : L.Allows s s') {id : PlayerId} (hcard : L.locked card) (hlies : s.Lies id card) :
    s'.Lies id card := by
  obtain ⟨p, hp, hmem⟩ := hlies
  obtain ⟨p', hp', hallows⟩ := h.players id p hp
  refine ⟨p', hp', ?_⟩
  rcases List.mem_append.mp hmem with hmem | hmem
  · exact List.mem_append_left _ (hallows.zones.keepsPlay card hcard hmem)
  · exact List.mem_append_right _ (hallows.zones.keepsAside card hcard hmem)

/-- A player who is not paid and rests goes on resting. -/
theorem resting (h : L.Allows s s') {id : PlayerId} {p p' : Player}
    (hallows : L.AllowsPlayer id p p') (hid : ¬ L.payee id) (hp : s.Resting p) : s'.Resting p' := by
  have heq := hallows.rest hid
  constructor
  · rw [heq]
    exact hp.actions
  · rw [heq]
    exact hp.buys
  · rw [heq]
    exact hp.money
  · exact fun card hcard => h.pending (hp.inPlay card (hallows.zones.inPlay hcard))
  · exact fun card hcard => h.watching (hp.setAside card (hallows.zones.setAside hcard))

/-- The player at a seat after the changes was there before. -/
theorem player_before (h : L.Allows s s') {id : PlayerId} {p' : Player}
    (hp' : s'.player? id = some p') : ∃ p, s.player? id = some p ∧ L.AllowsPlayer id p p' := by
  have hid := GameState.seat_lt_of_player? hp'
  rw [h.seats] at hid
  obtain ⟨p, hp⟩ := GameState.player?_of_lt hid
  obtain ⟨q, hq, hallows⟩ := h.players id p hp
  rw [hp'] at hq
  obtain rfl := Option.some.inj hq
  exact ⟨p, hp, hallows⟩

end Licence.Allows

namespace GameState

variable {s s' : GameState} {busy : PlayerId → Prop} {excused excused' : CardId → Prop}

theorem Keeps.of_allows {id : PlayerId} (h : (Licence.turn s busy).Allows s s') : s.Keeps id s' where
  seats := h.seats
  active := h.active
  definitions := h.definition?
  stays _ hcard hlies := h.lies ⟨hcard, id, hlies⟩ hlies

theorem Midway.allows (h : s.Midway busy excused) (hallows : (Licence.turn s busy).Allows s s')
    (hseated : s'.Seated s'.players.length) : s'.Midway busy excused where
  seated := hseated
  registered := by
    intro card c' hc'
    obtain ⟨c, hc, heq⟩ := carded_before (hallows.definition? card) hc'
    rw [← heq]
    exact h.registered card c hc
  ready := (hallows.ready h.ready_fixed).mono fun _ h => h.elim
  hung := by
    intro card d hd t ht
    rw [hallows.definition?] at hd
    obtain ⟨hung, hall, heq⟩ := hallows.durations card
    rw [heq] at ht
    rcases List.mem_append.mp ht with ht | ht
    · exact h.hung card d hd t ht
    · obtain ⟨-, d', hd', hhangs⟩ := hall t ht
      rw [hd] at hd'
      obtain rfl := Option.some.inj hd'
      exact hhangs
  onTable := by
    intro card hcard
    have hfixed : s.Fixed card := by
      by_cases hbefore : s.Pending card
      · exact h.fixed hbefore
      · obtain ⟨hung, hall, heq⟩ := hallows.durations card
        rw [Pending, heq, not_not.mp hbefore, List.nil_append] at hcard
        obtain ⟨t, ht⟩ := List.exists_mem_of_ne_nil _ hcard
        exact (hall t ht).1
    obtain ⟨id, hlies⟩ := hfixed.2
    exact ⟨id, hallows.lies hfixed hlies⟩
  resting := by
    intro id p' hp' hid
    obtain ⟨p, hp, hplayer⟩ := hallows.player_before hp'
    exact hallows.resting hplayer hid (h.resting id p hp hid)
  setAside := by
    intro id p' hp' hid card hcard
    obtain ⟨p, hp, hplayer⟩ := hallows.player_before hp'
    exact (h.setAside id p hp hid card (hplayer.zones.setAside hcard)).imp_right hallows.watching

/-- Whose turn it is does not matter for what waits where. -/
theorem Midway.congr (h : s.Midway busy excused) (hseated : s'.Seated s'.players.length)
    (hcards : ∀ card, s'.card? card = s.card? card) (hplayers : s'.players = s.players)
    (hsupply : s'.supply = s.supply) (htrash : s'.trash = s.trash) : s'.Midway busy excused := by
  have hplayer : ∀ other, s'.player? other = s.player? other := by
    intro other
    rw [player?, hplayers, player?]
  refine ⟨hseated, ?_, h.ready.congr hcards hplayers hsupply htrash, ?_, ?_, ?_, ?_⟩
  · intro card c hc
    rw [hcards] at hc
    exact h.registered card c hc
  · intro card d hd t ht
    rw [definition?, hcards] at hd
    rw [durations_congr (hcards card)] at ht
    exact h.hung card d hd t ht
  · intro card hcard
    rw [Pending, durations_congr (hcards card)] at hcard
    obtain ⟨other, q, hq, hmem⟩ := h.onTable card hcard
    exact ⟨other, q, (hplayer other).trans hq, hmem⟩
  · intro other q hq hother
    rw [hplayer] at hq
    exact (h.resting other q hq hother).congr fun card _ => hcards card
  · intro other q hq hother card hcard
    rw [hplayer] at hq
    exact (h.setAside other q hq hother card hcard).imp_right fun hw => hw.congr (hcards card)

/-- Cards of the busy player are arranged anew: those on which something waits stay on the table. -/
theorem Midway.rearrange {id : PlayerId} (h : s.Midway (· = id) excused) {p p' : Player}
    (hp : s.player? id = some p) (hplayers : s'.players = (s.setPlayer id p').players)
    (hcards : s'.cards = s.cards) (hseated : s'.Seated s'.players.length)
    (hready : p'.Ready noCard)
    (htable : ∀ card ∈ p.zones.table, s.Pending card → card ∈ p'.zones.table)
    (hexcused : ∀ card, excused card → excused' card ∨ card ∉ p'.zones.setAside)
    (haside : ∀ card ∈ p'.zones.setAside, excused' card ∨ card ∈ p.zones.setAside) :
    s'.Midway (· = id) excused' := by
  have hcard? : ∀ card, s'.card? card = s.card? card := by
    intro card
    rw [card?, hcards]
    rfl
  have hplayer? : ∀ other, s'.player? other = if id = other then some p' else s.player? other := by
    intro other
    rw [← player?_setPlayer (seat_lt_of_player? hp), player?, hplayers]
    rfl
  refine ⟨hseated, ?_, ?_, ?_, ?_, ?_, ?_⟩
  · intro card c hc
    rw [hcard?] at hc
    exact h.registered card c hc
  · have hset := h.ready.setPlayer id hready
    refine ⟨?_, ?_, fun _ _ _ _ h => h, fun _ _ h => h⟩
    · intro card c hc
      rw [hcard?] at hc
      exact h.ready.cards card c hc
    · rw [hplayers]
      exact hset.players
  · intro card d hd t ht
    rw [definition?, hcard?] at hd
    rw [durations_congr (hcard? card)] at ht
    exact h.hung card d hd t ht
  · intro card hcard
    rw [Pending, durations_congr (hcard? card)] at hcard
    obtain ⟨other, q, hq, hmem⟩ := h.onTable card hcard
    by_cases hother : id = other
    · rw [← hother, hp] at hq
      obtain rfl := Option.some.inj hq
      refine ⟨id, p', ?_, htable card hmem hcard⟩
      rw [hplayer?, if_pos rfl]
    · refine ⟨other, q, ?_, hmem⟩
      rw [hplayer?, if_neg hother]
      exact hq
  · intro other q hq hother
    have hne : id ≠ other := fun heq => hother heq.symm
    rw [hplayer?, if_neg hne] at hq
    exact (h.resting other q hq hother).congr fun card _ => hcard? card
  · intro other q hq hother card hcard
    rw [hplayer?, if_pos hother.symm] at hq
    obtain rfl := Option.some.inj hq
    rcases haside card hcard with hcard' | hmem
    · exact Or.inl hcard'
    · rcases h.setAside id p hp rfl card hmem with hexc | hwatching
      · rcases hexcused card hexc with hexc' | hnot
        · exact Or.inl hexc'
        · exact absurd hcard hnot
      · exact Or.inr (hwatching.congr (hcard? card))

/-- What else changes does not matter for what is kept. -/
theorem Keeps.congr {id : PlayerId} (hactive : s'.active = s.active)
    (hcards : ∀ card, s'.card? card = s.card? card) (hplayers : s'.players = s.players) :
    s.Keeps id s' where
  seats := by rw [hplayers]
  active := hactive
  definitions card := by rw [definition?, hcards, definition?]
  stays := by
    rintro card - ⟨p, hp, hmem⟩
    refine ⟨p, ?_, hmem⟩
    rw [player?, hplayers]
    exact hp

/-- If all cards with a duration stay on the table, nothing else of the turn changes. -/
theorem Keeps.rearrange {id : PlayerId} {p p' : Player} (hp : s.player? id = some p)
    (hplayers : s'.players = (s.setPlayer id p').players) (hcards : s'.cards = s.cards)
    (hactive : s'.active = s.active)
    (htable : ∀ card ∈ p.zones.table, s.Lasting card → card ∈ p'.zones.table) : s.Keeps id s' where
  seats := by rw [hplayers, length_players_setPlayer]
  active := hactive
  definitions card := by rw [definition?, card?, hcards]; rfl
  stays := by
    rintro card hcard ⟨q, hq, hmem⟩
    rw [hp] at hq
    obtain rfl := Option.some.inj hq
    refine ⟨p', ?_, htable card hmem hcard⟩
    rw [player?, hplayers]
    exact player?_setPlayer_self p' hp

end GameState

end DeckBuilder
