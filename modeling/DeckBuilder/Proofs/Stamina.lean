import DeckBuilder.Proofs.Moves
import Mathlib.Algebra.Order.BigOperators.Group.List
import Mathlib.Algebra.Order.Group.Nat

/-!
Why a turn cannot go on for ever. A card that has been played stays where it cannot be played from
until the turn is cleaned up, and a card that has been gained never goes back to the supply. So weigh
each card by what can still be done with it this turn: two in a pile, one where a player could come to
play it, none in play or aside. The one card that comes back from the trash weighs one there too. The
total is the stamina of a state; a change is calm if it does not raise it, and quiet if moreover
nothing enters the places from which no card comes back.
-/
namespace DeckBuilder

/-- The zones from which a card may still come to be played this turn. -/
def Zone.Loose : Zone → Bool
  | .hand | .deck | .discard => true
  | .mat name => name == "Native Village"
  | .inPlay | .setAside | .trash => false

namespace GameState

/-- Whether something is done when the card is trashed, so that it may come back. -/
def returns (s : GameState) (card : CardId) : Bool :=
  (s.card? card).any fun c => !c.definition.onTrash.isEmpty

def looseScale (s : GameState) : Scale where
  pile _ := 2
  trash c := if s.returns c then 1 else 0
  zone z _ := if z.Loose then 1 else 0

theorem looseScale_even (s : GameState) : Tableau.Even s.looseScale.zone := ⟨rfl, rfl⟩

def stamina (s : GameState) : Nat := s.weigh s.looseScale

/-- The card lies in none of the player's zones from which it would not come back. -/
def Unspent (s : GameState) (id : PlayerId) (card : CardId) : Prop :=
  ∀ p, s.player? id = some p → ∀ zone, zone.Loose = false → card ∉ p.zones.row zone

/-! ### How much there can be -/

theorem weigh_row_le {w : CardId → Nat} {k : Nat} (hw : ∀ c, w c ≤ k) (cards : CardRow) :
    CardRow.weigh w cards ≤ k * cards.length := by
  induction cards with
  | nil => simp [CardRow.weigh]
  | cons c cards ih =>
    have hc := hw c
    simp only [CardRow.weigh, List.map_cons, List.sum_cons, List.length_cons] at ih ⊢
    rw [Nat.mul_add]
    omega

theorem sum_map_le {α : Type} {f g : α → Nat} {k : Nat} (xs : List α)
    (h : ∀ x ∈ xs, f x ≤ k * g x) : (xs.map f).sum ≤ k * (xs.map g).sum := by
  induction xs with
  | nil => simp
  | cons x xs ih =>
    have hx := h x List.mem_cons_self
    have hxs := ih fun y hy => h y (List.mem_cons_of_mem _ hy)
    simp only [List.map_cons, List.sum_cons, Nat.mul_add]
    omega

theorem weigh_zones_le {w : Zone → CardId → Nat} {k : Nat} (hw : ∀ z c, w z c ≤ k)
    (z : PlayerZones) : z.weigh w ≤ k * z.allCards.length := by
  have hlen : z.allCards.length = (z.inOrder.map fun e => e.2.length).sum := by
    simp [PlayerZones.allCards, List.length_flatMap]
  rw [hlen]
  exact sum_map_le _ fun e _ => weigh_row_le (hw e.1) e.2

theorem length_whereabouts_eq (s : GameState) :
    s.whereabouts.length = (s.supply.piles.map fun p => p.cards.length).sum + s.trash.length +
      (s.players.map fun p => p.allCards.length).sum := by
  simp [whereabouts, List.length_flatMap, Nat.add_assoc]

theorem weigh_le {w : Scale} {k : Nat} (hpile : ∀ c, w.pile c ≤ k) (htrash : ∀ c, w.trash c ≤ k)
    (hzone : ∀ z c, w.zone z c ≤ k) (s : GameState) : s.weigh w ≤ k * s.whereabouts.length := by
  have h₁ := sum_map_le (f := fun p : Pile => CardRow.weigh w.pile p.cards)
    (g := fun p => p.cards.length) s.supply.piles fun p _ => weigh_row_le hpile p.cards
  have h₂ := weigh_row_le htrash s.trash
  have h₃ := sum_map_le (f := fun p : Player => p.zones.weigh w.zone)
    (g := fun p => p.allCards.length) s.players fun p _ => weigh_zones_le hzone p.zones
  rw [length_whereabouts_eq, Nat.mul_add, Nat.mul_add]
  simp only [weigh]
  omega

/-- In a sound state there are as many places taken as there are cards. -/
theorem Sound.length_whereabouts {s : GameState} (h : s.Sound) :
    s.whereabouts.length = s.cards.size := by
  have hnodup : (s.cards.entries.keys.map CardId.mk).Nodup := by
    refine List.Nodup.map (fun a b hab => CardId.mk.inj hab) ?_
    have hdistinct := Std.TreeMap.distinct_keys (t := s.cards.entries)
    exact hdistinct.imp fun hne heq => hne (by rw [heq]; exact Std.ReflCmp.compare_self)
  have hperm : s.whereabouts.Perm (s.cards.entries.keys.map CardId.mk) := by
    rw [List.perm_iff_count]
    intro card
    rw [h.census card, hnodup.count]
    have hmem : card ∈ s.cards.entries.keys.map CardId.mk ↔ s.cards.contains card = true := by
      obtain ⟨n⟩ := card
      simp [Store.contains]
    by_cases hc : s.cards.contains card = true
    · rw [if_pos hc, if_pos (hmem.mpr hc)]
    · rw [if_neg hc, if_neg (mt hmem.mp hc)]
  rw [hperm.length_eq, List.length_map, Std.TreeMap.length_keys]
  rfl

/-- Twice the number of cards is more stamina than any state has. -/
theorem Sound.stamina_le {s : GameState} (h : s.Sound) : s.stamina ≤ 2 * s.cards.size := by
  rw [← h.length_whereabouts]
  refine weigh_le ?_ ?_ ?_ s
  · exact fun _ => Nat.le_refl _
  · intro c
    simp only [looseScale]
    split <;> omega
  · intro z c
    simp only [looseScale]
    split <;> omega

theorem Sound.supply_le {s : GameState} (h : s.Sound) : s.supply.size ≤ s.cards.size := by
  have hsize : s.supply.size = (s.supply.piles.map fun p => p.cards.length).sum :=
    s.supply.size_eq_sum
  rw [← h.length_whereabouts, length_whereabouts_eq, hsize]
  omega

/-! ### What is spent -/

theorem Sound.nodup_allCards {s : GameState} (h : s.Sound) {id : PlayerId} {p : Player}
    (hp : s.player? id = some p) : p.zones.allCards.Nodup := by
  rw [List.nodup_iff_count_le_one]
  intro card
  have hcensus := h.census card
  have hle : p.zones.allCards.count card ≤ s.whereabouts.count card := by
    simp only [whereabouts, List.count_append, List.count_flatMap]
    have hmem : p.zones.allCards.count card ∈
        s.players.map (List.count card ∘ fun p => p.allCards) :=
      List.mem_map.mpr ⟨p, player?_mem hp, rfl⟩
    have hsum := List.single_le_sum (fun _ _ => Nat.zero_le _) _ hmem
    omega
  split at hcensus <;> omega

/-- A card in a loose zone of the player is in no other. -/
theorem Sound.unspent_of_mem {s : GameState} (h : s.Sound) {id : PlayerId} {p : Player}
    (hp : s.player? id = some p) {zone : Zone} (hz : zone.Loose = true) {card : CardId}
    (hc : card ∈ p.zones.row zone) : s.Unspent id card := by
  intro q hq other hother hc'
  obtain rfl : p = q := Option.some.inj (hp.symm.trans hq)
  have heq := PlayerZones.zone_unique (h.nodup_allCards hp) hc hc'
  rw [heq] at hz
  simp [hz] at hother

theorem Unspent.loose {s : GameState} {id : PlayerId} {card : CardId} (h : s.Unspent id card)
    {p : Player} (hp : s.player? id = some p) {zone : Zone} (hc : card ∈ p.zones.row zone) :
    zone.Loose = true := by
  by_contra hz
  exact h p hp zone (by simpa using hz) hc

/-- The player's zones are changed so that nothing is spent by it. -/
theorem Unspent.setPlayer {s : GameState} {id : PlayerId} {p : Player}
    (hp : s.player? id = some p) (p' : Player)
    (hrows : ∀ zone, zone.Loose = false → ∀ c ∈ p'.zones.row zone, c ∈ p.zones.row zone)
    {other : PlayerId} {card : CardId} (h : s.Unspent other card) :
    (s.setPlayer id p').Unspent other card := by
  intro q hq zone hz hc
  rw [player?_setPlayer (seat_lt_of_player? hp)] at hq
  by_cases hid : id = other
  · rw [if_pos hid, Option.some.injEq] at hq
    subst hq hid
    exact h p hp zone hz (hrows zone hz card hc)
  · rw [if_neg hid] at hq
    exact h q hq zone hz hc

end GameState

/-! ### Calm and quiet changes -/

structure Calm (H : Hooks) (s s' : GameState) : Prop where
  changes : Changes H s s'
  stamina : s'.stamina ≤ s.stamina

structure Quiet (H : Hooks) (s s' : GameState) : Prop extends Calm H s s' where
  unspent : ∀ id card, s.Unspent id card → s'.Unspent id card

section

variable {H : Hooks} {s s' s'' : GameState}

theorem Kept.looseScale (h : Kept s s') : s'.looseScale = s.looseScale := by
  have hreturns : s'.returns = s.returns := by
    funext card
    have hany : ∀ t : GameState, t.returns card =
        ((t.card? card).map (·.definition)).any fun d => !d.onTrash.isEmpty := fun t => by
      unfold GameState.returns
      cases t.card? card <;> rfl
    rw [hany, hany, h.definitions]
  simp only [GameState.looseScale, hreturns]

/-- One scale measures the whole turn. -/
theorem Change.stamina_eq (h : Change H s s') : s'.stamina = s'.weigh s.looseScale := by
  rw [GameState.stamina, h.kept.looseScale]

theorem Calm.refl (s : GameState) : Calm H s s := ⟨.refl, Nat.le_refl _⟩

theorem Calm.trans (h : Calm H s s') (h' : Calm H s' s'') : Calm H s s'' :=
  ⟨h.changes.trans h'.changes, Nat.le_trans h'.stamina h.stamina⟩

theorem Quiet.refl (s : GameState) : Quiet H s s := ⟨Calm.refl s, fun _ _ h => h⟩

theorem Quiet.trans (h : Quiet H s s') (h' : Quiet H s' s'') : Quiet H s s'' :=
  ⟨h.toCalm.trans h'.toCalm, fun id card hu => h'.unspent id card (h.unspent id card hu)⟩

/-- What moves nothing is quiet. -/
theorem Still.quiet (h : Still s s') (hc : Change H s s') : Quiet H s s' := by
  refine ⟨⟨Changes.single hc, ?_⟩, ?_⟩
  · rw [hc.stamina_eq, h.weigh]
    exact Nat.le_refl _
  · intro id card hu p hp zone hz
    obtain ⟨q, hq, heq⟩ := h.symm.player? hp
    rw [← heq]
    exact hu q hq zone hz

/-- Drawing and looking only concern the zones from which cards come to be played. -/
theorem quiet_of_even {id : PlayerId} {p : Player} {t : Tableau} (hc : Change H s s')
    (hp : s.player? id = some p)
    (hs' : ∃ rng events logger,
      s' = { s.setPlayer id { p with toTableau := t } with rng, events, logger })
    (ht : ∃ hand deck discard, t = { p.toTableau with zones :=
      { p.zones with hand, deck, discard } })
    (hw : t.zones.weigh s.looseScale.zone = p.zones.weigh s.looseScale.zone) : Quiet H s s' := by
  have hset := GameState.weigh_setPlayer s.looseScale hp { p with toTableau := t }
  refine ⟨⟨Changes.single hc, ?_⟩, ?_⟩
  · rw [hc.stamina_eq]
    obtain ⟨rng, events, logger, rfl⟩ := hs'
    change (s.setPlayer id { p with toTableau := t }).weigh s.looseScale ≤ s.weigh s.looseScale
    simp only at hset
    omega
  · intro other card hu
    obtain ⟨rng, events, logger, rfl⟩ := hs'
    refine GameState.Unspent.setPlayer hp { p with toTableau := t } ?_ hu
    obtain ⟨hand, deck, discard, rfl⟩ := ht
    intro zone hz c hc'
    cases zone <;> first | exact hc' | simp [Zone.Loose] at hz

theorem quiet_draw {id : PlayerId} {p : Player} (hp : s.player? id = some p) :
    Quiet H s (s.drawOne id p).2 :=
  quiet_of_even (.draw s id p hp) hp (GameState.drawOne_eq s id p)
    (Tableau.draw_eq p.toTableau s.rng)
    (Tableau.weigh_draw s.looseScale_even p.toTableau s.rng)

theorem quiet_peek {id : PlayerId} {n : Nat} {cards : List CardId}
    (h : s.topCards id n = .ok (cards, s')) : Quiet H s s' := by
  obtain ⟨p, rng, events, logger, hp, -, heq⟩ := GameState.topCards_eq h
  obtain ⟨deck, discard, hprepare⟩ := Tableau.prepare_eq p.toTableau n s.rng
  refine quiet_of_even (.peek s s' id n cards h) hp ⟨rng, events, logger, heq⟩
    ⟨p.zones.hand, deck, discard, hprepare⟩
    (Tableau.weigh_topCards s.looseScale_even p.toTableau n s.rng)

/-- An assertion that goes on holding after whatever is quiet is steady. -/
theorem steady_of_quiet {M : Type} {P : Game M → Prop} (hs : s.Sound) (ha : H.Allow s)
    (hchanges : ∀ g, P g → Changes H s g.state)
    (hquiet : ∀ g s', P g → Quiet H g.state s' → P ⟨s', g.memory⟩) : Steady H s P where
  sound := hs
  allow := ha
  changes := hchanges
  still := fun g s' h hc hstill => hquiet g s' h (hstill.quiet hc)
  draw := fun g _ _ h hp => hquiet g _ h (quiet_draw hp)
  peek := fun g _ _ _ s' h ht => hquiet g s' h (quiet_peek ht)

/-! ### Single moves -/

section

variable {id : PlayerId} {p : Player} {card : CardId}

/-- Taking a card out leaves the other cards where they are. -/
theorem mem_row_of_remove? {z z' : PlayerZones} (hm : z.MatsSorted) {zone : Zone}
    (h : z.remove? card = some (zone, z')) {other : Zone} {c : CardId} (hc : c ∈ z'.row other) :
    c ∈ z.row other := by
  obtain ⟨hloc, rfl⟩ := PlayerZones.remove?_eq_some_iff.mp h
  obtain ⟨hz, -⟩ := PlayerZones.mem_row_of_locate hm hloc
  by_cases heq : zone = other
  · subst heq
    rw [PlayerZones.row_update_self hm hz] at hc
    exact List.mem_of_mem_erase hc
  · rwa [PlayerZones.row_update_of_ne z _ heq] at hc

theorem loose_holds {zone : Zone} (h : zone.Loose = true) : PlayerZones.holds zone = true := by
  cases zone <;> first | rfl | simp [Zone.Loose] at h

theorem loose_destination (destination : GainDestination) : destination.zone.Loose = true := by
  cases destination <;> rfl

/-- A change of a loose row leaves the others as they are. -/
theorem mem_row_of_loose {z : PlayerZones} {target zone : Zone} {f : CardRow → CardRow}
    (ht : target.Loose = true) (hz : zone.Loose = false) {c : CardId}
    (hc : c ∈ (z.update target f).row zone) : c ∈ z.row zone := by
  have hne : target ≠ zone := by
    rintro rfl
    rw [ht] at hz
    simp at hz
  rwa [PlayerZones.row_update_of_ne _ _ hne] at hc

theorem stamina_setPlayer {p' : Player} (hc : Change H s (s.setPlayer id p'))
    (hp : s.player? id = some p) :
    (s.setPlayer id p').stamina + p.zones.weigh s.looseScale.zone =
      s.stamina + p'.zones.weigh s.looseScale.zone := by
  rw [hc.stamina_eq, GameState.stamina]
  exact GameState.weigh_setPlayer s.looseScale hp p'

/-- A card of the player is laid down elsewhere: only what it weighs there and here matters. -/
theorem stamina_lay {p' : Player} (hs : s.Sound) (hc : Change H s (s.setPlayer id p'))
    (hp : s.player? id = some p) {zone : Zone} {zones : PlayerZones}
    (hremove : p.zones.remove? card = some (zone, zones)) (target : Zone)
    (ht : PlayerZones.holds target)
    (hz : p'.zones = zones.update target (·.insert card .top)) :
    (s.setPlayer id p').stamina + (if zone.Loose then 1 else 0) =
      s.stamina + (if target.Loose then 1 else 0) := by
  have hm := hs.mats p (GameState.player?_mem hp)
  have hset := stamina_setPlayer hc hp
  have htake := PlayerZones.weigh_remove? s.looseScale.zone hm hremove
  have hput := PlayerZones.weigh_put s.looseScale.zone (hm.remove? hremove) ht card .top
  have hweight : ∀ z, s.looseScale.zone z card = if z.Loose then 1 else 0 := fun _ => rfl
  rw [hz] at hset
  rw [hweight] at htake hput
  omega

/-- A card that is played is spent, and counts no more if it counted before. -/
theorem calm_play (hs : s.Sound) (hp : s.player? id = some p) {zone : Zone} {tableau : Tableau}
    (d : CardDefinition) (hremove : p.toTableau.remove? card = some (zone, tableau)) :
    Calm H s (s.setPlayer id { p with toTableau := Engine.afterPlay d card tableau }) ∧
      (s.setPlayer id { p with toTableau := Engine.afterPlay d card tableau }).stamina +
        (if zone.Loose then 1 else 0) = s.stamina := by
  obtain ⟨zones, hzones, rfl⟩ := Tableau.remove?_eq_some hremove
  have hz := Engine.afterPlay_zones d card { p.toTableau with zones }
  have hfields : ∀ t : Tableau, (Engine.afterPlay d card t).id = t.id ∧
      (Engine.afterPlay d card t).turns = t.turns := by
    intro t
    unfold Engine.afterPlay
    by_cases ht : d.isTreasure = true <;> simp only [ht] <;> exact ⟨rfl, rfl⟩
  have hc : Change H s (s.setPlayer id
      { p with toTableau := Engine.afterPlay d card { p.toTableau with zones } }) := by
    refine .arrange s id p _ hp (hfields _).1 (hfields _).2 ?_
      fun hallow => ⟨hallow.gain, hallow.play⟩
    intro hm
    rw [Tableau.allCards, Tableau.allCards, hz]
    exact ⟨(hm.remove? hzones).update .inPlay _,
      PlayerZones.perm_put_remove? hm hzones rfl .top⟩
  have hstamina := stamina_lay hs hc hp hzones .inPlay rfl hz
  have hspent : (if Zone.inPlay.Loose = true then 1 else 0) = 0 := rfl
  rw [hspent] at hstamina
  exact ⟨⟨Changes.single hc, Nat.le.intro hstamina⟩, hstamina⟩

theorem quiet_discard (hs : s.Sound) (hp : s.player? id = some p) (hu : s.Unspent id card)
    {zone : Zone} {tableau : Tableau}
    (hremove : p.toTableau.remove? card = some (zone, tableau)) :
    Quiet H s (s.setPlayer id { p with toTableau := tableau.put card .discard .top }) := by
  have hm := hs.mats p (GameState.player?_mem hp)
  obtain ⟨zones, hzones, rfl⟩ := Tableau.remove?_eq_some hremove
  have hc : Change H s (s.setPlayer id { p with
      toTableau := Tableau.put { p.toTableau with zones } card .discard .top }) := by
    refine .arrange s id p _ hp ?_ ?_ ?_ fun hallow => ⟨hallow.gain, hallow.play⟩
    · rfl
    · rfl
    · intro hm
      exact ⟨(hm.remove? hzones).update .discard _,
        PlayerZones.perm_put_remove? hm hzones rfl .top⟩
  have hstamina := stamina_lay hs hc hp hzones .discard rfl rfl
  have hloose : zone.Loose = true := by
    obtain ⟨hloc, -⟩ := PlayerZones.remove?_eq_some_iff.mp hzones
    exact hu.loose hp (PlayerZones.mem_row_of_locate hm hloc).2
  rw [hloose] at hstamina
  refine ⟨⟨Changes.single hc, Nat.le_of_eq (Nat.add_right_cancel hstamina)⟩, fun other c hc' => ?_⟩
  refine GameState.Unspent.setPlayer hp _ ?_ hc'
  intro other hother c hc
  exact mem_row_of_remove? hm hzones (mem_row_of_loose rfl hother hc)

/-- A card goes to the trash from where it could be played, or for good. -/
theorem quiet_trash (hs : s.Sound) (hp : s.player? id = some p)
    (hu : s.Unspent id card ∨ s.returns card = false) {zone : Zone} {tableau : Tableau}
    {name : String} (hremove : p.toTableau.remove? card = some (zone, tableau)) :
    Quiet H s (({ s.setPlayer id { p with toTableau := tableau } with
      trash := s.trash ++ [card] } : GameState).publish id (.trashCard card name)) := by
  have hm := hs.mats p (GameState.player?_mem hp)
  have hc := Change.trash (H := H) s id p card zone tableau name hp hremove
  have hw := GameState.weigh_trashed s.looseScale hp hm hremove
  obtain ⟨zones, hzones, rfl⟩ := Tableau.remove?_eq_some hremove
  have hle : s.looseScale.trash card ≤ s.looseScale.zone zone card := by
    have htrash : s.looseScale.trash card = if s.returns card then 1 else 0 := rfl
    have hzone : s.looseScale.zone zone card = if zone.Loose then 1 else 0 := rfl
    rw [htrash, hzone]
    rcases hu with hu | hu
    · obtain ⟨hloc, -⟩ := PlayerZones.remove?_eq_some_iff.mp hzones
      rw [hu.loose hp (PlayerZones.mem_row_of_locate hm hloc).2]
      split <;> simp
    · simp [hu]
  refine ⟨⟨Changes.single hc, ?_⟩, ?_⟩
  · rw [hc.stamina_eq, GameState.stamina]
    have hsame : (({ s.setPlayer id { p with zones } with
      trash := s.trash ++ [card] } : GameState).publish id (.trashCard card name)).weigh
        s.looseScale = ({ s.setPlayer id { p with zones } with
      trash := s.trash ++ [card] } : GameState).weigh s.looseScale := rfl
    rw [hsame]
    omega
  · intro other c hc'
    exact GameState.Unspent.setPlayer hp { p with zones }
      (fun _ _ _ hc => mem_row_of_remove? hm hzones hc) hc'

/-- A card that has a way back comes back from the trash. -/
theorem quiet_recover (hs : s.Sound) (hp : s.player? id = some p) (hreturns : s.returns card = true)
    (hcard : card ∈ s.trash) (name : String) :
    Quiet H s (({ s.setPlayer id (p.onTableau (·.put card .hand .top)) with
      trash := s.trash.erase card } : GameState).publish id (.moveCard card name .trash .hand)) := by
  have hm := hs.mats p (GameState.player?_mem hp)
  have hc := Change.recover (H := H) s id p card name hp hcard
  have hw := GameState.weigh_recovered s.looseScale .top hp hm hcard
    (show PlayerZones.holds .hand = true from rfl)
  have htrash : s.looseScale.trash card = 1 := by simp [GameState.looseScale, hreturns]
  have hzone : s.looseScale.zone .hand card = 1 := rfl
  refine ⟨⟨Changes.single hc, ?_⟩, ?_⟩
  · rw [hc.stamina_eq, GameState.stamina]
    change GameState.weigh s.looseScale
      { s.setPlayer id (p.onTableau (·.put card .hand .top)) with
        trash := s.trash.erase card } ≤ _
    omega
  · intro other c hc'
    refine GameState.Unspent.setPlayer hp (p.onTableau (·.put card .hand .top)) ?_ hc'
    intro zone hz c hc
    exact mem_row_of_loose rfl hz hc

/-- A card comes from a pile to where it may be played: that takes one from two. -/
theorem stamina_gained (hm : p.zones.MatsSorted) (hp : s.player? id = some p) {pile : String}
    {q : Pile} (hpile : s.supply.pile? pile = some q) (htop : q.top? = some card) (bought : Bool)
    (destination : GainDestination) :
    (s.gained pile id p card bought destination).stamina + 1 = s.stamina := by
  have hloose := loose_destination destination
  have hc : Change Hooks.any s (s.gained pile id p card bought destination) :=
    .gain s pile q card id p bought destination hpile htop hp
  have hw := GameState.weigh_gained s.looseScale destination.position hpile htop hp hm
    (loose_holds hloose)
  have htwo : s.looseScale.pile card = 2 := rfl
  have hone : s.looseScale.zone destination.zone card = 1 := by
    simp [GameState.looseScale, hloose]
  rw [hc.stamina_eq, GameState.stamina]
  change GameState.weigh s.looseScale (GameState.setPlayer { s with
    supply := s.supply.updatePile pile Pile.pop } id _) + 1 = _
  omega

theorem quiet_gain (hs : s.Sound) (hp : s.player? id = some p) {pile : String} {q : Pile}
    (hpile : s.supply.pile? pile = some q) (htop : q.top? = some card) (bought : Bool)
    (destination : GainDestination) :
    Quiet H s (s.gained pile id p card bought destination) := by
  have hstamina := stamina_gained (hs.mats p (GameState.player?_mem hp)) hp hpile htop bought
    destination
  have hc : Change H s (s.gained pile id p card bought destination) :=
    .gain s pile q card id p bought destination hpile htop hp
  refine ⟨⟨Changes.single hc, by omega⟩, ?_⟩
  intro other c hu
  exact GameState.Unspent.setPlayer (s := { s with
    supply := s.supply.updatePile pile Pile.pop }) hp _
    (fun _ hz _ hc => mem_row_of_loose (loose_destination destination) hz hc) hu

theorem unspent_gained (hs : s.Sound) (hp : s.player? id = some p) {pile : String} {q : Pile}
    (hpile : s.supply.pile? pile = some q) (htop : q.top? = some card) (bought : Bool)
    (destination : GainDestination) :
    (s.gained pile id p card bought destination).Unspent id card := by
  have hloose := loose_destination destination
  have hc : Change Hooks.any s (s.gained pile id p card bought destination) :=
    .gain s pile q card id p bought destination hpile htop hp
  have hplayer : (s.gained pile id p card bought destination).player? id = some
      (p.onTableau (·.put card destination.zone destination.position)) :=
    GameState.player?_setPlayer_self
      (s := { s with supply := s.supply.updatePile pile Pile.pop }) _ hp
  refine (hc.sound hs).unspent_of_mem hplayer hloose ?_
  change card ∈ (p.zones.update destination.zone
    (·.insert card destination.position)).row destination.zone
  rw [PlayerZones.row_update_self (hs.mats p (GameState.player?_mem hp)) (loose_holds hloose)]
  cases destination <;> simp [GainDestination.position, CardRow.insert]

/-- A card moved within a player's zones weighs what it weighs where it goes. -/
theorem stamina_move (hs : s.Sound) (hp : s.player? id = some p) {source target : Zone}
    (position : Position) (hloc : p.zones.locate card = some source)
    (ht : PlayerZones.holds target) :
    Changes H s (s.setPlayer id
        { p with toTableau := (p.toTableau.transfer card source target position).2 }) ∧
      (s.setPlayer id { p with
        toTableau := (p.toTableau.transfer card source target position).2 }).stamina +
          (if source.Loose then 1 else 0) = s.stamina + (if target.Loose then 1 else 0) := by
  have hm := hs.mats p (GameState.player?_mem hp)
  obtain ⟨hz, hrow⟩ := PlayerZones.mem_row_of_locate hm hloc
  have hc : Change H s (s.setPlayer id
      { p with toTableau := (p.toTableau.transfer card source target position).2 }) := by
    refine .arrange s id p _ hp ?_ ?_ ?_ fun hallow => ⟨hallow.gain, hallow.play⟩
    · rfl
    · rfl
    · intro hm
      refine ⟨hm.transfer card source target position, ?_⟩
      rw [List.perm_iff_count]
      exact PlayerZones.count_transfer hm card hz target position
  have hmoved := (PlayerZones.transfer_of_mem hm hz hrow ht position).1
  have hset := stamina_setPlayer hc hp
  have hw := PlayerZones.weigh_transfer s.looseScale.zone hm card hz target position
  have hweight : ∀ z, s.looseScale.zone z card = if z.Loose then 1 else 0 := fun _ => rfl
  rw [hmoved, if_pos rfl, if_pos rfl, hweight, hweight] at hw
  refine ⟨Changes.single hc, ?_⟩
  have hzones : ({ p with toTableau :=
      (p.toTableau.transfer card source target position).2 } : Player).zones =
        (p.zones.transfer card source target position).2 := rfl
  rw [hzones] at hset
  omega

/-- A card that may still be played is moved to where it may. -/
theorem quiet_move (hs : s.Sound) (hp : s.player? id = some p) (hu : s.Unspent id card)
    {source target : Zone} (position : Position) (hloc : p.zones.locate card = some source)
    (ht : target.Loose = true) :
    Quiet H s (s.setPlayer id
      { p with toTableau := (p.toTableau.transfer card source target position).2 }) := by
  have hm := hs.mats p (GameState.player?_mem hp)
  obtain ⟨hz, hrow⟩ := PlayerZones.mem_row_of_locate hm hloc
  obtain ⟨hchanges, hstamina⟩ := stamina_move hs hp position hloc (loose_holds ht)
  rw [hu.loose hp hrow, ht] at hstamina
  refine ⟨⟨hchanges, Nat.le_of_eq (Nat.add_right_cancel hstamina)⟩, fun other c hc => ?_⟩
  refine GameState.Unspent.setPlayer hp _ ?_ hc
  intro zone hzone c hc
  refine (PlayerZones.transfer_of_mem hm hz hrow (loose_holds ht) position).2 zone ?_ c hc
  rintro rfl
  simp [ht] at hzone

/-- A card is moved to where it cannot be played from. -/
theorem calm_move (hs : s.Sound) (hp : s.player? id = some p) {source target : Zone}
    (position : Position) (hloc : p.zones.locate card = some source)
    (hholds : PlayerZones.holds target) (ht : target.Loose = false) :
    Calm H s (s.setPlayer id
      { p with toTableau := (p.toTableau.transfer card source target position).2 }) := by
  obtain ⟨hchanges, hstamina⟩ := stamina_move hs hp position hloc hholds
  rw [ht] at hstamina
  exact ⟨hchanges, Nat.le.intro hstamina⟩

end

end

end DeckBuilder
