import DeckBuilder.Proofs.Weight
import DeckBuilder.State

/-!
Where all cards of a game are: in the piles of the supply, in the trash, and with the players. A
scale gives every card a weight by where it is, and each change of a state changes the total by what
it takes away and what it adds. A state is sound if every card of the store is in exactly one place
and nothing else is anywhere, and if the seats and mats are in order.
-/
namespace DeckBuilder

/-- What a card weighs in a pile, in the trash, and in each zone of a player. -/
structure Scale where
  pile : CardId → Nat
  trash : CardId → Nat
  zone : Zone → CardId → Nat

/-- The scale on which one card weighs one wherever it is, and every other card nothing. -/
def Scale.only (card : CardId) : Scale where
  pile c := if c = card then 1 else 0
  trash c := if c = card then 1 else 0
  zone _ c := if c = card then 1 else 0

theorem sum_map_set {α : Type} (f : α → Nat) {xs : List α} {i : Nat} {x : α}
    (h : xs[i]? = some x) (y : α) :
    ((xs.set i y).map f).sum + f x = (xs.map f).sum + f y := by
  induction xs generalizing i with
  | nil => simp at h
  | cons a xs ih =>
    cases i with
    | zero =>
      simp only [List.getElem?_cons_zero, Option.some.injEq] at h
      subst h
      simp only [List.set_cons_zero, List.map_cons, List.sum_cons]
      omega
    | succ i =>
      have hi := ih (i := i) (by simpa using h)
      simp only [List.set_cons_succ, List.map_cons, List.sum_cons]
      omega

theorem sum_modify_succ {xs : List Nat} {i : Nat} (hi : i < xs.length) :
    (xs.modify i (· + 1)).sum = xs.sum + 1 := by
  have hget : xs[i]? = some xs[i] := List.getElem?_eq_getElem hi
  have hset := sum_map_set id hget (xs[i] + 1)
  rw [List.modify_eq_set_getElem?, hget]
  simp only [List.map_id, id_eq] at hset
  change (xs.set i (xs[i] + 1)).sum = xs.sum + 1
  omega

theorem sum_map_modify_findIdx {α : Type} (f : α → Nat) (q : α → Bool) (change : α → α)
    {xs : List α} {x : α} (h : xs.find? q = some x) :
    ((xs.modify (xs.findIdx q) change).map f).sum + f x = (xs.map f).sum + f (change x) := by
  induction xs with
  | nil => simp at h
  | cons a xs ih =>
    by_cases ha : q a
    · obtain rfl : a = x := by simpa [ha] using h
      simp only [List.findIdx_cons, ha, cond_true, List.modify_zero_cons, List.map_cons,
        List.sum_cons]
      omega
    · have hrest := ih (by simpa [ha] using h)
      simp only [List.findIdx_cons, ha, cond_false, List.modify_succ_cons, List.map_cons,
        List.sum_cons]
      omega

namespace GameState

def weigh (w : Scale) (s : GameState) : Nat :=
  (s.supply.piles.map fun p => CardRow.weigh w.pile p.cards).sum + CardRow.weigh w.trash s.trash +
    (s.players.map fun p => p.zones.weigh w.zone).sum

/-- Every place at which a card lies, pile by pile, in the trash, and player by player. -/
def whereabouts (s : GameState) : List CardId :=
  s.supply.piles.flatMap Pile.cards ++ s.trash ++ s.players.flatMap fun p => p.allCards

theorem count_whereabouts (s : GameState) (card : CardId) :
    s.whereabouts.count card = s.weigh (Scale.only card) := by
  simp only [whereabouts, List.count_append, List.count_flatMap, weigh, Scale.only,
    CardRow.weigh_indicator, PlayerZones.weigh_indicator, Function.comp_def, Tableau.allCards]

/-! ### What the total becomes -/

theorem weigh_setPlayer (w : Scale) {s : GameState} {id : PlayerId} {p : Player}
    (h : s.player? id = some p) (p' : Player) :
    (s.setPlayer id p').weigh w + p.zones.weigh w.zone = s.weigh w + p'.zones.weigh w.zone := by
  have hset := sum_map_set (fun q : Player => q.zones.weigh w.zone) h p'
  simp only [weigh, setPlayer]
  omega

theorem weigh_pop (w : Scale) {s : GameState} {pile : String} {p : Pile} {card : CardId}
    (hp : s.supply.pile? pile = some p) (ht : p.top? = some card) :
    ({ s with supply := s.supply.updatePile pile Pile.pop } : GameState).weigh w + w.pile card =
      s.weigh w := by
  have hsum := sum_map_modify_findIdx (fun q : Pile => CardRow.weigh w.pile q.cards)
    (·.name == pile) Pile.pop hp
  have htop := CardRow.weigh_dropLast w.pile ht
  simp only [weigh, Supply.updatePile, Pile.pop] at hsum ⊢
  omega

theorem weigh_withTrash (w : Scale) (s : GameState) (trash : List CardId) :
    ({ s with trash } : GameState).weigh w + CardRow.weigh w.trash s.trash =
      s.weigh w + CardRow.weigh w.trash trash := by
  simp only [weigh]
  omega

theorem weigh_gained (w : Scale) {s : GameState} {pile : String} {p : Pile} {card : CardId}
    {id : PlayerId} {owner : Player} {zone : Zone} (position : Position)
    (hpile : s.supply.pile? pile = some p) (htop : p.top? = some card)
    (howner : s.player? id = some owner) (hm : owner.zones.MatsSorted)
    (hz : PlayerZones.holds zone) :
    (({ s with supply := s.supply.updatePile pile Pile.pop } : GameState).setPlayer id
        (owner.onTableau (·.put card zone position))).weigh w + w.pile card =
      s.weigh w + w.zone zone card := by
  have hpop := weigh_pop w hpile htop
  have hset := weigh_setPlayer w (s := { s with supply := s.supply.updatePile pile Pile.pop })
    howner (owner.onTableau (·.put card zone position))
  have hput := PlayerZones.weigh_put w.zone hm hz card position
  simp only [Player.onTableau, Tableau.put] at hpop hset hput ⊢
  omega

theorem weigh_trashed (w : Scale) {s : GameState} {id : PlayerId} {p : Player} {card : CardId}
    {zone : Zone} {tableau : Tableau} (hp : s.player? id = some p) (hm : p.zones.MatsSorted)
    (hremove : p.toTableau.remove? card = some (zone, tableau)) :
    ({ s.setPlayer id { p with toTableau := tableau } with
        trash := s.trash ++ [card] } : GameState).weigh w + w.zone zone card =
      s.weigh w + w.trash card := by
  obtain ⟨zones, hzones, rfl⟩ := Tableau.remove?_eq_some hremove
  have hset := weigh_setPlayer w hp { p with zones }
  have htake := PlayerZones.weigh_remove? w.zone hm hzones
  have htrash := weigh_withTrash w (s.setPlayer id { p with zones }) (s.trash ++ [card])
  have hsame : (s.setPlayer id { p with zones }).trash = s.trash := rfl
  have hone : CardRow.weigh w.trash [card] = w.trash card := by simp [CardRow.weigh]
  rw [CardRow.weigh_append, hsame] at htrash
  simp only at hset htake htrash ⊢
  omega

theorem weigh_recovered (w : Scale) {s : GameState} {id : PlayerId} {p : Player} {card : CardId}
    {zone : Zone} (position : Position) (hp : s.player? id = some p) (hm : p.zones.MatsSorted)
    (hcard : card ∈ s.trash) (hz : PlayerZones.holds zone) :
    ({ s.setPlayer id (p.onTableau (·.put card zone position)) with
        trash := s.trash.erase card } : GameState).weigh w + w.trash card =
      s.weigh w + w.zone zone card := by
  have hset := weigh_setPlayer w hp (p.onTableau (·.put card zone position))
  have hput := PlayerZones.weigh_put w.zone hm hz card position
  have herase := CardRow.weigh_erase w.trash hcard
  have htrash := weigh_withTrash w (s.setPlayer id (p.onTableau (·.put card zone position)))
    (s.trash.erase card)
  have hsame : (s.setPlayer id (p.onTableau (·.put card zone position))).trash = s.trash := rfl
  rw [hsame] at htrash
  simp only [Player.onTableau, Tableau.put] at hset hput htrash ⊢
  omega

/-! ### Sound states -/

structure Sound (s : GameState) : Prop where
  seats : ∀ id p, s.player? id = some p → p.id = id
  active : s.active < s.players.length
  mats : ∀ p ∈ s.players, p.zones.MatsSorted
  /-- Each card of the store lies in exactly one place, and nothing else lies anywhere. -/
  census : ∀ card, s.whereabouts.count card = if s.cards.contains card then 1 else 0

theorem player?_mem {s : GameState} {id : PlayerId} {p : Player} (h : s.player? id = some p) :
    p ∈ s.players :=
  List.mem_of_getElem? h

theorem player?_of_lt {s : GameState} {id : PlayerId} (h : id.seat < s.players.length) :
    ∃ p, s.player? id = some p :=
  ⟨_, List.getElem?_eq_getElem h⟩

theorem seat_lt_of_player? {s : GameState} {id : PlayerId} {p : Player}
    (h : s.player? id = some p) : id.seat < s.players.length :=
  (List.getElem?_eq_some_iff.mp h).1

theorem player?_setPlayer {s : GameState} {id other : PlayerId} {p : Player}
    (h : id.seat < s.players.length) :
    (s.setPlayer id p).player? other = if id = other then some p else s.player? other := by
  obtain ⟨i⟩ := id
  obtain ⟨j⟩ := other
  simp only [player?, setPlayer, List.getElem?_set, PlayerId.mk.injEq]
  by_cases hij : i = j
  · subst hij
    simp [h]
  · simp [hij]

theorem player?_setPlayer_self {s : GameState} {id : PlayerId} {p : Player} (q : Player)
    (hp : s.player? id = some p) : (s.setPlayer id q).player? id = some q := by
  rw [player?_setPlayer (seat_lt_of_player? hp), if_pos rfl]

theorem player?_setPlayer_of_ne {s : GameState} {id other : PlayerId} (h : other ≠ id) (p : Player) :
    (s.setPlayer id p).player? other = s.player? other :=
  List.getElem?_set_ne fun hseat => h (congrArg PlayerId.mk hseat.symm)

@[simp] theorem length_players_setPlayer (s : GameState) (id : PlayerId) (p : Player) :
    (s.setPlayer id p).players.length = s.players.length :=
  List.length_set

/-- A card that a player has is a card of the store. -/
theorem Sound.contains_of_mem {s : GameState} (h : s.Sound) {card : CardId}
    (hc : card ∈ s.whereabouts) : s.cards.contains card = true := by
  have hcount := h.census card
  have hpos := List.count_pos_iff.mpr hc
  by_contra hnot
  rw [if_neg hnot] at hcount
  omega

theorem mem_whereabouts_of_player {s : GameState} {id : PlayerId} {p : Player}
    (h : s.player? id = some p) {card : CardId} (hc : card ∈ p.allCards) : card ∈ s.whereabouts := by
  simp only [whereabouts, List.mem_append, List.mem_flatMap]
  exact Or.inr ⟨p, player?_mem h, hc⟩

theorem contains_iff_card? {s : GameState} {card : CardId} :
    s.cards.contains card = true ↔ ∃ c, s.card? card = some c := by
  simp [Store.contains, card?, Store.get?, ← Std.TreeMap.isSome_getElem?_eq_contains,
    Option.isSome_iff_exists]

/-- What makes a state sound has to do with the seats, the cards and where they are alone. A change
of one player that leaves every card in one place keeps a state sound. -/
theorem Sound.replace {s s' : GameState} (h : s.Sound) {id : PlayerId} {p : Player}
    (hp : s.player? id = some p) (p' : Player) (hid : p'.id = p.id) (hs : p'.zones.MatsSorted)
    (hplayers : s'.players = (s.setPlayer id p').players) (hactive : s'.active = s.active)
    (hcards : s'.cards = s.cards)
    (hw : ∀ card, s'.weigh (Scale.only card) = s.weigh (Scale.only card)) : s'.Sound where
  seats := by
    intro other q hq
    have hset : s'.player? other = (s.setPlayer id p').player? other := by
      simp only [player?, hplayers]
    rw [hset, player?_setPlayer (seat_lt_of_player? hp)] at hq
    by_cases hi : id = other
    · rw [if_pos hi, Option.some.injEq] at hq
      rw [← hq, hid, ← hi]
      exact h.seats id p hp
    · rw [if_neg hi] at hq
      exact h.seats other q hq
  active := by
    rw [hplayers, hactive, length_players_setPlayer]
    exact h.active
  mats := by
    intro q hq
    rw [hplayers] at hq
    rcases List.mem_or_eq_of_mem_set hq with hq | rfl
    · exact h.mats q hq
    · exact hs
  census := by
    intro card
    rw [count_whereabouts, hw, ← count_whereabouts, hcards]
    exact h.census card

/-- A change of one player that neither adds nor takes cards keeps a state sound. -/
theorem Sound.setPlayer {s : GameState} (h : s.Sound) {id : PlayerId} {p : Player}
    (hp : s.player? id = some p) (p' : Player) (hid : p'.id = p.id) (hs : p'.zones.MatsSorted)
    (hc : p'.allCards.Perm p.allCards) : (s.setPlayer id p').Sound := by
  refine h.replace hp p' hid hs rfl rfl rfl ?_
  intro card
  have hw := weigh_setPlayer (Scale.only card) hp p'
  have hcount := hc.count_eq card
  simp only [Tableau.allCards, ← PlayerZones.weigh_indicator] at hcount
  simp only [Scale.only] at hw ⊢
  omega

/-- What lies elsewhere does not matter. -/
theorem Sound.congr {s s' : GameState} (h : s.Sound) (hplayers : s'.players = s.players)
    (hactive : s'.active = s.active) (hsupply : s'.supply = s.supply) (htrash : s'.trash = s.trash)
    (hcards : ∀ card, s'.cards.contains card = s.cards.contains card) : s'.Sound where
  seats := by
    intro id p hp
    exact h.seats id p (by simpa only [player?, hplayers] using hp)
  active := by
    rw [hactive, hplayers]
    exact h.active
  mats := by
    rw [hplayers]
    exact h.mats
  census := by
    intro card
    rw [hcards, ← h.census card]
    simp only [whereabouts, hsupply, htrash, hplayers]

end GameState

end DeckBuilder
