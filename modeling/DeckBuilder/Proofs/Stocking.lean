import DeckBuilder.Proofs.Opening
import Mathlib.Data.List.Forall2

/-!
What lies where when a game is set up. The cards are made one after the other, so the store is told by
the list of their definitions, and what is made later does not touch what was there. So each pile can be
followed from its name in the list of piles to the cards in it, and each player to the seven Coppers and
three Estates of the deck.
-/
namespace DeckBuilder

/-- The store holds a card of each of these definitions in order, numbered from 0, and no other. -/
structure Shelved (ds : List CardDefinition) (cards : Store Card) : Prop where
  fresh : cards.fresh = ds.length
  size : cards.size = ds.length
  get? : ∀ id, cards.get? id = (ds[id.number]?).map fun d => { definition := d }

/-- Each of the cards is of the definition. -/
def AllOf (ds : List CardDefinition) (d : CardDefinition) (ids : List CardId) : Prop :=
  ∀ id ∈ ids, ds[id.number]? = some d

variable {r : Registry} {ds ds' : List CardDefinition} {d : CardDefinition} {name : String}
  {cards : Store Card}

theorem AllOf.mono {ids : List CardId} (h : AllOf ds d ids) (hless : ds <+: ds') :
    AllOf ds' d ids := by
  intro id hid
  obtain ⟨more, rfl⟩ := hless
  obtain ⟨hlt, -⟩ := List.getElem?_eq_some_iff.mp (h id hid)
  rw [List.getElem?_append_left hlt]
  exact h id hid

namespace Shelved

theorem nil : Shelved [] {} where
  fresh := rfl
  size := by simp [Store.size]
  get? := by simp [Store.get?]

theorem newCard (h : Shelved ds cards) (hd : r.lookup name = .ok d) :
    ∃ cards', r.newCard name cards = .ok (⟨ds.length⟩, cards') ∧ Shelved (ds ++ [d]) cards' := by
  have hnone : cards.entries.contains cards.fresh = false := by
    have hget := h.get? ⟨cards.fresh⟩
    rw [h.fresh, List.getElem?_eq_none (Nat.le_refl _)] at hget
    rw [Std.TreeMap.contains_eq_isSome_getElem?, h.fresh]
    exact congrArg Option.isSome hget
  refine ⟨(cards.add { definition := d }).2, ?_, ?_, ?_, ?_⟩
  · rw [Registry.newCard, hd, ← h.fresh]
    rfl
  · rw [List.length_append, List.length_singleton, ← h.fresh]
    rfl
  · rw [List.length_append, List.length_singleton, ← h.size]
    change (cards.entries.insert cards.fresh _).size = cards.entries.size + 1
    rw [Std.TreeMap.size_insert, if_neg]
    rw [hnone]
    decide
  · intro id
    have hget : (cards.add { definition := d }).2.get? id =
        if (⟨cards.fresh⟩ : CardId) = id then some { definition := d } else cards.get? id :=
      Store.get?_insert _ _ _ _
    rw [hget, h.fresh, h.get?]
    by_cases hid : (⟨ds.length⟩ : CardId) = id
    · subst hid
      rw [if_pos rfl, List.getElem?_concat_length]
      rfl
    · have hne : id.number ≠ ds.length := fun heq => hid (congrArg CardId.mk heq.symm)
      rw [if_neg hid, List.getElem?_append]
      by_cases hlt : id.number < ds.length
      · rw [if_pos hlt]
      · rw [if_neg hlt, List.getElem?_eq_none (by omega), List.getElem?_eq_none (by simp; omega)]

theorem contains_iff (h : Shelved ds cards) (id : CardId) :
    cards.contains id ↔ id.number < cards.size := by
  have hget : (cards.get? id).isSome = cards.contains id :=
    Std.TreeMap.isSome_getElem?_eq_contains
  rw [← hget, h.get?, h.size, Option.isSome_map]
  simp

end Shelved

namespace Setup

theorem newCards_shelved (h : Shelved ds cards) (hd : r.lookup name = .ok d) (n : Nat) :
    ∃ ids cards', newCards r name n cards = .ok (ids, cards') ∧ ids.length = n ∧
      AllOf (ds ++ List.replicate n d) d ids ∧ Shelved (ds ++ List.replicate n d) cards' := by
  induction n generalizing ds cards with
  | zero => exact ⟨[], cards, rfl, rfl, List.forall_mem_nil _, by simpa using h⟩
  | succ n ih =>
    obtain ⟨cards₁, hone, h₁⟩ := h.newCard hd
    obtain ⟨ids, cards', hrest, hlength, hall, h'⟩ := ih h₁
    have hsplit : ds ++ List.replicate (n + 1) d = ds ++ [d] ++ List.replicate n d := by
      rw [List.replicate_succ, List.append_assoc, List.singleton_append]
    have hfirst : (ds ++ [d] ++ List.replicate n d)[ds.length]? = some d := by
      rw [List.append_assoc, List.getElem?_append_right (Nat.le_refl _), Nat.sub_self]
      rfl
    rw [hsplit]
    refine ⟨⟨ds.length⟩ :: ids, cards', ?_, congrArg (· + 1) hlength,
      List.forall_mem_cons.mpr ⟨hfirst, hall⟩, h'⟩
    rw [newCards, hone]
    change (newCards r name n cards₁ >>= fun found => _) = _
    rw [hrest]
    rfl

/-! ### Piles -/

/-- The piles have these names and sizes, and each of them holds cards of its own definition, which is
the one that its name finds. -/
structure Piled (r : Registry) (ds : List CardDefinition) (sizes : List (String × Nat))
    (piles : List Pile) : Prop where
  sizes : piles.map (fun p => (p.name, p.size)) = sizes
  definitions : ∀ p ∈ piles, r.lookup p.name = .ok p.definition
  cards : ∀ p ∈ piles, AllOf ds p.definition p.cards

theorem Piled.mono {sizes : List (String × Nat)} {piles : List Pile} (h : Piled r ds sizes piles)
    (hless : ds <+: ds') : Piled r ds' sizes piles :=
  ⟨h.sizes, h.definitions, fun p hp => (h.cards p hp).mono hless⟩

theorem Piled.names {sizes : List (String × Nat)} {piles : List Pile} (h : Piled r ds sizes piles) :
    piles.map Pile.name = sizes.map (·.1) := by
  rw [← h.sizes, List.map_map]
  rfl

/-- Piles that were made of cards have these cards' definitions. -/
theorem Piled.definitions_eq {kingdom : List CardDefinition} {size : CardDefinition → Nat}
    {piles : List Pile} (h : Piled r ds (kingdom.map fun d => (d.name, size d)) piles)
    (hkingdom : ∀ d ∈ kingdom, r.lookup d.name = .ok d) : piles.map Pile.definition = kingdom := by
  have hnames : piles.map Pile.name = kingdom.map (·.name) := by
    rw [h.names, List.map_map]
    rfl
  have hfound : (piles.map Pile.definition).map Except.ok = (piles.map Pile.name).map r.lookup := by
    rw [List.map_map, List.map_map]
    exact List.map_congr_left fun p hp => (h.definitions p hp).symm
  have hfound' : kingdom.map Except.ok = (kingdom.map (·.name)).map r.lookup := by
    rw [List.map_map]
    exact List.map_congr_left fun d hd => (hkingdom d hd).symm
  refine List.map_injective_iff.mpr (fun _ _ => Except.ok.inj) (hfound.trans ?_)
  rw [hnames, ← hfound']

theorem Piled.size_eq {kingdom : List CardDefinition} {size : CardDefinition → Nat}
    {piles : List Pile} (h : Piled r ds (kingdom.map fun d => (d.name, size d)) piles)
    (hkingdom : ∀ d ∈ kingdom, r.lookup d.name = .ok d) {p : Pile} (hp : p ∈ piles) :
    p.size = size p.definition := by
  have hsizes := h.sizes
  rw [← h.definitions_eq hkingdom, List.map_map] at hsizes
  exact (Prod.mk.inj (List.map_inj_left.mp hsizes p hp)).2

/-- The names are names of cards just as they are printed. -/
def Printed (r : Registry) (name : String) : Prop := ∃ d, r.lookup name = .ok d ∧ d.name = name

theorem newPiles_piled (h : Shelved ds cards) {sizes : List (String × Nat)}
    (hnames : ∀ x ∈ sizes, Printed r x.1) :
    ∃ piles cards' ds', newPiles r sizes cards = .ok (piles, cards') ∧ ds <+: ds' ∧
      Shelved ds' cards' ∧ Piled r ds' sizes piles := by
  induction sizes generalizing ds cards with
  | nil =>
    exact ⟨[], cards, ds, rfl, List.prefix_refl _, h, rfl, List.forall_mem_nil _,
      List.forall_mem_nil _⟩
  | cons first rest ih =>
    obtain ⟨name, size⟩ := first
    obtain ⟨d, hd, hname⟩ := hnames _ List.mem_cons_self
    dsimp only at hd hname
    obtain ⟨ids, cards₁, hids, hlength, hall, h₁⟩ := newCards_shelved h hd size
    obtain ⟨piles, cards', ds', hpiles, hless, h', hpiled⟩ :=
      ih h₁ fun x hx => hnames x (List.mem_cons_of_mem _ hx)
    refine ⟨⟨d, ids⟩ :: piles, cards', ds', ?_, (List.prefix_append _ _).trans hless, h', ?_, ?_, ?_⟩
    · rw [newPiles, newPile, hd]
      change ((newCards r name size cards >>= fun found => _) >>= fun made => _) = _
      rw [hids]
      change (newPiles r rest cards₁ >>= fun found => _) = _
      rw [hpiles]
      rfl
    · rw [List.map_cons, hpiled.sizes, Pile.name, hname, Pile.size, hlength]
    · exact List.forall_mem_cons.mpr ⟨by rw [Pile.name, hname]; exact hd, hpiled.definitions⟩
    · exact List.forall_mem_cons.mpr ⟨hall.mono hless, hpiled.cards⟩

/-- The pile of a kingdom card: how many cards there are depends on whether it is a victory card. -/
def kingdomSize (players : Nat) (d : CardDefinition) : Nat :=
  if d.isVictory then victoryPileSize players else pileSize

theorem kingdomPiles_eq {players : Nat} {kingdom : List CardDefinition}
    (hkingdom : ∀ d ∈ kingdom, r.lookup d.name = .ok d) (cards : Store Card) :
    kingdomPiles r players (kingdom.map (·.name)) cards =
      newPiles r (kingdom.map fun d => (d.name, kingdomSize players d)) cards := by
  induction kingdom generalizing cards with
  | nil => rfl
  | cons d rest ih =>
    have hd := hkingdom d List.mem_cons_self
    have hrest := ih fun d hd => hkingdom d (List.mem_cons_of_mem _ hd)
    rw [List.map_cons, List.map_cons, kingdomPiles, newPiles, hd]
    change (newPile r d.name (kingdomSize players d) cards >>= fun made => _) = _
    refine bind_congr fun made => ?_
    rw [hrest]

/-! ### The supply -/

theorem repeatedName?_eq_none_iff {seen : List String} {piles : List Pile} :
    Supply.repeatedName? seen piles = none ↔
      (piles.map Pile.name).Nodup ∧ ∀ p ∈ piles, p.name ∉ seen := by
  refine ⟨repeatedName?_eq_none, fun h => ?_⟩
  induction piles generalizing seen with
  | nil => rfl
  | cons p rest ih =>
    obtain ⟨hnodup, hseen⟩ := h
    obtain ⟨hp, hrest⟩ := List.nodup_cons.mp hnodup
    have hnew : ¬ seen.contains p.name := by simpa using hseen p List.mem_cons_self
    rw [Supply.repeatedName?, if_neg hnew]
    refine ih ⟨hrest, fun q hq hmem => ?_⟩
    rcases List.mem_cons.mp hmem with heq | hmem
    · exact hp (heq ▸ List.mem_map_of_mem hq)
    · exact hseen q (List.mem_cons_of_mem _ hq) hmem

/-- A supply can be built of piles with different names, and of no others. -/
theorem build_eq_ok_iff {base kingdom : List Pile} {supply : Supply} :
    Supply.build base kingdom = .ok supply ↔
      ((base ++ kingdom).map Pile.name).Nodup ∧ supply = ⟨base ++ kingdom, base.length⟩ := by
  have hnone : Supply.repeatedName? [] (base ++ kingdom) = none ↔
      ((base ++ kingdom).map Pile.name).Nodup := by
    rw [repeatedName?_eq_none_iff]
    exact and_iff_left fun _ _ => List.not_mem_nil
  rw [← hnone, Supply.build]
  cases Supply.repeatedName? [] (base ++ kingdom) with
  | none => simp [eq_comm]
  | some name => simp

theorem supply_eq {players : Nat} {colony : Bool} {names : List String} {base rest : List Pile}
    {cards₁ cards : Store Card}
    (hbase : newPiles r (basePiles players colony) {} = .ok (base, cards₁))
    (hrest : kingdomPiles r players names cards₁ = .ok (rest, cards)) :
    supply r players colony names {} =
      (Supply.build base rest >>= fun supply => .ok (supply, cards)) := by
  unfold supply
  rw [hbase]
  change (kingdomPiles r players names cards₁ >>= _) = _
  rw [hrest]
  rfl

/-- The piles of a supply can be made; what may keep it from being built is a name that comes twice. -/
theorem supply_piled {players : Nat} {colony : Bool} {kingdom : List CardDefinition}
    (hbase : ∀ x ∈ basePiles players colony, Printed r x.1)
    (hkingdom : ∀ d ∈ kingdom, r.lookup d.name = .ok d) :
    ∃ base rest cards ds, Shelved ds cards ∧ Piled r ds (basePiles players colony) base ∧
      Piled r ds (kingdom.map fun d => (d.name, kingdomSize players d)) rest ∧
      supply r players colony (kingdom.map (·.name)) {} =
        (Supply.build base rest >>= fun supply => .ok (supply, cards)) := by
  have hnames : ∀ x ∈ kingdom.map fun d => (d.name, kingdomSize players d), Printed r x.1 :=
    List.forall_mem_map.mpr fun d hd => ⟨d, hkingdom d hd, rfl⟩
  obtain ⟨base, cards₁, ds₁, hbuilt, -, h₁, hpiled₁⟩ := newPiles_piled Shelved.nil hbase
  obtain ⟨rest, cards, ds, hrest, hless, h, hpiled⟩ := newPiles_piled h₁ hnames
  rw [← kingdomPiles_eq hkingdom] at hrest
  exact ⟨base, rest, cards, ds, h, hpiled₁.mono hless, hpiled, supply_eq hbuilt hrest⟩

/-! ### Players -/

/-- The cards are seven Coppers and three Estates. -/
def Starting (ds : List CardDefinition) (cards : List CardId) : Prop :=
  ∃ coppers estates copper estate, cards.Perm (coppers ++ estates) ∧
    coppers.length = startingCoppers ∧ AllOf ds copper coppers ∧ copper.name = "Copper" ∧
    estates.length = startingEstates ∧ AllOf ds estate estates ∧ estate.name = "Estate"

theorem Starting.mono {ids : List CardId} (h : Starting ds ids) (hless : ds <+: ds') :
    Starting ds' ids := by
  obtain ⟨coppers, estates, copper, estate, hperm, hlength, hall, hname, hlength', hall', hname'⟩ := h
  exact ⟨coppers, estates, copper, estate, hperm, hlength, hall.mono hless, hname, hlength',
    hall'.mono hless, hname'⟩

theorem newPlayer_starting (h : Shelved ds cards) (hcopper : Printed r "Copper")
    (hestate : Printed r "Estate") (id : PlayerId) (name : String) (g : Generator) :
    ∃ p cards' g' ds', newPlayer r id name cards g = .ok (p, cards', g') ∧ ds <+: ds' ∧
      Shelved ds' cards' ∧ p.name = name ∧ Starting ds' p.zones.deck := by
  obtain ⟨copper, hcopper, hname⟩ := hcopper
  obtain ⟨estate, hestate, hname'⟩ := hestate
  obtain ⟨coppers, cards₁, hcoppers, hlength, hall, h₁⟩ := newCards_shelved h hcopper startingCoppers
  obtain ⟨estates, cards', hestates, hlength', hall', h'⟩ :=
    newCards_shelved h₁ hestate startingEstates
  refine ⟨{ id, name, zones := { deck := (Random.shuffle (coppers ++ estates) g).1 } }, cards',
    (Random.shuffle (coppers ++ estates) g).2, _, ?_,
    (List.prefix_append _ _).trans (List.prefix_append _ _), h', rfl, coppers, estates, copper, estate,
    Random.perm_shuffle _ _, hlength, hall.mono (List.prefix_append _ _), hname, hlength', hall', hname'⟩
  rw [newPlayer, hcoppers]
  change (newCards r "Estate" startingEstates cards₁ >>= fun found => _) = _
  rw [hestates]
  rfl

theorem newPlayers_starting (h : Shelved ds cards) (hcopper : Printed r "Copper")
    (hestate : Printed r "Estate") (seat : Nat) (names : List String) (g : Generator) :
    ∃ players cards' g' ds', newPlayers r seat names cards g = .ok (players, cards', g') ∧
      ds <+: ds' ∧ Shelved ds' cards' ∧ players.map (·.name) = names ∧
      ∀ p ∈ players, Starting ds' p.zones.deck := by
  induction names generalizing seat ds cards g with
  | nil => exact ⟨[], cards, g, ds, rfl, List.prefix_refl _, h, rfl, List.forall_mem_nil _⟩
  | cons name names ih =>
    obtain ⟨p, cards₁, g₁, ds₁, hone, hless₁, h₁, hname, hdeck⟩ :=
      newPlayer_starting h hcopper hestate ⟨seat⟩ name g
    obtain ⟨players, cards', g', ds', hrest, hless, h', hnames, hdecks⟩ := ih h₁ (seat + 1) g₁
    refine ⟨p :: players, cards', g', ds', ?_, hless₁.trans hless, h', ?_, ?_⟩
    · rw [newPlayers, hone]
      change (newPlayers r (seat + 1) names cards₁ g₁ >>= fun found => _) = _
      rw [hrest]
      rfl
    · rw [List.map_cons, hname, hnames]
    · exact List.forall_mem_cons.mpr ⟨hdeck.mono hless, hdecks⟩

end Setup

end DeckBuilder
