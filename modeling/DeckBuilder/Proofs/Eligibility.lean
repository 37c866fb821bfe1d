import DeckBuilder.Proofs.SetUp

/-!
Which cards a kingdom is made of. The presets name kingdom cards only, and ten cards at random are
drawn from these. A list of names is not looked at in this way: it may name Platinum and Colony as long
as these are not in the supply already, and then a card of the base set has a pile of the kingdom.
-/
namespace DeckBuilder

open DeckBuilder.Random Setup

theorem Registry.mem_kingdomCardNames {name : String} :
    name ∈ kingdomCardNames ↔ ∃ d ∈ allCards, d.set = .kingdom ∧ d.name = name := by
  simp [kingdomCardNames, and_assoc]

set_option maxRecDepth 100000 in
/-- All cards that are not for kingdoms have a pile of their own in a game with Platinum and Colony. -/
theorem Registry.base_names : ∀ d ∈ allCards, d.set = .kingdom ∨ d.name ∈ baseNames true := by
  decide +kernel

namespace KingdomChoice

variable {choice : KingdomChoice} {seed : UInt64} {names : List String}

set_option maxRecDepth 100000 in
theorem presets_eligible : ∀ p ∈ presets, ∀ name ∈ p.2, name ∈ Registry.kingdomCardNames := by
  decide +kernel

/-- A choice that is not a list of names stands for kingdom cards. -/
theorem Lists.eligible (h : choice.Lists seed names) (hchoice : ∀ cards, choice ≠ .custom cards) :
    ∀ name ∈ names, name ∈ Registry.kingdomCardNames := by
  cases choice with
  | preset preset =>
    obtain ⟨p, hp, -, rfl⟩ := h
    exact presets_eligible p hp
  | random =>
    intro name hname
    rw [show names = _ from h] at hname
    exact (perm_shuffle _ _).mem_iff.mp (List.mem_of_mem_take hname)
  | custom cards => exact absurd rfl (hchoice cards)

/-- What is found under the name of a kingdom card is a kingdom card. -/
theorem set_of_name {name : String} {d : CardDefinition}
    (h : name ∈ Registry.kingdomCardNames ∧ d ∈ Registry.allCards ∧ d.key = Text.lowerCase name) :
    d.set = .kingdom := by
  obtain ⟨hname, hfound⟩ := h
  obtain ⟨d', hd', hset, rfl⟩ := Registry.mem_kingdomCardNames.mp hname
  have hsame := Registry.catalog_lookup_iff.mpr hfound
  rw [Registry.catalog_lookup_name hd'] at hsame
  rw [← Except.ok.inj hsame]
  exact hset

theorem Resolves.eligible {kingdom : List CardDefinition} (h : choice.Resolves seed kingdom)
    (hchoice : ∀ cards, choice ≠ .custom cards) : ∀ d ∈ kingdom, d.set = .kingdom := by
  obtain ⟨names, hlists, -, hfound⟩ := h
  have hnamed := (List.forall₂_and_left _ _).mpr ⟨hlists.eligible hchoice, hfound⟩
  have hsets : List.Forall₂ (fun (d : CardDefinition) (_ : String) => d.set = .kingdom ∧ True)
      kingdom names := hnamed.flip.imp fun _ _ h => ⟨set_of_name h, trivial⟩
  exact ((List.forall₂_and_left _ _).mp hsets).1

theorem Resolves.length_eq {kingdom : List CardDefinition} (h : choice.Resolves seed kingdom) :
    kingdom.length = 10 := by
  obtain ⟨names, -, hten, hfound⟩ := h
  exact hfound.length_eq.symm.trans hten

end KingdomChoice

/-- A card without a pile among the base piles is a kingdom card, Platinum or Colony. -/
theorem Setup.eligible_of_new {d : CardDefinition} (hd : d ∈ Registry.allCards) {colony : Bool}
    (hnew : d.name ∉ baseNames colony) :
    d.set = .kingdom ∨ colony = false ∧ d.name ∈ ["Platinum", "Colony"] := by
  have hcolony : ∀ name ∈ baseNames true, name ∉ baseNames false → name ∈ ["Platinum", "Colony"] := by
    decide
  refine (Registry.base_names d hd).imp_right fun hname => ?_
  cases colony with
  | true => exact absurd hname hnew
  | false => exact ⟨rfl, hcolony _ hname hnew⟩

/-- The kingdom of a game that was set up with the catalog is ten piles of different names, none of
which is the name of a base pile, and each is of a card of the catalog. All are kingdom cards, except
that a list of names may have Platinum and Colony among them in a game that has no base piles of
these. -/
theorem kingdom_eligible {config : GameConfig} {s : GameState}
    (h : initGame Registry.catalog config = .ok s) :
    s.supply.kingdomPiles.length = 10 ∧
      (s.supply.kingdomPiles.map Pile.name).Nodup ∧
      (∀ p ∈ s.supply.kingdomPiles, ∀ q ∈ s.supply.basePiles, p.name ≠ q.name) ∧
      (∀ p ∈ s.supply.kingdomPiles, p.definition ∈ Registry.allCards) ∧
      ∀ p ∈ s.supply.kingdomPiles, p.definition.set = .kingdom ∨
        (∃ cards, config.kingdom = .custom cards) ∧ config.colony = false ∧
          p.name ∈ ["Platinum", "Colony"] := by
  obtain ⟨kingdom, haccepted, hsetUp⟩ := setUp_of_initGame h
  have hchosen := hsetUp.supply.chosen
  have hmem : ∀ p ∈ s.supply.kingdomPiles, p.definition ∈ kingdom := fun p hp =>
    hchosen ▸ List.mem_map_of_mem hp
  have hnames : s.supply.kingdomPiles.map Pile.name = kingdom.map (·.name) := by
    rw [← hchosen, List.map_map]
    rfl
  refine ⟨?_, hnames ▸ haccepted.distinct, ?_, ?_, ?_⟩
  · rw [← haccepted.resolves.length_eq, ← hchosen, List.length_map]
  · intro p hp q hq heq
    have hbase : q.name ∈ baseNames config.colony := by
      rw [← hsetUp.supply.base]
      exact List.mem_map_of_mem hq
    rw [← heq] at hbase
    exact haccepted.new _ (hmem p hp) hbase
  · exact fun p hp => haccepted.resolves.mem_allCards (hmem p hp)
  · intro p hp
    by_cases hchoice : ∃ cards, config.kingdom = .custom cards
    · have hcard := haccepted.resolves.mem_allCards (hmem p hp)
      exact (eligible_of_new hcard (haccepted.new _ (hmem p hp))).imp_right (⟨hchoice, ·⟩)
    · exact .inl (haccepted.resolves.eligible (not_exists.mp hchoice) _ (hmem p hp))

/-- Two players and the kingdom that is chosen if none is named: all its cards are kingdom cards. -/
theorem kingdom_eligible_by_default :
    ∃ s, initGame Registry.catalog { players := ["Player 1", "Player 2"] } = .ok s ∧
      s.supply.kingdomPiles.length = 10 ∧
      ∀ p ∈ s.supply.kingdomPiles, p.definition.set = .kingdom := by
  obtain ⟨s, h⟩ := initGame_catalog
  obtain ⟨hten, -, -, -, heligible⟩ := kingdom_eligible h
  refine ⟨s, h, hten, fun p hp => (heligible p hp).resolve_right ?_⟩
  rintro ⟨⟨cards, hcards⟩, -⟩
  cases hcards

set_option maxRecDepth 100000 in
/-- Platinum in a list of names: the game is set up with a pile of the kingdom of a card that is not
for kingdoms. -/
theorem platinum_in_kingdom :
    let config : GameConfig := {
      players := ["Player 1", "Player 2"]
      kingdom := .custom ["Cellar", "Village", "Smithy", "Market", "Laboratory", "Festival", "Chapel",
        "Workshop", "Council Room", "Platinum"] }
    ∃ s, initGame Registry.catalog config = .ok s ∧
      ∃ p ∈ s.supply.kingdomPiles, p.definition.set = .base := by
  intro config
  have hany : ((initGame Registry.catalog config).toOption.any fun s =>
      s.supply.kingdomPiles.any (·.definition.set == .base)) = true := by decide +kernel
  cases hinit : initGame Registry.catalog config with
  | error e =>
    rw [hinit] at hany
    cases hany
  | ok s =>
    rw [hinit] at hany
    obtain ⟨p, hp, hset⟩ := List.any_eq_true.mp hany
    exact ⟨s, rfl, p, hp, eq_of_beq hset⟩

end DeckBuilder
