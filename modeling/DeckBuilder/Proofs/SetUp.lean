import DeckBuilder.Proofs.Drawing
import DeckBuilder.Proofs.Registered
import DeckBuilder.Proofs.Stocking

/-!
Setting up a game with the catalog. A configuration is accepted just when there are two to six players
and the kingdom stands for ten cards, no two of the same name and none with the name of a base pile; and
what comes out then is laid down in every detail but the order of the decks and who is the first.
-/
namespace DeckBuilder

open Setup

/-! ### What is accepted -/

/-- The names of the base piles. -/
def Setup.baseNames (colony : Bool) : List String :=
  ["Copper", "Silver", "Gold"] ++ (if colony then ["Platinum"] else []) ++
    ["Estate", "Duchy", "Province"] ++ (if colony then ["Colony"] else []) ++ ["Curse"]

/-- A game can be set up as the configuration has it, and its kingdom has these cards. -/
structure GameConfig.Accepted (config : GameConfig) (kingdom : List CardDefinition) : Prop where
  enough : 2 ≤ config.players.length ∧ config.players.length ≤ 6
  resolves : config.kingdom.Resolves config.seed kingdom
  distinct : (kingdom.map (·.name)).Nodup
  new : ∀ d ∈ kingdom, d.name ∉ baseNames config.colony

/-! ### What comes out -/

/-- A player who may begin: seven Coppers and three Estates, five of these cards in the hand and the
others in the deck. -/
structure Player.Opening (s : GameState) (seat : Nat) (p : Player) : Prop where
  id : p.id = ⟨seat⟩
  hand : p.zones.hand.length = 5
  deck : p.zones.deck.length = 5
  elsewhere : p.zones = { hand := p.zones.hand, deck := p.zones.deck }
  cards : (p.allCards.map s.cardName).Perm (List.replicate 7 "Copper" ++ List.replicate 3 "Estate")
  actions : p.actions = 1
  buys : p.buys = 1
  money : p.money = 0

/-- The supply of a game with so many players: the base piles, and a pile of each kingdom card. -/
structure Supply.SetUp (players : Nat) (colony : Bool) (kingdom : List CardDefinition)
    (supply : Supply) : Prop where
  base : supply.basePiles.map Pile.name = baseNames colony
  chosen : supply.kingdomPiles.map Pile.definition = kingdom
  registered : ∀ p ∈ supply.piles, p.definition ∈ Registry.allCards
  coppers : ∀ p ∈ supply.piles, p.name = "Copper" → p.size = 60 - 7 * players
  curses : ∀ p ∈ supply.piles, p.name = "Curse" → p.size = 10 * (players - 1)
  victories : ∀ p ∈ supply.piles, p.definition.isVictory → p.size = if players = 2 then 8 else 12
  others : ∀ p ∈ supply.kingdomPiles, ¬ p.definition.isVictory → p.size = 10

/-- A game that has been set up as the configuration has it, with this kingdom. -/
structure GameState.SetUp (config : GameConfig) (kingdom : List CardDefinition) (s : GameState) :
    Prop where
  numbered : ∀ card, s.cards.contains card ↔ card.number < s.cards.size
  placed : ∀ card, s.whereabouts.count card = if card.number < s.cards.size then 1 else 0
  names : s.players.map (·.name) = config.players
  players : ∀ i (p : Player), s.players[i]? = some p → p.Opening s i
  trash : s.trash = []
  supply : s.supply.SetUp config.players.length config.colony kingdom
  piles : ∀ p ∈ s.supply.piles, ∀ card ∈ p.cards,
    ∃ c, s.card? card = some c ∧ c.definition = p.definition
  active : s.active < config.players.length
  told : s.told = (s.activePlayer, .gameStart (kingdom.map (·.name))) ::
    (List.range config.players.length).map fun seat => (⟨seat⟩, .drawCards 5)

/-! ### The base piles -/

namespace Setup

theorem basePiles_names (players : Nat) (colony : Bool) :
    (basePiles players colony).map (·.1) = baseNames colony := by
  cases colony <;> rfl

theorem baseNames_nodup (colony : Bool) : (baseNames colony).Nodup := by
  cases colony <;> decide

theorem baseNames_subset {colony : Bool} : baseNames colony ⊆ baseNames true := by
  cases colony <;> decide

theorem printed_of_mem {d : CardDefinition} (hd : d ∈ Registry.allCards) :
    Printed Registry.catalog d.name :=
  ⟨d, Registry.catalog_lookup_name hd, rfl⟩

theorem baseNames_printed {colony : Bool} {name : String} (h : name ∈ baseNames colony) :
    Printed Registry.catalog name := by
  have hcards : ∀ name ∈ baseNames colony, name ∈ Catalog.baseCards.map (·.name) := by
    cases colony <;> decide
  obtain ⟨d, hd, rfl⟩ := List.mem_map.mp (hcards name h)
  exact printed_of_mem (List.mem_append_left _ hd)

theorem basePiles_sizes {players size : Nat} {colony : Bool} {name : String}
    (h : (name, size) ∈ basePiles players colony) :
    (name = "Copper" → size = 60 - 7 * players) ∧ (name = "Curse" → size = 10 * (players - 1)) ∧
      (name ∈ ["Estate", "Duchy", "Province", "Colony"] → size = victoryPileSize players) := by
  have hall : ∀ x ∈ basePiles players colony,
      (x.1 = "Copper" → x.2 = 60 - 7 * players) ∧ (x.1 = "Curse" → x.2 = 10 * (players - 1)) ∧
        (x.1 ∈ ["Estate", "Duchy", "Province", "Colony"] → x.2 = victoryPileSize players) := by
    cases colony <;> simp [basePiles, startingCoppers]
  exact hall (name, size) h

/-- A base card is a victory card by its name. -/
theorem victory_names : ∀ d ∈ Registry.allCards, d.isVictory → d.name ∈ baseNames true →
    d.name ∈ ["Estate", "Duchy", "Province", "Colony"] := by
  decide +kernel

/-! ### The table before the hands -/

/-- Everything lies on the table, and it is told that the game starts. -/
structure Table (config : GameConfig) (kingdom ds : List CardDefinition) (s : GameState) :
    Prop where
  cards : Shelved ds s.cards
  base : Piled Registry.catalog ds (basePiles config.players.length config.colony) s.supply.basePiles
  chosen : Piled Registry.catalog ds
    (kingdom.map fun d => (d.name, kingdomSize config.players.length d)) s.supply.kingdomPiles
  names : s.players.map (·.name) = config.players
  players : ∀ i p, s.players[i]? = some p → NewPlayer i p
  decks : ∀ p ∈ s.players, Starting ds p.zones.deck
  trash : s.trash = []
  active : s.active < config.players.length
  told : s.told = [(s.activePlayer, .gameStart (kingdom.map (·.name)))]

variable {config : GameConfig} {kingdom ds : List CardDefinition} {s s' : GameState}

theorem lookup_kingdom (h : config.kingdom.Resolves config.seed kingdom) :
    ∀ d ∈ kingdom, Registry.catalog.lookup d.name = .ok d :=
  fun _ hd => Registry.catalog_lookup_name (h.mem_allCards hd)

theorem basePiles_printed (players : Nat) (colony : Bool) :
    ∀ x ∈ basePiles players colony, Printed Registry.catalog x.1 := by
  intro x hx
  have hname : x.1 ∈ baseNames colony := basePiles_names players colony ▸ List.mem_map_of_mem hx
  exact baseNames_printed hname

theorem names_nodup_iff {n : Nat} {colony : Bool} {base rest : List Pile}
    (hbase : Piled Registry.catalog ds (basePiles n colony) base)
    (hrest : Piled Registry.catalog ds (kingdom.map fun d => (d.name, kingdomSize n d)) rest) :
    ((base ++ rest).map Pile.name).Nodup ↔
      (kingdom.map (·.name)).Nodup ∧ ∀ d ∈ kingdom, d.name ∉ baseNames colony := by
  have hnames : rest.map Pile.name = kingdom.map (·.name) := by
    rw [hrest.names, List.map_map]
    rfl
  rw [List.map_append, hnames, hbase.names, basePiles_names, List.nodup_append']
  constructor
  · intro h
    obtain ⟨-, hdistinct, hdisjoint⟩ := h
    exact ⟨hdistinct, fun d hd hname => hdisjoint hname (List.mem_map_of_mem hd)⟩
  · intro h
    obtain ⟨hdistinct, hnew⟩ := h
    refine ⟨baseNames_nodup colony, hdistinct, fun name hname hmem => ?_⟩
    obtain ⟨d, hd, rfl⟩ := List.mem_map.mp hmem
    exact hnew d hd hname

/-- The supply can be built just when no two cards of the kingdom have the same name and none has the
name of a base pile. -/
theorem supply_accepted (n : Nat) (colony : Bool)
    (hkingdom : ∀ d ∈ kingdom, Registry.catalog.lookup d.name = .ok d) :
    ∃ base rest cards ds, Shelved ds cards ∧
      Piled Registry.catalog ds (basePiles n colony) base ∧
      Piled Registry.catalog ds (kingdom.map fun d => (d.name, kingdomSize n d)) rest ∧
      ∀ built, supply Registry.catalog n colony (kingdom.map (·.name)) {} = .ok built ↔
        ((kingdom.map (·.name)).Nodup ∧ ∀ d ∈ kingdom, d.name ∉ baseNames colony) ∧
          built = (⟨base ++ rest, base.length⟩, cards) := by
  obtain ⟨base, rest, cards, ds, hshelved, hbase, hrest, hsupply⟩ :=
    supply_piled (basePiles_printed n colony) hkingdom
  refine ⟨base, rest, cards, ds, hshelved, hbase, hrest, fun built => ?_⟩
  rw [hsupply, ← names_nodup_iff hbase hrest]
  constructor
  · intro h
    obtain ⟨supply, hbuild, h⟩ := ok_bind h
    obtain ⟨hnodup, rfl⟩ := build_eq_ok_iff.mp hbuild
    exact ⟨hnodup, (Except.ok.inj h).symm⟩
  · intro h
    obtain ⟨hnodup, rfl⟩ := h
    rw [build_eq_ok_iff.mpr ⟨hnodup, rfl⟩]
    rfl

/-- What is set up was accepted. -/
theorem accepted_of_initGame (h : initGame Registry.catalog config = .ok s) :
    ∃ kingdom, config.Accepted kingdom := by
  unfold initGame at h
  dsimp only at h
  by_cases hn : config.players.length < minPlayers ∨ maxPlayers < config.players.length
  · rw [if_pos hn] at h
    cases h
  rw [if_neg hn] at h
  obtain ⟨⟨names, g⟩, hnames, h⟩ := ok_bind h
  obtain ⟨kingdom, hresolves, rfl⟩ := KingdomChoice.cardNames_eq_ok_iff.mp ⟨g, hnames⟩
  obtain ⟨built, hbuilt, -⟩ := ok_bind h
  obtain ⟨_, _, _, _, _, _, _, hsupply⟩ :=
    supply_accepted config.players.length config.colony (lookup_kingdom hresolves)
  obtain ⟨⟨hdistinct, hnew⟩, -⟩ := (hsupply built).mp hbuilt
  unfold minPlayers maxPlayers at hn
  exact ⟨kingdom, by omega, hresolves, hdistinct, hnew⟩

/-- The table with the supply and the players when the first player has been picked. -/
def layOut (config : GameConfig) (names : List String) (supply : Supply) (cards : Store Card)
    (players : List Player) (g : Generator) : GameState :=
  let (first, g) := g.index config.players.length
  let logger : Logger :=
    { verbosity := config.verbosity, format := config.format, output := config.output }
  let s : GameState := { cards, players, supply, active := first, rng := g, logger }
  s.publish ⟨first⟩ (.gameStart names)

@[simp] theorem layOut_supply (config : GameConfig) (names : List String) (supply : Supply)
    (cards : Store Card) (players : List Player) (g : Generator) :
    (layOut config names supply cards players g).supply = supply := rfl

theorem initGame_eq {r : Registry} {names : List String} {supply : Supply}
    {cards₁ cards : Store Card} {players : List Player} {g₁ g₂ : Generator}
    (henough : 2 ≤ config.players.length ∧ config.players.length ≤ 6)
    (hnames : config.kingdom.cardNames r (Generator.ofSeed config.seed) = .ok (names, g₁))
    (hsupply : Setup.supply r config.players.length config.colony names {} = .ok (supply, cards₁))
    (hplayers : newPlayers r 0 config.players cards₁ g₁ = .ok (players, cards, g₂)) :
    let s := layOut config names supply cards players g₂
    initGame r config = drawHands s.playerIds s := by
  have hn : ¬ (config.players.length < minPlayers ∨ maxPlayers < config.players.length) := by
    unfold minPlayers maxPlayers
    omega
  unfold initGame
  dsimp only
  rw [if_neg hn, hnames]
  change (Setup.supply r config.players.length config.colony names {} >>= fun made => _) = _
  rw [hsupply]
  change (newPlayers r 0 config.players cards₁ g₁ >>= fun made => _) = _
  rw [hplayers]
  rfl

/-- Every accepted configuration gives such a table. -/
theorem table_of_accepted (h : config.Accepted kingdom) :
    ∃ ds s, Table config kingdom ds s ∧
      initGame Registry.catalog config = drawHands s.playerIds s := by
  obtain ⟨g₁, hnames⟩ := KingdomChoice.cardNames_eq_ok_iff.mpr ⟨kingdom, h.resolves, rfl⟩
  obtain ⟨base, rest, cards₁, ds₁, hshelved₁, hbase, hrest, hsupply⟩ :=
    supply_accepted config.players.length config.colony (lookup_kingdom h.resolves)
  replace hsupply := (hsupply _).mpr ⟨⟨h.distinct, h.new⟩, rfl⟩
  obtain ⟨players, cards, g₂, ds, hplayers, hless, hshelved, hseated, hdecks⟩ :=
    newPlayers_starting hshelved₁ (baseNames_printed (show "Copper" ∈ baseNames false by decide))
      (baseNames_printed (show "Estate" ∈ baseNames false by decide)) 0 config.players g₁
  obtain ⟨hstocked, -⟩ := supply_stocked (Stocked.nil Registry.catalog) hsupply
  obtain ⟨-, -, hnew⟩ := newPlayers_stocked hstocked hplayers
  have hpos : 0 < config.players.length := Nat.lt_of_lt_of_le Nat.two_pos h.enough.1
  refine ⟨ds, _, ?_, initGame_eq h.enough hnames hsupply hplayers⟩
  refine ⟨hshelved, ?_, ?_, hseated, ?_, hdecks, rfl, Generator.index_lt g₂ hpos, rfl⟩
  · have htake : Supply.basePiles ⟨base ++ rest, base.length⟩ = base := List.take_left
    rw [layOut_supply, htake]
    exact hbase.mono hless
  · have hdrop : Supply.kingdomPiles ⟨base ++ rest, base.length⟩ = rest := List.drop_left
    rw [layOut_supply, hdrop]
    exact hrest.mono hless
  · intro seat p hp
    have hseat := hnew seat p hp
    rwa [Nat.zero_add] at hseat

/-! ### The hands -/

/-- The names on the cards that a game is set up with. -/
theorem cardName_eq (h : Shelved ds s.cards) {id : CardId} {d : CardDefinition}
    (hd : ds[id.number]? = some d) : s.cardName id = d.name := by
  have hcard : s.card? id = some { definition := d } := by
    rw [GameState.card?, h.get?, hd]
    rfl
  rw [GameState.cardName, hcard]

theorem map_cardName (h : Shelved ds s.cards) {ids : List CardId} {d : CardDefinition}
    (hall : AllOf ds d ids) : ids.map s.cardName = List.replicate ids.length d.name := by
  rw [List.eq_replicate_iff]
  refine ⟨List.length_map _, List.forall_mem_map.mpr fun id hid => ?_⟩
  exact cardName_eq h (hall id hid)

theorem Starting.names (h : Shelved ds s.cards) {ids : List CardId} (hids : Starting ds ids) :
    (ids.map s.cardName).Perm (List.replicate 7 "Copper" ++ List.replicate 3 "Estate") := by
  obtain ⟨coppers, estates, copper, estate, hperm, hlength, hall, hname, hlength', hall', hname'⟩ :=
    hids
  refine (hperm.map s.cardName).trans (.of_eq ?_)
  rw [List.map_append, map_cardName h hall, map_cardName h hall', hname, hname', hlength, hlength']
  rfl

theorem perm_dealt (deck : List CardId) (left : Nat) :
    ((deck.drop left).reverse ++ deck.take left).Perm deck := by
  have hswap : (deck.drop left ++ deck.take left).Perm (deck.take left ++ deck.drop left) :=
    List.perm_append_comm
  rw [List.take_append_drop] at hswap
  exact ((List.reverse_perm _).append_right _).trans hswap

/-- The hand of a new player has the five topmost cards of the deck. -/
theorem opening_dealt {seat : Nat} {p : Player} (hnew : NewPlayer seat p)
    (hcards : (p.zones.deck.map s.cardName).Perm
      (List.replicate 7 "Copper" ++ List.replicate 3 "Estate")) : p.dealt.Opening s seat := by
  obtain ⟨heq, hlength⟩ := hnew
  generalize p.zones.deck = deck at heq hlength hcards
  generalize p.name = name at heq
  subst heq
  have hfive : deck.length - handSize = 5 := by rw [hlength]; rfl
  refine ⟨rfl, ?_, ?_, rfl, ?_, rfl, rfl, rfl⟩
  · change ([] ++ (deck.drop (deck.length - handSize)).reverse).length = 5
    rw [hfive, List.nil_append, List.length_reverse, List.length_drop, hlength]
    rfl
  · change (deck.take (deck.length - handSize)).length = 5
    rw [hfive, List.length_take, hlength]
    rfl
  · have hperm : (Player.dealt { id := ⟨seat⟩, name, zones := { deck } }).allCards.Perm deck := by
      simpa [Player.dealt, Player.onTableau, Tableau.drawn, Tableau.allCards, PlayerZones.allCards,
        PlayerZones.inOrder] using perm_dealt deck (deck.length - handSize)
    exact (hperm.map s.cardName).trans hcards

/-! ### The piles -/

theorem mem_piles {supply : Supply} {p : Pile} (hp : p ∈ supply.piles) :
    p ∈ supply.basePiles ∨ p ∈ supply.kingdomPiles := by
  rw [← List.take_append_drop supply.baseCount supply.piles] at hp
  exact List.mem_append.mp hp

theorem Piled.registered {sizes : List (String × Nat)} {piles : List Pile}
    (h : Piled Registry.catalog ds sizes piles) : ∀ p ∈ piles, p.definition ∈ Registry.allCards :=
  fun p hp => (Registry.catalog_lookup_iff.mp (h.definitions p hp)).1

theorem supply_setUp {n : Nat} {colony : Bool} {supply : Supply}
    (hbase : Piled Registry.catalog ds (basePiles n colony) supply.basePiles)
    (hchosen : Piled Registry.catalog ds (kingdom.map fun d => (d.name, kingdomSize n d))
      supply.kingdomPiles)
    (hlookup : ∀ d ∈ kingdom, Registry.catalog.lookup d.name = .ok d)
    (hnew : ∀ d ∈ kingdom, d.name ∉ baseNames colony) : supply.SetUp n colony kingdom := by
  have hkingdom := hchosen.definitions_eq hlookup
  have hnames : supply.basePiles.map Pile.name = baseNames colony := by
    rw [hbase.names, basePiles_names]
  -- A pile with the name of a base pile is that base pile, for the kingdom has no such name.
  have hsize : ∀ p ∈ supply.piles, p.name ∈ baseNames colony →
      (p.name, p.size) ∈ basePiles n colony := by
    intro p hp hname
    rcases mem_piles hp with hp | hp
    · rw [← hbase.sizes]
      exact List.mem_map_of_mem hp
    · have hmem : p.definition ∈ kingdom := hkingdom ▸ List.mem_map_of_mem hp
      exact absurd hname (hnew _ hmem)
  refine ⟨hnames, hkingdom, ?_, ?_, ?_, ?_, ?_⟩
  · intro p hp
    exact (mem_piles hp).elim (hbase.registered p) (hchosen.registered p)
  · intro p hp hname
    have hmem : p.name ∈ baseNames colony := by simp [hname, baseNames]
    exact (basePiles_sizes (hsize p hp hmem)).1 hname
  · intro p hp hname
    have hmem : p.name ∈ baseNames colony := by simp [hname, baseNames]
    exact (basePiles_sizes (hsize p hp hmem)).2.1 hname
  · intro p hp hvictory
    rcases mem_piles hp with hp' | hp'
    · have hmem : p.name ∈ baseNames colony := hnames ▸ List.mem_map_of_mem hp'
      exact (basePiles_sizes (hsize p hp hmem)).2.2
        (victory_names _ (hbase.registered p hp') hvictory (baseNames_subset hmem))
    · rw [hchosen.size_eq hlookup hp', kingdomSize, if_pos hvictory]
      rfl
  · intro p hp hvictory
    rw [hchosen.size_eq hlookup hp, kingdomSize, if_neg hvictory]
    rfl

theorem Table.setUp (ht : Table config kingdom ds s) (h : config.Accepted kingdom)
    (hdealt : HandsDealt s.playerIds s s') (hsound : s'.Sound) : s'.SetUp config kingdom := by
  have hcards : Shelved ds s'.cards := hdealt.cards ▸ ht.cards
  have hseats : s.players.length = config.players.length := by
    rw [← ht.names, List.length_map]
  refine ⟨hcards.contains_iff, ?_, ?_, ?_, hdealt.trash.trans ht.trash, ?_, ?_, ?_, ?_⟩
  · intro card
    rw [hsound.census card]
    simp only [hcards.contains_iff]
  · rw [hdealt.players_eq, List.map_map, ← ht.names]
    rfl
  · intro seat p' hp'
    rw [hdealt.players_eq, List.getElem?_map] at hp'
    obtain ⟨p, hp, rfl⟩ := Option.map_eq_some_iff.mp hp'
    exact opening_dealt (ht.players seat p hp)
      (Starting.names hcards (ht.decks p (List.mem_of_getElem? hp)))
  · rw [hdealt.supply]
    exact supply_setUp ht.base ht.chosen (lookup_kingdom h.resolves) h.new
  · rw [hdealt.supply]
    intro p hp card hcard
    have hall : AllOf ds p.definition p.cards := by
      rcases mem_piles hp with hp | hp
      · exact ht.base.cards p hp
      · exact ht.chosen.cards p hp
    refine ⟨{ definition := p.definition }, ?_, rfl⟩
    rw [GameState.card?, hcards.get?, hall card hcard]
    rfl
  · rw [hdealt.active]
    exact ht.active
  · rw [hdealt.told, ht.told, GameState.activePlayer, GameState.activePlayer, hdealt.active,
      GameState.playerIds, hseats, List.map_map]
    rfl

theorem setUp_of_accepted (h : config.Accepted kingdom) :
    ∃ s, initGame Registry.catalog config = .ok s ∧ s.SetUp config kingdom := by
  obtain ⟨ds, s, ht, hinit⟩ := table_of_accepted h
  have hnodup : s.playerIds.Nodup :=
    List.nodup_range.map fun _ _ heq => congrArg PlayerId.seat heq
  have hdecks : ∀ id ∈ s.playerIds, ∃ p, s.player? id = some p ∧ handSize ≤ p.zones.deck.length := by
    intro id hid
    obtain ⟨seat, hseat, rfl⟩ := List.mem_map.mp hid
    obtain ⟨p, hp⟩ := GameState.player?_of_lt (List.mem_range.mp hseat)
    refine ⟨p, hp, ?_⟩
    rw [(ht.players seat p hp).deck]
    decide
  obtain ⟨s', hs', hdealt⟩ := drawHands_dealt_hands hnodup hdecks
  rw [← hinit] at hs'
  exact ⟨s', hs', ht.setUp h hdealt (initGame_opened hs').sound⟩

/-- What is set up was accepted, and is as it should be. -/
theorem setUp_of_initGame (h : initGame Registry.catalog config = .ok s) :
    ∃ kingdom, config.Accepted kingdom ∧ s.SetUp config kingdom := by
  obtain ⟨kingdom, haccepted⟩ := accepted_of_initGame h
  obtain ⟨s', hs', hsetUp⟩ := setUp_of_accepted haccepted
  obtain rfl : s = s' := Except.ok.inj (h.symm.trans hs')
  exact ⟨kingdom, haccepted, hsetUp⟩

end Setup

/-- A game can be set up with the catalog just when there are two to six players and the kingdom stands
for ten of its cards, no two of the same name and none with the name of a base pile; and everything is
then as it should be. -/
theorem games_set_up (config : GameConfig) :
    ((∃ s, initGame Registry.catalog config = .ok s) ↔ ∃ kingdom, config.Accepted kingdom) ∧
      ∀ s, initGame Registry.catalog config = .ok s →
        ∃ kingdom, config.Accepted kingdom ∧ s.SetUp config kingdom := by
  refine ⟨⟨fun h => ?_, fun h => ?_⟩, fun s => Setup.setUp_of_initGame⟩
  · obtain ⟨s, hs⟩ := h
    exact Setup.accepted_of_initGame hs
  · obtain ⟨kingdom, haccepted⟩ := h
    obtain ⟨s, hs, -⟩ := Setup.setUp_of_accepted haccepted
    exact ⟨s, hs⟩

set_option maxRecDepth 100000 in
/-- Three players, and names in any case. Platinum may be one of them, since it has no pile of its own
in this game. -/
theorem games_set_up_for_three :
    let config : GameConfig := {
      players := ["Player 1", "Player 2", "Player 3"]
      kingdom := .custom ["cellar", "MARKET", "Gardens", "militia", "moat", "remodel", "Platinum",
        "village", "Workshop", "council room"] }
    ∃ s, initGame Registry.catalog config = .ok s ∧ ∃ kingdom, config.Accepted kingdom ∧
      s.SetUp config kingdom ∧ ∀ p ∈ s.supply.piles, p.name = "Curse" → p.size = 20 := by
  intro config
  have hsome : (initGame Registry.catalog config).toOption.isSome = true := by decide +kernel
  obtain ⟨s, h⟩ := exists_ok_of_isSome hsome
  obtain ⟨kingdom, haccepted, hsetUp⟩ := (games_set_up config).2 s h
  exact ⟨s, h, kingdom, haccepted, hsetUp, hsetUp.supply.curses⟩

end DeckBuilder
