import DeckBuilder.Proofs.Change
import DeckBuilder.Setup

/-!
What a game is like when it has been set up: every card of the store lies in exactly one place, has a
definition of the registry, and nothing waits on any card or player. The cards are made one by one,
so it is shown of the growing store that its cards are those laid out so far.
-/
namespace DeckBuilder

namespace Registry

/-- Registering adds no definition but those given. -/
theorem mem_registerAll {r : Registry} {ds : List CardDefinition} {d : CardDefinition}
    (h : d ∈ (r.registerAll ds).1.definitions) : d ∈ r.definitions ∨ d ∈ ds := by
  induction ds generalizing r with
  | nil => exact Or.inl h
  | cons first rest ih =>
    unfold registerAll at h
    cases hr : r.register first with
    | error e =>
      simp only [hr] at h
      exact Or.inl h
    | ok r' =>
      simp only [hr] at h
      rcases ih h with hd | hd
      · unfold register at hr
        dsimp only at hr
        split at hr
        · simp at hr
        · obtain rfl := Except.ok.inj hr
          rcases Array.mem_push.mp hd with hd | rfl
          · exact Or.inl hd
          · exact Or.inr List.mem_cons_self
      · exact Or.inr (List.mem_cons_of_mem _ hd)

theorem mem_ofCards {ds : List CardDefinition} {d : CardDefinition}
    (h : d ∈ (ofCards ds).definitions) : d ∈ ds := by
  rcases mem_registerAll h with hd | hd
  · exact absurd hd (Array.not_mem_empty d)
  · exact hd

theorem mem_catalog {d : CardDefinition} (h : d ∈ catalog.definitions) : d ∈ allCards := by
  rw [catalog] at h
  exact mem_ofCards h

end Registry

/-- The store holds just the cards laid out so far, each once and as the registry has it, and gives
out numbers above all of theirs. -/
structure Stocked (r : Registry) (places : List CardId) (cards : Store Card) : Prop where
  count : ∀ id, places.count id = if cards.contains id then 1 else 0
  fresh : ∀ id, cards.contains id → id.number < cards.fresh
  registered : ∀ id c, cards.get? id = some c → c.definition ∈ r.definitions ∧ c.durations = []

namespace Stocked

variable {r : Registry} {places places' : List CardId} {cards : Store Card}

theorem nil (r : Registry) : Stocked r [] {} where
  count := by
    intro id
    have h : ({} : Store Card).contains id = false := by simp [Store.contains]
    simp [h]
  fresh := by
    intro id h
    simp [Store.contains] at h
  registered := by
    intro id c h
    simp [Store.get?] at h

theorem perm (h : Stocked r places cards) (hp : places.Perm places') :
    Stocked r places' cards :=
  ⟨fun id => (hp.count_eq id).symm.trans (h.count id), h.fresh, h.registered⟩

theorem contains_insert (cards : Store Card) (id other : CardId) (c : Card) :
    (cards.insert id c).contains other = (id = other || cards.contains other) := by
  obtain ⟨i⟩ := id
  obtain ⟨j⟩ := other
  have h := Bool.eq_iff_iff (a := compare i j == .eq) (b := decide (i = j))
  rw [show decide ((⟨i⟩ : CardId) = ⟨j⟩) = decide (i = j) by simp]
  simp only [Store.contains, Store.insert, Std.TreeMap.contains_insert]
  rw [h.mpr (by simp)]

theorem mem_definitions {name : String} {d : CardDefinition} (h : r.lookup name = .ok d) :
    d ∈ r.definitions := by
  unfold Registry.lookup at h
  cases hd : r.get? name with
  | none => simp [hd] at h
  | some d' =>
    simp only [hd, Except.ok.injEq] at h
    subst h
    unfold Registry.get? at hd
    obtain ⟨i, -, hi⟩ := Option.bind_eq_some_iff.mp hd
    exact Array.mem_of_getElem? hi

/-- One card more, in the next place. -/
theorem newCard (h : Stocked r places cards) {name : String} {id : CardId} {cards' : Store Card}
    (hnew : r.newCard name cards = .ok (id, cards')) : Stocked r (places ++ [id]) cards' := by
  unfold Registry.newCard at hnew
  cases hd : r.lookup name with
  | error e => simp [hd, bind, Except.bind] at hnew
  | ok d =>
    simp only [hd, bind, Except.bind, pure, Except.pure, Except.ok.injEq] at hnew
    obtain rfl : (⟨cards.fresh⟩ : CardId) = id := congrArg Prod.fst hnew
    obtain rfl : (cards.add { definition := d }).2 = cards' := congrArg Prod.snd hnew
    have hnone : cards.contains ⟨cards.fresh⟩ = false := by
      by_contra hc
      have hlt := h.fresh ⟨cards.fresh⟩ (by simpa using hc)
      simp at hlt
    have hcontains : ∀ other, (cards.add { definition := d }).2.contains other =
        ((⟨cards.fresh⟩ : CardId) = other || cards.contains other) := by
      intro other
      exact contains_insert _ _ _ _
    refine ⟨?_, ?_, ?_⟩
    · intro other
      rw [List.count_append, h.count, hcontains]
      by_cases ho : (⟨cards.fresh⟩ : CardId) = other
      · subst ho
        simp [hnone]
      · simp [ho]
    · intro other hother
      rw [hcontains] at hother
      change other.number < cards.fresh + 1
      by_cases ho : (⟨cards.fresh⟩ : CardId) = other
      · subst ho
        exact Nat.lt_succ_self _
      · have hlt := h.fresh other (by simpa [ho] using hother)
        omega
    · intro other c hc
      have hget : (cards.add { definition := d }).2.get? other =
          if (⟨cards.fresh⟩ : CardId) = other then some { definition := d }
          else cards.get? other := Store.get?_insert _ _ _ _
      rw [hget] at hc
      by_cases ho : (⟨cards.fresh⟩ : CardId) = other
      · rw [if_pos ho, Option.some.injEq] at hc
        subst hc
        exact ⟨mem_definitions hd, rfl⟩
      · rw [if_neg ho] at hc
        exact h.registered other c hc

end Stocked

/-- Taking a computation that may fail apart where it came to a value. -/
theorem ok_bind {ε α β : Type} {e : Except ε α} {f : α → Except ε β} {b : β}
    (h : (e >>= f) = .ok b) : ∃ a, e = .ok a ∧ f a = .ok b := by
  cases e with
  | error err => simp [bind, Except.bind] at h
  | ok a => exact ⟨a, rfl, h⟩

namespace Setup

variable {r : Registry} {places : List CardId} {cards cards' : Store Card}

theorem newCards_stocked {name : String} {n : Nat} {ids : List CardId}
    (h : Stocked r places cards) (hnew : newCards r name n cards = .ok (ids, cards')) :
    Stocked r (places ++ ids) cards' := by
  induction n generalizing places cards ids with
  | zero =>
    simp only [newCards, Except.ok.injEq, Prod.mk.injEq] at hnew
    obtain ⟨rfl, rfl⟩ := hnew
    simpa using h
  | succ n ih =>
    obtain ⟨⟨id, cards₁⟩, hone, hnew⟩ := ok_bind hnew
    obtain ⟨⟨rest, cards₂⟩, hrest, hnew⟩ := ok_bind hnew
    obtain ⟨rfl, rfl⟩ := Prod.mk.inj (Except.ok.inj hnew)
    have hstocked := ih (h.newCard hone) hrest
    rw [List.append_assoc] at hstocked
    exact hstocked

theorem newPile_stocked {name : String} {size : Nat} {pile : Pile}
    (h : Stocked r places cards) (hnew : newPile r name size cards = .ok (pile, cards')) :
    Stocked r (places ++ pile.cards) cards' := by
  obtain ⟨d, hd, hnew⟩ := ok_bind hnew
  obtain ⟨⟨ids, cards₁⟩, hids, hnew⟩ := ok_bind hnew
  obtain ⟨rfl, rfl⟩ := Prod.mk.inj (Except.ok.inj hnew)
  exact newCards_stocked h hids

theorem newPiles_stocked {sizes : List (String × Nat)} {piles : List Pile}
    (h : Stocked r places cards) (hnew : newPiles r sizes cards = .ok (piles, cards')) :
    Stocked r (places ++ piles.flatMap Pile.cards) cards' := by
  induction sizes generalizing places cards piles with
  | nil =>
    simp only [newPiles, Except.ok.injEq, Prod.mk.injEq] at hnew
    obtain ⟨rfl, rfl⟩ := hnew
    simpa using h
  | cons first sizes ih =>
    obtain ⟨⟨pile, cards₁⟩, hone, hnew⟩ := ok_bind hnew
    obtain ⟨⟨rest, cards₂⟩, hrest, hnew⟩ := ok_bind hnew
    obtain ⟨rfl, rfl⟩ := Prod.mk.inj (Except.ok.inj hnew)
    have hstocked := ih (newPile_stocked h hone) hrest
    rw [List.append_assoc] at hstocked
    exact hstocked

theorem kingdomPiles_stocked {players : Nat} {names : List String} {piles : List Pile}
    (h : Stocked r places cards) (hnew : kingdomPiles r players names cards = .ok (piles, cards')) :
    Stocked r (places ++ piles.flatMap Pile.cards) cards' := by
  induction names generalizing places cards piles with
  | nil =>
    simp only [kingdomPiles, Except.ok.injEq, Prod.mk.injEq] at hnew
    obtain ⟨rfl, rfl⟩ := hnew
    simpa using h
  | cons name names ih =>
    obtain ⟨d, hd, hnew⟩ := ok_bind hnew
    obtain ⟨⟨pile, cards₁⟩, hone, hnew⟩ := ok_bind hnew
    obtain ⟨⟨rest, cards₂⟩, hrest, hnew⟩ := ok_bind hnew
    obtain ⟨rfl, rfl⟩ := Prod.mk.inj (Except.ok.inj hnew)
    have hstocked := ih (newPile_stocked h hone) hrest
    rw [List.append_assoc] at hstocked
    exact hstocked

/-- A supply that was built has no name twice. -/
theorem repeatedName?_eq_none {seen : List String} {piles : List Pile}
    (h : Supply.repeatedName? seen piles = none) :
    (piles.map Pile.name).Nodup ∧ ∀ p ∈ piles, p.name ∉ seen := by
  induction piles generalizing seen with
  | nil => simp
  | cons p rest ih =>
    unfold Supply.repeatedName? at h
    by_cases hp : p.name ∈ seen
    · simp [hp] at h
    · have hrest := ih (by simpa [hp] using h)
      refine ⟨List.nodup_cons.mpr ⟨?_, hrest.1⟩, ?_⟩
      · intro hmem
        obtain ⟨q, hq, hname⟩ := List.mem_map.mp hmem
        exact hrest.2 q hq (hname ▸ List.mem_cons_self)
      · intro q hq
        rcases List.mem_cons.mp hq with rfl | hq
        · exact hp
        · exact fun hmem => hrest.2 q hq (List.mem_cons_of_mem _ hmem)

theorem supply_stocked {players : Nat} {colony : Bool} {kingdom : List String} {supply : Supply}
    (h : Stocked r places cards)
    (hnew : Setup.supply r players colony kingdom cards = .ok (supply, cards')) :
    Stocked r (places ++ supply.piles.flatMap Pile.cards) cards' ∧
      (supply.piles.map Pile.name).Nodup := by
  obtain ⟨⟨base, cards₁⟩, hbase, hnew⟩ := ok_bind hnew
  obtain ⟨⟨rest, cards₂⟩, hrest, hnew⟩ := ok_bind hnew
  obtain ⟨built, hbuilt, hnew⟩ := ok_bind hnew
  obtain ⟨rfl, rfl⟩ := Prod.mk.inj (Except.ok.inj hnew)
  have hstocked := kingdomPiles_stocked (newPiles_stocked h hbase) hrest
  unfold Supply.build at hbuilt
  cases hname : Supply.repeatedName? [] (base ++ rest) with
  | some name => simp [hname] at hbuilt
  | none =>
    simp only [hname, Except.ok.injEq] at hbuilt
    subst hbuilt
    refine ⟨?_, (repeatedName?_eq_none hname).1⟩
    rw [List.flatMap_append, ← List.append_assoc]
    exact hstocked

theorem newCards_length {name : String} {n : Nat} {ids : List CardId}
    (hnew : newCards r name n cards = .ok (ids, cards')) : ids.length = n := by
  induction n generalizing cards ids with
  | zero =>
    simp only [newCards, Except.ok.injEq, Prod.mk.injEq] at hnew
    rw [← hnew.1, List.length_nil]
  | succ n ih =>
    obtain ⟨⟨id, cards₁⟩, -, hnew⟩ := ok_bind hnew
    obtain ⟨⟨rest, cards₂⟩, hrest, hnew⟩ := ok_bind hnew
    obtain ⟨rfl, rfl⟩ := Prod.mk.inj (Except.ok.inj hnew)
    rw [List.length_cons, ih hrest]

/-- A player at the start: the cards to start with in the deck, the counters of a turn, and nothing
waiting. -/
structure NewPlayer (seat : Nat) (p : Player) : Prop where
  eq : p = { id := ⟨seat⟩, name := p.name, zones := { deck := p.zones.deck } }
  deck : p.zones.deck.length = startingCoppers + startingEstates

namespace NewPlayer

variable {seat : Nat} {p : Player}

theorem id (h : NewPlayer seat p) : p.id = ⟨seat⟩ := by rw [h.eq]

theorem mats (h : NewPlayer seat p) : p.zones.mats = [] := by rw [h.eq]

theorem gain (h : NewPlayer seat p) : p.gainTriggers = [] := by rw [h.eq]

theorem play (h : NewPlayer seat p) : p.playTriggers = [] := by rw [h.eq]

theorem allCards (h : NewPlayer seat p) : p.allCards = p.zones.deck := by
  rw [h.eq]
  simp [Tableau.allCards, PlayerZones.allCards, PlayerZones.inOrder]

end NewPlayer

theorem newPlayer_stocked {seat : Nat} {name : String} {g g' : Generator} {p : Player}
    (h : Stocked r places cards)
    (hnew : newPlayer r ⟨seat⟩ name cards g = .ok (p, cards', g')) :
    Stocked r (places ++ p.allCards) cards' ∧ NewPlayer seat p := by
  obtain ⟨⟨coppers, cards₁⟩, hcoppers, hnew⟩ := ok_bind hnew
  obtain ⟨⟨estates, cards₂⟩, hestates, hnew⟩ := ok_bind hnew
  obtain ⟨hplayer, hnew⟩ := Prod.mk.inj (Except.ok.inj hnew)
  obtain ⟨hcards, -⟩ := Prod.mk.inj hnew
  subst hplayer hcards
  have hstocked := newCards_stocked (newCards_stocked h hcoppers) hestates
  have hperm := Random.perm_shuffle (coppers ++ estates) g
  refine ⟨?_, ⟨rfl, ?_⟩⟩
  · rw [List.append_assoc] at hstocked
    refine hstocked.perm (List.Perm.append_left _ ?_)
    simp only [Tableau.allCards, PlayerZones.allCards, PlayerZones.inOrder, List.map_nil,
      List.flatMap_cons, List.flatMap_nil, List.nil_append, List.append_nil]
    exact hperm.symm
  · show (Random.shuffle (coppers ++ estates) g).1.length = _
    rw [hperm.length_eq, List.length_append, newCards_length hcoppers, newCards_length hestates]

theorem newPlayers_stocked {seat : Nat} {names : List String} {g g' : Generator}
    {players : List Player} (h : Stocked r places cards)
    (hnew : newPlayers r seat names cards g = .ok (players, cards', g')) :
    Stocked r (places ++ players.flatMap fun p => p.allCards) cards' ∧
      players.length = names.length ∧ ∀ i p, players[i]? = some p → NewPlayer (seat + i) p := by
  induction names generalizing seat places cards g players with
  | nil =>
    simp only [newPlayers, Except.ok.injEq, Prod.mk.injEq] at hnew
    obtain ⟨rfl, rfl, rfl⟩ := hnew
    exact ⟨by simpa using h, rfl, by simp⟩
  | cons name names ih =>
    obtain ⟨⟨first, cards₁, g₁⟩, hfirst, hnew⟩ := ok_bind hnew
    obtain ⟨⟨rest, cards₂, g₂⟩, hrest, hnew⟩ := ok_bind hnew
    obtain ⟨hplayers, hnew⟩ := Prod.mk.inj (Except.ok.inj hnew)
    obtain ⟨hcards, hg⟩ := Prod.mk.inj hnew
    subst hplayers hcards hg
    obtain ⟨hstocked₁, hone⟩ := newPlayer_stocked h hfirst
    obtain ⟨hstocked₂, hlen, hall⟩ := ih hstocked₁ hrest
    refine ⟨?_, by simp [hlen], ?_⟩
    · rw [List.append_assoc] at hstocked₂
      exact hstocked₂
    · intro i p hp
      cases i with
      | zero =>
        obtain rfl : first = p := by simpa using hp
        exact hone
      | succ i =>
        have hi := hall i p (by simpa using hp)
        have heq : seat + 1 + i = seat + (i + 1) := by omega
        rw [heq] at hi
        exact hi

/-! ### The opening hands -/

/-- One step of dealing: a player draws a card, or it is told how many were drawn. -/
inductive Dealing : GameState → GameState → Prop
  | draw (s : GameState) (id : PlayerId) (p : Player) (hp : s.player? id = some p) :
      Dealing s (s.drawOne id p).2
  | tell (s : GameState) (id : PlayerId) (n : Nat) : Dealing s (s.publish id (.drawCards n))

abbrev Dealt : GameState → GameState → Prop := Relation.ReflTransGen Dealing

theorem Dealing.change {H : Hooks} {s s' : GameState} (h : Dealing s s') : Change H s s' := by
  cases h with
  | draw id p hp => exact .draw s id p hp
  | tell id n => exact .publish s id _ trivial

theorem Dealt.changes {H : Hooks} {s s' : GameState} (h : Dealt s s') : Changes H s s' := by
  induction h with
  | refl => exact .refl
  | tail _ hstep ih => exact ih.tail hstep.change

theorem drawEach_dealt {id : PlayerId} {n : Nat} {s s' : GameState} {ids : List CardId}
    (h : GameState.drawEach id n s = .ok (ids, s')) : Dealt s s' := by
  induction n generalizing s ids with
  | zero =>
    simp only [GameState.drawEach, Except.ok.injEq, Prod.mk.injEq] at h
    obtain ⟨-, rfl⟩ := h
    exact .refl
  | succ n ih =>
    unfold GameState.drawEach at h
    cases hp : s.player? id with
    | none => simp [hp] at h
    | some p =>
      have hdraw : Dealt s _ := .single (.draw s id p hp)
      simp only [hp] at h
      generalize s.drawOne id p = drawn at h hdraw
      obtain ⟨card, s₁⟩ := drawn
      cases card with
      | none =>
        simp only [Except.ok.injEq, Prod.mk.injEq] at h
        obtain ⟨-, rfl⟩ := h
        exact hdraw
      | some card =>
        obtain ⟨⟨rest, s₂⟩, hrest, h⟩ := ok_bind h
        obtain ⟨-, rfl⟩ := Prod.mk.inj (Except.ok.inj h)
        exact hdraw.trans (ih hrest)

theorem draw_dealt {id : PlayerId} {n : Nat} {s s' : GameState} {ids : List CardId}
    (h : s.draw id n = .ok (ids, s')) : Dealt s s' := by
  obtain ⟨⟨cards, s₁⟩, hdraw, h⟩ := ok_bind h
  obtain ⟨-, rfl⟩ := Prod.mk.inj (Except.ok.inj h)
  have hdealt := drawEach_dealt hdraw
  by_cases hc : cards.isEmpty = true
  · rw [if_pos hc]
    exact hdealt
  · rw [if_neg hc]
    exact hdealt.tail (.tell s₁ id _)

theorem drawHands_dealt {ids : List PlayerId} {s s' : GameState}
    (h : drawHands ids s = .ok s') : Dealt s s' := by
  induction ids generalizing s with
  | nil =>
    obtain rfl := Except.ok.inj h
    exact .refl
  | cons id ids ih =>
    obtain ⟨⟨cards, s₁⟩, hdraw, h⟩ := ok_bind h
    exact (draw_dealt hdraw).trans (ih h)

end Setup

/-- A game as it is set up from a registry for `n` players. -/
structure GameState.Opened (r : Registry) (n : Nat) (s : GameState) : Prop where
  enough : Setup.minPlayers ≤ n ∧ n ≤ Setup.maxPlayers
  seats : s.players.length = n
  sound : s.Sound
  registered : ∀ id c, s.card? id = some c → c.definition ∈ r.definitions
  /-- Nothing waits on any card or player. -/
  unhooked : ∀ H : Hooks, H.Allow s
  names : (s.supply.piles.map Pile.name).Nodup

namespace GameState.Opened

variable {r : Registry} {n : Nat} {s s' : GameState}

/-- A table on which the cards of the store lie in the supply and with new players. -/
theorem of_stocked (henough : Setup.minPlayers ≤ n ∧ n ≤ Setup.maxPlayers)
    (hseats : s.players.length = n) (hactive : s.active < n) (htrash : s.trash = [])
    (hstocked : Stocked r
      (s.supply.piles.flatMap Pile.cards ++ s.players.flatMap fun p => p.allCards) s.cards)
    (hnew : ∀ i p, s.players[i]? = some p → Setup.NewPlayer i p)
    (hnames : (s.supply.piles.map Pile.name).Nodup) : s.Opened r n := by
  refine ⟨henough, hseats, ⟨?_, ?_, ?_, ?_⟩, ?_, ?_, hnames⟩
  · intro id p hp
    exact (hnew id.seat p hp).id
  · rw [hseats]
    exact hactive
  · intro p hp
    obtain ⟨i, hi⟩ := List.mem_iff_getElem?.mp hp
    rw [PlayerZones.MatsSorted, (hnew i p hi).mats]
    exact List.Pairwise.nil
  · intro card
    rw [GameState.whereabouts, htrash, List.append_nil]
    exact hstocked.count card
  · intro id c hc
    exact (hstocked.registered id c hc).1
  · intro H
    constructor
    · intro p hp
      obtain ⟨i, hi⟩ := List.mem_iff_getElem?.mp hp
      exact ⟨by simp [(hnew i p hi).gain], by simp [(hnew i p hi).play]⟩
    · intro id c hc d hd
      rw [(hstocked.registered id c hc).2] at hd
      simp at hd

theorem changes (hs : s.Opened r n) (h : ∀ H : Hooks, Changes H s s') : s'.Opened r n := by
  have hkept := (h Hooks.any).kept
  refine ⟨hs.enough, hkept.seats.trans hs.seats, ?_, ?_, fun H => (h H).allow (hs.unhooked H), ?_⟩
  · exact (h Hooks.any).sound hs.sound
  · intro id c hc
    obtain ⟨before, hbefore, hdef⟩ := hkept.carded_before hc
    rw [← hdef]
    exact hs.registered id before hbefore
  · rw [hkept.names]
    exact hs.names

end GameState.Opened

/-- A table that is laid before the hands are dealt: the players are new, and nothing has happened
but that the game started. -/
structure GameState.Laid (r : Registry) (n : Nat) (s : GameState) : Prop extends s.Opened r n where
  players : ∀ i p, s.players[i]? = some p → Setup.NewPlayer i p
  trash : s.trash = []
  turn : s.turn = 0
  durations : ∀ id c, s.card? id = some c → c.durations = []
  costModifiers : s.costModifiers = []
  events : ∃ kingdom, s.events = ({} : EventLog).publish ⟨s.active⟩ 0 (.gameStart kingdom)

/-- Every accepted configuration gives such a table, and then the hands are dealt. -/
theorem initGame_laid {r : Registry} {config : GameConfig} {s : GameState}
    (h : initGame r config = .ok s) :
    ∃ s₁ : GameState, s₁.Laid r config.players.length ∧ Setup.Dealt s₁ s := by
  unfold initGame at h
  dsimp only at h
  by_cases hn : config.players.length < Setup.minPlayers ∨ Setup.maxPlayers < config.players.length
  · simp [hn] at h
  rw [if_neg hn] at h
  obtain ⟨⟨kingdom, g₁⟩, -, h⟩ := ok_bind h
  obtain ⟨⟨supply, cards₁⟩, hsupply, h⟩ := ok_bind h
  obtain ⟨⟨players, cards, g₂⟩, hplayers, h⟩ := ok_bind h
  dsimp only at h
  have henough : Setup.minPlayers ≤ config.players.length ∧
      config.players.length ≤ Setup.maxPlayers := by omega
  have hpos : 0 < config.players.length := by
    have h2 : Setup.minPlayers = 2 := rfl
    omega
  have hactive := Generator.index_lt g₂ hpos
  generalize g₂.index config.players.length = drawn at h hactive
  obtain ⟨first, g₃⟩ := drawn
  dsimp only at h hactive
  obtain ⟨hstocked₁, hnames⟩ := Setup.supply_stocked (Stocked.nil r) hsupply
  obtain ⟨hstocked, hlen, hnew⟩ := Setup.newPlayers_stocked hstocked₁ hplayers
  rw [List.nil_append] at hstocked
  have hnew' : ∀ i p, players[i]? = some p → Setup.NewPlayer i p := by
    intro i p hp
    have hi := hnew i p hp
    rw [Nat.zero_add] at hi
    exact hi
  refine ⟨_, ⟨?_, hnew', rfl, rfl, ?_, rfl, kingdom, rfl⟩, Setup.drawHands_dealt h⟩
  · exact GameState.Opened.of_stocked henough hlen hactive rfl hstocked hnew' hnames
  · intro id c hc
    exact (hstocked.registered id c hc).2

/-- What every accepted configuration gives is a game set up from the registry. -/
theorem initGame_opened {r : Registry} {config : GameConfig} {s : GameState}
    (h : initGame r config = .ok s) : s.Opened r config.players.length := by
  obtain ⟨s₁, hlaid, hdealt⟩ := initGame_laid h
  exact hlaid.toOpened.changes fun _ => Setup.Dealt.changes hdealt

theorem exists_ok_of_isSome {ε α : Type} {e : Except ε α} (h : e.toOption.isSome = true) :
    ∃ a, e = .ok a := by
  cases e with
  | ok a => exact ⟨a, rfl⟩
  | error e => simp [Except.toOption] at h

theorem exists_ok_of_any {ε α : Type} {e : Except ε α} {p : α → Bool} (h : e.toOption.any p) :
    ∃ a, e = .ok a ∧ p a := by
  cases e with
  | ok a => exact ⟨a, rfl, h⟩
  | error e => simp [Except.toOption] at h

set_option maxRecDepth 100000 in
/-- There are such games: two players, the cards of the catalog and the usual kingdom. -/
theorem initGame_catalog :
    ∃ s, initGame Registry.catalog { players := ["Player 1", "Player 2"] } = .ok s := by
  have hsome : (initGame Registry.catalog
      { players := ["Player 1", "Player 2"] }).toOption.isSome = true := by decide +kernel
  exact exists_ok_of_isSome hsome

end DeckBuilder
