import DeckBuilder.Proofs.Annals
import DeckBuilder.Proofs.Ledger
import DeckBuilder.Proofs.Reachable
import DeckBuilder.Proofs.Scoring

/-!
When points change. From one moment of a game to the next the points of a player stay the same, unless the log
tells in between of a card that the player gained, trashed or took out of the trash, or victory tokens were
credited to the player. What else is done with cards only moves them about among those of the player.
-/
namespace DeckBuilder

open Engine

/-- A card comes to the player or leaves: it is gained, trashed or taken out of the trash. -/
def GameEvent.Transfers (id : PlayerId) (e : GameEvent) : Prop :=
  (e.gainedBy? id).isSome ∨ (e.trashedBy? id).isSome ∨ (e.recoveredBy? id).isSome

namespace GameState

/-- Between two states, either the points of the player stay the same, or it is told that a card came to the
player or left, or all that happened is that tokens were credited to the player. -/
def Warrants (id : PlayerId) (s s' : GameState) : Prop :=
  ∃ events, s'.log = s.log ++ events ∧
    (s'.points id = s.points id ∨ (∃ e ∈ events, e.Transfers id) ∨
      ∃ p tokens, s.player? id = some p ∧
        s' = s.setPlayer id (p.onTableau (·.credit tokens .victoryTokens)))

/-- What is told between two states accounts for the cards, and nobody's tokens have changed. -/
structure Balanced (s s' : GameState) : Prop where
  balance : ∃ events, Balance events s s'
  tokens : ∀ id, (s'.player? id).map (·.victoryTokens) = (s.player? id).map (·.victoryTokens)
  kept : Kept s s'

variable {s s' s'' : GameState} {id : PlayerId}

theorem Balanced.refl (s : GameState) : s.Balanced s :=
  ⟨⟨[], (Idling.refl s).balance⟩, fun _ => rfl, .refl s⟩

theorem Balanced.trans (h : s.Balanced s') (h' : s'.Balanced s'') : s.Balanced s'' where
  balance := by
    obtain ⟨events, hbalance⟩ := h.balance
    obtain ⟨events', hbalance'⟩ := h'.balance
    exact ⟨events ++ events', hbalance.trans hbalance'⟩
  tokens id := (h'.tokens id).trans (h.tokens id)
  kept := h.kept.trans h'.kept

theorem Balanced.of_stroke {S : Scope} (hs : s.Sound) (hnames : (s.supply.piles.map Pile.name).Nodup)
    (h : S.Stroke s s') : s.Balanced s' :=
  ⟨h.change.balance hs hnames, h.tokens, h.change.kept⟩

/-- Cards that are the same for every number have the same things printed on them. -/
theorem collection_perm {t t' : Tableau}
    (hcards : ∀ card, (s'.card? card).map (·.definition) = (s.card? card).map (·.definition))
    (hperm : t'.allCards.Perm t.allCards) : (s'.collection t').Perm (s.collection t) := by
  have hsame : s'.collection t = s.collection t := List.map_congr_left fun card _ => hcards card
  rw [← hsame]
  exact hperm.map _

/-- Where no card comes to the player or leaves, the player has the same cards. -/
theorem perm_of_balance {events : List GameEvent} (h : Balance events s s')
    (hnone : ¬ ∃ e ∈ events, e.Transfers id) {p p' : Player} (hp : s.player? id = some p)
    (hp' : s'.player? id = some p') : p'.allCards.Perm p.allCards := by
  have hno (f : GameEvent → Option CardId) (hf : ∀ e, (f e).isSome → e.Transfers id) :
      events.filterMap f = [] := by
    refine List.filterMap_eq_nil_iff.mpr fun e he => Option.not_isSome_iff_eq_none.mp fun hsome => ?_
    exact hnone ⟨e, he, hf e hsome⟩
  obtain ⟨q, hq, hsettled⟩ := h.players id p hp
  obtain rfl := Option.some.inj (hp'.symm.trans hq)
  unfold Tableau.Settled at hsettled
  rwa [hno (·.trashedBy? id) fun _ h => .inr (.inl h), hno (·.gainedBy? id) fun _ h => .inl h,
    hno (·.recoveredBy? id) fun _ h => .inr (.inr h), List.append_nil, List.append_nil,
    List.append_nil] at hsettled

/-- Nobody scores at a seat where nobody sits. -/
theorem points_of_none (h : s.player? id = none) : s.points id = .error (.playerNotFound id) := by
  rw [points, h]

theorem player?_eq_none_of_kept (h : Kept s s') (hp : s.player? id = none) : s'.player? id = none := by
  rw [player?, List.getElem?_eq_none_iff] at hp ⊢
  rwa [h.seats]

theorem Balanced.warrants (h : s.Balanced s') (hs : s.Sound) (hs' : s'.Sound)
    (hcatalog : ∀ card c, s'.card? card = some c → c.definition ∈ Registry.allCards) :
    s.Warrants id s' := by
  obtain ⟨events, hbalance⟩ := h.balance
  refine ⟨events, hbalance.log, ?_⟩
  by_cases htransfers : ∃ e ∈ events, e.Transfers id
  · exact .inr (.inl htransfers)
  · left
    cases hp : s.player? id with
    | none => rw [points_of_none hp, points_of_none (player?_eq_none_of_kept h.kept hp)]
    | some p =>
      obtain ⟨p', hp', -⟩ := hbalance.players id p hp
      have htokens := h.tokens id
      rw [hp, hp'] at htokens
      have hperm := collection_perm h.kept.definitions (perm_of_balance hbalance htransfers hp hp')
      obtain ⟨total, htotal, htotal'⟩ :=
        points_congr hs hs' hcatalog hp hp' (Option.some.inj htokens) hperm
      rw [htotal, htotal']

/-- Tokens that are credited to somebody else do not count. -/
theorem warrants_credit (hs : s.Sound)
    (hcatalog : ∀ card c, s.card? card = some c → c.definition ∈ Registry.allCards) {other : PlayerId}
    {p : Player} (hp : s.player? other = some p) {tokens : Nat}
    (hs' : (s.setPlayer other (p.onTableau (·.credit tokens .victoryTokens))).Sound) :
    s.Warrants id (s.setPlayer other (p.onTableau (·.credit tokens .victoryTokens))) := by
  refine ⟨[], (List.append_nil _).symm, ?_⟩
  by_cases hother : id = other
  · exact .inr (.inr ⟨p, tokens, hother ▸ hp, hother ▸ rfl⟩)
  · left
    have hplayer := player?_setPlayer_of_ne hother (s := s) (p.onTableau (·.credit tokens .victoryTokens))
    cases hq : s.player? id with
    | none => rw [points_of_none hq, points_of_none (hplayer.trans hq)]
    | some q =>
      obtain ⟨total, htotal, htotal'⟩ :=
        points_congr hs hs' hcatalog hq (hplayer.trans hq) rfl (.refl _)
      rw [htotal, htotal']

end GameState

/-! ### From moment to moment -/

variable {M : Type}

/-- All moments from a state on warrant the points of the player, and what has happened since the last of them
is accounted for. -/
structure Game.Warranted (start : GameState) (id : PlayerId) (n : Game (Chronicled M)) : Prop where
  first : n.memory.moments.getLast?.map Moment.state = some start
  course : n.memory.moments.IsChain fun later earlier => earlier.state.Warrants id later.state
  present : ∀ m ∈ n.memory.moments.head?, m.state.Sound ∧ m.state.Balanced n.state
  catalog : ∀ card c, n.state.card? card = some c → c.definition ∈ Registry.allCards
  names : (n.state.supply.piles.map Pile.name).Nodup

namespace Game.Warranted

variable {start : GameState} {id : PlayerId} {n : Game (Chronicled M)} {s : GameState}

theorem kept (h : n.Warranted start id) (hbalanced : n.state.Balanced s) :
    Game.Warranted start id { n with state := s } where
  first := h.first
  course := h.course
  present m hm := ⟨(h.present m hm).1, (h.present m hm).2.trans hbalanced⟩
  catalog := by
    intro card c hc
    obtain ⟨before, hbefore, hdef⟩ := hbalanced.kept.carded_before hc
    rw [← hdef]
    exact h.catalog card before hbefore
  names := by
    rw [hbalanced.kept.names]
    exact h.names

/-- What comes next is the present moment. -/
theorem seen (h : n.Warranted start id) (hs : n.state.Sound) : n.seen.Warranted start id where
  first := by
    rw [Game.seen, List.getLast?_cons_of_ne_nil fun hnil => ?_, h.first]
    have hfirst := h.first
    rw [hnil] at hfirst
    exact absurd hfirst (by simp)
  course := by
    rw [Game.seen, List.isChain_cons]
    exact ⟨fun m hm => (h.present m hm).2.warrants (h.present m hm).1 hs h.catalog, h.course⟩
  present := by
    rintro _ ⟨⟩
    exact ⟨hs, .refl _⟩
  catalog := h.catalog
  names := h.names

/-- Tokens are credited, and the next moment is the one after it. -/
theorem credited (h : n.Warranted start id) (hs : n.state.Sound) {player : PlayerId} {p : Player}
    (hp : n.state.player? player = some p) {tokens : Nat}
    (hs' : (n.state.setPlayer player (p.onTableau (·.credit tokens .victoryTokens))).Sound) :
    Game.Warranted start id (Game.seen { n.seen with
      state := n.state.setPlayer player (p.onTableau (·.credit tokens .victoryTokens)) }) where
  first := (h.seen hs).first
  course := by
    rw [Game.seen, List.isChain_cons]
    refine ⟨?_, (h.seen hs).course⟩
    rintro _ ⟨⟩
    exact GameState.warrants_credit hs h.catalog hp hs'
  present := by
    rintro _ ⟨⟩
    exact ⟨hs', .refl _⟩
  catalog := h.catalog
  names := h.names

variable [Controllers M]

/-- No change but of tokens, and no question, makes a difference. -/
theorem regards (seats : Nat) (start : GameState) (id : PlayerId) :
    (Scope.everybody seats).Regards (Game.Warranted (M := M) start id) where
  stroke hs h hstroke := h.kept (.of_stroke hs.sound h.names hstroke)
  asked := by
    intro n player q h _
    obtain ⟨logger, hstate⟩ := asked_state n player q
    have hidling : Idling [] n.state (asked n player q).2.state := by
      rw [hstate]
      exact .silent rfl rfl rfl fun _ p hp => ⟨p, hp, .refl _⟩
    have hbalanced : n.state.Balanced (asked n player q).2.state := by
      refine ⟨⟨[], hidling.balance⟩, ?_, ?_⟩ <;> rw [hstate]
      · exact fun _ => rfl
      · exact ⟨rfl, fun _ => rfl, rfl, rfl, Nat.le_refl _⟩
    have hkept := h.kept hbalanced
    exact ⟨h.first, h.course, hkept.present, hkept.catalog, hkept.names⟩

/-- Who writes everything down breaks nothing. -/
theorem unobtrusive (seats : Nat) (start : GameState) (id : PlayerId) :
    Scope.Regards.Unobtrusive seats (Game.Warranted (M := M) start id) .faithful where
  tell h n hn := by
    have hn' : Game.Warranted start id { n with memory := { n.memory with past := h :: n.memory.past } } :=
      ⟨hn.2.first, hn.2.course, hn.2.present, hn.2.catalog, hn.2.names⟩
    exact ⟨hn.1, hn'.seen hn.1.sound⟩
  look n hn := ⟨hn.1, hn.2.seen hn.1.sound⟩
  credit provoke player tokens n hn := by
    change Ensures (do
      let a ← modifyPlayer player (·.onTableau (·.credit tokens .victoryTokens))
      Chronicler.faithful.look
      return a) n.seen _ _
    rw [ensures_bind, ensures_modifyPlayer]
    cases hp : n.seen.state.player? player with
    | none => exact ⟨hn.1, hn.2.seen hn.1.sound⟩
    | some p =>
      have hsuits := hn.1.reach (.credit hp trivial tokens .victoryTokens)
      exact ⟨hsuits, hn.2.credited hn.1.sound hp hsuits.sound⟩

end Game.Warranted

/-- A state in which programs are for players at the table, of whom nobody is left out. -/
theorem GameState.Seated.suits {seats : Nat} {s : GameState} (hs : s.Seated seats) :
    (Scope.everybody seats).Suits s where
  sound := hs.sound
  table := hs.seats
  hooks := hs.hooks.everybody
  rules id c hc := (hs.rules id c hc).inside
  parts _ := ⟨False.elim, fun ⟨_, _, hid, _⟩ => hid trivial⟩

namespace Game

variable [Controllers M] {seats : Nat} {start : GameState} {id : PlayerId}

/-- An operation for players at the table adds moments that warrant the points. -/
theorem chronicled_warranted {n : Game (Chronicled M)}
    (hn : (Scope.everybody seats).Keeps (Warranted start id) n) {o : Operation} (ho : o.Seated seats) :
    (Scope.everybody seats).Keeps (Warranted start id) (n.chronicled o) := by
  have hplay {n : Game (Chronicled M)} {card : CardId} {c : Card} (hn : n.Warranted start id)
      (hc : n.state.card? card = some c) : Effect.SeatedAll seats c.definition.onPlay :=
    (Registry.allCards_seated _ (hn.catalog card c hc)).play
  have hregards := Warranted.regards (M := M) seats start id
  have hdone := (hregards.told (Warranted.unobtrusive seats start id) hplay ho).after hn
  exact ⟨hdone.1, hdone.2.seen hdone.1.sound⟩

/-- All moments of a game with the catalog warrant the points of every player, whatever is called on it. -/
theorem annals_warranted {g : Game M} (hg : g.state.OfCatalog) {operations : List Operation}
    (ho : ∀ o ∈ operations, o.Seated g.state.players.length) (id : PlayerId) :
    (g.annals operations).Warranted g.state id := by
  let opening : Game (Chronicled M) :=
    ⟨g.state, { memory := g.memory, moments := [{ state := g.state }] }⟩
  have hopening : opening.Warranted g.state id := by
    refine ⟨rfl, .singleton _, ?_, hg.registered, hg.names⟩
    rintro _ ⟨⟩
    exact ⟨hg.sound, .refl _⟩
  have hrun : (Scope.everybody g.state.players.length).Keeps (Warranted g.state id)
      (operations.foldl chronicled opening) :=
    List.foldlRecOn operations chronicled ⟨hg.seated.suits, hopening⟩ fun _ hn o hmem =>
      chronicled_warranted hn (ho o hmem)
  exact hrun.2

end Game

/-- Points depend only on what a player owns. In any two states of games with the catalog in which the player
has as many tokens and cards of the same kinds, wherever these lie, the points are equal. And whatever is
called on a game with the catalog, from each moment to the next the points of the player stay as they are,
unless a card is gained, trashed or taken out of the trash by the player, or tokens are credited to the
player. The annals are looked at with the last moment first. -/
theorem points_depend_on_what_is_owned [Controllers M] (id : PlayerId) :
    (∀ {s s' : GameState} {p p' : Player}, s.OfCatalog → s'.OfCatalog →
      s.player? id = some p → s'.player? id = some p' → p'.victoryTokens = p.victoryTokens →
      (s'.collection p'.toTableau).Perm (s.collection p.toTableau) →
      ∃ total, s.points id = .ok total ∧ s'.points id = .ok total) ∧
    ∀ {config : GameConfig} {s₀ : GameState} {g : Game M} {operations : List Operation},
      initGame Registry.catalog config = .ok s₀ → g.Reachable s₀ →
      (∀ o ∈ operations, o.Seated g.state.players.length) →
      let moments := (g.annals operations).memory.moments
      moments.IsChain (fun later earlier => earlier.state.Warrants id later.state) ∧
        moments.getLast?.map Moment.state = some g.state ∧
        moments.head?.map Moment.state = some (Operation.applyAll operations g).state := by
  refine ⟨fun hs hs' hp hp' htokens hperm => ?_, fun {_ _ g _} hinit hg ho => ?_⟩
  · exact GameState.points_congr hs.sound hs'.sound hs'.registered hp hp' htokens hperm
  · have hcatalog := (hg.ofCatalog (initGame_opened hinit).ofCatalog).1
    have hwarranted := Game.annals_warranted hcatalog ho id
    exact ⟨hwarranted.course, hwarranted.first, g.head?_annals _⟩

/-- A player draws a card and has as many points as before; then the player gains a Province and is credited
tokens, and a turn is played. -/
theorem points_depend_on_what_is_owned_at_opening :
    ∃ s₀ p, initGame Registry.catalog { players := ["Player 1", "Player 2"] } = .ok s₀ ∧
      s₀.player? ⟨0⟩ = some p ∧
      (∃ total, s₀.points ⟨0⟩ = .ok total ∧ (s₀.drawOne ⟨0⟩ p).2.points ⟨0⟩ = .ok total) ∧
      let g : Game Table := ⟨s₀, Table.ofMinds [.random, .random]⟩
      let operations : List Operation := [.call (.gain "Province" ⟨0⟩ false .hand),
        .call (.credit ⟨0⟩ .victoryTokens 2), .playTurn 10 0]
      let moments := (g.annals operations).memory.moments
      moments.IsChain (fun later earlier => earlier.state.Warrants ⟨0⟩ later.state) ∧
        moments.getLast?.map Moment.state = some g.state ∧
        moments.head?.map Moment.state = some (Operation.applyAll operations g).state := by
  obtain ⟨s₀, hinit⟩ := initGame_catalog
  have hopened := initGame_opened hinit
  have hcatalog := hopened.ofCatalog
  obtain ⟨p, hp⟩ : ∃ p, s₀.player? ⟨0⟩ = some p :=
    GameState.player?_of_lt (by rw [hopened.seats]; exact Nat.zero_lt_two)
  have hdraw : (Scope.everybody 2).Stroke s₀ (s₀.drawOne ⟨0⟩ p).2 := .drawOne hp trivial
  have hcatalog' := (Changes.single (.draw (H := Hooks.catalog) s₀ ⟨0⟩ p hp)).ofCatalog hcatalog
  obtain ⟨events, hidling⟩ := s₀.drawOne_idling ⟨0⟩ hp
  obtain ⟨p', hp', hperm⟩ := hidling.players ⟨0⟩ p hp
  have htokens := hdraw.tokens ⟨0⟩
  rw [hp, hp'] at htokens
  obtain ⟨hsame, hcourse⟩ := points_depend_on_what_is_owned (M := Table) ⟨0⟩
  refine ⟨s₀, p, hinit, hp, ?_, hcourse hinit (.opening (Table.ofMinds [.random, .random])) ?_⟩
  · exact hsame hcatalog hcatalog' hp hp' (Option.some.inj htokens)
      (GameState.collection_perm hdraw.change.kept.definitions hperm)
  · intro o ho
    rw [hopened.seats]
    simp only [List.mem_cons, List.not_mem_nil, or_false] at ho
    rcases ho with rfl | rfl | rfl
    · exact Nat.zero_lt_two
    · trivial
    · trivial

end DeckBuilder
