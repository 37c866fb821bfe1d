import DeckBuilder.Proofs.Turns
import DeckBuilder.Setup

/-!
Drawing from a deck that has the cards. The cards come to the hand from the top of the deck, one after
the other; nothing is shuffled, and the draw is told of once. The opening hands are drawn so.
-/
namespace DeckBuilder

/-- The cards were drawn, and so much is left of the deck. -/
def Tableau.drawn (t : Tableau) (cards rest : List CardId) : Tableau :=
  { t with zones := { t.zones with deck := rest, hand := t.zones.hand ++ cards } }

theorem Tableau.draw_of_deck {t : Tableau} {card : CardId} {rest : List CardId}
    (h : t.zones.deck = rest ++ [card]) (g : Generator) :
    t.draw g = (some card, t.drawn [card] rest, g) := by
  have henough : ¬ t.zones.deck.length < 1 := by simp [h]
  unfold draw prepare
  rw [if_neg henough]
  simp [CardRow.draw, h, drawn]

namespace GameState

variable {s : GameState} {id : PlayerId} {p : Player}

theorem setPlayer_self (hp : s.player? id = some p) : s.setPlayer id p = s := by
  obtain ⟨hseat, hget⟩ := List.getElem?_eq_some_iff.mp hp
  have hplayers : s.players.set id.seat p = s.players := by
    rw [← hget]
    exact List.set_getElem_self hseat
  rw [setPlayer, hplayers]

theorem setPlayer_setPlayer (p q : Player) : (s.setPlayer id p).setPlayer id q = s.setPlayer id q := by
  simp [setPlayer]

theorem drawOne_of_deck {card : CardId} {rest : List CardId}
    (h : p.zones.deck = rest ++ [card]) :
    s.drawOne id p = (some card, s.setPlayer id (p.onTableau (·.drawn [card] rest))) := by
  have hnot : ¬ p.zones.deck.isEmpty := by simp [h]
  unfold drawOne
  rw [if_neg hnot, Tableau.draw_of_deck h]
  rfl

/-- The first cards to be drawn are the topmost ones of the deck, the first of them on top. -/
theorem drawEach_add_of_deck (hp : s.player? id = some p) {cards rest : List CardId}
    (hdeck : p.zones.deck = rest ++ cards.reverse) (more : Nat) :
    drawEach id (cards.length + more) s =
      (drawEach id more (s.setPlayer id (p.onTableau (·.drawn cards rest)))).map
        fun found => (cards ++ found.1, found.2) := by
  induction cards generalizing s p with
  | nil =>
    have hsame : p.onTableau (·.drawn [] rest) = p := by
      have hrest : rest = p.zones.deck := by rw [hdeck, List.reverse_nil, List.append_nil]
      rw [hrest, Player.onTableau, Tableau.drawn, List.append_nil]
    rw [hsame, setPlayer_self hp, List.length_nil, Nat.zero_add]
    cases drawEach id more s <;> rfl
  | cons card cards ih =>
    rw [List.reverse_cons, ← List.append_assoc] at hdeck
    have hnext := player?_setPlayer_self (p.onTableau (·.drawn [card] (rest ++ cards.reverse))) hp
    have hdrawn : (p.onTableau (·.drawn [card] (rest ++ cards.reverse))).onTableau
        (·.drawn cards rest) = p.onTableau (·.drawn (card :: cards) rest) := by
      simp [Player.onTableau, Tableau.drawn]
    rw [List.length_cons, Nat.succ_add, drawEach, hp]
    dsimp only
    rw [drawOne_of_deck hdeck]
    dsimp only
    rw [ih hnext rfl, setPlayer_setPlayer, hdrawn]
    cases drawEach id more (s.setPlayer id (p.onTableau (·.drawn (card :: cards) rest))) <;> rfl

theorem drawEach_of_deck (hp : s.player? id = some p) {cards rest : List CardId}
    (hdeck : p.zones.deck = rest ++ cards.reverse) :
    drawEach id cards.length s =
      .ok (cards, s.setPlayer id (p.onTableau (·.drawn cards rest))) := by
  have hdraw := drawEach_add_of_deck hp hdeck 0
  rw [Nat.add_zero] at hdraw
  exact hdraw.trans (congrArg (fun all => Except.ok (all, _)) (List.append_nil cards))

/-- A draw of some cards that are all in the deck. -/
theorem draw_of_deck (hp : s.player? id = some p) {cards rest : List CardId}
    (hdeck : p.zones.deck = rest ++ cards.reverse) (hsome : cards ≠ []) :
    s.draw id cards.length =
      .ok (cards, (s.setPlayer id (p.onTableau (·.drawn cards rest))).publish id
        (.drawCards cards.length)) := by
  have hnot : ¬ cards.isEmpty := by simpa using hsome
  rw [draw, drawEach_of_deck hp hdeck]
  exact congrArg (fun s' => Except.ok (cards, s')) (if_neg hnot)

end GameState

/-! ### The opening hands -/

namespace GameState

/-- What the log tells: who, and what. -/
def told (s : GameState) : List (PlayerId × EventKind) := s.log.map fun e => (e.player, e.kind)

@[simp] theorem told_publish (s : GameState) (id : PlayerId) (kind : EventKind) :
    (s.publish id kind).told = s.told ++ [(id, kind)] := by
  rw [told, log_publish, List.map_append]
  rfl

end GameState

/-- The player with a hand from the top of the deck. -/
def Player.dealt (p : Player) : Player :=
  let left := p.zones.deck.length - handSize
  p.onTableau (·.drawn (p.zones.deck.drop left).reverse (p.zones.deck.take left))

namespace Setup

variable {s s' : GameState}

/-- The players of these seats have their hands, and nothing else has happened. -/
structure HandsDealt (ids : List PlayerId) (s s' : GameState) : Prop where
  cards : s'.cards = s.cards
  supply : s'.supply = s.supply
  trash : s'.trash = s.trash
  active : s'.active = s.active
  seats : s'.players.length = s.players.length
  players : ∀ id, s'.player? id = (s.player? id).map fun p => if id ∈ ids then p.dealt else p
  told : s'.told = s.told ++ ids.map fun id => (id, .drawCards handSize)

/-- When the hands of all are dealt, each player has one. -/
theorem HandsDealt.players_eq (h : HandsDealt s.playerIds s s') :
    s'.players = s.players.map Player.dealt := by
  refine List.ext_getElem? fun seat => ?_
  have hseat : s'.players[seat]? = (s.players[seat]?).map fun p =>
      if (⟨seat⟩ : PlayerId) ∈ s.playerIds then p.dealt else p := h.players ⟨seat⟩
  rw [hseat, List.getElem?_map]
  by_cases hlt : seat < s.players.length
  · have hmem : (⟨seat⟩ : PlayerId) ∈ s.playerIds := List.mem_map_of_mem (List.mem_range.mpr hlt)
    simp only [if_pos hmem]
  · rw [List.getElem?_eq_none (Nat.le_of_not_lt hlt)]
    rfl

theorem draw_hand {id : PlayerId} {p : Player} (hp : s.player? id = some p)
    (hdeck : handSize ≤ p.zones.deck.length) :
    ∃ cards, s.draw id handSize =
      .ok (cards, (s.setPlayer id p.dealt).publish id (.drawCards handSize)) := by
  generalize hleft : p.zones.deck.length - handSize = left
  have hsplit : p.zones.deck = p.zones.deck.take left ++ (p.zones.deck.drop left).reverse.reverse := by
    rw [List.reverse_reverse, List.take_append_drop]
  have hlength : (p.zones.deck.drop left).reverse.length = handSize := by
    rw [List.length_reverse, List.length_drop]
    omega
  have hsome : (p.zones.deck.drop left).reverse ≠ [] := by
    intro hnil
    rw [hnil] at hlength
    exact absurd hlength (by decide)
  have hdraw := GameState.draw_of_deck hp hsplit hsome
  rw [hlength] at hdraw
  subst hleft
  exact ⟨_, hdraw⟩

theorem drawHands_dealt_hands {ids : List PlayerId} (hnodup : ids.Nodup)
    (hdecks : ∀ id ∈ ids, ∃ p, s.player? id = some p ∧ handSize ≤ p.zones.deck.length) :
    ∃ s', drawHands ids s = .ok s' ∧ HandsDealt ids s s' := by
  induction ids generalizing s with
  | nil =>
    refine ⟨s, rfl, rfl, rfl, rfl, rfl, rfl, fun id => ?_, (List.append_nil _).symm⟩
    simp
  | cons first rest ih =>
    obtain ⟨hfirst, hrest⟩ := List.nodup_cons.mp hnodup
    obtain ⟨p, hp, hdeck⟩ := hdecks first List.mem_cons_self
    obtain ⟨cards, hdraw⟩ := draw_hand hp hdeck
    generalize hs₁ : (s.setPlayer first p.dealt).publish first (.drawCards handSize) = s₁ at hdraw
    have hplayers : ∀ id, s₁.player? id = if first = id then some p.dealt else s.player? id := by
      intro id
      rw [← hs₁]
      exact GameState.player?_setPlayer (GameState.seat_lt_of_player? hp)
    have hdecks₁ : ∀ id ∈ rest, ∃ p, s₁.player? id = some p ∧ handSize ≤ p.zones.deck.length := by
      intro id hid
      have hother : first ≠ id := fun heq => hfirst (heq ▸ hid)
      rw [hplayers, if_neg hother]
      exact hdecks id (List.mem_cons_of_mem _ hid)
    obtain ⟨s', hs', hdealt⟩ := ih hrest hdecks₁
    refine ⟨s', ?_, ?_⟩
    · rw [drawHands, hdraw]
      exact hs'
    subst hs₁
    refine ⟨hdealt.cards, hdealt.supply, hdealt.trash, hdealt.active, ?_, ?_, ?_⟩
    · exact hdealt.seats.trans (GameState.length_players_setPlayer _ _ _)
    · intro id
      rw [hdealt.players, hplayers]
      by_cases hid : first = id
      · subst hid
        simp [hp, hfirst]
      · simp [hid, Ne.symm hid]
    · rw [hdealt.told, GameState.told_publish, List.append_assoc]
      rfl

end Setup

end DeckBuilder
