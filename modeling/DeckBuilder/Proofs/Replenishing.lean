import DeckBuilder.Proofs.Drawing

/-!
Drawing where the deck may run out. A look at the top cards shuffles the discard pile under a deck that
has fewer; a draw shuffles it only when it has come to the end of the deck. Both come to the same, as
what can be drawn is settled by the deck, the discard pile and the generator: first the cards of the deck
from the top, then those of the shuffled discard pile from the top. So a look tells what a draw brings,
and a draw may be made in two parts.
-/
namespace DeckBuilder

open DeckBuilder.Random

namespace Tableau

/-- More cards are wanted than the deck has, and there are discarded ones to put under it. -/
def RunsOut (t : Tableau) (n : Nat) : Prop := t.zones.deck.length < n ∧ t.zones.discard ≠ []

instance (t : Tableau) (n : Nat) : Decidable (t.RunsOut n) := inferInstanceAs (Decidable (_ ∧ _))

/-- The cards that can be drawn, the next one first. -/
def ahead (t : Tableau) (g : Generator) : List CardId :=
  t.zones.deck.reverse ++ (shuffle t.zones.discard g).1.reverse

/-- Shuffled cards of the discard pile are put under the deck. -/
def refilled (t : Tableau) (cards : List CardId) : Tableau :=
  { t with zones := { t.zones with discard := [], deck := cards ++ t.zones.deck } }

/-- The next cards have come to the hand. If the deck ran out, the deck is now what is left of the
shuffled discard pile. -/
def afterDraw (t : Tableau) (n : Nat) (g : Generator) : Tableau :=
  let deck := t.zones.deck
  let shuffled := (shuffle t.zones.discard g).1
  { t with
    zones := { t.zones with
      hand := t.zones.hand ++ (t.ahead g).take n
      deck :=
        if t.RunsOut n then shuffled.take (shuffled.length - (n - deck.length))
        else deck.take (deck.length - n)
      discard := if t.RunsOut n then [] else t.zones.discard } }

/-- The generator has made the shuffle, if there was one. -/
def rngAfterDraw (t : Tableau) (n : Nat) (g : Generator) : Generator :=
  if t.RunsOut n then (shuffle t.zones.discard g).2 else g

variable {t : Tableau} {n : Nat}

theorem prepare_of_runsOut (h : t.RunsOut n) (g : Generator) :
    t.prepare n g =
      (t.refilled (shuffle t.zones.discard g).1, (shuffle t.zones.discard g).2) := by
  have hsome : ¬ t.zones.discard.isEmpty := by simpa using h.2
  rw [prepare, if_pos h.1, reshuffle, if_neg hsome]
  rfl

/-- If the deck is too short and yet does not run out, nothing is discarded. -/
theorem discard_eq_nil (h : ¬ t.RunsOut n) (hshort : t.zones.deck.length < n) :
    t.zones.discard = [] := by
  by_contra hsome
  exact h ⟨hshort, hsome⟩

theorem prepare_of_not_runsOut (h : ¬ t.RunsOut n) (g : Generator) : t.prepare n g = (t, g) := by
  unfold prepare
  by_cases hshort : t.zones.deck.length < n
  · have hnone : t.zones.discard.isEmpty := List.isEmpty_iff.mpr (discard_eq_nil h hshort)
    rw [if_pos hshort, reshuffle, if_pos hnone]
  · rw [if_neg hshort]

/-- With the discard pile under it the deck has all that can be drawn. -/
theorem not_runsOut_refilled (t : Tableau) (cards : List CardId) (n : Nat) :
    ¬ (t.refilled cards).RunsOut n := fun h => h.2 rfl

theorem draw_of_runsOut (h : t.RunsOut 1) (g : Generator) :
    t.draw g = (t.refilled (shuffle t.zones.discard g).1).draw (shuffle t.zones.discard g).2 := by
  unfold draw
  rw [prepare_of_runsOut h, prepare_of_not_runsOut (t.not_runsOut_refilled _ 1)]

theorem reverse_deck_refilled (t : Tableau) (g : Generator) :
    (t.refilled (shuffle t.zones.discard g).1).zones.deck.reverse = t.ahead g :=
  List.reverse_append

/-- If the deck does not run out, the discard pile does not matter. -/
theorem take_ahead (h : ¬ t.RunsOut n) (g : Generator) :
    (t.ahead g).take n = t.zones.deck.reverse.take n := by
  by_cases henough : n ≤ t.zones.deck.length
  · exact List.take_append_of_le_length (by rwa [List.length_reverse])
  · have hnone := discard_eq_nil h (Nat.lt_of_not_le henough)
    rw [ahead, hnone, shuffle_nil, List.reverse_nil, List.append_nil]

theorem length_ahead (t : Tableau) (g : Generator) :
    (t.ahead g).length = t.zones.deck.length + t.zones.discard.length := by
  rw [ahead, List.length_append, List.length_reverse, List.length_reverse, length_shuffle]

theorem afterDraw_of_not_runsOut (h : ¬ t.RunsOut n) (g : Generator) :
    t.afterDraw n g = t.drawn (t.zones.deck.reverse.take n)
      (t.zones.deck.take (t.zones.deck.length - n)) := by
  simp only [afterDraw, if_neg h, take_ahead h, drawn]

/-- A draw that comes to the end of the deck is one from the deck with the discard pile under it. -/
theorem afterDraw_of_runsOut (h : t.RunsOut n) (g : Generator) :
    t.afterDraw n g =
      (t.refilled (shuffle t.zones.discard g).1).afterDraw n (shuffle t.zones.discard g).2 := by
  rw [afterDraw_of_not_runsOut (t.not_runsOut_refilled _ n), reverse_deck_refilled]
  have hshort := h.1
  have hle : (shuffle t.zones.discard g).1.length + t.zones.deck.length - n ≤
      (shuffle t.zones.discard g).1.length := by omega
  have hdeck : (shuffle t.zones.discard g).1.length - (n - t.zones.deck.length) =
      (shuffle t.zones.discard g).1.length + t.zones.deck.length - n := by omega
  simp only [afterDraw, if_pos h, drawn, refilled, List.length_append, hdeck,
    List.take_append_of_le_length hle]

/-! ### Draws in two parts -/

theorem discard_afterDraw_of_not_runsOut (h : ¬ t.RunsOut n) (g : Generator) :
    (t.afterDraw n g).zones.discard = t.zones.discard := if_neg h

theorem length_deck_afterDraw (h : ¬ t.RunsOut n) (g : Generator) :
    (t.afterDraw n g).zones.deck.length = t.zones.deck.length - n := by
  rw [afterDraw_of_not_runsOut h]
  exact List.length_take_of_le (Nat.sub_le _ _)

/-- The deck runs out at most once. -/
theorem runsOut_afterDraw (t : Tableau) (a b : Nat) (g : Generator) :
    (t.afterDraw a g).RunsOut b ↔ ¬ t.RunsOut a ∧ t.RunsOut (a + b) := by
  by_cases ha : t.RunsOut a
  · have hnone : (t.afterDraw a g).zones.discard = [] := if_pos ha
    exact ⟨fun h => absurd hnone h.2, fun h => absurd ha h.1⟩
  · have hsame := discard_afterDraw_of_not_runsOut ha g
    rw [RunsOut, length_deck_afterDraw ha, hsame]
    constructor
    · rintro ⟨hshort, hsome⟩
      have henough : ¬ t.zones.deck.length < a := fun hlt => ha ⟨hlt, hsome⟩
      exact ⟨ha, by omega, hsome⟩
    · rintro ⟨-, hshort, hsome⟩
      have henough : ¬ t.zones.deck.length < a := fun hlt => ha ⟨hlt, hsome⟩
      exact ⟨by omega, hsome⟩

/-- After a draw the cards ahead are the rest of those that were ahead before it. -/
theorem ahead_afterDraw (t : Tableau) (n : Nat) (g : Generator) :
    (t.afterDraw n g).ahead (t.rngAfterDraw n g) = (t.ahead g).drop n := by
  by_cases h : t.RunsOut n
  · have hall : t.zones.deck.reverse.drop n = [] := by
      rw [List.drop_eq_nil_iff, List.length_reverse]
      exact Nat.le_of_lt h.1
    simp only [ahead, afterDraw, rngAfterDraw, if_pos h, shuffle_nil, List.reverse_nil,
      List.append_nil, List.drop_append, hall, List.nil_append, List.length_reverse,
      List.drop_reverse]
  · have hdeck : (t.afterDraw n g).zones.deck.reverse = t.zones.deck.reverse.drop n := by
      rw [afterDraw_of_not_runsOut h, List.drop_reverse]
      rfl
    have hsame := discard_afterDraw_of_not_runsOut h g
    rw [ahead, hdeck, hsame, rngAfterDraw, if_neg h, ahead, List.drop_append, List.length_reverse]
    by_cases henough : n ≤ t.zones.deck.length
    · rw [Nat.sub_eq_zero_of_le henough, List.drop_zero]
    · have hnone := discard_eq_nil h (Nat.lt_of_not_le henough)
      rw [hnone, shuffle_nil, List.reverse_nil, List.drop_nil]

theorem rngAfterDraw_add (t : Tableau) (a b : Nat) (g : Generator) :
    (t.afterDraw a g).rngAfterDraw b (t.rngAfterDraw a g) = t.rngAfterDraw (a + b) g := by
  by_cases ha : t.RunsOut a
  · have hadd : t.RunsOut (a + b) := ⟨Nat.lt_add_right b ha.1, ha.2⟩
    have hb : ¬ (t.afterDraw a g).RunsOut b := fun h => ((t.runsOut_afterDraw a b g).mp h).1 ha
    simp only [rngAfterDraw, if_pos ha, if_pos hadd, if_neg hb]
  · have hsame := discard_afterDraw_of_not_runsOut ha g
    have hb : (t.afterDraw a g).RunsOut b ↔ t.RunsOut (a + b) := by
      simp [t.runsOut_afterDraw a b g, ha]
    simp only [rngAfterDraw, hsame, if_neg ha, hb]

/-- Drawing so many cards and then so many more is drawing as many as that together. -/
theorem afterDraw_add (t : Tableau) (a b : Nat) (g : Generator) :
    (t.afterDraw a g).afterDraw b (t.rngAfterDraw a g) = t.afterDraw (a + b) g := by
  have hout := t.runsOut_afterDraw a b g
  have hlength := length_shuffle t.zones.discard g
  have hhand : (t.afterDraw a g).zones.hand ++
      ((t.afterDraw a g).ahead (t.rngAfterDraw a g)).take b =
        t.zones.hand ++ (t.ahead g).take (a + b) := by
    rw [ahead_afterDraw, List.take_add, ← List.append_assoc]
    rfl
  rw [afterDraw, hhand]
  by_cases ha : t.RunsOut a
  · have hshort := ha.1
    have hadd : t.RunsOut (a + b) := ⟨Nat.lt_add_right b ha.1, ha.2⟩
    have hb : ¬ (t.afterDraw a g).RunsOut b := fun h => (hout.mp h).1 ha
    simp only [if_neg hb]
    simp only [afterDraw, if_pos ha, if_pos hadd, List.take_take, List.length_take]
    congr 3
    omega
  · have hsame := discard_afterDraw_of_not_runsOut ha g
    have hdeck := length_deck_afterDraw ha g
    rw [rngAfterDraw, if_neg ha, hsame, hdeck]
    by_cases hadd : t.RunsOut (a + b)
    · have henough : ¬ t.zones.deck.length < a := fun hlt => ha ⟨hlt, hadd.2⟩
      have hb : (t.afterDraw a g).RunsOut b := hout.mpr ⟨ha, hadd⟩
      simp only [if_pos hb]
      simp only [afterDraw, if_pos hadd]
      congr 3
      omega
    · have hb : ¬ (t.afterDraw a g).RunsOut b := fun h => hadd (hout.mp h).2
      simp only [if_neg hb]
      simp only [afterDraw, if_neg ha, if_neg hadd, List.take_take]
      congr 3
      omega

end Tableau

namespace GameState

variable {s : GameState} {id : PlayerId} {p : Player} {n : Nat}

/-- The player's discard pile has been shuffled under the deck, and this was told of. -/
def refilled (s : GameState) (id : PlayerId) (p : Player) : GameState :=
  let (cards, rng) := shuffle p.zones.discard s.rng
  ({ s.setPlayer id (p.onTableau (·.refilled cards)) with rng } : GameState).publish id
    (.shuffle p.zones.discard.length)

/-- The player with the discard pile under the deck. -/
theorem player?_refilled (hp : s.player? id = some p) :
    (s.refilled id p).player? id =
      some (p.onTableau (·.refilled (shuffle p.zones.discard s.rng).1)) :=
  player?_setPlayer_self _ hp

theorem refilled_setPlayer (s : GameState) (id : PlayerId) (p q : Player) :
    (s.refilled id p).setPlayer id q =
      ({ s.setPlayer id q with rng := (shuffle p.zones.discard s.rng).2 } : GameState).publish id
        (.shuffle p.zones.discard.length) := by
  rw [← setPlayer_setPlayer (s := s) (p.onTableau (·.refilled (shuffle p.zones.discard s.rng).1)) q]
  rfl

theorem told_refilled (s : GameState) (id : PlayerId) (p : Player) :
    (s.refilled id p).told = s.told ++ [(id, .shuffle p.zones.discard.length)] :=
  told_publish _ _ _

theorem topCards_of_not_runsOut (hp : s.player? id = some p) (h : ¬ p.RunsOut n) :
    s.topCards id n = .ok ((p.ahead s.rng).take n, s) := by
  have htold : ¬ 0 < if p.zones.deck.length < n then p.zones.discard.length else 0 := by
    by_cases hshort : p.zones.deck.length < n
    · simp [hshort, Tableau.discard_eq_nil h hshort]
    · simp [hshort]
  have hsame : ({ s.setPlayer id { p with toTableau := p.toTableau } with rng := s.rng } :
      GameState) = s := setPlayer_self hp
  simp only [topCards, hp, Tableau.topCards, Tableau.prepare_of_not_runsOut h, if_neg htold, hsame,
    Tableau.take_ahead h, CardRow.topCards]

theorem topCards_of_runsOut (hp : s.player? id = some p) (h : p.RunsOut n) :
    s.topCards id n = .ok ((p.ahead s.rng).take n, s.refilled id p) := by
  have htold : 0 < if p.zones.deck.length < n then p.zones.discard.length else 0 := by
    rw [if_pos h.1]
    exact List.length_pos_iff.mpr h.2
  have hahead := p.reverse_deck_refilled s.rng
  simp only [topCards, hp, Tableau.topCards, Tableau.prepare_of_runsOut h, if_pos htold,
    CardRow.topCards, hahead]
  rw [if_pos h.1]
  rfl

/-! ### Card after card -/

/-- Where there is no card left none is drawn. -/
theorem drawEach_of_empty (hp : s.player? id = some p) (hdeck : p.zones.deck = [])
    (hdiscard : p.zones.discard = []) (count : Nat) : drawEach id count s = .ok ([], s) := by
  cases count with
  | zero => rfl
  | succ count =>
    have hprepare : p.prepare 1 s.rng = (p.toTableau, s.rng) :=
      Tableau.prepare_of_not_runsOut (fun h => h.2 hdiscard) _
    have hone : s.drawOne id p = (none, s) := by
      have hsame : ({ s.setPlayer id { p with toTableau := p.toTableau } with rng := s.rng } :
          GameState) = s := setPlayer_self hp
      simp only [drawOne, Tableau.draw, hprepare, hdeck, hdiscard, CardRow.draw, List.getLast?_nil,
        List.length_nil, ite_self, Nat.lt_irrefl, if_false, hsame]
    rw [drawEach, hp]
    dsimp only
    rw [hone]

theorem drawEach_of_not_runsOut (hp : s.player? id = some p) (h : ¬ p.RunsOut n) :
    drawEach id n s = .ok (p.zones.deck.reverse.take n, s.setPlayer id (p.onTableau
      (·.drawn (p.zones.deck.reverse.take n) (p.zones.deck.take (p.zones.deck.length - n))))) := by
  have hdeck : p.zones.deck = p.zones.deck.take (p.zones.deck.length - n) ++
      (p.zones.deck.reverse.take n).reverse := by
    rw [List.take_reverse, List.reverse_reverse, List.take_append_drop]
  have hlength : (p.zones.deck.reverse.take n).length = min n p.zones.deck.length := by
    rw [List.length_take, List.length_reverse]
  generalize p.zones.deck.reverse.take n = cards at hdeck hlength ⊢
  by_cases henough : n ≤ p.zones.deck.length
  · rw [Nat.min_eq_left henough] at hlength
    rw [← hlength] at hdeck ⊢
    exact drawEach_of_deck hp hdeck
  · have hshort : p.zones.deck.length ≤ n := Nat.le_of_not_le henough
    have hnone := Tableau.discard_eq_nil h (Nat.lt_of_not_le henough)
    rw [Nat.min_eq_right hshort] at hlength
    have hrest : p.zones.deck.take (p.zones.deck.length - n) = [] := by
      rw [Nat.sub_eq_zero_of_le hshort, List.take_zero]
    generalize p.zones.deck.take (p.zones.deck.length - n) = rest at hdeck hrest ⊢
    have hn : n = cards.length + (n - p.zones.deck.length) := by omega
    have hafter := drawEach_of_empty
      (player?_setPlayer_self (p.onTableau (·.drawn cards rest)) hp) hrest hnone
    rw [hn, drawEach_add_of_deck hp hdeck, hafter]
    exact congrArg (fun all => Except.ok (all, _)) (List.append_nil cards)

/-- A card drawn from an empty deck is one drawn from the shuffled discard pile. -/
theorem drawOne_of_empty (hdeck : p.zones.deck = []) (hdiscard : p.zones.discard ≠ []) :
    s.drawOne id p = (s.refilled id p).drawOne id
      (p.onTableau (·.refilled (shuffle p.zones.discard s.rng).1)) := by
  have hout : p.RunsOut 1 := ⟨by simp [hdeck], hdiscard⟩
  have htold : 0 < if p.zones.deck.isEmpty then p.zones.discard.length else 0 := by
    rw [hdeck]
    exact List.length_pos_iff.mpr hdiscard
  obtain ⟨rest, card, hshuffled⟩ : ∃ rest card, (shuffle p.zones.discard s.rng).1 = rest ++ [card] := by
    refine ⟨_, _, (List.dropLast_concat_getLast fun hnil => hdiscard ?_).symm⟩
    exact List.eq_nil_of_length_eq_zero (by rw [← length_shuffle _ s.rng, hnil, List.length_nil])
  have hfilled : (p.refilled (shuffle p.zones.discard s.rng).1).zones.deck = rest ++ [card] := by
    simp [Tableau.refilled, hdeck, hshuffled]
  have hplayer : (p.onTableau (·.refilled (shuffle p.zones.discard s.rng).1)).zones.deck =
      rest ++ [card] := hfilled
  rw [drawOne_of_deck hplayer, drawOne, Tableau.draw_of_runsOut hout, Tableau.draw_of_deck hfilled,
    refilled_setPlayer]
  dsimp only
  rw [if_pos htold, hdeck]
  rfl

/-- A draw that comes to the end of the deck is one from the deck with the discard pile under it. -/
theorem drawEach_of_runsOut (hp : s.player? id = some p) (h : p.RunsOut n) :
    drawEach id n s = drawEach id n (s.refilled id p) := by
  obtain ⟨more, hn⟩ : ∃ more, n = p.zones.deck.reverse.length + (more + 1) := by
    refine ⟨n - p.zones.deck.length - 1, ?_⟩
    have hshort := h.1
    rw [List.length_reverse]
    omega
  have hdeck : p.zones.deck = [] ++ p.zones.deck.reverse.reverse := by
    rw [List.reverse_reverse, List.nil_append]
  have hfilled : (p.onTableau (·.refilled (shuffle p.zones.discard s.rng).1)).zones.deck =
      (shuffle p.zones.discard s.rng).1 ++ p.zones.deck.reverse.reverse := by
    rw [List.reverse_reverse]
    rfl
  -- once the deck is drawn, the one player has the discard pile to shuffle, the other has it as deck
  generalize hempty : p.onTableau (·.drawn p.zones.deck.reverse []) = q
  have hqdeck : q.zones.deck = [] := hempty ▸ rfl
  have hqdiscard : q.zones.discard = p.zones.discard := hempty ▸ rfl
  have hq : (s.setPlayer id q).player? id = some q := player?_setPlayer_self q hp
  have hsame : (p.onTableau (·.refilled (shuffle p.zones.discard s.rng).1)).onTableau
      (·.drawn p.zones.deck.reverse (shuffle p.zones.discard s.rng).1) =
        q.onTableau (·.refilled (shuffle q.zones.discard s.rng).1) := by
    rw [← hempty]
    simp [Player.onTableau, Tableau.drawn, Tableau.refilled]
  have hrefilled : (s.refilled id p).setPlayer id
      (q.onTableau (·.refilled (shuffle q.zones.discard s.rng).1)) =
        (s.setPlayer id q).refilled id q := by
    rw [refilled_setPlayer, ← hqdiscard, ← setPlayer_setPlayer q]
    rfl
  rw [hn, drawEach_add_of_deck hp hdeck, hempty, drawEach_add_of_deck (player?_refilled hp) hfilled,
    hsame, hrefilled]
  rw [drawEach, drawEach, hq, player?_refilled hq]
  dsimp only
  rw [drawOne_of_empty hqdeck (hqdiscard ▸ h.2)]

theorem draw_of_runsOut (hp : s.player? id = some p) (h : p.RunsOut n) :
    s.draw id n = (s.refilled id p).draw id n := by
  rw [draw, draw, drawEach_of_runsOut hp h]

/-! ### A whole draw -/

/-- The player drew up to so many cards: those ahead come to the hand, a shuffle is told of if the
deck ran out, and the number of cards if there were any. -/
structure Drew (s : GameState) (id : PlayerId) (p : Player) (n : Nat) (cards : List CardId)
    (s' : GameState) : Prop where
  cards_eq : cards = (p.ahead s.rng).take n
  count : cards.length = min n (p.zones.deck.length + p.zones.discard.length)
  told : s'.told = s.told ++
    (if p.RunsOut n then [(id, .shuffle p.zones.discard.length)] else []) ++
      if cards = [] then [] else [(id, .drawCards cards.length)]
  state : { s' with events := s.events, logger := s.logger } =
    { s.setPlayer id (p.onTableau (·.afterDraw n s.rng)) with rng := p.rngAfterDraw n s.rng }

theorem draw_of_not_runsOut (hp : s.player? id = some p) (h : ¬ p.RunsOut n) :
    ∃ cards s', s.draw id n = .ok (cards, s') ∧ Drew s id p n cards s' := by
  have hafter : p.onTableau (·.afterDraw n s.rng) = p.onTableau
      (·.drawn (p.zones.deck.reverse.take n) (p.zones.deck.take (p.zones.deck.length - n))) := by
    rw [Player.onTableau, Tableau.afterDraw_of_not_runsOut h]
    rfl
  have hcount : (p.zones.deck.reverse.take n).length =
      min n (p.zones.deck.length + p.zones.discard.length) := by
    rw [← Tableau.take_ahead h s.rng, List.length_take, Tableau.length_ahead]
  have hcards := (Tableau.take_ahead h s.rng).symm
  have hrng : p.rngAfterDraw n s.rng = s.rng := if_neg h
  rw [draw, drawEach_of_not_runsOut hp h, ← hafter]
  generalize p.zones.deck.reverse.take n = cards at hcards hcount ⊢
  refine ⟨cards, _, rfl, hcards, hcount, ?_, ?_⟩
  · rw [if_neg h, List.append_nil]
    cases cards with
    | nil => exact (List.append_nil _).symm
    | cons card cards => exact told_publish _ _ _
  · rw [hrng]
    cases cards <;> rfl

/-- A draw from the deck with the discard pile under it, where that is what the draw itself does. -/
theorem Drew.of_refilled {cards : List CardId} {s' : GameState} (h : p.RunsOut n)
    (hdrew : Drew (s.refilled id p) id
      (p.onTableau (·.refilled (shuffle p.zones.discard s.rng).1)) n cards s') :
    Drew s id p n cards s' := by
  have hnot := p.not_runsOut_refilled (shuffle p.zones.discard s.rng).1 n
  have hahead : (p.refilled (shuffle p.zones.discard s.rng).1).ahead
      (shuffle p.zones.discard s.rng).2 = p.ahead s.rng := by
    have hdiscard : (p.refilled (shuffle p.zones.discard s.rng).1).zones.discard = [] := rfl
    rw [Tableau.ahead, Tableau.reverse_deck_refilled, hdiscard, shuffle_nil, List.reverse_nil,
      List.append_nil]
  have hcards : cards = (p.ahead s.rng).take n := hahead ▸ hdrew.cards_eq
  refine ⟨hcards, ?_, ?_, ?_⟩
  · rw [hcards, List.length_take, Tableau.length_ahead]
  · have htold : s'.told = (s.refilled id p).told ++ [] ++ _ := if_neg hnot ▸ hdrew.told
    rw [htold, told_refilled, List.append_nil, if_pos h]
  · have hrng : p.rngAfterDraw n s.rng = (shuffle p.zones.discard s.rng).2 := if_pos h
    have hrng' : (p.onTableau (·.refilled (shuffle p.zones.discard s.rng).1)).rngAfterDraw n
        (s.refilled id p).rng = (shuffle p.zones.discard s.rng).2 := if_neg hnot
    have hafter : p.onTableau (·.afterDraw n s.rng) =
        (p.onTableau (·.refilled (shuffle p.zones.discard s.rng).1)).onTableau
          (·.afterDraw n (shuffle p.zones.discard s.rng).2) := by
      rw [Player.onTableau, Tableau.afterDraw_of_runsOut h]
      rfl
    have hstate := hdrew.state
    rw [refilled_setPlayer, hrng'] at hstate
    rw [hrng, hafter]
    exact congrArg (fun x : GameState => { x with events := s.events, logger := s.logger }) hstate

theorem exists_drew (hp : s.player? id = some p) (n : Nat) :
    ∃ cards s', s.draw id n = .ok (cards, s') ∧ Drew s id p n cards s' := by
  by_cases h : p.RunsOut n
  · obtain ⟨cards, s', hdraw, hdrew⟩ :=
      draw_of_not_runsOut (player?_refilled hp) (p.not_runsOut_refilled _ n)
    exact ⟨cards, s', (draw_of_runsOut hp h).trans hdraw, hdrew.of_refilled h⟩
  · exact draw_of_not_runsOut hp h

section

variable {cards : List CardId} {s' : GameState}

theorem Drew.player? (h : Drew s id p n cards s') (hp : s.player? id = some p) :
    s'.player? id = some (p.onTableau (·.afterDraw n s.rng)) := by
  have hget := player?_setPlayer_self (p.onTableau (·.afterDraw n s.rng)) hp
  exact (congrArg (fun x : GameState => x.player? id) h.state).trans hget

theorem Drew.player?_of_ne (h : Drew s id p n cards s') {other : PlayerId} (hother : other ≠ id) :
    s'.player? other = s.player? other :=
  (congrArg (fun x : GameState => x.player? other) h.state).trans
    (player?_setPlayer_of_ne hother _)

theorem Drew.active (h : Drew s id p n cards s') : s'.active = s.active := by
  have hactive := congrArg GameState.active h.state
  exact hactive

theorem Drew.seats (h : Drew s id p n cards s') : s'.players.length = s.players.length :=
  (congrArg (fun x : GameState => x.players.length) h.state).trans
    (length_players_setPlayer s id _)

theorem Drew.rng (h : Drew s id p n cards s') : s'.rng = p.rngAfterDraw n s.rng :=
  congrArg (fun x : GameState => x.rng) h.state

end

section

variable {a b : Nat} {first second : List CardId} {s₁ s₂ : GameState}

theorem Drew.append (h₁ : Drew s id p a first s₁)
    (h₂ : Drew s₁ id (p.onTableau (·.afterDraw a s.rng)) b second s₂) :
    first ++ second = (p.ahead s.rng).take (a + b) := by
  have hahead : (p.afterDraw a s.rng).ahead s₁.rng = (p.ahead s.rng).drop a :=
    h₁.rng ▸ p.ahead_afterDraw a s.rng
  have hsecond : second = ((p.ahead s.rng).drop a).take b := hahead ▸ h₂.cards_eq
  rw [h₁.cards_eq, hsecond, List.take_add]

/-- After two draws everything but the log is as after one draw. -/
theorem Drew.state_add (h₁ : Drew s id p a first s₁)
    (h₂ : Drew s₁ id (p.onTableau (·.afterDraw a s.rng)) b second s₂) :
    { s₂ with events := s.events, logger := s.logger } =
      { s.setPlayer id (p.onTableau (·.afterDraw (a + b) s.rng)) with
        rng := p.rngAfterDraw (a + b) s.rng } := by
  have hplayer : (p.onTableau (·.afterDraw a s.rng)).onTableau (·.afterDraw b s₁.rng) =
      p.onTableau (·.afterDraw (a + b) s.rng) := by
    rw [h₁.rng, Player.onTableau, Player.onTableau, Player.onTableau]
    exact congrArg (fun t => { p with toTableau := t }) (p.afterDraw_add a b s.rng)
  have hrng : (p.onTableau (·.afterDraw a s.rng)).rngAfterDraw b s₁.rng =
      p.rngAfterDraw (a + b) s.rng := by
    rw [h₁.rng]
    exact p.rngAfterDraw_add a b s.rng
  have hthen := h₂.state
  rw [hplayer, hrng] at hthen
  -- what the second draw does to the state is the same with the log of the beginning
  have hlog : { s₂ with events := s.events, logger := s.logger } =
      { ({ s₁ with events := s.events, logger := s.logger } : GameState).setPlayer id
          (p.onTableau (·.afterDraw (a + b) s.rng)) with rng := p.rngAfterDraw (a + b) s.rng } :=
    congrArg (fun x : GameState => { x with events := s.events, logger := s.logger }) hthen
  have hboth : (s.setPlayer id (p.onTableau (·.afterDraw a s.rng))).setPlayer id
      (p.onTableau (·.afterDraw (a + b) s.rng)) =
        s.setPlayer id (p.onTableau (·.afterDraw (a + b) s.rng)) := setPlayer_setPlayer _ _
  rw [hlog, h₁.state]
  exact congrArg (fun x : GameState => { x with rng := p.rngAfterDraw (a + b) s.rng }) hboth

end

/-- A draw brings the cards ahead in their order, and it may be made in two parts. -/
theorem draw_in_order (hp : s.player? id = some p) :
    (∀ n, ∃ cards s', s.draw id n = .ok (cards, s') ∧ Drew s id p n cards s') ∧
      ∀ a b, ∃ first second s₁ s₂ s₃, s.draw id a = .ok (first, s₁) ∧
        s₁.draw id b = .ok (second, s₂) ∧ s.draw id (a + b) = .ok (first ++ second, s₃) ∧
          { s₂ with events := s₃.events, logger := s₃.logger } = s₃ := by
  refine ⟨exists_drew hp, fun a b => ?_⟩
  obtain ⟨first, s₁, hdraw₁, h₁⟩ := exists_drew hp a
  obtain ⟨second, s₂, hdraw₂, h₂⟩ := exists_drew (h₁.player? hp) b
  obtain ⟨cards, s₃, hdraw₃, h₃⟩ := exists_drew hp (a + b)
  have hcards : cards = first ++ second := h₃.cards_eq.trans (h₁.append h₂).symm
  have hstate := (h₁.state_add h₂).trans h₃.state.symm
  refine ⟨first, second, s₁, s₂, s₃, hdraw₁, hdraw₂, hcards ▸ hdraw₃, ?_⟩
  exact congrArg (fun x : GameState => { x with events := s₃.events, logger := s₃.logger }) hstate

/-- A player with two cards in the deck and three in the discard pile. -/
def shortPlayer : Player where
  id := ⟨0⟩
  name := "Ann"
  zones := { deck := [⟨0⟩, ⟨1⟩], discard := [⟨2⟩, ⟨3⟩, ⟨4⟩] }

def shortTable : GameState where
  cards := {}
  players := [shortPlayer]
  supply := { piles := [], baseCount := 0 }
  rng := default

/-- Four cards: first the two of the deck, then two of the shuffled discard pile. -/
theorem draw_four_of_two :
    ∃ cards s', shortTable.draw ⟨0⟩ 4 = .ok (cards, s') ∧ cards.length = 4 ∧
      cards.take 2 = [⟨1⟩, ⟨0⟩] ∧
        s'.told = [(⟨0⟩, .shuffle 3), (⟨0⟩, .drawCards 4)] := by
  have hp : shortTable.player? ⟨0⟩ = some shortPlayer := rfl
  obtain ⟨cards, s', hdraw, hdrew⟩ := (draw_in_order hp).1 4
  have hcount : cards.length = 4 := hdrew.count
  have hsome : cards ≠ [] := by
    rintro rfl
    exact absurd hcount (by decide)
  have hfirst : cards.take 2 = [⟨1⟩, ⟨0⟩] := by
    rw [hdrew.cards_eq]
    rfl
  have htold := hdrew.told
  have hout : shortPlayer.RunsOut 4 := by decide
  rw [if_pos hout, if_neg hsome, hcount] at htold
  exact ⟨cards, s', hdraw, hcount, hfirst, htold⟩

/-! ### A look at the top cards -/

/-- The player has looked at cards: deck and discard pile have the same cards as before, and nothing
else of what the player has is different. -/
def Peeked (s : GameState) (id : PlayerId) (p : Player) (s' : GameState) : Prop :=
  ∃ deck discard, (deck ++ discard).Perm (p.zones.deck ++ p.zones.discard) ∧
    s'.players = s.players.set id.seat
      (p.onTableau fun t => { t with zones := { t.zones with deck, discard } })

theorem peeked_self (hp : s.player? id = some p) : Peeked s id p s :=
  ⟨p.zones.deck, p.zones.discard, .refl _, (congrArg players (setPlayer_self hp)).symm⟩

theorem peeked_refilled (s : GameState) (id : PlayerId) (p : Player) :
    Peeked s id p (s.refilled id p) := by
  refine ⟨(shuffle p.zones.discard s.rng).1 ++ p.zones.deck, [], ?_, rfl⟩
  rw [List.append_nil]
  exact List.perm_append_comm.trans ((perm_shuffle _ _).append_left _)

/-- A look at the top cards tells what a draw of as many brings, and how it leaves the game. The draw
after the look tells of the cards drawn, and of no shuffle. -/
theorem peek_foretells_draw (hp : s.player? id = some p) (n : Nat) :
    ∃ cards s₁ s₂, s.topCards id n = .ok (cards, s₁) ∧ s.draw id n = .ok (cards, s₂) ∧
      s₁.draw id n = .ok (cards, s₂) ∧ s₁.rng = s₂.rng ∧ Peeked s id p s₁ ∧
        s₂.told = s₁.told ++ if cards = [] then [] else [(id, .drawCards cards.length)] := by
  obtain ⟨cards, s₂, hdraw, hdrew⟩ := exists_drew hp n
  by_cases h : p.RunsOut n
  · have hlook := topCards_of_runsOut hp h
    have hsame := (draw_of_runsOut hp h).symm
    have hrng : (s.refilled id p).rng = s₂.rng := (hdrew.rng.trans (if_pos h)).symm
    have htold := hdrew.told
    rw [if_pos h, ← told_refilled] at htold
    rw [← hdrew.cards_eq] at hlook
    exact ⟨cards, _, s₂, hlook, hdraw, hsame.trans hdraw, hrng, peeked_refilled s id p, htold⟩
  · have hlook := topCards_of_not_runsOut hp h
    have hrng : s.rng = s₂.rng := (hdrew.rng.trans (if_neg h)).symm
    have htold := hdrew.told
    rw [if_neg h, List.append_nil] at htold
    rw [← hdrew.cards_eq] at hlook
    exact ⟨cards, s, s₂, hlook, hdraw, hdraw, hrng, peeked_self hp, htold⟩

/-- Of four cards two are not yet in the deck; the draw after the look shuffles nothing. -/
theorem peek_four_of_two :
    ∃ cards s₁ s₂, shortTable.topCards ⟨0⟩ 4 = .ok (cards, s₁) ∧
      s₁.draw ⟨0⟩ 4 = .ok (cards, s₂) ∧ shortTable.draw ⟨0⟩ 4 = .ok (cards, s₂) ∧
        Peeked shortTable ⟨0⟩ shortPlayer s₁ := by
  have hp : shortTable.player? ⟨0⟩ = some shortPlayer := rfl
  obtain ⟨cards, s₁, s₂, hlook, hdraw, hafter, -, hpeeked, -⟩ := peek_foretells_draw hp 4
  exact ⟨cards, s₁, s₂, hlook, hafter, hdraw, hpeeked⟩

end GameState

end DeckBuilder
