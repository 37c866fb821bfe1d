import DeckBuilder.Proofs.Turns
import Mathlib.Logic.Function.Iterate

/-!
What is told of the generator. A shuffle of so many cards calls for one random number less than there
are cards, and it is told of with their number. The number that is told is worked out apart from the
shuffle, before it; here the two are brought together, so that whatever touches the state either leaves
the generator and the log alone or adds one event to the log and moves the generator on by what this
event stands for.
-/
namespace DeckBuilder

namespace Generator

/-- The generator after so many more calls for a random number. -/
def after (g : Generator) (calls : Nat) : Generator := (fun g => g.float.2)^[calls] g

theorem after_succ (g : Generator) (calls : Nat) :
    g.after (calls + 1) = (g.advance 2).after calls := rfl

theorem after_add (g : Generator) (m n : Nat) : g.after (m + n) = (g.after m).after n := by
  unfold after
  rw [Nat.add_comm, Function.iterate_add_apply]

end Generator

namespace Random

theorem picks_snd (n : Nat) (g : Generator) : (picks n g).2 = g.after n := by
  induction n generalizing g with
  | zero => rfl
  | succ n ih =>
    change (picks n (g.index (n + 2)).2).2 = g.after (n + 1)
    rw [Generator.index_snd g (Nat.succ_pos _), ih, Generator.after_succ]

theorem shuffle_snd {α : Type} (xs : List α) (g : Generator) :
    (shuffle xs g).2 = g.after (xs.length - 1) := picks_snd _ g

end Random

namespace Tableau

/-- The number of cards that are shuffled if `n` are wanted from the deck. -/
def shuffled (t : Tableau) (n : Nat) : Nat :=
  if t.zones.deck.length < n then t.zones.discard.length else 0

theorem prepare_snd (t : Tableau) (n : Nat) (g : Generator) :
    (t.prepare n g).2 = g.after (t.shuffled n - 1) := by
  unfold prepare shuffled reshuffle
  by_cases hshort : t.zones.deck.length < n
  · rw [if_pos hshort, if_pos hshort]
    by_cases hnone : t.zones.discard.isEmpty
    · rw [if_pos hnone, List.isEmpty_iff.mp hnone]
      rfl
    · rw [if_neg hnone]
      exact Random.shuffle_snd _ g
  · rw [if_neg hshort, if_neg hshort]
    rfl

theorem draw_generator (t : Tableau) (g : Generator) :
    (t.draw g).2.2 = g.after (t.shuffled 1 - 1) := by
  rw [← prepare_snd]
  unfold draw
  dsimp only
  split <;> rfl

end Tableau

namespace EventKind

/-- The random numbers that go into what an event tells of: one for every card that is shuffled but
the last. -/
def calls : EventKind → Nat
  | .shuffle cards => cards - 1
  | _ => 0

theorem Passing.calls_eq_zero {kind : EventKind} (h : kind.Passing) : kind.calls = 0 := by
  cases kind with
  | shuffle => exact h.elim
  | _ => rfl

end EventKind

/-- What a touch does to the log and the generator, and what it leaves alone. -/
structure GameState.Touched (s s' : GameState) : Prop where
  ids : s'.players.map (·.id) = s.players.map (·.id)
  turn : s'.turn = s.turn
  turnStart : s'.turnStart = s.turnStart
  log : (s'.log = s.log ∧ s'.rng = s.rng) ∨
    ∃ id kind, s'.log = s.log ++ [s.events.next id s.turn kind] ∧ s'.rng = s.rng.after kind.calls

namespace GameState

variable {s s' : GameState}

theorem length_players_of_ids (h : s'.players.map (·.id) = s.players.map (·.id)) :
    s'.players.length = s.players.length := by
  simpa using congrArg List.length h

theorem Touched.aside (hids : s'.players.map (·.id) = s.players.map (·.id))
    (hturn : s'.turn = s.turn) (hstart : s'.turnStart = s.turnStart) (hevents : s'.events = s.events)
    (hrng : s'.rng = s.rng) : s.Touched s' :=
  ⟨hids, hturn, hstart, .inl ⟨congrArg (·.events.toList) hevents, hrng⟩⟩

/-- Cards are shuffled into a player's deck: this is told of if there are any. -/
theorem Touched.reshuffled {id : PlayerId} {p : Player} (hp : s.player? id = some p)
    {tableau : Tableau} (hid : tableau.id = p.id) {rng : Generator} {cards : Nat}
    (hrng : rng = s.rng.after (cards - 1)) :
    let s' := { s.setPlayer id { p with toTableau := tableau } with rng }
    s.Touched (if 0 < cards then s'.publish id (.shuffle cards) else s') := by
  intro s'
  have hids : s'.players.map (·.id) = s.players.map (·.id) := map_setPlayer hp _ hid
  by_cases hcards : 0 < cards
  · rw [if_pos hcards]
    exact ⟨hids, rfl, rfl, .inr ⟨id, .shuffle cards, log_publish s' id _, hrng⟩⟩
  · rw [if_neg hcards]
    obtain rfl : cards = 0 := Nat.eq_zero_of_not_pos hcards
    exact .aside hids rfl rfl rfl hrng

end GameState

theorem Touch.touched {s s' : GameState} (h : Touch s s') : s.Touched s' := by
  cases h with
  | remark | hang | take | throwAway | reprice | enter => exact .aside rfl rfl rfl rfl rfl
  | publish id kind h =>
    refine ⟨rfl, rfl, rfl, .inr ⟨id, kind, GameState.log_publish s id kind, ?_⟩⟩
    rw [h.calls_eq_zero]
    rfl
  | arrange id p p' hp hid _ =>
    exact .aside (GameState.map_setPlayer hp p' hid) rfl rfl rfl rfl
  | draw id p hp =>
    obtain ⟨hand, deck, discard, hdraw⟩ := Tableau.draw_eq p.toTableau s.rng
    have hcards : (if p.zones.deck.isEmpty then p.zones.discard.length else 0) =
        p.toTableau.shuffled 1 := by
      simp [Tableau.shuffled]
    unfold GameState.drawOne
    rw [hcards]
    exact .reshuffled hp (by rw [hdraw]) (Tableau.draw_generator _ _)
  | peek _ id n cards ht =>
    unfold GameState.topCards at ht
    cases hp : s.player? id with
    | none => simp [hp] at ht
    | some p =>
      obtain ⟨deck, discard, hprepare⟩ := Tableau.prepare_eq p.toTableau n s.rng
      have hid : (p.toTableau.topCards n s.rng).2.1.id = p.id := by rw [Tableau.topCards, hprepare]
      rw [hp] at ht
      cases ht
      exact .reshuffled hp hid (Tableau.prepare_snd _ _ _)

/-- A passage between the operations leaves the generator and everybody's number alone. -/
theorem Passage.ids {s s' : GameState} (h : Passage s s') :
    s'.players.map (·.id) = s.players.map (·.id) ∧ s'.rng = s.rng := by
  cases h with
  | count id p hp => exact ⟨GameState.map_setPlayer hp _ rfl, rfl⟩
  | begin | start | pass | finish => exact ⟨rfl, rfl⟩

end DeckBuilder
