import DeckBuilder.Controller.Table

/-!
Players who leave nothing to chance. The player by values, the player with a script and the player at
a terminal answer without a draw from the generator, whatever the state and the question are. So at a
table of such players a question leaves the generator where it was.
-/
namespace DeckBuilder

variable {M N : Type}

/-- Thinking that draws nothing and leaves what is remembered as asserted. -/
def Think.Deliberate {α : Type} (P : M → Prop) (t : Think M α) : Prop :=
  ∀ d, P d.memory → (t d).2.rng = d.rng ∧ P (t d).2.memory

namespace Think.Deliberate

variable {α β : Type} {P : M → Prop}

theorem pure (a : α) : Deliberate P (Pure.pure a) := fun _ hd => ⟨rfl, hd⟩

theorem bind {t : Think M α} {k : α → Think M β} (h : Deliberate P t)
    (hk : ∀ a, Deliberate P (k a)) : Deliberate P (t >>= k) := by
  intro d hd
  obtain ⟨hrng, hmemory⟩ := h d hd
  obtain ⟨hrng', hmemory'⟩ := hk (t d).1 (t d).2 hmemory
  exact ⟨hrng'.trans hrng, hmemory'⟩

theorem ite {c : Prop} [Decidable c] {t t' : Think M α} (h : Deliberate P t)
    (h' : Deliberate P t') : Deliberate P (if c then t else t') := by
  by_cases hc : c
  · rw [if_pos hc]
    exact h
  · rw [if_neg hc]
    exact h'

theorem note (n : Note) : Deliberate P (Think.note n) := fun _ hd => ⟨rfl, hd⟩

theorem remember {k : M → Think M α} (h : ∀ m, P m → Deliberate P (k m)) :
    Deliberate P (Think.memory >>= k) :=
  fun d hd => h d.memory hd d hd

theorem setMemory {m : M} (h : P m) : Deliberate P (Think.setMemory m) := fun _ _ => ⟨rfl, h⟩

theorem within {Q : N → Prop} {part : N} {put : M → N → M} {t : Think N α} (hpart : Q part)
    (h : Deliberate Q t) (hput : ∀ m n, P m → Q n → P (put m n)) :
    Deliberate P (Think.within part put t) := by
  intro d hd
  obtain ⟨hrng, hmemory⟩ := h { memory := part, rng := d.rng, notes := d.notes } hpart
  exact ⟨hrng, hput _ _ hd hmemory⟩

end Think.Deliberate

open Think (Deliberate)

/-! ### The players who do not draw -/

theorem HeuristicPlayer.answer_deliberate {P : M → Prop} (density : Nat) (s : GameState)
    (player : PlayerId) (q : Question) : Deliberate P (answer density s player q) := by
  cases q with
  | action playable =>
    simp only [answer]
    split
    · exact .bind (.note _) fun _ => .pure _
    · exact .pure _
  | purchase | cards | pile | boolean => exact .bind (.note _) fun _ => .pure _
  | treasures | options | integer => exact .pure _

namespace ScriptedPlayer

theorem takeAnswer_deliberate : Deliberate (fun _ => True) takeAnswer :=
  .remember fun _ _ => .bind (.setMemory trivial) fun _ => .pure _

theorem answer_deliberate (s : GameState) (q : Question) :
    Deliberate (fun _ => True) (answer s q) := by
  cases q with
  | treasures playable =>
    refine .remember fun m _ => ?_
    split
    · exact .bind takeAnswer_deliberate fun _ => .bind (.note _) fun _ => .pure _
    · exact .bind takeAnswer_deliberate fun _ => .pure _
    · exact .pure _
  | action | purchase | cards | pile | boolean | options | integer =>
    exact .bind takeAnswer_deliberate fun _ => .bind (.note _) fun _ => .pure _

end ScriptedPlayer

theorem QueuePlayer.answer_deliberate (q : Question) : Deliberate (fun _ => True) (answer q) :=
  .remember fun _ _ => .bind (.setMemory trivial) fun _ => .pure _

namespace Mind

/-- The mind of a player who does not answer at random stays one. -/
theorem answer_deliberate (s : GameState) (player : PlayerId) (q : Question) :
    Deliberate (·.1 ≠ .random) (answer s player q) := by
  refine .remember ?_
  rintro ⟨mind, input⟩ hmind
  cases mind with
  | random => exact absurd rfl hmind
  | heuristic density => exact HeuristicPlayer.answer_deliberate density s player q
  | scripted p => exact .within trivial (ScriptedPlayer.answer_deliberate s q) fun _ _ _ _ => nofun
  | queue p => exact .within trivial (QueuePlayer.answer_deliberate q) fun _ _ _ _ => nofun
  | terminal own =>
    exact .bind (.setMemory nofun) fun _ => .bind (.note _) fun _ => .pure _

theorem gameOver_deliberate (s : GameState) (player : PlayerId) (won : Bool) :
    Deliberate (·.1 ≠ .random) (gameOver s player won) := by
  refine .remember ?_
  rintro ⟨mind, input⟩ -
  cases mind with
  | heuristic | terminal => exact .note _
  | random | scripted | queue => exact .pure _

end Mind

/-! ### Tables -/

/-- There is a player at each of the first `n` seats, and none who answers at random. -/
structure Table.Deliberate (n : Nat) (t : Table) : Prop where
  seats : n ≤ t.seats.length
  minds : ∀ seat ∈ t.seats, seat.mind ≠ .random

/-- As long as the assertion holds of what they remember, the controllers of the first `n` seats leave
nothing to chance. -/
structure Controllers.Deliberate [Controllers M] (n : Nat) (P : M → Prop) : Prop where
  answer : ∀ s (id : PlayerId) q, id.seat < n → Think.Deliberate P (Controllers.answer s id q)
  gameOver : ∀ s (id : PlayerId) won, id.seat < n →
    Think.Deliberate P (Controllers.gameOver s id won)

namespace Table

variable {n : Nat}

/-- The table after the mind at a seat has thought. -/
def thought (table : Table) (id : PlayerId) (seat : Seat) (m : Mind × Input) : Table where
  seats := table.seats.set id.seat { seat with mind := m.1 }
  input := m.2

theorem Deliberate.thought {table : Table} (h : table.Deliberate n) (id : PlayerId) (seat : Seat)
    {m : Mind × Input} (hm : m.1 ≠ .random) : (table.thought id seat m).Deliberate n := by
  refine ⟨by simpa [Table.thought] using h.seats, fun other hother => ?_⟩
  rcases List.mem_or_eq_of_mem_set hother with hold | rfl
  · exact h.minds other hold
  · exact hm

theorem atSeat_deliberate {α : Type} {id : PlayerId} (hid : id.seat < n) (put : Json)
    {t : Think (Mind × Input) α} (h : Think.Deliberate (·.1 ≠ .random) t) :
    Think.Deliberate (Table.Deliberate n) (atSeat id put t) := by
  refine .remember fun table htable => ?_
  obtain ⟨seat, hseat⟩ : ∃ seat, table.seats[id.seat]? = some seat :=
    ⟨_, List.getElem?_eq_getElem (Nat.lt_of_lt_of_le hid htable.seats)⟩
  rw [hseat]
  have hmind := htable.minds seat (List.mem_of_getElem? hseat)
  have hthink : Think.Deliberate (Table.Deliberate n)
      (Think.within (seat.mind, table.input) (fun table m => table.thought id seat m) t) :=
    .within hmind h fun _ _ htable hm => htable.thought id seat hm
  exact .ite (.bind (.note _) fun _ => hthink) hthink

theorem deliberate : Controllers.Deliberate n (Table.Deliberate n) where
  answer s id q hid := atSeat_deliberate hid _ (Mind.answer_deliberate s id q)
  gameOver s id won hid := atSeat_deliberate hid _ (Mind.gameOver_deliberate s id won)

end Table

end DeckBuilder
