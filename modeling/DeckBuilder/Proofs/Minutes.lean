import DeckBuilder.Proofs.Recording

/-!
The minutes of a game. Who takes the minutes sits between a game and its controllers, as a recorder does,
and writes down with each question and its answer the state in which the question was put. So one can say
where a card lay when a player was asked about it.
-/
namespace DeckBuilder

/-- A question that was put to a player, the answer, and the state in which it was put. -/
structure Inquiry extends Exchange where
  state : GameState

/-- What controllers remember, with all that they were asked so far. -/
structure Minuted (M : Type) where
  memory : M
  inquiries : List Inquiry := []

variable {M : Type} [Controllers M]

instance : Controllers (Minuted M) where
  answer s id q := fun desk =>
    let (answer, desk') := Controllers.answer s id q (desk.map Minuted.memory)
    (answer, desk'.map fun memory =>
      ⟨memory, desk.memory.inquiries ++ [{ player := id, question := q, answer, state := s }]⟩)
  gameOver s id won := fun desk =>
    let ((), desk') := Controllers.gameOver s id won (desk.map Minuted.memory)
    ((), desk'.map fun memory => ⟨memory, desk.memory.inquiries⟩)

theorem Minuted.alike : Controllers.Alike (Minuted.memory : Minuted M → M) :=
  ⟨fun _ _ _ _ => rfl, fun _ _ _ _ => rfl⟩

/-- A game of which no minutes have been taken yet. -/
def Game.minuted (g : Game M) : Game (Minuted M) := ⟨g.state, ⟨g.memory, []⟩⟩

namespace Engine

variable {α : Type}

/-- What is asked and answered while a computation runs, and when. -/
def inquiries (e : Engine (Minuted M) α) (g : Game M) : List Inquiry :=
  (e.runOn g.minuted).2.memory.inquiries

omit [Controllers M] in
/-- The minutes make no difference to the run. -/
theorem Agrees.minuted {e : Engine (Minuted M) α} {e' : Engine M α}
    (h : Agrees Minuted.memory e e') (g : Game M) :
    e'.runOn g = ((e.runOn g.minuted).1, (e.runOn g.minuted).2.map Minuted.memory) :=
  h g.minuted

theorem asked_inquiries (g : Game (Minuted M)) (id : PlayerId) (q : Question) :
    (asked g id q).2.memory.inquiries =
      g.memory.inquiries ++
        [{ player := id, question := q, answer := (asked g id q).1, state := g.state }] :=
  rfl

/-- Everything that was said from the one moment to the other has the property. -/
def Said (R : Inquiry → Prop) (n n' : Game (Minuted M)) : Prop :=
  ∃ record, n'.memory.inquiries = n.memory.inquiries ++ record ∧ ∀ x ∈ record, R x

namespace Said

variable {R : Inquiry → Prop} {n n' n'' : Game (Minuted M)}

omit [Controllers M]

theorem refl (R : Inquiry → Prop) (n : Game (Minuted M)) : Said R n n :=
  ⟨[], (List.append_nil _).symm, fun _ hx => absurd hx List.not_mem_nil⟩

theorem trans (h : Said R n n') (h' : Said R n' n'') : Said R n n'' := by
  obtain ⟨early, hearly, hall⟩ := h
  obtain ⟨late, hlate, hall'⟩ := h'
  exact ⟨early ++ late, by rw [hlate, hearly, List.append_assoc], List.forall_mem_append.mpr ⟨hall, hall'⟩⟩

end Said

theorem said_asked {R : Inquiry → Prop} (n : Game (Minuted M)) (id : PlayerId) (q : Question)
    (h : R { player := id, question := q, answer := (asked n id q).1, state := n.state }) :
    Said R n (asked n id q).2 :=
  ⟨_, asked_inquiries n id q, List.forall_mem_singleton.mpr h⟩

end Engine

end DeckBuilder
