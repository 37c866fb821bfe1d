import DeckBuilder.Proofs.Prompts

/-!
Which answers to a question are allowed, said without the selection that finds it out, and what a
prompt makes of an answer that is allowed.
-/
namespace DeckBuilder

/-! ### Selecting from what is offered -/

section

variable {α : Type}

/-- An answer of which the first `max` items can be selected: everything in it is offered, and
nothing in it repeats an item that is selected. -/
structure Selectable (pool : List α) (max : Nat) (answer : List α) : Prop where
  offered : ∀ x ∈ answer, x ∈ pool
  distinct : (answer.take max).Nodup
  later : ∀ x ∈ answer.drop max, x ∉ answer.take max

/-- Read from its first item on, while `max` can still be selected. -/
theorem selectable_cons {pool : List α} {max : Nat} {x : α} {rest : List α} :
    Selectable pool (max + 1) (x :: rest) ↔
      x ∈ pool ∧ x ∉ rest ∧ Selectable pool max rest := by
  constructor
  · intro h
    have hdistinct := List.nodup_cons.mp h.distinct
    refine ⟨h.offered x List.mem_cons_self, ?_, ?_⟩
    · intro hx
      rw [← List.take_append_drop max rest] at hx
      rcases List.mem_append.mp hx with hx | hx
      · exact hdistinct.1 hx
      · exact h.later x hx List.mem_cons_self
    · refine ⟨fun y hy => h.offered y (List.mem_cons_of_mem x hy), hdistinct.2, ?_⟩
      intro y hy hmem
      exact h.later y hy (List.mem_cons_of_mem x hmem)
  · intro h
    obtain ⟨hpool, hnew, hrest⟩ := h
    refine ⟨?_, ?_, ?_⟩
    · intro y hy
      rcases List.mem_cons.mp hy with heq | hy
      · rw [heq]
        exact hpool
      · exact hrest.offered y hy
    · apply List.nodup_cons.mpr
      exact ⟨fun hx => hnew (List.mem_of_mem_take hx), hrest.distinct⟩
    · intro y hy hmem
      rcases List.mem_cons.mp hmem with heq | hmem
      · apply hnew
        rw [← heq]
        exact List.mem_of_mem_drop hy
      · exact hrest.later y hy hmem

theorem selectable_zero {pool answer : List α} :
    Selectable pool 0 answer ↔ ∀ x ∈ answer, x ∈ pool := by
  constructor
  · intro h
    exact h.offered
  · intro h
    exact ⟨h, by simp, by simp⟩

variable [BEq α] [LawfulBEq α] {pool : List α}

/-- Reading on with some items selected: the selection grows by what can be selected of the rest,
and the rest repeats nothing selected before. -/
theorem selectFrom_go_eq_some_iff {max : Nat} {xs selected chosen : List α} :
    selectFrom.go pool max selected xs = some chosen ↔
      Selectable pool (max - selected.length) xs ∧ (∀ x ∈ xs, x ∉ selected) ∧
        chosen = selected.reverse ++ xs.take (max - selected.length) := by
  induction xs generalizing selected with
  | nil =>
    simp only [selectFrom.go, Option.some.injEq, List.take_nil, List.append_nil]
    constructor
    · intro h
      exact ⟨⟨by simp, by simp, by simp⟩, by simp, h.symm⟩
    · intro h
      exact h.2.2.symm
  | cons x rest ih =>
    rw [selectFrom.go]
    by_cases hx : (pool.contains x && !selected.contains x) = true
    · have hmem : x ∈ pool ∧ x ∉ selected := by simpa using hx
      rw [if_pos hx]
      by_cases hlen : selected.length < max
      · have hroom : max - selected.length = (max - (x :: selected).length) + 1 := by
          rw [List.length_cons]
          omega
        rw [if_pos hlen, ih, hroom, selectable_cons, List.forall_mem_cons, List.reverse_cons,
          List.take_succ_cons, List.append_assoc, List.singleton_append]
        constructor
        · intro h
          obtain ⟨hrest, hnew, hchosen⟩ := h
          have hx : x ∉ rest := fun hr => hnew x hr List.mem_cons_self
          have hold : ∀ y ∈ rest, y ∉ selected :=
            fun y hy hs => hnew y hy (List.mem_cons_of_mem x hs)
          exact ⟨⟨hmem.1, hx, hrest⟩, ⟨hmem.2, hold⟩, hchosen⟩
        · intro h
          obtain ⟨⟨-, hx, hrest⟩, ⟨-, hold⟩, hchosen⟩ := h
          refine ⟨hrest, ?_, hchosen⟩
          intro y hy hs
          rcases List.mem_cons.mp hs with heq | hs
          · exact hx (heq ▸ hy)
          · exact hold y hy hs
      · have hfull : max - selected.length = 0 := by omega
        rw [if_neg hlen, ih, hfull, selectable_zero, selectable_zero, List.forall_mem_cons,
          List.forall_mem_cons, List.take_zero, List.take_zero]
        simp only [hmem.1, hmem.2, not_false_eq_true, true_and]
    · rw [if_neg hx]
      constructor
      · intro h
        exact absurd h (by simp)
      · intro h
        have hpool := h.1.offered x List.mem_cons_self
        have hnew := h.2.1 x List.mem_cons_self
        exact absurd (by simp [hpool, hnew]) hx

/-- What is selected from an answer are its first items, if these can be selected. -/
theorem selectFrom_eq_some_iff {answer chosen : List α} {max : Nat} :
    selectFrom answer pool max = some chosen ↔
      Selectable pool max answer ∧ chosen = answer.take max := by
  rw [selectFrom, selectFrom_go_eq_some_iff]
  simp

omit [BEq α] [LawfulBEq α] in
/-- As many different items as are offered leave nothing to add. -/
theorem selectable_length_iff {answer : List α} :
    Selectable pool pool.length answer ↔ answer.Nodup ∧ ∀ x ∈ answer, x ∈ pool := by
  constructor
  · intro h
    refine ⟨?_, h.offered⟩
    have hnone : answer.drop pool.length = [] := by
      by_contra hne
      obtain ⟨x, hx⟩ := List.exists_mem_of_ne_nil _ hne
      have hlen : (answer.take pool.length).length = pool.length := by
        have hpos := List.length_pos_of_mem hx
        rw [List.length_drop] at hpos
        rw [List.length_take]
        omega
      have hsub : (answer.take pool.length).Subperm pool :=
        List.subperm_of_subset h.distinct fun y hy => h.offered y (List.mem_of_mem_take hy)
      have hperm := hsub.perm_of_length_le (Nat.le_of_eq hlen.symm)
      exact h.later x hx (hperm.mem_iff.mpr (h.offered x (List.mem_of_mem_drop hx)))
    have hall : answer.take pool.length = answer := by
      have happend := List.take_append_drop pool.length answer
      rwa [hnone, List.append_nil] at happend
    rw [← hall]
    exact h.distinct
  · intro h
    refine ⟨h.2, h.1.sublist (List.take_sublist _ _), ?_⟩
    intro x hx hmem
    have hnodup := h.1
    rw [← List.take_append_drop pool.length answer] at hnodup
    exact (List.nodup_append.mp hnodup).2.2 x hmem x hx rfl

end

/-! ### Which answers are allowed -/

namespace Question

/-- Nothing, or one of the things offered; or a selection of at least so many as must be chosen. Any
truth value and any integer is allowed. -/
def Allows : (q : Question) → q.Answer → Prop
  | .action playable, answer => ∀ card ∈ answer, card ∈ playable
  | .treasures playable, answer =>
    ∀ cards ∈ answer, cards.Nodup ∧ ∀ card ∈ cards, card ∈ playable
  | .purchase buyable, answer => ∀ pile ∈ answer, pile ∈ buyable
  | .cards choice, answer =>
    Selectable choice.cards choice.max answer ∧ choice.min ≤ (answer.take choice.max).length
  | .pile choice, answer => ∀ pile ∈ answer, pile ∈ choice.piles
  | .boolean _, _ => True
  | .options choice, answer =>
    Selectable (List.range choice.options.length) choice.max answer ∧
      choice.min ≤ (answer.take choice.max).length
  | .integer _, _ => True

end Question

namespace Engine

section

variable {α : Type} [BEq α] [LawfulBEq α] {pool : List α}

theorem offered_eq_some_iff {answer chosen : Option α} :
    offered pool answer = some chosen ↔ (∀ x ∈ answer, x ∈ pool) ∧ chosen = answer := by
  cases answer with
  | none =>
    simp only [offered, Option.some.injEq]
    constructor
    · intro h
      exact ⟨by simp, h.symm⟩
    · intro h
      exact h.2.symm
  | some x =>
    by_cases hx : x ∈ pool
    · simp [offered, hx, eq_comm]
    · simp [offered, hx]

theorem selection_eq_some_iff {answer chosen : List α} {min max : Nat} :
    selection pool min max answer = some chosen ↔
      (Selectable pool max answer ∧ min ≤ (answer.take max).length) ∧
        chosen = answer.take max := by
  rw [selection, Option.filter_eq_some_iff, selectFrom_eq_some_iff]
  constructor
  · intro h
    obtain ⟨⟨hselectable, hchosen⟩, hmin⟩ := h
    rw [hchosen, decide_eq_true_eq] at hmin
    exact ⟨⟨hselectable, hmin⟩, hchosen⟩
  · intro h
    obtain ⟨⟨hselectable, hmin⟩, hchosen⟩ := h
    rw [hchosen, decide_eq_true_eq]
    exact ⟨⟨hselectable, rfl⟩, hmin⟩

end

/-- What a prompt for treasures makes of an answer. -/
def treasuresOf (playable : List CardId) : Option (List CardId) → Option (Option (List CardId))
  | none => some none
  | some cards => (selectFrom cards playable playable.length).map some

theorem treasuresOf_eq_some_iff {playable : List CardId} {answer chosen : Option (List CardId)} :
    treasuresOf playable answer = some chosen ↔
      (∀ cards ∈ answer, cards.Nodup ∧ ∀ card ∈ cards, card ∈ playable) ∧ chosen = answer := by
  cases answer with
  | none =>
    simp only [treasuresOf, Option.some.injEq]
    constructor
    · intro h
      exact ⟨by simp, h.symm⟩
    · intro h
      exact h.2.symm
  | some cards =>
    simp only [treasuresOf, Option.map_eq_some_iff, selectFrom_eq_some_iff, Option.mem_some_iff,
      forall_eq']
    constructor
    · intro h
      obtain ⟨selected, ⟨hselectable, hselected⟩, hchosen⟩ := h
      have hlegal := selectable_length_iff.mp hselectable
      have hle : cards.length ≤ playable.length :=
        (List.subperm_of_subset hlegal.1 hlegal.2).length_le
      rw [← hchosen, hselected, List.take_of_length_le hle]
      exact ⟨hlegal, rfl⟩
    · intro h
      have hle : cards.length ≤ playable.length :=
        (List.subperm_of_subset h.1.1 h.1.2).length_le
      refine ⟨cards, ⟨selectable_length_iff.mpr h.1, ?_⟩, h.2.symm⟩
      rw [List.take_of_length_le hle]

/-- A prompt takes an answer if and only if it is allowed, and makes a certain value of it. -/
def Takes {β : Type} (q : Question) (accept : q.Answer → Option β) (value : q.Answer → β) : Prop :=
  ∀ a b, accept a = some b ↔ q.Allows a ∧ b = value a

namespace Takes

theorem action (playable : List CardId) : Takes (.action playable) (offered playable) fun a => a :=
  fun _ _ => offered_eq_some_iff

theorem treasures (playable : List CardId) :
    Takes (.treasures playable) (treasuresOf playable) fun a => a :=
  fun _ _ => treasuresOf_eq_some_iff

theorem purchase (buyable : List String) :
    Takes (.purchase buyable) (offered buyable) fun a => a :=
  fun _ _ => offered_eq_some_iff

theorem cards (choice : CardChoice) :
    Takes (.cards choice) (selection choice.cards choice.min choice.max) (·.take choice.max) :=
  fun _ _ => selection_eq_some_iff

theorem pile (choice : PileChoice) : Takes (.pile choice) (offered choice.piles) fun a => a :=
  fun _ _ => offered_eq_some_iff

theorem options (choice : OptionChoice) :
    Takes (.options choice) (selection (List.range choice.options.length) choice.min choice.max)
      (·.take choice.max) :=
  fun _ _ => selection_eq_some_iff

variable {β : Type} {q : Question} {accept : q.Answer → Option β} {value : q.Answer → β}

theorem isSome_iff (h : Takes q accept value) (a : q.Answer) :
    (accept a).isSome = true ↔ q.Allows a := by
  rw [Option.isSome_iff_exists]
  constructor
  · intro hb
    obtain ⟨b, hb⟩ := hb
    exact ((h a b).mp hb).1
  · intro ha
    exact ⟨value a, (h a (value a)).mpr ⟨ha, rfl⟩⟩

end Takes

end Engine

/-- The acceptable answers are those that are allowed. -/
theorem Question.accepts_iff {q : Question} {answer : q.Answer} :
    q.accepts answer = true ↔ q.Allows answer := by
  cases q with
  | action playable => exact (Engine.Takes.action playable).isSome_iff answer
  | treasures playable =>
    rw [← (Engine.Takes.treasures playable).isSome_iff answer]
    cases answer with
    | none => exact Iff.rfl
    | some cards => simp [accepts, Engine.treasuresOf]
  | purchase buyable => exact (Engine.Takes.purchase buyable).isSome_iff answer
  | cards choice => exact (Engine.Takes.cards choice).isSome_iff answer
  | pile choice => exact (Engine.Takes.pile choice).isSome_iff answer
  | boolean choice => exact iff_of_true rfl trivial
  | options choice => exact (Engine.Takes.options choice).isSome_iff answer
  | integer choice => exact iff_of_true rfl trivial

end DeckBuilder
