import DeckBuilder.Controller.Table
import DeckBuilder.Proofs.Prompts

/-!
The players who need no input answer acceptably. Whatever the state of the game, the generator and the
notes, to a fair question the player at random and the player by values choose among what is offered,
name nothing twice, and name as many things as must be named.
-/
namespace DeckBuilder

open DeckBuilder.Random

section

variable {α : Type} [BEq α] [LawfulBEq α] {pool : List α}

theorem selectFrom_go_of_nodup {max : Nat} {xs selected : List α} (hxs : xs.Nodup)
    (hpool : ∀ x ∈ xs, x ∈ pool) (hnew : ∀ x ∈ xs, x ∉ selected) :
    selectFrom.go pool max selected xs =
      some (selected.reverse ++ xs.take (max - selected.length)) := by
  induction xs generalizing selected with
  | nil => simp [selectFrom.go]
  | cons x rest ih =>
    rw [List.nodup_cons] at hxs
    have hx : (pool.contains x && !selected.contains x) = true := by
      simp [hpool x List.mem_cons_self, hnew x List.mem_cons_self]
    have hrest : ∀ y ∈ rest, y ∈ pool := fun y hy => hpool y (List.mem_cons_of_mem _ hy)
    have hnew' : ∀ y ∈ rest, y ∉ selected := fun y hy => hnew y (List.mem_cons_of_mem _ hy)
    rw [selectFrom.go, if_pos hx]
    by_cases hlen : selected.length < max
    · have hx' : ∀ y ∈ rest, y ∉ x :: selected := by
        intro y hy hmem
        rcases List.mem_cons.mp hmem with rfl | hmem
        · exact hxs.1 hy
        · exact hnew' y hy hmem
      have hsucc : max - selected.length = (max - (selected.length + 1)) + 1 := by omega
      rw [if_pos hlen, ih hxs.2 hrest hx', hsucc]
      simp
    · have hzero : max - selected.length = 0 := by omega
      rw [if_neg hlen, ih hxs.2 hrest hnew', hzero]
      simp

/-- Of an answer without repetitions, all of it offered, the first items are selected. -/
theorem selectFrom_of_nodup {answer : List α} (hanswer : answer.Nodup)
    (hpool : ∀ x ∈ answer, x ∈ pool) (max : Nat) :
    selectFrom answer pool max = some (answer.take max) := by
  rw [selectFrom, selectFrom_go_of_nodup hanswer hpool (by simp)]
  simp

theorem Engine.selection_isSome {answer : List α} {min max : Nat} (hanswer : answer.Nodup)
    (hpool : ∀ x ∈ answer, x ∈ pool) (hmin : min ≤ answer.length) (hbounds : min ≤ max) :
    (Engine.selection pool min max answer).isSome = true := by
  simp [Engine.selection, selectFrom_of_nodup hanswer hpool, hmin, hbounds]

theorem Engine.offered_isSome {answer : Option α} (h : ∀ x ∈ answer, x ∈ pool) :
    (Engine.offered pool answer).isSome = true := by
  cases answer with
  | none => rfl
  | some x => simp [Engine.offered, h x rfl]

end

theorem Think.bind_apply {M α β : Type} (t : Think M α) (f : α → Think M β) (d : Desk M) :
    (t >>= f) d = f (t d).1 (t d).2 := rfl

theorem Generator.le_int (g : Generator) (low high : Int) : low ≤ (g.int low high).1 := by
  unfold Generator.int
  split
  · exact Int.le_refl low
  · exact Int.le_add_of_nonneg_right (Int.natCast_nonneg _)

/-! ### Answers at random -/

namespace RandomPlayer

variable {M α : Type}

theorem mem_of_oneOf {items : List α} {d : Desk M} : ∀ a ∈ (oneOf items d).1, a ∈ items := by
  intro a ha
  unfold oneOf at ha
  split at ha
  · change a ∈ none at ha
    simp at ha
  · exact List.mem_of_getElem? (Option.mem_def.mp ha)

/-- A random subset comes from a random order. -/
theorem subset_eq (pool : List α) (low high : Nat) (d : Desk M) :
    ∃ (order : List α) (count : Nat), order.Perm pool ∧
      min low (min high pool.length) ≤ count ∧ (subset pool low high d).1 = order.take count := by
  have hle := Generator.le_int d.rng (Nat.min low (Nat.min high pool.length) : Nat)
    ((Nat.min high pool.length : Nat) + 1)
  exact ⟨_, _, perm_shuffle pool _, Int.toNat_le_toNat hle, rfl⟩

theorem subset_accepted [BEq α] [LawfulBEq α] {pool : List α} {low high : Nat} {d : Desk M}
    (hpool : pool.Nodup) (hbounds : low ≤ high) (hlow : low ≤ pool.length) :
    (Engine.selection pool low high (subset pool low high d).1).isSome = true := by
  obtain ⟨order, count, hperm, hcount, heq⟩ := subset_eq pool low high d
  rw [heq]
  refine Engine.selection_isSome ?_ ?_ ?_ hbounds
  · exact (hperm.nodup_iff.mpr hpool).sublist (List.take_sublist count order)
  · exact fun x hx => hperm.mem_iff.mp (List.mem_of_mem_take hx)
  · have hlen := hperm.length_eq
    rw [List.length_take]
    omega

theorem answer_accepted {s : GameState} {q : Question} {d : Desk M} (hq : q.Fair) :
    q.accepts (answer s q d).1 = true := by
  cases q with
  | action playable =>
    have heq : (answer s (.action playable) d).1 = (oneOf playable d).1 := by
      change ((oneOf playable >>= _) d).1 = _
      rw [Think.bind_apply]
      cases (oneOf playable d).1 <;> rfl
    rw [heq]
    exact Engine.offered_isSome mem_of_oneOf
  | treasures playable =>
    exact congrArg Option.isSome (selectFrom_of_nodup hq (fun _ hx => hx) _)
  | purchase buyable =>
    exact Engine.offered_isSome fun a ha => List.mem_of_getElem? (Option.mem_def.mp ha)
  | cards choice => exact subset_accepted hq.1 hq.2.1 hq.2.2
  | pile choice =>
    have heq : (answer s (.pile choice) d).1 = (oneOf choice.piles d).1 := by
      change ((oneOf choice.piles >>= _) d).1 = _
      rw [Think.bind_apply]
      cases (oneOf choice.piles d).1 <;> rfl
    rw [heq]
    exact Engine.offered_isSome mem_of_oneOf
  | boolean choice => rfl
  | options choice =>
    exact subset_accepted List.nodup_range hq.1 (by simpa using hq.2)
  | integer choice => rfl

end RandomPlayer

/-! ### Answers by values -/

section

variable {α : Type} {le : α → α → Bool}

theorem foldl_best_mem (best : α) (xs : List α) :
    xs.foldl (fun best y => if le best y then y else best) best ∈ best :: xs := by
  induction xs generalizing best with
  | nil => exact List.mem_cons_self
  | cons y rest ih =>
    rw [List.foldl_cons]
    by_cases hle : le best y = true
    · rw [if_pos hle]
      exact List.mem_cons_of_mem _ (ih y)
    · rw [if_neg hle]
      rcases List.mem_cons.mp (ih best) with heq | hmem
      · rw [heq]
        exact List.mem_cons_self
      · exact List.mem_cons_of_mem _ (List.mem_cons_of_mem _ hmem)

theorem mem_of_lastBest? {xs : List α} : ∀ x ∈ lastBest? le xs, x ∈ xs := by
  intro x hx
  cases xs with
  | nil => simp [lastBest?] at hx
  | cons y rest =>
    obtain rfl := Option.mem_some_iff.mp hx
    exact foldl_best_mem y rest

end

namespace HeuristicPlayer

variable {s : GameState}

/-- As many of the best cards as are asked for, if there are so many. -/
theorem bestCards_spec {n : Nat} {pool : List CardId} (hpool : pool.Nodup) :
    (bestCards s n pool).Nodup ∧ (∀ card ∈ bestCards s n pool, card ∈ pool) ∧
      (bestCards s n pool).length = min n pool.length := by
  induction n generalizing pool with
  | zero => simp [bestCards]
  | succ n ih =>
    unfold bestCards
    cases hbest : lastBest? (fun a b => decide (cardValue s a ≤ cardValue s b)) pool with
    | none =>
      cases pool with
      | nil => simp
      | cons card rest => simp [lastBest?] at hbest
    | some best =>
      have hmem : best ∈ pool := mem_of_lastBest? best hbest
      obtain ⟨hnodup, hsub, hlen⟩ := ih (hpool.filter (· != best))
      have hrest : (pool.filter (· != best)).length + 1 = pool.length := by
        rw [← hpool.erase_eq_filter, List.length_erase_of_mem hmem]
        have hpos := List.length_pos_of_mem hmem
        omega
      refine ⟨List.nodup_cons.mpr ⟨?_, hnodup⟩, ?_, ?_⟩
      · intro hin
        have hne := (List.mem_filter.mp (hsub best hin)).2
        simp at hne
      · intro card hcard
        rcases List.mem_cons.mp hcard with rfl | hcard
        · exact hmem
        · exact (List.mem_filter.mp (hsub card hcard)).1
      · rw [List.length_cons, hlen]
        omega

/-- The worst cards: no fewer than must be chosen. -/
theorem worstCards_spec {choice : CardChoice} (hcards : choice.cards.Nodup)
    (hbounds : choice.min ≤ choice.max) (hmin : choice.min ≤ choice.cards.length) :
    (worstCards s choice).Nodup ∧ (∀ card ∈ worstCards s choice, card ∈ choice.cards) ∧
      choice.min ≤ (worstCards s choice).length := by
  have hperm := List.mergeSort_perm choice.cards
    fun a b => decide (cardValue s a ≤ cardValue s b)
  unfold worstCards
  dsimp only
  generalize choice.cards.mergeSort _ = sorted at hperm ⊢
  have hsub : ((sorted.take choice.min ++ (sorted.drop choice.min).takeWhile (isJunk s)).take
      choice.max).Sublist sorted := by
    refine (List.take_sublist _ _).trans ?_
    have happend := (List.takeWhile_sublist (isJunk s) (l := sorted.drop choice.min)).append_left
      (sorted.take choice.min)
    rw [List.take_append_drop] at happend
    exact happend
  refine ⟨(hperm.nodup_iff.mpr hcards).sublist hsub, ?_, ?_⟩
  · exact fun card hcard => hperm.mem_iff.mp (hsub.mem hcard)
  · have hlen := hperm.length_eq
    simp only [List.length_take, List.length_append]
    omega

/-- An action that is played is on offer. -/
theorem mem_of_action {M : Type} {player : PlayerId} {density : Nat} {playable : List CardId}
    {d : Desk M} : ∀ card ∈ (answer density s player (.action playable) d).1, card ∈ playable := by
  unfold answer
  dsimp only
  generalize hbest : lastBest? _ playable = best
  have hmem : ∀ card ∈ best, card ∈ playable := by
    rw [← hbest]
    exact mem_of_lastBest?
  cases best <;> exact hmem

/-- Piles that are found by the names on offer and chosen by what is in them are on offer. -/
theorem mem_of_best_pile {le : Pile → Pile → Bool} {useful : Pile → Bool} {names : List String} :
    ∀ name ∈ (lastBest? le ((names.filterMap s.supply.pile?).filter useful)).map Pile.name,
      name ∈ names := by
  intro name hname
  obtain ⟨p, hp, rfl⟩ := Option.map_eq_some_iff.mp hname
  have hmem := (List.mem_filter.mp (mem_of_lastBest? p hp)).1
  obtain ⟨name, hin, hpile⟩ := List.mem_filterMap.mp hmem
  have heq : p.name = name := by simpa using List.find?_some hpile
  rw [heq]
  exact hin

theorem mem_of_chooseAction {player : PlayerId} {density : Nat} {buyable : List String} :
    ∀ pile ∈ chooseAction s player density buyable, pile ∈ buyable := by
  intro pile hpile
  unfold chooseAction at hpile
  dsimp only at hpile
  split at hpile
  · simp at hpile
  · exact mem_of_best_pile pile hpile

/-- What is bought is on offer. -/
theorem mem_of_choosePurchase {player : PlayerId} {density : Nat} {buyable : List String} :
    ∀ pile ∈ choosePurchase s player density buyable, pile ∈ buyable := by
  intro pile hpile
  have hoffer : ∀ {name : String}, buyable.contains name = true → pile ∈ some name →
      pile ∈ buyable := by
    intro name hc hname
    obtain rfl := Option.mem_some_iff.mp hname
    exact List.contains_iff_mem.mp hc
  unfold choosePurchase at hpile
  dsimp only at hpile
  split at hpile
  · next hcolony => exact hoffer (Bool.and_eq_true_iff.mp hcolony).1 hpile
  split at hpile
  · next hprovince =>
    exact hoffer (Bool.and_eq_true_iff.mp (Bool.and_eq_true_iff.mp hprovince).1).1 hpile
  split at hpile
  · next hduchy => exact hoffer (Bool.and_eq_true_iff.mp (Bool.and_eq_true_iff.mp hduchy).1).1 hpile
  split at hpile
  · next hestate =>
    exact hoffer (Bool.and_eq_true_iff.mp (Bool.and_eq_true_iff.mp hestate).1).1 hpile
  split at hpile
  · next action haction =>
    obtain rfl := Option.mem_some_iff.mp hpile
    exact mem_of_chooseAction _ haction
  · exact List.contains_iff_mem.mp (List.find?_some hpile)

theorem mem_of_bestPile {piles : List String} : ∀ pile ∈ bestPile s piles, pile ∈ piles :=
  mem_of_best_pile

theorem answer_accepted {M : Type} {density : Nat} {player : PlayerId} {q : Question} {d : Desk M}
    (hq : q.Fair) : q.accepts (answer density s player q d).1 = true := by
  cases q with
  | action playable => exact Engine.offered_isSome mem_of_action
  | treasures playable =>
    exact congrArg Option.isSome (selectFrom_of_nodup hq (fun _ hx => hx) _)
  | purchase buyable => exact Engine.offered_isSome mem_of_choosePurchase
  | cards choice =>
    obtain ⟨hcards, hbounds, hmin⟩ := hq
    change (Engine.selection choice.cards choice.min choice.max (if wantsBest choice.prompt then _
      else _)).isSome = true
    by_cases hbest : wantsBest choice.prompt = true
    · rw [if_pos hbest]
      obtain ⟨hnodup, hmem, hlen⟩ := bestCards_spec (s := s) hcards
      exact Engine.selection_isSome hnodup hmem (by omega) hbounds
    · rw [if_neg hbest]
      obtain ⟨hnodup, hmem, hlen⟩ := worstCards_spec (s := s) hcards hbounds hmin
      exact Engine.selection_isSome hnodup hmem hlen hbounds
  | pile choice => exact Engine.offered_isSome mem_of_bestPile
  | boolean choice => rfl
  | options choice =>
    obtain ⟨hbounds, hmin⟩ := hq
    change (Engine.selection _ choice.min choice.max ((List.range choice.options.length).take
      (min (max choice.min 1) choice.max))).isSome = true
    refine Engine.selection_isSome ?_ ?_ ?_ hbounds
    · exact List.nodup_range.sublist (List.take_sublist _ _)
    · exact fun x hx => List.mem_of_mem_take hx
    · rw [List.length_take, List.length_range]
      omega
  | integer choice => rfl

end HeuristicPlayer

/-! ### What is remembered -/

namespace Think

variable {M α β : Type}

/-- Thinking that leaves the memory as it is. -/
def Keeps (t : Think M α) : Prop := ∀ d, (t d).2.memory = d.memory

namespace Keeps

theorem pure (a : α) : Keeps (Pure.pure a : Think M α) := fun _ => rfl

theorem bind {t : Think M α} {f : α → Think M β} (h : t.Keeps) (hf : ∀ a, (f a).Keeps) :
    (t >>= f).Keeps :=
  fun d => (hf (t d).1 (t d).2).trans (h d)

theorem random (draw : Generator → α × Generator) : Keeps (Think.random draw : Think M α) :=
  fun _ => rfl

theorem note (n : Note) : Keeps (Think.note n : Think M Unit) := fun _ => rfl

end Keeps

end Think

open Think.Keeps in
theorem RandomPlayer.subset_keeps {M α : Type} (pool : List α) (low high : Nat) :
    (RandomPlayer.subset pool low high : Think M (List α)).Keeps :=
  bind (random _) fun _ => bind (random _) fun _ => pure _

open Think.Keeps in
theorem RandomPlayer.oneOf_keeps {M α : Type} (items : List α) :
    (RandomPlayer.oneOf items : Think M (Option α)).Keeps := by
  unfold RandomPlayer.oneOf
  split
  · exact pure _
  · exact bind (random _) fun _ => pure _

open Think.Keeps in
theorem RandomPlayer.answer_keeps {M : Type} (s : GameState) (q : Question) :
    (RandomPlayer.answer s q : Think M q.Answer).Keeps := by
  cases q with
  | action playable =>
    refine bind (oneOf_keeps playable) fun choice => ?_
    cases choice with
    | none => exact pure _
    | some c => exact bind (note _) fun _ => pure _
  | treasures playable => exact pure _
  | purchase buyable => exact bind (random _) fun _ => bind (note _) fun _ => pure _
  | cards choice => exact bind (subset_keeps _ _ _) fun _ => bind (note _) fun _ => pure _
  | pile choice =>
    refine bind (oneOf_keeps _) fun choice => ?_
    cases choice with
    | none => exact pure _
    | some c => exact bind (note _) fun _ => pure _
  | boolean choice => exact bind (random _) fun _ => bind (note _) fun _ => pure _
  | options choice => exact subset_keeps _ _ _
  | integer choice =>
    change Think.Keeps (if choice.max < choice.min then _ else _)
    split
    · exact pure _
    · exact random _

open Think.Keeps in
theorem HeuristicPlayer.answer_keeps {M : Type} (density : Nat) (s : GameState) (player : PlayerId)
    (q : Question) : (HeuristicPlayer.answer density s player q : Think M q.Answer).Keeps := by
  cases q with
  | action playable =>
    unfold HeuristicPlayer.answer
    dsimp only
    generalize lastBest? _ playable = best
    cases best with
    | none => exact pure _
    | some c => exact bind (note _) fun _ => pure _
  | treasures playable => exact pure _
  | options choice => exact pure _
  | integer choice => exact pure _
  | purchase | cards | pile | boolean => exact bind (note _) fun _ => pure _

end DeckBuilder
