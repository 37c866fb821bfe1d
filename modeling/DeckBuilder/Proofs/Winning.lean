import DeckBuilder.Engine.Turn
import DeckBuilder.Proofs.Outcome
import Mathlib.Data.List.Forall2

/-!
Who wins. A standing beats another one with more points, or with as many points and fewer turns, and
the winners are those whose standing is beaten by none. They are found in three passes over the list,
and what the players are called makes no difference to any of them.
-/
namespace DeckBuilder

namespace Standing

/-- More points, or as many points and fewer turns. -/
def Beats (a b : Standing) : Prop :=
  b.points < a.points ∨ a.points = b.points ∧ a.turns < b.turns

instance (a b : Standing) : Decidable (a.Beats b) :=
  inferInstanceAs (Decidable (b.points < a.points ∨ a.points = b.points ∧ a.turns < b.turns))

/-- No standing of the list beats this one. -/
def Unbeaten (standings : List Standing) (a : Standing) : Prop := ∀ b ∈ standings, ¬ b.Beats a

instance (standings : List Standing) (a : Standing) : Decidable (Unbeaten standings a) :=
  inferInstanceAs (Decidable (∀ b ∈ standings, ¬ b.Beats a))

/-- The most points there are, and the fewest turns of those who have them. -/
structure Best (standings : List Standing) (points : Int) (turns : Nat) : Prop where
  points_le : ∀ a ∈ standings, a.points ≤ points
  turns_le : ∀ a ∈ standings, a.points = points → turns ≤ a.turns
  reached : ∃ a ∈ standings, a.points = points ∧ a.turns = turns

variable {standings : List Standing} {points : Int} {turns : Nat}

/-- Unbeaten are those who reach the best there is. -/
theorem Best.unbeaten_iff (h : Best standings points turns) {a : Standing} (ha : a ∈ standings) :
    Unbeaten standings a ↔ a.points = points ∧ a.turns = turns := by
  obtain ⟨top, htop, hpoints, hturns⟩ := h.reached
  have hle := h.points_le a ha
  constructor
  · intro hfree
    have hnot := hfree top htop
    unfold Beats at hnot
    have heq : a.points = points := by omega
    have hfew := h.turns_le a ha heq
    exact ⟨heq, by omega⟩
  · rintro ⟨heq, hfew⟩ b hb hbeats
    have hb' := h.points_le b hb
    rcases hbeats with hmore | ⟨hsame, hless⟩
    · omega
    · have hb'' := h.turns_le b hb (by omega)
      omega

end Standing

open Standing

/-- The three passes find the best there is, and select by it. -/
theorem exists_best {standings : List Standing} (h : standings ≠ []) :
    ∃ points turns, Best standings points turns ∧
      determineWinners standings =
        (standings.filter fun a => a.points == points && a.turns == turns).map (·.player) := by
  have hmax : (standings.map (·.points)).max?.isSome = true := by
    rw [List.isSome_max?_iff]
    simpa using h
  obtain ⟨points, hpoints⟩ := Option.isSome_iff_exists.mp hmax
  obtain ⟨hmem, hle⟩ := List.max?_eq_some_iff.mp hpoints
  obtain ⟨top, htop, hreach⟩ := List.mem_map.mp hmem
  have hleader : top ∈ standings.filter (·.points == points) :=
    List.mem_filter.mpr ⟨htop, by simpa using hreach⟩
  have hmin : ((standings.filter (·.points == points)).map (·.turns)).min?.isSome = true := by
    rw [List.isSome_min?_iff]
    simpa using List.ne_nil_of_mem hleader
  obtain ⟨turns, hturns⟩ := Option.isSome_iff_exists.mp hmin
  obtain ⟨hmem', hle'⟩ := List.min?_eq_some_iff.mp hturns
  refine ⟨points, turns, ⟨?_, ?_, ?_⟩, ?_⟩
  · exact fun a ha => hle a.points (List.mem_map_of_mem ha)
  · intro a ha heq
    exact hle' a.turns (List.mem_map_of_mem (List.mem_filter.mpr ⟨ha, by simpa using heq⟩))
  · obtain ⟨first, hfirst, hfew⟩ := List.mem_map.mp hmem'
    obtain ⟨hin, heq⟩ := List.mem_filter.mp hfirst
    exact ⟨first, hin, by simpa using heq, hfew⟩
  · unfold determineWinners
    rw [hpoints]
    dsimp only
    rw [hturns, Option.getD_some, List.filter_filter]
    refine congrArg _ (List.filter_congr fun a _ => ?_)
    rw [Bool.and_comm]

/-- The winners are the players whom nobody beats, in the order of the list. -/
theorem determineWinners_eq (standings : List Standing) :
    determineWinners standings =
      (standings.filter fun a => decide (Unbeaten standings a)).map (·.player) := by
  by_cases hnil : standings = []
  · rw [hnil]
    rfl
  obtain ⟨points, turns, hbest, heq⟩ := exists_best hnil
  rw [heq]
  refine congrArg _ (List.filter_congr fun a ha => ?_)
  rw [Bool.eq_iff_iff, decide_eq_true_iff, hbest.unbeaten_iff ha]
  simp

/-- Points come first, then fewer turns; those who are equal in both share the win. -/
example :
    determineWinners [⟨⟨0⟩, "", 6, 4⟩, ⟨⟨1⟩, "", 6, 3⟩, ⟨⟨2⟩, "", -1, 1⟩, ⟨⟨3⟩, "", 6, 3⟩] =
      [⟨1⟩, ⟨3⟩] := by decide

/-- Among players somebody wins. -/
theorem determineWinners_ne_nil {standings : List Standing} (h : standings ≠ []) :
    determineWinners standings ≠ [] := by
  obtain ⟨points, turns, hbest, heq⟩ := exists_best h
  obtain ⟨top, htop, hpoints, hturns⟩ := hbest.reached
  have hmem : top ∈ standings.filter fun a => a.points == points && a.turns == turns :=
    List.mem_filter.mpr ⟨htop, by simp [hpoints, hturns]⟩
  rw [heq]
  exact List.ne_nil_of_mem (List.mem_map_of_mem hmem)

/-- A standing without a name. -/
def Standing.unnamed (a : Standing) : Standing := { a with name := "" }

theorem determineWinners_unnamed (standings : List Standing) :
    determineWinners (standings.map unnamed) = determineWinners standings := by
  have hfree : ∀ a, Unbeaten (standings.map unnamed) a.unnamed ↔ Unbeaten standings a := by
    intro a
    simp only [Unbeaten, List.forall_mem_map]
    exact Iff.rfl
  rw [determineWinners_eq, determineWinners_eq, List.filter_map, List.map_map]
  simp only [Function.comp_def, hfree]
  rfl

/-- A traversal comes to a value if each of its steps does. -/
theorem mapM_eq_ok_iff {ε α β : Type} {f : α → Except ε β} {xs : List α} {ys : List β} :
    xs.mapM f = .ok ys ↔ List.Forall₂ (fun x y => f x = .ok y) xs ys := by
  induction xs generalizing ys with
  | nil =>
    rw [List.mapM_nil, List.forall₂_nil_left_iff]
    exact ⟨fun h => (Except.ok.inj h).symm, fun h => congrArg Except.ok h.symm⟩
  | cons x rest ih =>
    rw [List.mapM_cons, List.forall₂_cons_left_iff]
    constructor
    · intro h
      cases hx : f x with
      | error e =>
        rw [hx] at h
        cases h
      | ok y =>
        rw [hx] at h
        cases hrest : rest.mapM f with
        | error e =>
          rw [hrest] at h
          cases h
        | ok others =>
          rw [hrest] at h
          exact ⟨y, others, rfl, ih.mp hrest, (Except.ok.inj h).symm⟩
    · intro h
      obtain ⟨y, others, hx, hrest, rfl⟩ := h
      rw [hx, ih.mpr hrest]
      rfl

theorem mapM_map_ok {ε α β γ : Type} (f : α → Except ε β) (h : β → γ) (xs : List α) :
    (xs.mapM fun x => do return h (← f x)) = (xs.mapM f).map (List.map h) := by
  induction xs with
  | nil => rfl
  | cons x rest ih =>
    rw [List.mapM_cons, List.mapM_cons, ih]
    cases f x with
    | error e => rfl
    | ok y => cases rest.mapM f <;> rfl

/-- The winners are counted on their own, and agree with what the standings say. -/
theorem GameState.winners_eq (s : GameState) : s.winners = s.standings.map determineWinners := by
  have hranks : (s.players.mapM fun p => do
      return { player := p.id, points := ← s.points p.id, turns := p.turns } :
        Except GameError (List Standing)) = s.standings.map (List.map unnamed) := by
    rw [standings, ← mapM_map_ok]
    refine congrArg (fun f => s.players.mapM f) (funext fun p => ?_)
    cases s.points p.id <;> rfl
  rw [winners, hranks]
  cases s.standings with
  | error e => rfl
  | ok standings => exact congrArg Except.ok (determineWinners_unnamed standings)

/-- The game has come to its end with these standings, and it is told who has won. -/
def GameState.concluded (s : GameState) (standings : List Standing) : GameState :=
  let winners := determineWinners standings
  s.publish (winners.head?.getD ⟨0⟩) (.gameEnd winners (standings.map (·.points)))

/-- A game ends with the winners that its standings have, or not at all. -/
theorem Engine.ensures_finish {M : Type} {g : Game M} {turns : Nat} {reason : EndReason}
    {Q : GameResult → Game M → Prop} {E : Halt → Game M → Prop} :
    Ensures (finish turns reason) g Q E ↔
      match g.state.standings with
      | .ok standings =>
        Q { winners := determineWinners standings, standings, turns, reason }
          { g with state := g.state.concluded standings }
      | .error e => E (.error e) g := by
  have hwinners := GameState.winners_eq g.state
  cases hstandings : g.state.standings with
  | error e =>
    rw [hstandings] at hwinners
    simp only [finish, ensures_bind, ensures_state, hwinners]
    rfl
  | ok standings =>
    replace hwinners : g.state.winners = .ok (determineWinners standings) := by
      rw [hwinners, hstandings]
      rfl
    simp only [finish, ensures_bind, ensures_state, hwinners, hstandings, ensures_lift_ok,
      ensures_publish, ensures_pure]
    rfl

end DeckBuilder
