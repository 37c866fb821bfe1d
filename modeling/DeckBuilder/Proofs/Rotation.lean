import DeckBuilder.Proofs.TurnBoundary
import DeckBuilder.Proofs.Turns
import Mathlib.Algebra.Order.Floor.Div
import Mathlib.Data.Nat.ModEq

/-!
Whose turn it is. The turn goes round the table, one seat further after each turn, so after some number
of turns one can say who has had how many of them and what the log tells of their starts. Nothing that
goes on within a turn can disturb that, whatever the cards do and whoever answers.
-/
namespace DeckBuilder

/-! ### Going round -/

/-- How many of the first `k` turns fall to the player who sits `i` seats after the first one, at a
table of `n`. -/
def share (n k i : Nat) : Nat := if i < k then (k - i) ⌈/⌉ n else 0

section

variable {n k i : Nat}

theorem share_eq_div (hi : i < n) : share n k i = (k + (n - 1 - i)) / n := by
  unfold share
  by_cases hik : i < k
  · rw [if_pos hik, Nat.ceilDiv_eq_add_pred_div]
    congr 1
    omega
  · rw [if_neg hik, Nat.div_eq_of_lt (by omega)]

/-- The next turn falls to the player whom the count has come to. -/
theorem share_succ (hi : i < n) :
    share n (k + 1) i = share n k i + if k % n = i then 1 else 0 := by
  have hround : n ∣ k + (n - 1 - i) + 1 ↔ k % n = i := by
    have hmod := Nat.mod_lt k (Nat.zero_lt_of_lt hi)
    have hdiv := Nat.div_add_mod k n
    have hsplit : k + (n - 1 - i) + 1 = n * (k / n) + (k % n + (n - i)) := by omega
    rw [hsplit, Nat.dvd_add_right (Nat.dvd_mul_right n (k / n))]
    constructor
    · intro hdvd
      have heq := Nat.eq_of_dvd_of_lt_two_mul (by omega) hdvd (by omega)
      omega
    · intro heq
      rw [heq, Nat.add_sub_cancel' hi.le]
  rw [share_eq_div hi, share_eq_div hi, Nat.add_right_comm, Nat.succ_div]
  simp only [hround]

/-- Seats counted from the first one are the same if the counts are, up to whole rounds. -/
theorem seat_eq_iff {f : Nat} (hi : i < n) : (f + k) % n = (f + i) % n ↔ k % n = i := by
  constructor
  · intro h
    have hmod : k % n = i % n := Nat.ModEq.add_left_cancel' f h
    rw [hmod, Nat.mod_eq_of_lt hi]
  · intro h
    rw [← h, Nat.add_mod_mod]

end

/-! ### One turn -/

namespace GameEvent

/-- Whose turn started, and its number, if that is what the event tells. -/
def start? (e : GameEvent) : Option (PlayerId × Nat) :=
  match e.kind with
  | .startTurn => some (e.player, e.turn)
  | _ => none

theorem start?_eq_none {e : GameEvent} (h : e.kind.Inner) : e.start? = none := by
  unfold start?
  cases hkind : e.kind with
  | startTurn =>
    rw [hkind] at h
    exact h.elim
  | _ => rfl

theorem filterMap_start? {events : List GameEvent} (h : ∀ e ∈ events, e.kind.Inner) :
    events.filterMap start? = [] :=
  List.filterMap_eq_nil_iff.mpr fun e he => start?_eq_none (h e he)

end GameEvent

namespace GameState

/-- The turns that have started, as the log tells it: of which player, and which number. -/
def starts (s : GameState) : List (PlayerId × Nat) := s.log.filterMap GameEvent.start?

/-- A turn was started and has passed on to the next seat, be the game over then or not. -/
structure Rotated (s s' : GameState) : Prop where
  seated : s.active < s.players.length
  turn : s'.turn = s.turn + 1
  active : s'.active = (s.active + 1) % s.players.length
  turns : s'.players.map (·.turns) = (s.players.map (·.turns)).modify s.active (· + 1)
  starts : s'.starts = s.starts ++ [(s.activePlayer, s.turn + 1)]

theorem Turned.rotated {s s' : GameState} (h : s.Turned s') : s.Rotated s' := by
  refine ⟨h.seated, h.turn, h.active, h.turns, ?_⟩
  obtain ⟨events, hinner, hlog⟩ := h.log
  rw [starts, hlog, List.filterMap_append, List.filterMap_cons, GameEvent.filterMap_start? hinner]
  rfl

theorem starts_concluded (s : GameState) (standings : List Standing) :
    (s.concluded standings).starts = s.starts := by
  rw [concluded, starts, log_publish, List.filterMap_append]
  exact List.append_nil _

/-- The end of the game is told of; no turn starts by that. -/
theorem Rotated.concluded {s s' : GameState} (h : s.Rotated s') (standings : List Standing) :
    s.Rotated (s'.concluded standings) :=
  ⟨h.seated, h.turn, h.active, h.turns, (starts_concluded s' standings).trans h.starts⟩

end GameState

namespace Engine

theorem playTurn_rotates {M : Type} [Controllers M] {g : Game M} (maxTurns elapsed : Nat) :
    Ensures (playTurn maxTurns elapsed) g (fun _ g' => g.state.Rotated g'.state)
      fun _ _ => True := by
  rw [ensures_playTurn]
  refine turn_turned.imp ?_
  intro _ g' hturned
  cases g'.state.ending? maxTurns (elapsed + 1) with
  | none => exact hturned.rotated
  | some reason =>
    dsimp only
    rw [ensures_finish]
    cases g'.state.standings with
    | error e => exact trivial
    | ok standings => exact hturned.rotated.concluded standings

end Engine

/-! ### Many turns -/

/-- After `k` turns at a table of `n` at which the player at seat `f` went first. -/
structure GameState.Rotation (n f k : Nat) (s : GameState) : Prop where
  seats : s.players.length = n
  turn : s.turn = k
  active : s.active = (f + k) % n
  turns : ∀ i < n, (s.players.map (·.turns))[(f + i) % n]? = some (share n k i)
  total : (s.players.map (·.turns)).sum = k
  starts : s.starts = (List.range k).map fun j => (⟨(f + j) % n⟩, j + 1)

namespace GameState

variable {n f k : Nat} {s s' : GameState}

theorem Rotation.next (h : Rotation n f k s) (hturn : s.Rotated s') : Rotation n f (k + 1) s' where
  seats := by
    have hlength := congrArg List.length hturn.turns
    rw [List.length_modify, List.length_map, List.length_map] at hlength
    exact hlength.trans h.seats
  turn := by rw [hturn.turn, h.turn]
  active := by rw [hturn.active, h.active, h.seats, Nat.mod_add_mod, Nat.add_assoc]
  turns := by
    intro i hi
    rw [hturn.turns, List.getElem?_modify, h.turns i hi, h.active, share_succ hi]
    simp only [Option.map_eq_map, Option.map_some, seat_eq_iff hi]
    by_cases hhere : k % n = i
    · rw [if_pos hhere, if_pos hhere]
    · rw [if_neg hhere, if_neg hhere, Nat.add_zero]
  total := by
    rw [hturn.turns, sum_modify_succ (by simpa using hturn.seated), h.total]
  starts := by
    rw [hturn.starts, h.starts, h.turn, List.range_succ, List.map_append, activePlayer, h.active]
    rfl

/-- Before the first turn nobody has had one. -/
theorem Rotation.zero (hseats : s.players.length = n) (hactive : s.active < n) (hturn : s.turn = 0)
    (hturns : ∀ p ∈ s.players, p.turns = 0) (hlog : s.starts = []) : Rotation n s.active 0 s where
  seats := hseats
  turn := hturn
  active := (Nat.mod_eq_of_lt hactive).symm
  turns := by
    intro i _
    have hlt : (s.active + i) % n < s.players.length := by
      rw [hseats]
      exact Nat.mod_lt _ (Nat.zero_lt_of_lt hactive)
    rw [List.getElem?_map, List.getElem?_eq_getElem hlt]
    exact congrArg some (hturns _ (List.getElem_mem hlt))
  total := List.sum_eq_zero (List.forall_mem_map.mpr hturns)
  starts := hlog

end GameState

theorem Setup.Dealt.meanwhile {s s' : GameState} (h : Setup.Dealt s s') : s.Meanwhile s' := by
  induction h with
  | refl => exact .refl s
  | tail _ hstep ih =>
    refine ih.trans (Write.meanwhile ?_)
    cases hstep with
    | draw id p hp => exact .draw _ id p hp
    | tell id n => exact .publish _ id _ trivial

theorem initGame_rotation {r : Registry} {config : GameConfig} {s₀ : GameState}
    (hinit : initGame r config = .ok s₀) :
    s₀.Rotation config.players.length s₀.active 0 := by
  obtain ⟨s₁, hlaid, hdealt⟩ := initGame_laid hinit
  have hdeal := hdealt.meanwhile
  have hopened := initGame_opened hinit
  refine .zero hopened.seats (hopened.seats ▸ hopened.sound.active) (hdeal.turn.trans hlaid.turn)
    ?_ ?_
  · have hnew : ∀ t ∈ s₁.players.map (·.turns), t = 0 := by
      refine List.forall_mem_map.mpr fun p hp => ?_
      obtain ⟨i, hi⟩ := List.mem_iff_getElem?.mp hp
      rw [(hlaid.players i p hi).eq]
    rw [← hdeal.turns] at hnew
    exact List.forall_mem_map.mp hnew
  · obtain ⟨kingdom, hevents⟩ := hlaid.events
    obtain ⟨events, hlog, hinner⟩ := hdeal.log
    rw [GameState.starts, hlog, List.filterMap_append, GameEvent.filterMap_start? hinner,
      GameState.log, hevents]
    rfl

/-- The states after some turns of a game, whoever answers in each of them, and be it over meanwhile
or not. -/
inductive GameState.After (s₀ : GameState) : Nat → GameState → Prop
  | opening : After s₀ 0 s₀
  | turn {M : Type} [Controllers M] {g g' : Game M} {result : Option GameResult} {k : Nat}
      (maxTurns elapsed : Nat) (before : After s₀ k g.state)
      (h : (Engine.playTurn maxTurns elapsed).runOn g = (.ok result, g')) :
      After s₀ (k + 1) g'.state

theorem GameState.After.rotation {n f k : Nat} {s₀ s : GameState} (h₀ : s₀.Rotation n f 0)
    (h : s₀.After k s) : s.Rotation n f k := by
  induction h with
  | opening => exact h₀
  | @turn M _ g g' result k maxTurns elapsed before h ih =>
    have hturn := Engine.playTurn_rotates (g := g) maxTurns elapsed
    rw [Engine.Ensures, h] at hturn
    exact ih.next hturn

/-- The turn goes round the table: after `k` turns it is that of the player `k` seats after the first
one, every player has had just the share of the turns that falls to the seat, and the log tells of the
start of each of them in this order, and of no other start. -/
theorem turns_rotate {r : Registry} {config : GameConfig} {s₀ s : GameState} {k : Nat}
    (hinit : initGame r config = .ok s₀) (hafter : s₀.After k s) :
    let n := config.players.length
    let f := s₀.active
    s.turn = k ∧ s.activePlayer = ⟨(f + k) % n⟩ ∧ s.players.length = n ∧
      (∀ i < n, ∃ p, s.player? ⟨(f + i) % n⟩ = some p ∧
        p.turns = if i < k then (k - i) ⌈/⌉ n else 0) ∧
      (s.players.map (·.turns)).sum = k ∧
      s.starts = (List.range k).map fun j => (⟨(f + j) % n⟩, j + 1) := by
  have h := hafter.rotation (initGame_rotation hinit)
  refine ⟨h.turn, congrArg PlayerId.mk h.active, h.seats, ?_, h.total, h.starts⟩
  intro i hi
  have hturns := h.turns i hi
  rw [List.getElem?_map] at hturns
  obtain ⟨p, hp, hshare⟩ := Option.map_eq_some_iff.mp hturns
  exact ⟨p, hp, hshare⟩

/-- Two players who answer at random, after three turns: the one who went first has had two. -/
theorem turns_rotate_at_random :
    ∃ s₀ s : GameState, initGame Registry.catalog { players := ["Player 1", "Player 2"] } = .ok s₀ ∧
      s₀.After 3 s ∧ s.turn = 3 ∧
      (∃ p, s.player? ⟨s₀.active % 2⟩ = some p ∧ p.turns = 2) ∧
      s.starts.map (·.2) = [1, 2, 3] := by
  obtain ⟨s₀, hinit, hfit⟩ := exists_random_pair
  obtain ⟨_, g₁, hturn₁, hon₁, -⟩ := (Catalog.playTurn_ends 10 0 hfit).total
  obtain ⟨_, g₂, hturn₂, hon₂, -⟩ := (Catalog.playTurn_ends 10 1 (hfit.onward hon₁)).total
  obtain ⟨_, g₃, hturn₃, -, -⟩ :=
    (Catalog.playTurn_ends 10 2 ((hfit.onward hon₁).onward hon₂)).total
  have hafter : s₀.After 3 g₃.state :=
    .turn 10 2 (.turn 10 1 (.turn 10 0 .opening hturn₁) hturn₂) hturn₃
  obtain ⟨hturn, -, -, hshare, -, hstarts⟩ := turns_rotate hinit hafter
  obtain ⟨p, hp, hturns⟩ := hshare 0 (by decide)
  exact ⟨s₀, g₃.state, hinit, hafter, hturn, ⟨p, hp, hturns⟩, by rw [hstarts]; rfl⟩

end DeckBuilder
