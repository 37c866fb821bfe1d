import DeckBuilder.Proofs.Telling
import DeckBuilder.Proofs.Witnessing

/-!
Windows onto the log. The events are numbered from one, the turns that are stamped on them never go
down, and where a turn begins is remembered as a number of events. So what comes after a number in the
log is what has a higher number, and what comes after the start of the turn is what has the number of
the turn stamped on it. The counter of the turns and the remembered start are moved together, between
two events, and no operation moves either of them.
-/
namespace DeckBuilder

/-- What is left of a list after its first items are those with a property, if the first ones lack it
and the others have it. -/
theorem drop_eq_filter {α : Type} {l : List α} {p : α → Bool} {k : Nat}
    (hfirst : ∀ a ∈ l.take k, p a = false) (hrest : ∀ a ∈ l.drop k, p a = true) :
    l.drop k = l.filter p := by
  have hnone : (l.take k).filter p = [] := List.filter_eq_nil_iff.mpr fun a ha => by simp [hfirst a ha]
  have hall : (l.drop k).filter p = l.drop k := List.filter_eq_self.mpr hrest
  calc l.drop k = (l.take k).filter p ++ (l.drop k).filter p := by rw [hnone, hall, List.nil_append]
    _ = l.filter p := by rw [← List.filter_append, List.take_append_drop]

namespace GameState

/-- The events are numbered in order, and those before the start of the turn belong to earlier turns,
all others to this one. -/
structure Windowed (s : GameState) : Prop where
  seq : ∀ i e, s.log[i]? = some e → e.seq = i + 1
  turns : s.log.Pairwise fun e e' => e.turn ≤ e'.turn
  start : s.turnStart ≤ s.log.length
  earlier : ∀ e ∈ s.log.take s.turnStart, e.turn < s.turn
  current : ∀ e ∈ s.log.drop s.turnStart, e.turn = s.turn

namespace Windowed

variable {s s' : GameState}

/-- Nothing has been told yet. -/
theorem blank (hlog : s.log = []) (hstart : s.turnStart = 0) : s.Windowed := by
  refine ⟨?_, ?_, ?_, ?_, ?_⟩ <;> simp [hlog, hstart]

theorem turn_le (h : s.Windowed) : ∀ e ∈ s.log, e.turn ≤ s.turn := by
  rw [← List.take_append_drop s.turnStart s.log]
  exact List.forall_mem_append.mpr
    ⟨fun e he => (h.earlier e he).le, fun e he => (h.current e he).le⟩

theorem aside (h : s.Windowed) (hlog : s'.log = s.log) (hturn : s'.turn = s.turn)
    (hstart : s'.turnStart = s.turnStart) : s'.Windowed := by
  obtain ⟨hseq, hturns, hlength, hearlier, hcurrent⟩ := h
  rw [← hlog, ← hturn, ← hstart] at *
  exact ⟨hseq, hturns, hlength, hearlier, hcurrent⟩

/-- One more event is told of, with the next number and the number of the turn. -/
theorem tell (h : s.Windowed) {id : PlayerId} {kind : EventKind}
    (hlog : s'.log = s.log ++ [s.events.next id s.turn kind]) (hturn : s'.turn = s.turn)
    (hstart : s'.turnStart = s.turnStart) : s'.Windowed := by
  have hsize : s.events.events.size = s.log.length := Array.length_toList.symm
  refine ⟨?_, ?_, ?_, ?_, ?_⟩
  · intro i e he
    rw [hlog, List.getElem?_append] at he
    by_cases hi : i < s.log.length
    · rw [if_pos hi] at he
      exact h.seq i e he
    · rw [if_neg hi, List.getElem?_singleton] at he
      obtain ⟨hlast, heq⟩ := Option.ite_none_right_eq_some.mp he
      rw [← Option.some.inj heq]
      change s.events.events.size + 1 = i + 1
      omega
  · rw [hlog, List.pairwise_append]
    refine ⟨h.turns, List.pairwise_singleton _ _, fun e he e' he' => ?_⟩
    obtain rfl := List.mem_singleton.mp he'
    exact h.turn_le e he
  · rw [hlog, hstart, List.length_append]
    exact Nat.le_add_right_of_le h.start
  · rw [hlog, hstart, hturn, List.take_append_of_le_length h.start]
    exact h.earlier
  · rw [hlog, hstart, hturn, List.drop_append_of_le_length h.start]
    exact List.forall_mem_append.mpr ⟨h.current, List.forall_mem_singleton.mpr rfl⟩

theorem touched (h : s.Windowed) (ht : s.Touched s') : s'.Windowed := by
  rcases ht.log with ⟨hlog, -⟩ | ⟨id, kind, hlog, -⟩
  · exact h.aside hlog ht.turn ht.turnStart
  · exact h.tell hlog ht.turn ht.turnStart

theorem touches (h : s.Windowed) (ht : Touches s s') : s'.Windowed := by
  induction ht with
  | refl => exact h
  | tail _ htouch ih => exact ih.touched htouch.touched

/-- When a turn begins nothing of it has been told yet. -/
theorem begin (h : s.Windowed) :
    Windowed { s with turn := s.turn + 1, phase := .action, turnStart := s.events.lastSeq } where
  seq := h.seq
  turns := h.turns
  start := Array.length_toList.ge
  earlier e he := Nat.lt_succ_of_le (h.turn_le e (List.mem_of_mem_take he))
  current e he := by
    have hnil : s.log.drop s.events.lastSeq = [] :=
      List.drop_eq_nil_of_le Array.length_toList.le
    change e ∈ s.log.drop s.events.lastSeq at he
    rw [hnil] at he
    cases he

theorem passage (h : s.Windowed) (hp : Passage s s') : s'.Windowed := by
  cases hp with
  | begin => exact h.begin
  | count | pass => exact h.aside rfl rfl rfl
  | start | finish => exact h.tell (log_publish s _ _) rfl rfl

/-! ### What a window shows -/

theorem after_eq (h : s.Windowed) (k : Nat) : s.events.after k = s.log.filter (k < ·.seq) := by
  refine drop_eq_filter ?_ ?_
  · intro e he
    obtain ⟨i, hi⟩ := List.mem_iff_getElem?.mp he
    rw [List.getElem?_take] at hi
    obtain ⟨hlt, hi⟩ := Option.ite_none_right_eq_some.mp hi
    have hseq := h.seq i e hi
    simp only [decide_eq_false_iff_not]
    omega
  · intro e he
    obtain ⟨i, hi⟩ := List.mem_iff_getElem?.mp he
    rw [List.getElem?_drop] at hi
    have hseq := h.seq _ e hi
    simp only [decide_eq_true_eq]
    omega

theorem turnEvents_eq (h : s.Windowed) :
    s.outlook.turnEvents = s.log.filter (·.turn = s.turn) := by
  refine drop_eq_filter ?_ ?_
  · exact fun e he => decide_eq_false (h.earlier e he).ne
  · exact fun e he => decide_eq_true (h.current e he)

end Windowed

end GameState

/-! ### From the set-up on -/

theorem Setup.Dealing.touch {s s' : GameState} (h : Dealing s s') : Touch s s' := by
  cases h with
  | draw id p hp => exact .draw s id p hp
  | tell id n => exact .publish s id _ trivial

open Setup in
/-- The first thing that is told of is the start of the game, when the log book is set up; then the hands
are dealt. -/
theorem initGame_touches {r : Registry} {config : GameConfig} {s : GameState}
    (h : initGame r config = .ok s) :
    ∃ (blank : GameState) (id : PlayerId) (kingdom : List String), blank.log = [] ∧
      blank.turnStart = 0 ∧
      blank.logger =
        { verbosity := config.verbosity, format := config.format, output := config.output } ∧
      Touches (blank.publish id (.gameStart kingdom)) s := by
  unfold initGame at h
  dsimp only at h
  by_cases hn : config.players.length < minPlayers ∨ maxPlayers < config.players.length
  · rw [if_pos hn] at h
    cases h
  rw [if_neg hn] at h
  obtain ⟨⟨kingdom, g₁⟩, -, h⟩ := ok_bind h
  obtain ⟨⟨supply, cards₁⟩, -, h⟩ := ok_bind h
  obtain ⟨⟨players, cards, g₂⟩, -, h⟩ := ok_bind h
  have htouches := Relation.ReflTransGen.mono (fun _ _ => Dealing.touch) _ _ (drawHands_dealt h)
  exact ⟨_, _, kingdom, rfl, rfl, rfl, htouches⟩

/-- Before the first turn nothing has been told of but the start of the game and the hands. -/
theorem initGame_windowed {r : Registry} {config : GameConfig} {s : GameState}
    (h : initGame r config = .ok s) : s.Windowed := by
  obtain ⟨blank, id, kingdom, hlog, hstart, -, htouches⟩ := initGame_touches h
  have hblank := GameState.Windowed.blank hlog hstart
  exact (hblank.tell (GameState.log_publish blank id _) rfl rfl).touches htouches

namespace Engine

variable {M : Type} [Controllers M]

theorem lasting_windowed : Lasting fun g : Game M => g.state.Windowed :=
  .ofState (fun h htouch => h.touched htouch.touched) (fun h hpassage => h.passage hpassage)
    fun _ _ h => h.aside rfl rfl rfl

end Engine

open Engine

/-- The windows onto the log show what they should. Whatever is done with a game that was set up, and
if it is then played to its end, in each state that anyone sees and in the states after: the events are
numbered from one, the turns stamped on them never go down, the events after a number are those with a
higher number, and the events of the turn are those that have the number of the turn stamped on them. -/
theorem log_windows {M : Type} [Controllers M] {r : Registry} {config : GameConfig} {s₀ : GameState}
    (hinit : initGame r config = .ok s₀) (memory : M) (operations : List Operation)
    (maxTurns : Nat) :
    let g := Operation.applyAll operations (Game.witnessed ⟨s₀, memory⟩)
    ∀ s ∈ g.states ++ ((playGame maxTurns).runOn g).2.states,
      (∀ i e, s.log[i]? = some e → e.seq = i + 1) ∧
        (s.log.Pairwise fun e e' => e.turn ≤ e'.turn) ∧
        (∀ k, s.events.after k = s.log.filter (k < ·.seq)) ∧
        s.outlook.turnEvents = s.log.filter (·.turn = s.turn) := by
  intro g s hs
  have hwindowed : s.Windowed :=
    lasting_windowed.throughout (fun _ hg => hg) (g := ⟨s₀, memory⟩) (initGame_windowed hinit)
      operations maxTurns s hs
  exact ⟨hwindowed.seq, hwindowed.turns, hwindowed.after_eq, hwindowed.turnEvents_eq⟩

/-- Two players who answer at random: they play two turns with a gain between them that fails for want
of such a pile, and then the game to its end. -/
theorem log_windows_at_random :
    ∃ s₀, initGame Registry.catalog { players := ["Player 1", "Player 2"] } = .ok s₀ ∧
      let g := Operation.applyAll
        [.playTurn 10 0, .call (.gain "Potion" ⟨1⟩ false .hand), .playTurn 10 1]
        (Game.witnessed ⟨s₀, Table.ofMinds [.random, .random]⟩)
      ∀ s ∈ g.states ++ ((playGame 10).runOn g).2.states,
        s.outlook.turnEvents = s.log.filter (·.turn = s.turn) := by
  obtain ⟨s₀, hinit⟩ := initGame_catalog
  refine ⟨s₀, hinit, fun s hs => ?_⟩
  exact (log_windows hinit _ _ _ s hs).2.2.2

end DeckBuilder
