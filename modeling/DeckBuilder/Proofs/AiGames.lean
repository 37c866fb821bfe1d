import DeckBuilder.Proofs.AiAnswers
import DeckBuilder.Proofs.Reachable
import DeckBuilder.Proofs.Recording
import DeckBuilder.Simulation

/-!
Games between players who need no input. They keep their minds, and every question that a game with
the catalog puts to them is fair; so each of their answers is taken at the first time of asking, and
no such game ever fails.
-/
namespace DeckBuilder

/-! ### Minds at a table -/

/-- A mind that needs no input. -/
def Mind.Automatic : Mind → Prop
  | .random | .heuristic _ => True
  | _ => False

/-- At every seat there is such a mind. -/
def Table.Automatic (t : Table) : Prop := ∀ seat ∈ t.seats, seat.mind.Automatic

theorem Table.automatic_ofMinds {minds : List Mind} (h : ∀ mind ∈ minds, mind.Automatic) :
    (Table.ofMinds minds).Automatic := by
  intro seat hseat
  obtain ⟨mind, hmind, rfl⟩ := List.mem_map.mp hseat
  exact h mind hmind

theorem Mind.answer_accepted {s : GameState} {id : PlayerId} {q : Question}
    {d : Desk (Mind × Input)} (hd : d.memory.1.Automatic) (hq : q.Fair) :
    q.accepts (Mind.answer s id q d).1 = true ∧ (Mind.answer s id q d).2.memory = d.memory := by
  obtain ⟨⟨mind, input⟩, rng, notes⟩ := d
  cases mind with
  | random => exact ⟨RandomPlayer.answer_accepted hq, RandomPlayer.answer_keeps s q _⟩
  | heuristic density =>
    exact ⟨HeuristicPlayer.answer_accepted hq, HeuristicPlayer.answer_keeps density s id q _⟩
  | scripted | queue | terminal => exact hd.elim

theorem Mind.gameOver_keeps {s : GameState} {id : PlayerId} {won : Bool}
    {d : Desk (Mind × Input)} (hd : d.memory.1.Automatic) :
    (Mind.gameOver s id won d).2.memory = d.memory := by
  obtain ⟨⟨mind, input⟩, rng, notes⟩ := d
  cases mind with
  | random | heuristic => rfl
  | scripted | queue | terminal => exact hd.elim

/-- The mind at a seat; an empty seat thinks at random. -/
def Table.seatAt (t : Table) (id : PlayerId) : Seat := (t.seats[id.seat]?).getD { mind := .random }

/-- At a seat a mind thinks with itself and the input, after a note if the seat is traced. -/
theorem Table.atSeat_eq {α : Type} (id : PlayerId) (put : Json) (t : Think (Mind × Input) α)
    (d : Desk Table) :
    ∃ notes : Array Note,
      let o := t ⟨((d.memory.seatAt id).mind, d.memory.input), d.rng, notes⟩
      (Table.atSeat id put t d).1 = o.1 ∧ (Table.atSeat id put t d).2.memory.seats =
        d.memory.seats.set id.seat { d.memory.seatAt id with mind := o.2.memory.1 } := by
  have hrun : Table.atSeat id put t d =
      (if (d.memory.seatAt id).traced = true then _ else _ : Think Table α) d := rfl
  rw [hrun]
  by_cases htraced : (d.memory.seatAt id).traced = true
  · rw [if_pos htraced]
    exact ⟨_, rfl, rfl⟩
  · rw [if_neg htraced]
    exact ⟨_, rfl, rfl⟩

/-- A table with such minds lets one of them think, and if that mind remains as it is then so does
the table. -/
theorem Table.atSeat_spec {α : Type} {id : PlayerId} {put : Json} {t : Think (Mind × Input) α}
    {d : Desk Table} {P : α → Prop} (hd : d.memory.Automatic)
    (ht : ∀ desk : Desk (Mind × Input), desk.memory.1.Automatic →
      P (t desk).1 ∧ (t desk).2.memory = desk.memory) :
    P (Table.atSeat id put t d).1 ∧ (Table.atSeat id put t d).2.memory.Automatic := by
  have hseat : (d.memory.seatAt id).mind.Automatic := by
    unfold seatAt
    cases hget : d.memory.seats[id.seat]? with
    | none => trivial
    | some seat => exact hd seat (List.mem_of_getElem? hget)
  obtain ⟨notes, hvalue, hseats⟩ := atSeat_eq id put t d
  obtain ⟨hP, hmind⟩ := ht ⟨((d.memory.seatAt id).mind, d.memory.input), d.rng, notes⟩ hseat
  rw [hmind] at hseats
  rw [hvalue]
  refine ⟨hP, ?_⟩
  unfold Automatic
  rw [hseats]
  intro seat hmem
  rcases List.mem_or_eq_of_mem_set hmem with hmem | rfl
  · exact hd seat hmem
  · exact hseat

theorem Table.answer_accepted (s : GameState) (id : PlayerId) {q : Question} {d : Desk Table}
    (hd : d.memory.Automatic) (hq : q.Fair) :
    q.accepts (Controllers.answer s id q d).1 = true ∧
      (Controllers.answer s id q d).2.memory.Automatic :=
  Table.atSeat_spec (P := fun a => q.accepts a = true) hd fun _ hdesk =>
    Mind.answer_accepted hdesk hq

theorem Table.gameOver_automatic {s : GameState} {id : PlayerId} {won : Bool} {d : Desk Table}
    (hd : d.memory.Automatic) : (Controllers.gameOver s id won d).2.memory.Automatic :=
  (Table.atSeat_spec (P := fun _ => True) hd fun _ hdesk =>
    ⟨trivial, Mind.gameOver_keeps hdesk⟩).2

/-! ### Games -/

open Engine

/-- Such minds stay such minds, and every answer that is recorded is acceptable; so none is refused
and nothing is given up. -/
def Contract.automatic : Contract (Recorded Table) where
  keeps r := r.memory.Automatic ∧ ∀ x ∈ r.exchanges, x.accepted = true
  halts _ _ := False
  asked := by
    rintro g id q ⟨hminds, hrecord⟩ hq
    have hanswer := Table.answer_accepted g.state id
      (d := ⟨g.memory.memory, g.state.rng, #[]⟩) hminds hq
    refine ⟨hanswer.2, ?_⟩
    intro x hx
    rcases List.mem_append.mp hx with hx | hx
    · exact hrecord x hx
    · rw [List.mem_singleton.mp hx]
      exact hanswer.1
  told := by
    rintro g id won ⟨hminds, hrecord⟩
    exact ⟨Table.gameOver_automatic (d := ⟨g.memory.memory, g.state.rng, #[]⟩) hminds, hrecord⟩
  exhausted := by
    rintro g g' id q - - - ⟨-, hrecord⟩ hrefused
    obtain ⟨answers, heq, hlength, hall⟩ := hrefused.exchanges
    have hpos : 0 < answers.length := by
      rw [hlength]
      decide
    obtain ⟨first, hfirst⟩ := List.exists_mem_of_length_pos hpos
    have haccepted := hrecord ⟨id, q, first⟩ (by
      rw [heq]
      exact List.mem_append_right _ (List.mem_map.mpr ⟨first, hfirst, rfl⟩))
    exact absurd (hall first hfirst) (by simpa [Exchange.accepted] using haccepted)

theorem Game.start_ok {M : Type} (s : GameState) (memory : M) :
    Game.start s s.playerIds memory = .ok ⟨s, memory⟩ := by
  have hlength : s.playerIds.length = s.players.length := by simp [GameState.playerIds]
  have hseats : ∀ entry ∈ s.playerIds.zipIdx, entry.1.seat = entry.2 := by
    rintro ⟨id, seat⟩ hmem
    have hget : s.playerIds[seat]? = some id := List.mem_zipIdx_iff_getElem?.mp hmem
    rw [GameState.playerIds, List.getElem?_map] at hget
    obtain ⟨i, hi, rfl⟩ := Option.map_eq_some_iff.mp hget
    have hrange := (List.getElem?_eq_some_iff.mp hi).2
    rw [List.getElem_range] at hrange
    exact hrange.symm
  unfold Game.start
  rw [if_neg (not_not.mpr hlength), List.find?_eq_none.mpr ?_]
  intro entry hmem
  simp [hseats entry hmem]

/-- A game of a batch that can be set up is played to its end. -/
theorem Simulation.runOne_eq {r : Registry} {c : Config} {index : Nat} {s₀ : GameState}
    (hinit : initGame r (c.gameConfig index) = .ok s₀) :
    runOne r c index =
      ((playGame c.maxTurns).runOn ⟨s₀, Table.ofMinds (c.seats.map Ai.mind)⟩).1 := by
  rw [runOne, hinit]
  change (do
    let game ← (Game.start s₀ s₀.playerIds _).mapError Halt.error
    ((playGame c.maxTurns).runOn game).1 : Except Halt GameResult) = _
  rw [Game.start_ok]
  rfl

/-- A computation over which no answer is refused gives a value, and all answers are acceptable. -/
theorem accepted_of_ensures {α : Type} {e : Engine (Recorded Table) α} {e' : Engine Table α}
    {Q : α → Game (Recorded Table) → Prop} {g : Game Table} (hagrees : Agrees Recorded.memory e e')
    (hends : Ensures e g.recorded Q Contract.automatic.halts)
    (hkeeps : ∀ a g', Q a g' → Contract.automatic.keeps g'.memory) :
    (∃ a, (e'.runOn g).1 = .ok a) ∧ ∀ x ∈ exchanges e g, x.accepted = true := by
  rw [hagrees.recorded g]
  unfold Ensures at hends
  unfold exchanges
  generalize e.runOn g.recorded = out at hends ⊢
  obtain ⟨_ | a, g'⟩ := out
  · exact hends.elim
  · exact ⟨⟨a, rfl⟩, (hkeeps a g' hends).2⟩

/-- There is a game of the catalog between two players who answer at random. -/
theorem exists_random_pair :
    ∃ s₀, initGame Registry.catalog { players := ["Player 1", "Player 2"] } = .ok s₀ ∧
      Contract.automatic.Fit (Game.recorded ⟨s₀, Table.ofMinds [.random, .random]⟩) := by
  obtain ⟨s₀, hinit⟩ := initGame_catalog
  have hminds : (Table.ofMinds [.random, .random]).Automatic :=
    Table.automatic_ofMinds (by simp [Mind.Automatic])
  exact ⟨s₀, hinit, (initGame_opened hinit).ofCatalog, hminds, by simp [Game.recorded]⟩

/-- A simulated game that can be set up never fails. In it, and in every turn from any reachable game
between players who need no input, each answer to each question is acceptable at the first time of
asking. -/
theorem simulated_games_end (c : Simulation.Config) (index : Nat) {s₀ : GameState}
    (hinit : initGame Registry.catalog (c.gameConfig index) = .ok s₀) :
    (∃ result, Simulation.runOne Registry.catalog c index = .ok result) ∧
      (∀ x ∈ exchanges (playGame c.maxTurns)
        ⟨s₀, Table.ofMinds (c.seats.map Simulation.Ai.mind)⟩, x.accepted = true) ∧
      ∀ g : Game Table, g.Reachable s₀ → g.memory.Automatic → ∀ maxTurns elapsed,
        (∃ result, ((playTurn maxTurns elapsed).runOn g).1 = .ok result) ∧
          ∀ x ∈ exchanges (playTurn maxTurns elapsed) g, x.accepted = true := by
  have hcatalog := (initGame_opened hinit).ofCatalog
  have hfit : ∀ g : Game Table, g.state.OfCatalog → g.memory.Automatic →
      Contract.automatic.Fit g.recorded :=
    fun g hg hminds => ⟨hg, hminds, by simp [Game.recorded]⟩
  have hminds : (Table.ofMinds (c.seats.map Simulation.Ai.mind)).Automatic := by
    refine Table.automatic_ofMinds fun mind hmind => ?_
    obtain ⟨ai, -, rfl⟩ := List.mem_map.mp hmind
    cases ai <;> trivial
  have hgame := accepted_of_ensures (Agrees.playGame Recorded.alike c.maxTurns)
    (Catalog.playGame_ends c.maxTurns (hfit ⟨s₀, _⟩ hcatalog hminds)) fun _ _ h => h.memory
  refine ⟨?_, hgame.2, ?_⟩
  · obtain ⟨result, hresult⟩ := hgame.1
    exact ⟨result, (Simulation.runOne_eq hinit).trans hresult⟩
  · intro g hg hminds maxTurns elapsed
    exact accepted_of_ensures (Agrees.playTurn Recorded.alike maxTurns elapsed)
      (Catalog.playTurn_ends maxTurns elapsed (hfit g (hg.ofCatalog hcatalog).1 hminds))
      fun _ _ h => h.1.memory

set_option maxRecDepth 100000 in
/-- A player at random against one by values, with the usual kingdom. -/
theorem simulated_games_end_between_both :
    ∃ result, Simulation.runOne Registry.catalog { seats := [.random, .heuristic], games := 1 } 0 =
      .ok result := by
  have hsome : (initGame Registry.catalog (Simulation.Config.gameConfig
      { seats := [.random, .heuristic], games := 1 } 0)).toOption.isSome = true := by
    decide +kernel
  obtain ⟨s₀, hinit⟩ := exists_ok_of_isSome hsome
  exact (simulated_games_end _ 0 hinit).1

end DeckBuilder
