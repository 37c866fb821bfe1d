import DeckBuilder.Proofs.Firing
import DeckBuilder.Proofs.Winning
import DeckBuilder.Proofs.Writes
import Mathlib.Data.List.Forall2

/-!
What a turn does to the game, whatever the cards are and whoever answers. The writes in its course
leave the number of the turn, the seat at which it is and the players' counts of turns alone, tell of
nothing that begins or ends, and only take from the piles. So all that is counted from turn to turn
changes at two moments: when the turn begins, and when it passes on.
-/
namespace DeckBuilder

/-! ### Piles that are only taken from -/

namespace Pile

/-- Some of the topmost cards are gone. -/
structure Lowered (before after : Pile) : Prop where
  definition : after.definition = before.definition
  cards : after.cards <+: before.cards

theorem Lowered.refl (p : Pile) : p.Lowered p := ⟨rfl, List.prefix_refl _⟩

theorem Lowered.trans {p p' p'' : Pile} (h : p.Lowered p') (h' : p'.Lowered p'') : p.Lowered p'' :=
  ⟨h'.definition.trans h.definition, h'.cards.trans h.cards⟩

theorem lowered_pop (p : Pile) : p.Lowered p.pop := ⟨rfl, List.dropLast_prefix _⟩

theorem Lowered.name {p p' : Pile} (h : p.Lowered p') : p'.name = p.name := by
  rw [Pile.name, Pile.name, h.definition]

/-- An empty pile stays empty. -/
theorem Lowered.isEmpty {p p' : Pile} (h : p.Lowered p') (hempty : p.isEmpty) : p'.isEmpty := by
  have hnil : p.cards = [] := by simpa [Pile.isEmpty] using hempty
  have hless := h.cards
  rw [hnil, List.prefix_nil] at hless
  simp [Pile.isEmpty, hless]

end Pile

namespace Supply

/-- The same piles, each of them lowered or as it was. -/
def Lowered (before after : Supply) : Prop := List.Forall₂ Pile.Lowered before.piles after.piles

theorem Lowered.refl (s : Supply) : s.Lowered s :=
  List.forall₂_same.mpr fun p _ => Pile.Lowered.refl p

theorem Lowered.trans {s s' s'' : Supply} (h : s.Lowered s') (h' : s'.Lowered s'') :
    s.Lowered s'' := by
  obtain ⟨hlength, hpiles⟩ := List.forall₂_iff_get.mp h
  obtain ⟨hlength', hpiles'⟩ := List.forall₂_iff_get.mp h'
  refine List.forall₂_iff_get.mpr ⟨hlength.trans hlength', fun i hi hi'' => ?_⟩
  exact (hpiles i hi (hlength ▸ hi)).trans (hpiles' i (hlength ▸ hi) hi'')

theorem lowered_pop (s : Supply) (pile : String) : s.Lowered (s.updatePile pile Pile.pop) := by
  refine List.forall₂_iff_get.mpr ⟨by simp [updatePile], fun i hi hi' => ?_⟩
  simp only [updatePile, List.get_eq_getElem, List.getElem_modify]
  by_cases hhere : s.piles.findIdx (·.name == pile) = i
  · rw [if_pos hhere]
    exact Pile.lowered_pop _
  · rw [if_neg hhere]
    exact Pile.Lowered.refl _

/-- A pile that is there and empty stays so. -/
theorem Lowered.pile?_empty {s s' : Supply} (h : s.Lowered s') {name : String}
    (hempty : (s.pile? name).any Pile.isEmpty) : (s'.pile? name).any Pile.isEmpty := by
  unfold pile? at hempty ⊢
  unfold Lowered at h
  generalize s.piles = piles at h hempty
  generalize s'.piles = piles' at h ⊢
  induction h with
  | nil => exact hempty
  | @cons p p' _ _ hp _ ih =>
    rw [List.find?_cons, hp.name]
    rw [List.find?_cons] at hempty
    cases hname : p.name == name with
    | true =>
      rw [hname] at hempty
      exact hp.isEmpty hempty
    | false =>
      rw [hname] at hempty
      exact ih hempty

/-- No pile is filled again. -/
theorem Lowered.emptyCount_le {s s' : Supply} (h : s.Lowered s') : s.emptyCount ≤ s'.emptyCount := by
  unfold emptyCount empty
  unfold Lowered at h
  generalize s.piles = piles at h ⊢
  generalize s'.piles = piles' at h ⊢
  induction h with
  | nil => exact Nat.le_refl _
  | @cons p p' _ _ hp _ ih =>
    rw [List.filter_cons, List.filter_cons]
    by_cases hempty : p.isEmpty
    · rw [if_pos hempty, if_pos (hp.isEmpty hempty)]
      exact Nat.succ_le_succ ih
    · rw [if_neg hempty]
      by_cases hempty' : p'.isEmpty
      · rw [if_pos hempty']
        exact Nat.le_succ_of_le ih
      · rw [if_neg hempty']
        exact ih

end Supply

namespace GameState

variable {s s' s'' : GameState}

theorem isFinished_iff : s.isFinished ↔
    (s.supply.pile? "Province").any Pile.isEmpty ∨ 3 ≤ s.supply.emptyCount := by
  rw [isFinished, Bool.or_eq_true, decide_eq_true_eq]

/-- A game that is over stays so while cards are only taken from the piles. -/
theorem isFinished_of_lowered (h : s.supply.Lowered s'.supply) (hs : s.isFinished) :
    s'.isFinished := by
  rw [isFinished_iff] at hs ⊢
  rcases hs with hprovinces | hpiles
  · exact Or.inl (h.pile?_empty hprovinces)
  · exact Or.inr (hpiles.trans h.emptyCount_le)

/-! ### What goes on within a turn -/

/-- The events so far, the oldest first. -/
def log (s : GameState) : List GameEvent := s.events.events.toList

@[simp] theorem log_publish (s : GameState) (id : PlayerId) (kind : EventKind) :
    (s.publish id kind).log = s.log ++ [s.events.next id s.turn kind] :=
  Array.toList_push

/-- What the course of a turn leaves alone, and what it may do to the log and to the supply. -/
structure Meanwhile (s s' : GameState) : Prop where
  turn : s'.turn = s.turn
  active : s'.active = s.active
  turns : s'.players.map (·.turns) = s.players.map (·.turns)
  log : ∃ events, s'.log = s.log ++ events ∧ ∀ e ∈ events, e.kind.Inner
  supply : s.supply.Lowered s'.supply

namespace Meanwhile

theorem refl (s : GameState) : s.Meanwhile s :=
  ⟨rfl, rfl, rfl, ⟨[], (List.append_nil _).symm, List.forall_mem_nil _⟩, .refl _⟩

theorem trans (h : s.Meanwhile s') (h' : s'.Meanwhile s'') : s.Meanwhile s'' where
  turn := h'.turn.trans h.turn
  active := h'.active.trans h.active
  turns := h'.turns.trans h.turns
  log := by
    obtain ⟨events, hlog, hinner⟩ := h.log
    obtain ⟨events', hlog', hinner'⟩ := h'.log
    refine ⟨events ++ events', ?_, List.forall_mem_append.mpr ⟨hinner, hinner'⟩⟩
    rw [hlog', hlog, List.append_assoc]
  supply := h.supply.trans h'.supply

/-- No player joins or leaves. -/
theorem seats (h : s.Meanwhile s') : s'.players.length = s.players.length := by
  have hturns := congrArg List.length h.turns
  rwa [List.length_map, List.length_map] at hturns

/-- Nothing of it is touched. -/
theorem aside (hturn : s'.turn = s.turn) (hactive : s'.active = s.active)
    (hturns : s'.players.map (·.turns) = s.players.map (·.turns)) (hevents : s'.events = s.events)
    (hsupply : s'.supply = s.supply) : s.Meanwhile s' where
  turn := hturn
  active := hactive
  turns := hturns
  log := ⟨[], by rw [GameState.log, hevents, List.append_nil]; rfl, List.forall_mem_nil _⟩
  supply := hsupply ▸ .refl _

theorem publish (s : GameState) (id : PlayerId) {kind : EventKind} (h : kind.Inner) :
    s.Meanwhile (s.publish id kind) :=
  ⟨rfl, rfl, rfl, ⟨_, log_publish s id kind, List.forall_mem_singleton.mpr h⟩, .refl _⟩

end Meanwhile

/-- What is the same of a player before and after is the same all round the table. -/
theorem map_setPlayer {β : Type} {id : PlayerId} {p : Player} (hp : s.player? id = some p)
    (p' : Player) {f : Player → β} (hf : f p' = f p) :
    (s.setPlayer id p').players.map f = s.players.map f := by
  have hget : (s.players.map f)[id.seat]? = some (f p) := by
    rw [List.getElem?_map, show s.players[id.seat]? = some p from hp]
    rfl
  obtain ⟨hseat, heq⟩ := List.getElem?_eq_some_iff.mp hget
  rw [setPlayer, List.map_set, hf, ← heq]
  exact List.set_getElem_self hseat

/-- A shuffle may be told of after a player has drawn or looked at cards. -/
theorem Meanwhile.shuffled (hs : s.Meanwhile s') (id : PlayerId) (cards : Nat) :
    s.Meanwhile (if 0 < cards then s'.publish id (.shuffle cards) else s') := by
  by_cases hcards : 0 < cards
  · rw [if_pos hcards]
    exact hs.trans (.publish s' id trivial)
  · rw [if_neg hcards]
    exact hs

end GameState

theorem Write.meanwhile {s s' : GameState} (h : Write s s') : s.Meanwhile s' := by
  cases h with
  | think hthought =>
    obtain ⟨rng, logger, heq⟩ := hthought.eq
    rw [heq]
    exact .aside rfl rfl rfl rfl rfl
  | aside => exact .aside rfl rfl rfl rfl rfl
  | arrange id p p' hp _ hturns => exact .aside rfl rfl (GameState.map_setPlayer hp p' hturns) rfl rfl
  | draw id p hp =>
    obtain ⟨hand, deck, discard, hdraw⟩ := Tableau.draw_eq p.toTableau s.rng
    have hturns := GameState.map_setPlayer (f := (·.turns)) hp
      { p with toTableau := (p.toTableau.draw s.rng).2.1 } (by rw [hdraw])
    have hmoved : s.Meanwhile
        { s.setPlayer id { p with toTableau := (p.toTableau.draw s.rng).2.1 } with
          rng := (p.toTableau.draw s.rng).2.2 } := .aside rfl rfl hturns rfl rfl
    exact hmoved.shuffled id _
  | peek _ id n cards ht =>
    unfold GameState.topCards at ht
    cases hp : s.player? id with
    | none => simp [hp] at ht
    | some p =>
      obtain ⟨deck, discard, hprepare⟩ := Tableau.prepare_eq p.toTableau n s.rng
      have hturns := GameState.map_setPlayer (f := (·.turns)) hp
        { p with toTableau := (p.toTableau.topCards n s.rng).2.1 }
        (by rw [Tableau.topCards, hprepare])
      have hmoved : s.Meanwhile
          { s.setPlayer id { p with toTableau := (p.toTableau.topCards n s.rng).2.1 } with
            rng := (p.toTableau.topCards n s.rng).2.2 } := .aside rfl rfl hturns rfl rfl
      rw [hp] at ht
      cases ht
      exact hmoved.shuffled id _
  | take pile => exact ⟨rfl, rfl, rfl, ⟨[], (List.append_nil _).symm, List.forall_mem_nil _⟩,
      Supply.lowered_pop _ pile⟩
  | publish id kind h => exact .publish s id h

theorem Writes.meanwhile {s s' : GameState} (h : Writes s s') : s.Meanwhile s' := by
  induction h with
  | refl => exact .refl s
  | tail _ hwrite ih => exact ih.trans hwrite.meanwhile

/-! ### From turn to turn -/

namespace GameState

/-- Why the game is over after so many turns, if it is: the piles come before the turn limit. -/
def ending? (s : GameState) (maxTurns turns : Nat) : Option EndReason :=
  if s.isFinished then
    some (if (s.supply.pile? "Province").any Pile.isEmpty then .provincesGone
      else .pilesEmptied s.supply.emptyCount)
  else if maxTurns ≤ turns then some .turnLimit
  else none

/-- The turn has passed on to the next seat. -/
def passed (s : GameState) : GameState :=
  { s with active := (s.active + 1) % s.players.length, costModifiers := [], phase := .action }

/-- What a turn makes of the game: it is the turn of the next seat, the player whose turn it was has
had one more, and the log tells of the start of this turn first and of no other start. -/
structure Turned (s s' : GameState) : Prop where
  seated : s.active < s.players.length
  turn : s'.turn = s.turn + 1
  active : s'.active = (s.active + 1) % s.players.length
  turns : s'.players.map (·.turns) = (s.players.map (·.turns)).modify s.active (· + 1)
  log : ∃ events, (∀ e ∈ events, e.kind.Inner) ∧
    s'.log = s.log ++ s.events.next s.activePlayer (s.turn + 1) .startTurn :: events

theorem turns_begun {s : GameState} {p : Player} (hp : s.player? s.activePlayer = some p) :
    (s.begun s.activePlayer p).players.map (·.turns) =
      (s.players.map (·.turns)).modify s.active (· + 1) := by
  change (s.players.set s.active _).map (·.turns) = _
  have hturns : (s.players.map (·.turns))[s.active]? = some p.turns := by
    rw [List.getElem?_map, show s.players[s.active]? = some p from hp]
    rfl
  rw [List.map_set, List.modify_eq_set_getElem?, hturns]
  rfl

theorem Turned.of_meanwhile {s s' : GameState} {p : Player}
    (hp : s.player? s.activePlayer = some p) (h : (s.begun s.activePlayer p).Meanwhile s') :
    s.Turned s'.passed := by
  have hlength : s'.players.length = s.players.length := h.seats.trans List.length_set
  refine ⟨seat_lt_of_player? hp, h.turn, ?_, h.turns.trans (turns_begun hp), ?_⟩
  · change (s'.active + 1) % s'.players.length = _
    rw [h.active, hlength]
    rfl
  · obtain ⟨events, hlog, hinner⟩ := h.log
    refine ⟨events, hinner, hlog.trans ?_⟩
    rw [begun, log_publish, List.append_assoc]
    rfl

end GameState

namespace Engine

variable {M : Type} [Controllers M] {g : Game M}

/-- The start of a turn counts it and tells of it, and what comes then goes on within the turn. -/
theorem startTurn_begins :
    Ensures startTurn g
      (fun _ g' => ∃ p, g.state.player? g.state.activePlayer = some p ∧
        Writes (g.state.begun g.state.activePlayer p) g'.state) fun _ _ => True := by
  simp only [startTurn, active, ensures_bind, ensures_state, ensures_pure, ensures_modifyState,
    ensures_modifyPlayer, ensures_publish]
  generalize hid : g.state.activePlayer = id
  have hsame : GameState.player? { g.state with
      turn := g.state.turn + 1, phase := .action, turnStart := g.state.events.lastSeq } id =
      g.state.player? id := rfl
  rw [hsame]
  cases hp : g.state.player? id with
  | none => exact trivial
  | some p =>
    dsimp only
    generalize hbegun : Game.mk _ _ = begun
    have hrun : ∀ p, Upholds (Along Write begun) (run p) := Upholds.run (enduring_along_write _)
    have hfired := Upholds.fireDurations (enduring_along_write _) hrun id
    refine (hfired begun .refl).mono ?_ fun _ _ _ => trivial
    intro _ g₁ h₁
    refine (Upholds.fireReactions hrun _ g₁ h₁).mono ?_ fun _ _ _ => trivial
    intro _ g₂ h₂
    rw [← hbegun] at h₂
    exact ⟨p, rfl, h₂⟩

/-- The clean-up goes on within the turn until it passes it on. -/
theorem cleanUp_passes :
    Ensures cleanUp g (fun _ g' => ∃ s, Writes g.state s ∧ g'.state = s.passed)
      fun _ => Along Write g := by
  have hI := enduring_along_write g
  have h₀ : Along Write g g := .refl
  refine Upholds.andThen .active h₀ fun id g₁ h₁ => ?_
  refine Upholds.andThen (.touch hI fun s => .enter s _) h₁ fun _ g₂ h₂ => ?_
  refine Upholds.andThen (.player id) h₂ fun p g₃ h₃ => ?_
  refine Upholds.andThen (.forM (fun card => ?_) _) h₃ fun _ g₄ h₄ => ?_
  · refine .bind (.definition card) fun d => .bind (.player id) fun p => ?_
    exact .ite (.executeAll (.run hI) _ _) (.pure _)
  refine Upholds.andThen (.player id) h₄ fun p g₅ h₅ => ?_
  refine Upholds.andThen (.filterM (fun card => .bind (.card card) fun _ => .pure _) _) h₅
    fun done g₆ h₆ => ?_
  refine Upholds.andThen (.modifyPlayer hI id ?_ ?_) h₆ fun _ g₇ h₇ => ?_
  · exact fun p => (Tableau.foldl_transfer_seat done _ _ _ p.toTableau).1
  · exact fun p => (Tableau.foldl_transfer_seat done _ _ _ p.toTableau).2
  have hkind : EventKind.cleanUp.Passing := trivial
  refine Upholds.andThen (.publish hI.abiding id hkind) h₇ fun _ g₈ h₈ => ?_
  refine Upholds.andThen (.draw hI.abiding id handSize) h₈ fun _ g₉ h₉ => ?_
  refine Upholds.andThen (.modifyPlayer hI id ?_ ?_) h₉ fun _ g' h' => ?_
  · exact fun _ => rfl
  · exact fun _ => rfl
  exact ⟨g'.state, h', rfl⟩

/-- A turn, without looking afterwards whether the game is over. -/
def turn : Engine M Unit := do
  startTurn
  let id ← active
  actionPhase id (← state).patience
  buyPhase id
  cleanUp

theorem Upholds.turn {I : Game M → Prop} (hI : Lasting I) :
    Upholds I (Engine.turn : Engine M Unit) := by
  refine .bind (.startTurn hI) fun _ => .bind .active fun id => .bind .state fun _ => ?_
  exact .bind (.actionPhase hI.toEnduring id _) fun _ =>
    .bind (.buyPhase hI.toEnduring id) fun _ => .cleanUp hI

theorem turn_turned : Ensures turn g (fun _ g' => g.state.Turned g'.state) fun _ _ => True := by
  refine ensures_bind.mpr (startTurn_begins.imp ?_)
  intro _ g₁ hbegun
  obtain ⟨p, hp, h₁⟩ := hbegun
  have hrest : Ensures (do
      let id ← active
      actionPhase id (← state).patience
      buyPhase id
      cleanUp : Engine M Unit) g₁ (fun _ g' => ∃ s, Writes g₁.state s ∧ g'.state = s.passed)
      fun _ => Along Write g₁ := by
    have hI := enduring_along_write g₁
    have h₀ : Along Write g₁ g₁ := .refl
    refine Upholds.andThen .active h₀ fun id g₂ h₂ => ?_
    refine Upholds.andThen .state h₂ fun s g₃ h₃ => ?_
    refine Upholds.andThen (.actionPhase hI id _) h₃ fun _ g₄ h₄ => ?_
    refine Upholds.andThen (.buyPhase hI id) h₄ fun _ g₅ h₅ => ?_
    refine cleanUp_passes.mono ?_ fun _ _ => h₅.trans
    intro _ g' hpassed
    obtain ⟨s', hs', heq⟩ := hpassed
    exact ⟨s', h₅.trans hs', heq⟩
  refine hrest.mono ?_ fun _ _ _ => trivial
  intro _ g' hpassed
  obtain ⟨s', hs', heq⟩ := hpassed
  rw [heq]
  exact .of_meanwhile hp (Writes.meanwhile (h₁.trans hs'))

/-- A game played by turns: each of them is a turn, and a look whether the game is over. -/
theorem playTurn_eq (maxTurns elapsed : Nat) :
    (playTurn maxTurns elapsed : Engine M (Option GameResult)) = do
      turn
      match (← state).ending? maxTurns (elapsed + 1) with
      | some reason => return some (← finish (elapsed + 1) reason)
      | none => return none := by
  simp only [playTurn, turn, bind_assoc]
  refine bind_congr fun _ => bind_congr fun id => bind_congr fun s => ?_
  refine bind_congr fun _ => bind_congr fun _ => bind_congr fun _ => bind_congr fun s => ?_
  unfold GameState.ending?
  by_cases hfinished : s.isFinished
  · rw [if_pos hfinished, if_pos hfinished]
  · rw [if_neg hfinished, if_neg hfinished]
    by_cases hlimit : maxTurns ≤ elapsed + 1
    · rw [if_pos hlimit, if_pos hlimit]
    · rw [if_neg hlimit, if_neg hlimit]

theorem ensures_playTurn {maxTurns elapsed : Nat} {Q : Option GameResult → Game M → Prop}
    {E : Halt → Game M → Prop} :
    Ensures (playTurn maxTurns elapsed) g Q E ↔
      Ensures turn g (fun _ g' =>
        match g'.state.ending? maxTurns (elapsed + 1) with
        | some reason =>
          Ensures (finish (elapsed + 1) reason) g' (fun result => Q (some result)) E
        | none => Q none g') E := by
  have hlook : ∀ g' : Game M, Ensures (do
      match (← state).ending? maxTurns (elapsed + 1) with
      | some reason => return some (← finish (elapsed + 1) reason)
      | none => return none) g' Q E ↔
      match g'.state.ending? maxTurns (elapsed + 1) with
      | some reason =>
        Ensures (finish (elapsed + 1) reason) g' (fun result => Q (some result)) E
      | none => Q none g' := by
    intro g'
    rw [ensures_bind, ensures_state]
    cases g'.state.ending? maxTurns (elapsed + 1) with
    | some reason => exact ensures_map
    | none => exact ensures_pure
  rw [playTurn_eq, ensures_bind]
  simp only [hlook]

end Engine

end DeckBuilder
