import DeckBuilder.Proofs.Conduct

/-!
Turns and whole games make nothing but changes either.
-/
namespace DeckBuilder.Engine

variable {M : Type} {n : Nat}

theorem active_acts : Acts n (active : Engine M PlayerId) fun id => id.seat < n :=
  Acts.state.bind fun _ hs => Acts.pure (hs.seats ▸ hs.sound.active)

theorem enter_acts (phase : Phase) :
    Acts n (modifyState fun s => { s with phase } : Engine M Unit) fun _ => True :=
  Acts.of_steady fun _ _ g hr => reached_change hr (.enter g.state phase) g.memory

theorem layDown_acts (id : PlayerId) (done : List CardId) :
    Acts n (modifyPlayer id (·.onTableau fun t =>
      let t := done.foldl (fun t c => (t.transfer c .inPlay .discard .top).2) t
      { t with zones := { t.zones with hand := [], discard := t.zones.discard ++ t.zones.hand } }) :
      Engine M Unit) fun _ => True := by
  refine Acts.of_steady fun s₀ hs g hr => ?_
  rw [ensures_modifyPlayer]
  cases hp : g.state.player? id with
  | none => exact hr
  | some p => exact reached_change hr (.layDown (Changes.seated hr hs).sound hp done) g.memory

theorem handWhere_acts (id : PlayerId) (p : CardFace → Bool) :
    Acts n (handWhere id p : Engine M (List CardId)) fun _ => True :=
  (player_acts id).bind fun _ _ => Acts.filterM fun c =>
    (card_acts c).bind fun _ _ => Acts.pure trivial

theorem Acts.lift {α : Type} (x : Except GameError α) :
    Acts n (Engine.lift x : Engine M α) fun _ => True := by
  cases x with
  | ok a => exact Acts.pure trivial
  | error e => exact Acts.fail

theorem finish_acts (turns : Nat) (reason : EndReason) :
    Acts n (finish turns reason : Engine M GameResult) fun _ => True := by
  refine Acts.state.bind fun s _ => (Acts.lift s.winners).bind fun winners _ => ?_
  refine Acts.state.bind fun s _ => (Acts.lift s.standings).bind fun standings _ => ?_
  refine Acts.bind (Q := fun _ => True) ?_ fun _ _ => Acts.pure trivial
  exact Acts.of_steady fun _ hs _ hr => (reached_steady hs).publish hr _ trivial

variable [Controllers M]

theorem startTurn_acts : Acts n (startTurn : Engine M Unit) fun _ => True := by
  refine Acts.bind active_acts fun id hid => Acts.of_steady fun s₀ hs g hr => ?_
  obtain ⟨p, hp⟩ := GameState.player?_of_lt (s := g.state)
    ((Changes.seated hr hs).seats ▸ hid)
  have hbegun := reached_change hr (.begin g.state id p hp) g.memory
  have hrest := Acts.bind
    (fireDurations_acts (M := M) run_acts hid)
    fun _ _ => fireReactions_acts run_acts (.startTurn id) hid
  simp only [ensures_bind, ensures_modifyState, ensures_modifyPlayer]
  have hp' : GameState.player? { g.state with
      turn := g.state.turn + 1, phase := .action, turnStart := g.state.events.lastSeq } id =
      some p := hp
  simp only [hp', ensures_publish]
  simpa only [ensures_bind] using (hrest s₀ hs _ hbegun).imp fun _ _ h => h.1

theorem playAndResolve_acts (card : CardId) {id : PlayerId} (hid : id.seat < n) :
    Acts n (do play run card id; resolve run card id : Engine M Unit) fun _ => True :=
  (play_acts run_acts card id).bind fun _ _ =>
    resolve_acts run_acts card hid

theorem actionPhase_acts {id : PlayerId} (hid : id.seat < n) (k : Nat) :
    Acts n (actionPhase id k : Engine M Unit) fun _ => True := by
  induction k with
  | zero => exact Acts.throw
  | succ k ih =>
    refine (player_acts id).bind fun p _ => Acts.ite (fun _ => Acts.pure trivial) fun _ => ?_
    refine (handWhere_acts id _).bind fun playable _ =>
      Acts.ite (fun _ => Acts.pure trivial) fun _ => ?_
    refine (askUntil_acts id _ _ _).bind fun choice _ => ?_
    cases choice with
    | none => exact Acts.pure trivial
    | some card =>
      refine Acts.bind (Acts.modifyPlayer ?_ ?_ ?_ fun p hallow => ⟨hallow.gain, hallow.play⟩)
        fun _ _ => ?_
      · exact fun _ => rfl
      · exact fun _ => rfl
      · exact fun _ => rfl
      · refine (play_acts run_acts card id).bind fun _ _ => ?_
        exact (resolve_acts run_acts card hid).bind fun _ _ => ih

theorem treasurePhase_acts {id : PlayerId} (hid : id.seat < n) (k : Nat) :
    Acts n (treasurePhase id k : Engine M Unit) fun _ => True := by
  induction k with
  | zero => exact Acts.throw
  | succ k ih =>
    refine (handWhere_acts id _).bind fun playable _ =>
      Acts.ite (fun _ => Acts.pure trivial) fun _ => ?_
    refine (askUntil_acts id _ _ _).bind fun choice _ => ?_
    cases choice with
    | none => exact Acts.pure trivial
    | some treasures =>
      cases treasures with
      | nil => exact Acts.pure trivial
      | cons first rest =>
        exact (Acts.forM fun card _ => playAndResolve_acts card hid).bind fun _ _ => ih

theorem purchases_acts {id : PlayerId} (hid : id.seat < n) (k : Nat) :
    Acts n (purchases id k : Engine M Unit) fun _ => True := by
  induction k with
  | zero => exact Acts.throw
  | succ k ih =>
    refine Acts.state.bind fun s _ => Acts.ite (fun _ => Acts.pure trivial) fun _ => ?_
    refine (askUntil_acts id _ _ _).bind fun choice _ => ?_
    cases choice with
    | none => exact Acts.pure trivial
    | some pile =>
      refine (buy_acts run_acts pile hid).bind fun _ _ => ?_
      exact (player_acts id).bind fun _ _ => (verbose_acts _).bind fun _ _ => ih

theorem buyPhase_acts {id : PlayerId} (hid : id.seat < n) :
    Acts n (buyPhase id : Engine M Unit) fun _ => True :=
  (enter_acts .buy).bind fun _ _ => Acts.state.bind fun _ _ =>
    (treasurePhase_acts hid _).bind fun _ _ => Acts.state.bind fun _ _ => purchases_acts hid _

theorem cleanUp_acts : Acts n (cleanUp : Engine M Unit) fun _ => True := by
  refine Acts.bind active_acts fun id hid => (enter_acts .cleanUp).bind fun _ _ => ?_
  refine (player_acts id).bind fun p _ => Acts.bind (Acts.forM fun c _ => ?_) fun _ _ => ?_
  · refine (definition_acts c).bind fun d hd => (player_acts id).bind fun _ _ => ?_
    exact Acts.ite (fun _ => executeAll_acts run_acts ⟨c, id⟩ hd.cleanUp hid)
      fun _ => Acts.pure trivial
  · refine (player_acts id).bind fun p _ => Acts.bind (Acts.filterM fun c => ?_) fun done _ => ?_
    · exact (card_acts c).bind fun _ _ => Acts.pure trivial
    refine (layDown_acts id done).bind fun _ _ => ?_
    refine Acts.bind (Q := fun _ => True) ?_ fun _ _ => (draw_acts id handSize).bind fun _ _ => ?_
    · exact Acts.of_steady fun _ hs _ hr => (reached_steady hs).publish hr id trivial
    refine Acts.bind (Acts.modifyPlayer ?_ ?_ ?_ fun _ _ => ⟨by simp, by simp⟩) fun _ _ => ?_
    · exact fun _ => rfl
    · exact fun _ => rfl
    · exact fun _ => rfl
    · exact Acts.of_steady fun _ _ g hr => reached_change hr (.pass g.state) g.memory

theorem playTurn_acts (maxTurns elapsed : Nat) :
    Acts n (playTurn maxTurns elapsed : Engine M (Option GameResult)) fun _ => True := by
  refine startTurn_acts.bind fun _ _ => active_acts.bind fun id hid => ?_
  refine Acts.state.bind fun _ _ => (actionPhase_acts hid _).bind fun _ _ => ?_
  refine (buyPhase_acts hid).bind fun _ _ => cleanUp_acts.bind fun _ _ => ?_
  refine Acts.state.bind fun s _ => Acts.ite (fun _ => ?_) fun _ => Acts.ite (fun _ => ?_) fun _ => ?_
  · exact (finish_acts _ _).bind fun _ _ => Acts.pure trivial
  · exact (finish_acts _ _).bind fun _ _ => Acts.pure trivial
  · exact Acts.pure trivial

theorem notifyGameOver_acts (winners : List PlayerId) :
    Acts n (notifyGameOver winners : Engine M Unit) fun _ => True :=
  Acts.state.bind fun _ _ => Acts.forM fun id _ =>
    Acts.of_steady fun _ _ g hr => reached_change hr (.think g.state id _ _) _

theorem playOn_acts (maxTurns k elapsed : Nat) :
    Acts n (playOn maxTurns k elapsed : Engine M GameResult) fun _ => True := by
  induction k generalizing elapsed with
  | zero => exact Acts.throw
  | succ k ih =>
    refine (playTurn_acts maxTurns elapsed).bind fun result _ => ?_
    cases result with
    | some result => exact (notifyGameOver_acts _).bind fun _ _ => Acts.pure trivial
    | none => exact ih (elapsed + 1)

end DeckBuilder.Engine
