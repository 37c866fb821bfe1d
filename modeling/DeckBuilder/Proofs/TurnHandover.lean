import DeckBuilder.Proofs.CleanUp
import DeckBuilder.Proofs.Replenishing
import DeckBuilder.Proofs.TurnTriggers

/-!
How a turn is handed over. What the cards in play do at the end of the turn comes first, each of them
once and only while it is still in play; this may be anything that a program can do. From there on all
is settled: the cards on which nothing waits and the hand go to the discard pile, a new hand is drawn,
the player is as before the first action of a turn, and the next seat has the turn.
-/
namespace DeckBuilder

/-! ### Laying down -/

theorem CardRow.diff_filter_not (cards : CardRow) (q : CardId → Bool) :
    cards.diff (cards.filter fun card => !q card) = cards.filter q := by
  induction cards with
  | nil => rfl
  | cons card rest ih =>
    by_cases hcard : q card
    · have hnot : card ∉ rest.filter fun card => !q card := by simp [hcard]
      rw [List.filter_cons_of_neg (by simp [hcard]), List.cons_diff_of_not_mem hnot, ih,
        List.filter_cons_of_pos hcard]
    · rw [List.filter_cons_of_pos (by simp [hcard]), List.diff_cons, List.erase_cons_head, ih,
        List.filter_cons_of_neg hcard]

namespace Tableau

variable {t : Tableau}

/-- The cards laid down lie in the discard pile in their order, and the hand above them. -/
theorem layDown_eq {done : List CardId} (h : done.Subperm t.zones.inPlay) :
    t.layDown done = { t with zones := { t.zones with
      hand := []
      inPlay := t.zones.inPlay.diff done
      discard := t.zones.discard ++ done ++ t.zones.hand } } := by
  unfold layDown
  induction done generalizing t with
  | nil => simp
  | cons card rest ih =>
    have hmem : card ∈ t.zones.inPlay := h.subset List.mem_cons_self
    have hrest : rest.Subperm (t.zones.inPlay.erase card) := by
      have herase := h.erase card
      rwa [List.erase_cons_head] at herase
    have hcard : (t.transfer card .inPlay .discard .top).2 = { t with zones := { t.zones with
        inPlay := t.zones.inPlay.erase card, discard := t.zones.discard ++ [card] } } :=
      congrArg (fun zones => { t with zones }) (PlayerZones.transfer_inPlay_discard hmem)
    rw [List.foldl_cons, hcard, List.diff_cons]
    refine (ih hrest).trans ?_
    simp

end Tableau

namespace GameState

/-- The card is in play in front of the player. -/
def InPlayOf (s : GameState) (id : PlayerId) (card : CardId) : Prop :=
  ∃ p, s.player? id = some p ∧ card ∈ p.inPlay

/-- Something waits on the card. -/
def waitedOn (s : GameState) (card : CardId) : Bool := !(s.durations card).isEmpty

theorem all_cleansUp (s : GameState) (card : CardId) :
    (s.card? card).all Card.cleansUp = !s.waitedOn card := by
  rw [waitedOn, durations, Bool.not_not]
  cases s.card? card <;> rfl

/-- What the end of a turn makes of the player: the cards in play on which something waits stay there,
and there is a new hand, of as many cards as there are. -/
structure CleanedUp (s : GameState) (p p' : Player) : Prop where
  inPlay : p'.inPlay = p.inPlay.filter s.waitedOn
  hand : p'.hand.length = min handSize (p.hand.length + p.zones.deck.length +
    p.zones.discard.length + (p.inPlay.filter fun card => !s.waitedOn card).length)
  setAside : p'.zones.setAside = p.zones.setAside
  mats : p'.zones.mats = p.zones.mats
  actions : p'.actions = 1
  buys : p'.buys = 1
  money : p'.money = 0
  triggers : p'.triggers = ([], [])

/-- The player has cleaned up and the turn has passed to the next seat; the others have what they had. -/
structure HandedOver (id : PlayerId) (s s' : GameState) : Prop where
  player : ∃ p p', s.player? id = some p ∧ s'.player? id = some p' ∧ s.CleanedUp p p'
  others : ∀ other ≠ id, s'.player? other = s.player? other
  costModifiers : s'.costModifiers = []
  phase : s'.phase = .action
  active : s'.active = (s.active + 1) % s.players.length

/-- The new hand comes from the deck and from what is in the discard pile once the cards are laid down. -/
theorem cleanedUp_of_afterDraw (s : GameState) (p : Player) :
    let laid := p.toTableau.layDown (p.inPlay.filter fun card => !s.waitedOn card)
    s.CleanedUp p { toTableau := (laid.afterDraw handSize s.rng).resetCounters } := by
  intro laid
  have hlaid : laid = _ := p.toTableau.layDown_eq List.filter_sublist.subperm
  constructor
  · exact (congrArg (·.zones.inPlay) hlaid).trans (CardRow.diff_filter_not _ _)
  · have hhand : laid.zones.hand = [] := rfl
    have hdeck : laid.zones.deck = p.zones.deck := congrArg (·.zones.deck) hlaid
    have hdiscard : laid.zones.discard =
        p.zones.discard ++ p.inPlay.filter (fun card => !s.waitedOn card) ++ p.zones.hand :=
      congrArg (·.zones.discard) hlaid
    change (laid.zones.hand ++ (laid.ahead s.rng).take handSize).length = _
    rw [hhand, List.nil_append, List.length_take, Tableau.length_ahead, hdeck, hdiscard,
      List.length_append, List.length_append, Tableau.hand]
    omega
  · exact congrArg (·.zones.setAside) hlaid
  · exact congrArg (·.zones.mats) hlaid
  all_goals rfl

end GameState

namespace Engine

variable {M : Type} [Controllers M] {g g' : Game M}

/-- What a card in play does at the end of the turn, if it is still there at its turn. -/
inductive HookRun (id : PlayerId) (card : CardId) : Game M → Game M → Prop
  | ran {g g' : Game M} {d : CardDefinition} (hd : g.state.definition? card = some d)
      (hin : g.state.InPlayOf id card)
      (h : (executeAll run d.onCleanUp ⟨card, id⟩).runOn g = (.ok (), g')) : HookRun id card g g'
  | gone {g : Game M} (h : ¬ g.state.InPlayOf id card) : HookRun id card g g

theorem cleanUpHook_runs (id : PlayerId) (card : CardId) (g : Game M) :
    Ensures (cleanUpHook run id card) g (fun _ g' => HookRun id card g g') fun _ _ => True := by
  refine ensures_bind.mpr (ensures_definition.mpr ?_)
  cases hc : g.state.card? card with
  | none => exact trivial
  | some c =>
  refine ensures_bind.mpr (ensures_player.mpr ?_)
  cases hp : g.state.player? id with
  | none => exact trivial
  | some p =>
  have hd : g.state.definition? card = some c.definition := by
    rw [GameState.definition?, hc]
    rfl
  have hin_iff : g.state.InPlayOf id card ↔ card ∈ p.inPlay := by
    simp [GameState.InPlayOf, hp]
  refine ensures_ite.mpr ⟨fun hhook => ?_, fun hnot => ?_⟩
  · have hin : card ∈ p.inPlay := List.contains_iff_mem.mp (Bool.and_eq_true_iff.mp hhook).2
    refine (Ensures.trivial (e := executeAll run c.definition.onCleanUp ⟨card, id⟩)).ran.imp ?_
    rintro _ g' ⟨-, hran⟩
    exact HookRun.ran hd (hin_iff.mpr hin) hran
  · by_cases hin : card ∈ p.inPlay
    · have hempty : c.definition.onCleanUp = [] := by
        by_contra hsome
        exact hnot (by simp [hsome, hin])
      refine HookRun.ran hd (hin_iff.mpr hin) ?_
      rw [hempty]
      rfl
    · exact .gone (mt hin_iff.mp hin)

omit [Controllers M] in
theorem cleanUpRest_hands_over (id : PlayerId) (g : Game M) :
    Ensures (cleanUpRest id) g (fun _ g' => g.state.HandedOver id g'.state) fun _ _ => True := by
  refine ensures_cleanUpRest_of_done fun p cards s p' hp hdraw hp' => ?_
  simp only [GameState.all_cleansUp] at hdraw
  generalize hlaid : p.onTableau
    (·.layDown (p.inPlay.filter fun card => !g.state.waitedOn card)) = laid at hdraw
  have hplayer : ((g.state.setPlayer id laid).publish id .cleanUp).player? id = some laid :=
    GameState.player?_setPlayer_self laid hp
  obtain ⟨_, _, hdraw', hdrew⟩ := GameState.exists_drew hplayer handSize
  obtain ⟨rfl, rfl⟩ := Prod.mk.inj (Except.ok.inj (hdraw.symm.trans hdraw'))
  have hdrawn : p' = laid.onTableau (·.afterDraw handSize g.state.rng) :=
    Option.some.inj (hp'.symm.trans (hdrew.player? hplayer))
  constructor
  · refine ⟨p, _, hp, GameState.player?_setPlayer_self _ hp', ?_⟩
    rw [hdrawn, ← hlaid]
    exact g.state.cleanedUp_of_afterDraw p
  · intro other hother
    calc
      _ = s.player? other := GameState.player?_setPlayer_of_ne hother _
      _ = _ := hdrew.player?_of_ne hother
      _ = g.state.player? other := GameState.player?_setPlayer_of_ne hother laid
  · rfl
  · rfl
  · have hactive : s.active = g.state.active := hdrew.active
    have hseats : s.players.length = g.state.players.length :=
      hdrew.seats.trans (GameState.length_players_setPlayer _ id laid)
    change (s.active + 1) % _ = _
    rw [GameState.length_players_setPlayer, hactive, hseats]

theorem cleanUpHooks_round (id : PlayerId) (g : Game M) :
    Ensures (cleanUpHooks run id) g (fun _ g' => ∃ p, g.state.player? id = some p ∧
      Round (HookRun id) p.inPlay g g' ∧ Along Write g g') fun _ _ => True := by
  refine ensures_bind.mpr (ensures_player.mpr ?_)
  cases hp : g.state.player? id with
  | none => exact trivial
  | some p =>
  refine (Ensures.trivial (e := p.inPlay.forM (cleanUpHook run id))).ran.imp ?_
  rintro _ g' ⟨-, hran⟩
  refine ⟨p, rfl, (runOn_forM.mp hran).keeps (I := Along Write g) .refl ?_⟩
  intro card _ g₁ g₂ h₁ hhook
  have hwrites : Upholds (Along Write g) (cleanUpHook run id card : Engine M Unit) :=
    .bind (.definition card) fun d => .bind (.player id) fun p =>
      .ite (.executeAll (.run (enduring_along_write g)) _ _) (.pure _)
  exact ⟨(cleanUpHook_runs id card g₁).ended hhook, (hwrites g₁ h₁).ended hhook⟩

theorem cleanUp_rounds (g : Game M) :
    Ensures cleanUp g (fun _ g' => ∃ p g₁, g.state.player? g.state.activePlayer = some p ∧
      Round (HookRun g.state.activePlayer) p.inPlay
        ⟨{ g.state with phase := .cleanUp }, g.memory⟩ g₁ ∧
      g₁.state.HandedOver g.state.activePlayer g'.state ∧
      g'.state.active = (g.state.active + 1) % g.state.players.length) fun _ _ => True := by
  rw [← cleanUpBy_run]
  refine ensures_bind.mpr (Catalog.ensures_active.mpr ?_)
  refine ensures_bind.mpr (ensures_modifyState.mpr (ensures_bind.mpr ?_))
  refine (cleanUpHooks_round _ _).imp ?_
  rintro _ g₁ ⟨p, hp, hround, hwrites⟩
  have hmeanwhile := Writes.meanwhile hwrites
  refine (cleanUpRest_hands_over _ g₁).imp fun _ g' hover => ⟨p, g₁, hp, hround, hover, ?_⟩
  rw [hover.active, hmeanwhile.active, hmeanwhile.seats]

/-- Whatever is printed on the cards and whoever answers, as long as no card lies in two places: if a
clean-up comes to its end, the cards in play have done what they do at the end of a turn, one after the
other, and then the turn has been handed over to the next seat. -/
theorem cleanUp_hands_over (hs : g.state.whereabouts.Nodup) (h : cleanUp.runOn g = (.ok (), g')) :
    ∃ p g₁, g.state.player? g.state.activePlayer = some p ∧ p.inPlay.Nodup ∧
      Round (HookRun g.state.activePlayer) p.inPlay
        ⟨{ g.state with phase := .cleanUp }, g.memory⟩ g₁ ∧
      g₁.state.HandedOver g.state.activePlayer g'.state ∧
      g'.state.active = (g.state.active + 1) % g.state.players.length := by
  obtain ⟨p, g₁, hp, hround, hover, hactive⟩ := (cleanUp_rounds g).ended h
  have hall := (List.nodup_append.mp hs).2.1
  have hzones := (List.nodup_flatMap.mp hall).1 p (List.mem_of_getElem? hp)
  exact ⟨p, g₁, hp, PlayerZones.nodup_inPlay hzones, hround, hover, hactive⟩

/-- A card that takes the third card of the game into the hand when the turn ends. -/
def pickUpCard : CardDefinition where
  name := "Pick Up"
  cost := 2
  types := [.action]
  onCleanUp := [.custom "pick up" fun ctx =>
    .call (.move ⟨2⟩ ctx.player .hand .top) fun _ => .finish false]

/-- Three such cards are in play. The first takes the third into the hand, and on the second one
something waits. -/
def pickUpTable : Game Table where
  state :=
    { cards := (((({} : Store Card).add { definition := pickUpCard }).2.add
        { definition := pickUpCard, durations := [fun _ => .finish false] }).2.add
        { definition := pickUpCard }).2
      players :=
        [{ id := ⟨0⟩, name := "Ann", zones :=
            { deck := [⟨3⟩, ⟨4⟩, ⟨5⟩, ⟨6⟩, ⟨7⟩], inPlay := [⟨0⟩, ⟨1⟩, ⟨2⟩] } },
          { id := ⟨1⟩, name := "Ben" }]
      supply := { piles := [], baseCount := 0 }
      rng := default }
  memory := Table.ofMinds [.random, .random]

theorem hands_over_after_pick_up :
    ∃ g₁ g', cleanUp.runOn pickUpTable = (.ok (), g') ∧
      Round (HookRun ⟨0⟩) [⟨0⟩, ⟨1⟩, ⟨2⟩]
        ⟨{ pickUpTable.state with phase := .cleanUp }, pickUpTable.memory⟩ g₁ ∧
      g₁.state.HandedOver ⟨0⟩ g'.state ∧ g'.state.active = 1 := by
  have hends : (cleanUp.runOn pickUpTable).1 = .ok () := by decide +kernel
  have hran := runOn_eq_of_ok hends
  have hnodup : pickUpTable.state.whereabouts.Nodup := by decide
  obtain ⟨p, g₁, hp, -, hround, hover, hactive⟩ := cleanUp_hands_over hnodup hran
  obtain rfl := Option.some.inj hp
  exact ⟨g₁, _, hran, hround, hover, hactive⟩

end Engine

end DeckBuilder
