import DeckBuilder.Controller.Table
import DeckBuilder.Proofs.Firing
import DeckBuilder.Proofs.Marks
import DeckBuilder.Proofs.Moves
import DeckBuilder.Proofs.Reactions

/-!
What waits is run once. When a player plays a card, or a turn begins, the list of what waits is taken off
first, and then each program of the list is run. So a program that one of these installs is not run with
them; it comes after those that are kept. Nothing that waits is run twice, and nothing is lost, unless
another play comes between.
-/
namespace DeckBuilder

variable {M : Type}

namespace GameState

/-- A player has laid a card, and everybody is told. -/
def laid (s : GameState) (id : PlayerId) (p : Player) (card : CardId) (d : CardDefinition)
    (tableau : Tableau) : GameState :=
  (s.setPlayer id { p with toTableau := Engine.afterPlay d card tableau }).publish id
    (.playCard card d.name)

/-- These programs wait on a player's plays, and no others. -/
def awaiting (s : GameState) (id : PlayerId) (triggers : List (PlayerId → CardId → Program)) :
    GameState :=
  { s with players := s.players.modify id.seat fun p => { p with playTriggers := triggers } }

theorem setPlayer_eq_awaiting {s : GameState} {id : PlayerId} {p : Player}
    (hp : s.player? id = some p) (triggers : List (PlayerId → CardId → Program)) :
    s.setPlayer id { p with playTriggers := triggers } = s.awaiting id triggers := by
  have hget : s.players[id.seat]? = some p := hp
  rw [awaiting, List.modify_eq_set_getElem?, hget]
  rfl

theorem plays?_awaiting {s : GameState} {id : PlayerId} {p : Player} (hp : s.player? id = some p)
    (triggers : List (PlayerId → CardId → Program)) :
    (s.awaiting id triggers).plays? id = some triggers := by
  rw [← setPlayer_eq_awaiting hp, plays?_setPlayer hp, if_pos rfl]

theorem hung?_cleared {s : GameState} {holder : CardId} {c : Card} (hc : s.card? holder = some c) :
    (s.cleared holder).hung? holder = some [] := by
  rw [hung?, card?_cleared, if_pos (List.mem_singleton_self holder), hc]
  rfl

theorem durations_rehung {s : GameState} {holder : CardId}
    {new : List (EffectContext → Program)} (h : s.hung? holder = some new)
    (kept : List (EffectContext → Program)) :
    (s.rehung holder kept).durations holder = kept ++ new := by
  obtain ⟨c, hc, rfl⟩ := Option.map_eq_some_iff.mp h
  have hget : s.cards.get? holder = some c := hc
  rw [durations, card?, rehung, Store.get?_modify, if_pos rfl, hget]
  rfl

end GameState

namespace Engine

variable {α : Type} [Controllers M]

/-! ### Running a list of callbacks -/

/-- Runs a program within a depth that is found when it starts. -/
def runLimited (limit : GameState → Nat) (p : Program) : Engine M Bool := do
  runWithin (limit (← state)) p

def runLimitedNoted (limit : GameState → Nat) (p : Program) : Engine (Noted M) Bool := do
  runNoted (limit (← state)) p

/-- A turn runs its programs in this way. -/
theorem run_eq_runLimited : (run : Program → Engine M Bool) = runLimited GameState.patience := rfl

/-- What a program provokes is run in this way. -/
theorem runWithin_eq_runLimited (depth : Nat) :
    (runWithin depth : Program → Engine M Bool) = runLimited fun _ => depth := rfl

variable (limit : GameState → Nat)

/-- Callbacks are run one after the other, each once. The second list is of those that are kept. -/
inductive Fired (program : α → Program) : List α → List α → Game M → Game M → Prop
  | done (g : Game M) : Fired program [] [] g g
  | next {a : α} {rest kept : List α} {g g₁ g' : Game M} {stays : Bool}
      (runs : (runLimited limit (program a)).runOn g = (.ok stays, g₁))
      (others : Fired program rest kept g₁ g') :
      Fired program (a :: rest) (if stays then a :: kept else kept) g g'

/-- The marks that callbacks and all that they provoke leave on what waits. -/
def firedMarks (program : α → Program) (callbacks : List α) (g : Game M) : List Mark :=
  marks (keepers (fun a => runLimitedNoted limit (program a)) callbacks) g

theorem ensures_fired (program : α → Program) (callbacks : List α) (g : Game M) :
    Ensures (keepers (fun a => runLimited limit (program a)) callbacks) g
      (fun kept g' => Fired limit program callbacks kept g g') fun _ _ => True := by
  induction callbacks generalizing g with
  | nil => exact Fired.done g
  | cons a rest ih =>
    rw [keepers, ensures_bind]
    refine Ensures.trivial.ran.imp fun stays g₁ hfirst => ?_
    rw [ensures_bind]
    exact (ih g₁).imp fun kept g₂ hothers => Fired.next hfirst.2 hothers

theorem coupled_runLimitedNoted {E : Halt → Game M → Prop} (p : Program) :
    Coupled Unnoted E (runLimitedNoted limit p) (runLimited limit p) := by
  rintro n _ rfl
  exact coupled_runNoted (limit n.state) p n _ rfl

theorem fired_grown (program : α → Program) (callbacks : List α) (g : Game M) :
    Grown (firedMarks limit program callbacks g) g.state
      ((keepers (fun a => runLimited limit (program a)) callbacks).runOn g).2.state := by
  refine grown (.keepers (fun a => coupled_runLimitedNoted limit _) callbacks) (fun n₀ => ?_) g
  exact .keepers (fun a => .bind .state fun s => .runNoted _ _ n₀) callbacks

/-- All that is to know of callbacks that come to their end. -/
theorem ensures_keepers_fired (program : α → Program) (callbacks : List α) (g : Game M) :
    Ensures (keepers (fun a => runLimited limit (program a)) callbacks) g
      (fun kept g' => Fired limit program callbacks kept g g' ∧
        Grown (firedMarks limit program callbacks g) g.state g'.state) fun _ _ => True := by
  refine (ensures_fired limit program callbacks g).ran.imp fun kept g' h => ⟨h.1, ?_⟩
  have hgrown := fired_grown limit program callbacks g
  rwa [h.2] at hgrown

/-! ### A play -/

section

variable (card : CardId) (id : PlayerId)

/-- How a play ends. A player who does not have the card is told so. Otherwise the card comes into play,
and nothing waits on the player's plays while what waited is run; then those that are kept wait again,
before what waits by now. If none of these programs played a card for the player then that is what they
installed. -/
inductive Played (g : Game M) : Game M → Prop
  | refused (h : g.state.holds id card = false) (message : String) :
      Played g { g with state := g.state.warn message }
  | fired {found : Card} {p : Player} {zone : Zone} {tableau : Tableau} {g₀ g₁ : Game M}
      {kept new : List (PlayerId → CardId → Program)}
      (isCard : g.state.card? card = some found) (isPlayer : g.state.player? id = some p)
      (taken : p.toTableau.remove? card = some (zone, tableau))
      (start : g₀ = { g with
        state := (g.state.laid id p card found.definition tableau).awaiting id [] })
      (run : Fired limit (fun trigger => trigger id card) p.playTriggers kept g₀ g₁)
      (waits : g₁.state.plays? id = some new)
      (installed :
        Mark.plays id (firedMarks limit (fun trigger => trigger id card) p.playTriggers g₀) = [] →
          new = Mark.triggers id (firedMarks limit (fun trigger => trigger id card) p.playTriggers g₀)) :
      Played g { g₁ with state := g₁.state.awaiting id (kept ++ new) }

variable {g : Game M}

theorem ensures_firePlayTriggers_fired {p : Player} (hp : g.state.player? id = some p) :
    Ensures (firePlayTriggers (runLimited limit) id card) g
      (fun _ g' => ∃ g₀ g₁ kept new, g₀ = { g with state := g.state.awaiting id [] } ∧
        Fired limit (fun trigger => trigger id card) p.playTriggers kept g₀ g₁ ∧
        g₁.state.plays? id = some new ∧
        (Mark.plays id (firedMarks limit (fun trigger => trigger id card) p.playTriggers g₀) = [] →
          new =
            Mark.triggers id (firedMarks limit (fun trigger => trigger id card) p.playTriggers g₀)) ∧
        g' = { g₁ with state := g₁.state.awaiting id (kept ++ new) }) fun _ _ => True := by
  simp only [firePlayTriggers, ensures_bind, ensures_player, hp, ensures_modifyPlayer]
  rw [GameState.setPlayer_eq_awaiting hp]
  refine (ensures_keepers_fired limit _ _ _).imp ?_
  rintro kept g₁ ⟨hfired, hgrown⟩
  cases hq : g₁.state.player? id with
  | none => trivial
  | some q =>
    have hnew : g₁.state.plays? id = some q.playTriggers := by
      rw [GameState.plays?, hq]
      rfl
    refine ⟨_, g₁, kept, q.playTriggers, rfl, hfired, hnew, fun hnone => ?_, ?_⟩
    · have hall := hgrown.plays id hnone
      rw [hnew, GameState.plays?_awaiting hp] at hall
      exact Option.some.inj hall
    · rw [GameState.setPlayer_eq_awaiting hq]

theorem ensures_play_played :
    Ensures (play (runLimited limit) card id) g (fun _ g' => Played limit card id g g')
      fun _ _ => True := by
  rw [play, ensures_bind, ensures_definition]
  cases hfound : g.state.card? card with
  | none => trivial
  | some found =>
    refine ensures_bind.mpr (ensures_player.mpr ?_)
    cases hp : g.state.player? id with
    | none => trivial
    | some p =>
      dsimp only
      cases htaken : p.toTableau.remove? card with
      | none =>
        have hnone := Tableau.remove?_eq_none_iff.mp htaken
        exact .refused (by simp [GameState.holds, hp, hnone]) _
      | some taken =>
        obtain ⟨zone, tableau⟩ := taken
        simp only [ensures_bind, ensures_modifyState, ensures_publish]
        have hlaid : (g.state.laid id p card found.definition tableau).player? id =
            some { p with toTableau := afterPlay found.definition card tableau } :=
          GameState.player?_setPlayer_self _ hp
        refine (ensures_firePlayTriggers_fired limit card id hlaid).imp ?_
        rintro _ g' ⟨g₀, g₁, kept, new, hstart, hfired, hnew, hinstalled, rfl⟩
        exact .fired hfound hp htaken hstart hfired hnew hinstalled

end

/-! ### The start of a turn -/

/-- A card has its turn. Nothing hangs on it while what hung there is run; then those that are kept hang
there again, before what was hung there meanwhile. -/
inductive Attended (id : PlayerId) (holder : CardId) (g : Game M) : Game M → Prop
  | mk {g₀ g₁ : Game M} {kept : List (EffectContext → Program)}
      (isCard : g.state.card? holder ≠ none)
      (start : g₀ = { g with state := g.state.cleared holder })
      (run : Fired limit (fun callback => callback ⟨holder, id⟩) (g.state.durations holder) kept g₀ g₁)
      (carries : (g₁.state.rehung holder kept).durations holder =
        kept ++ Mark.callbacks holder
          (firedMarks limit (fun callback => callback ⟨holder, id⟩) (g.state.durations holder) g₀)) :
      Attended id holder g { g₁ with state := g₁.state.rehung holder kept }

section

variable (id : PlayerId) {g g' : Game M}

theorem ensures_fireCard_attended (holder : CardId) :
    Ensures (fireCard (runLimited limit) id holder) g
      (fun _ g' => Attended limit id holder g g') fun _ _ => True := by
  rw [fireCard, ensures_bind, ensures_card]
  cases hcard : g.state.card? holder with
  | none => trivial
  | some c =>
    have hdurations : c.durations = g.state.durations holder := by
      rw [GameState.durations, hcard]
      rfl
    dsimp only
    rw [hdurations]
    simp only [ensures_bind, ensures_modifyState]
    refine (ensures_keepers_fired limit _ _ _).imp ?_
    rintro kept g₁ ⟨hfired, hgrown⟩
    have hnew := hgrown.hung holder
    rw [GameState.hung?_cleared hcard] at hnew
    rw [ensures_card]
    cases g₁.state.card? holder with
    | none => trivial
    | some c₁ => exact .mk (by simp [hcard]) rfl hfired (GameState.durations_rehung hnew kept)

theorem fireDurations_attends (h : (fireDurations (runLimited limit) id).runOn g = (.ok (), g')) :
    ∃ p, g.state.player? id = some p ∧
      Round (Attended limit id) (g.state.holders p) g g' := by
  cases hp : g.state.player? id with
  | none =>
    rw [fireDurations, runOn_bind_of_error (runOn_player_of_none hp)] at h
    cases h
  | some p =>
    rw [fireDurations, runOn_bind_of_ok (runOn_player hp), runOn_bind_of_ok runOn_state] at h
    have hround : Round (fun holder g g' =>
        (fireCard (runLimited limit) id holder).runOn g = (.ok (), g')) (g.state.holders p) g g' :=
      runOn_forM.mp h
    refine ⟨p, rfl, (hround.keeps (I := fun _ => True) trivial fun holder _ g₁ g₂ _ hstep => ?_).1⟩
    exact ⟨(ensures_fireCard_attended limit id holder).ended hstep, trivial⟩

end

/-- Whatever callbacks do. A play of a card that the player has runs what waited on the player's plays,
each program once and in order. Then those that are kept wait again; if none of them played a card for
the player then all that waits besides is what they installed, after those that are kept, and that has
not been run. At the start of a turn the cards on the player's table on which something hangs have their
turns, each once if no card lies at two places: what hangs there by then is run, each program once and in
order, and the card then carries those that are kept and, after them, what they hung there. -/
theorem callbacks_run_once (g g' : Game M) (id : PlayerId) :
    (∀ card, (play (runLimited limit) card id).runOn g = (.ok (), g') →
      Played limit card id g g') ∧
    ((fireDurations (runLimited limit) id).runOn g = (.ok (), g') →
      ∃ p, g.state.player? id = some p ∧ Round (Attended limit id) (g.state.holders p) g g' ∧
        (g.state.Partitioned → (g.state.holders p).Nodup)) := by
  refine ⟨fun card hran => (ensures_play_played limit card id).ended hran, fun hran => ?_⟩
  obtain ⟨p, hp, hround⟩ := fireDurations_attends limit id hran
  refine ⟨p, hp, hround, fun hpartitioned => ?_⟩
  exact (PlayerZones.nodup_table (hpartitioned.nodup_allCards (GameState.player?_mem hp))).filter _

/-! ### A table on which much waits -/

/-- A trigger that stays, one that does not, and one that has the latter run at the next play. -/
def staying : PlayerId → CardId → Program := fun _ _ => .finish true

def passing : PlayerId → CardId → Program := fun _ _ => .finish false

def renewing : PlayerId → CardId → Program := fun id _ =>
  .addPlayTrigger id passing (.finish false)

/-- The same for what hangs on a card; the third one stays as well. -/
def lingering : EffectContext → Program := fun _ => .finish true

def fading : EffectContext → Program := fun _ => .finish false

def rehanging : EffectContext → Program := fun ctx => .addDuration ctx.card fading (.finish true)

/-- The first player has a bell in hand and one in play. -/
def waitingTable : Game Table where
  state :=
    { cards := (((({} : Store Card).add { definition := bell }).2.add
        { definition := bell, durations := [rehanging, fading, lingering] }).2)
      players :=
        [{ id := ⟨0⟩, name := "Ann", zones := { hand := [⟨0⟩], inPlay := [⟨1⟩] }
           playTriggers := [renewing, passing, staying] },
          { id := ⟨1⟩, name := "Ben" }]
      supply := { piles := [], baseCount := 0 }
      rng := default }
  memory := Table.ofMinds [.random, .random]

/-- What is installed meanwhile comes after what stays, and is not run. -/
theorem callbacks_run_once_at_table :
    ∃ g₁ g₂, (play run ⟨0⟩ ⟨0⟩).runOn waitingTable = (.ok (), g₁) ∧
      (fireDurations run ⟨0⟩).runOn waitingTable = (.ok (), g₂) ∧
      g₁.state.plays? ⟨0⟩ = some [staying, passing] ∧
      g₂.state.hung? ⟨1⟩ = some [rehanging, lingering, fading] ∧
      (∃ g₀ g kept new, Fired GameState.patience (fun trigger => trigger ⟨0⟩ ⟨0⟩)
          [renewing, passing, staying] kept g₀ g ∧ new = Mark.triggers ⟨0⟩
            (firedMarks GameState.patience (fun trigger => trigger ⟨0⟩ ⟨0⟩)
              [renewing, passing, staying] g₀) ∧
        g₁ = { g with state := g.state.awaiting ⟨0⟩ (kept ++ new) }) ∧
      Round (Attended GameState.patience ⟨0⟩) [⟨1⟩] waitingTable g₂ := by
  have hplay : ((play run ⟨0⟩ ⟨0⟩).runOn waitingTable).1 = .ok () := by decide +kernel
  have hfire : ((fireDurations run ⟨0⟩).runOn waitingTable).1 = .ok () := by decide +kernel
  have hwait : ((play run ⟨0⟩ ⟨0⟩).runOn waitingTable).2.state.plays? ⟨0⟩ = some [staying, passing] :=
    rfl
  have hhang : ((fireDurations run ⟨0⟩).runOn waitingTable).2.state.hung? ⟨1⟩ =
      some [rehanging, lingering, fading] := rfl
  have hplayed : Played GameState.patience ⟨0⟩ ⟨0⟩ waitingTable
      ((play run ⟨0⟩ ⟨0⟩).runOn waitingTable).2 :=
    (callbacks_run_once GameState.patience waitingTable _ ⟨0⟩).1 ⟨0⟩ (runOn_eq_of_ok hplay)
  have hattends := (callbacks_run_once GameState.patience waitingTable _ ⟨0⟩).2
    (runOn_eq_of_ok hfire)
  refine ⟨_, _, runOn_eq_of_ok hplay, runOn_eq_of_ok hfire, hwait, hhang, ?_, ?_⟩
  · generalize ((play run ⟨0⟩ ⟨0⟩).runOn waitingTable).2 = g₁ at hplayed ⊢
    rcases hplayed with ⟨hnone, message⟩ | ⟨hcard, hp, htaken, rfl, hfired, hnew, hinstalled⟩
    · exact absurd hnone (by decide)
    · obtain rfl := Option.some.inj hcard
      obtain rfl := Option.some.inj hp
      obtain ⟨rfl, rfl⟩ := Prod.mk.inj (Option.some.inj htaken)
      exact ⟨_, _, _, _, hfired, hinstalled (by decide +kernel), rfl⟩
  · obtain ⟨p, hp, hround, -⟩ := hattends
    obtain rfl := Option.some.inj hp
    exact hround

end Engine

end DeckBuilder
