import DeckBuilder.Catalog.Kingdom
import DeckBuilder.Controller.Table
import DeckBuilder.Engine.Interpreter
import DeckBuilder.Proofs.Census
import DeckBuilder.Proofs.Outcome

/-!
Calls that are refused over their arguments. Each of them looks at the card, the player and the pile it
is given before it moves anything, and answers or fails with the game as it was, but for an entry in
the log book. The exception is a gain for a player who is not at the table: the pile is looked at first
and its top card is taken, and only then is the player missed.
-/
namespace DeckBuilder

namespace Call

/-- The card that must be a card of the game. -/
def subject? : Call → Option CardId
  | .play card _ | .trash card _ => some card
  | _ => none

/-- The player who is looked up before anything is done. -/
def owner? : Call → Option PlayerId
  | .play _ id | .discard _ id | .trash _ id => some id
  | .draw id (_ + 1) => some id
  | _ => none

/-- The card that is taken from a player. -/
def takes? : Call → Option (CardId × PlayerId)
  | .play card id | .discard card id | .trash card id => some (card, id)
  | _ => none

/-- The pile that must have a card. -/
def pile? : Call → Option String
  | .gain pile .. | .buy pile _ => some pile
  | _ => none

/-- The pile from which a card is gained, and the player who gains it. -/
def gain? : Call → Option (String × PlayerId)
  | .gain pile id .. | .gainIfAvailable pile id _ | .buy pile id => some (pile, id)
  | _ => none

theorem gain?_of_pile? {c : Call} {pile : String} (h : c.pile? = some pile) :
    ∃ id, c.gain? = some (pile, id) := by
  cases c <;> cases h <;> exact ⟨_, rfl⟩

theorem pile?_of_gain? {c : Call} {pile : String} {id : PlayerId} (h : c.gain? = some (pile, id)) :
    c.pile? = some pile ∨ ∃ destination, c = .gainIfAvailable pile id destination := by
  cases c <;> cases h
  · exact .inl rfl
  · exact .inr ⟨_, rfl⟩
  · exact .inl rfl

end Call

namespace GameState

/-- The call is refused over its arguments: what it answers then or how it fails, and what it logs. -/
inductive Refuses (s : GameState) : (c : Call) → Except GameError c.Answer → List LogEntry → Prop
  | noCard {c : Call} {card : CardId} (hc : c.subject? = some card) (h : s.card? card = none) :
      Refuses s c (.error (.cardNotFound card)) []
  | noPlayer {c : Call} {id : PlayerId} (hc : c.owner? = some id)
      (hcard : ∀ card, c.subject? = some card → ∃ found, s.card? card = some found)
      (h : s.player? id = none) :
      Refuses s c (.error (.playerNotFound id)) []
  | playNotHeld {card : CardId} {found : Card} {id : PlayerId} {p : Player}
      (hcard : s.card? card = some found) (hp : s.player? id = some p)
      (h : p.zones.locate card = none) :
      Refuses s (.play card id) (.ok ())
        [⟨.minimal, "warning: " ++ (s!"{id} cannot play " ++ found.definition.name ++ ": not held"),
          some .warning⟩]
  | discardNotHeld {card : CardId} {id : PlayerId} {p : Player} (hp : s.player? id = some p)
      (h : p.zones.locate card = none) :
      Refuses s (.discard card id) (.ok false)
        [⟨.minimal, "warning: " ++ s!"{id} cannot discard {s.cardName card} {card}: not found",
          some .warning⟩]
  | trashNotHeld {card : CardId} {found : Card} {id : PlayerId} {p : Player}
      (hcard : s.card? card = some found) (hp : s.player? id = some p)
      (h : p.zones.locate card = none) :
      Refuses s (.trash card id) (.ok false)
        [⟨.minimal, "warning: " ++
            (s!"{id} cannot trash " ++ found.definition.name ++ s!" {card}: not found"),
          some .warning⟩]
  | noPile {c : Call} {pile : String} (hc : c.pile? = some pile)
      (h : s.supply.pile? pile = none) :
      Refuses s c (.error (.unknownPile pile)) []
  | emptyPile {c : Call} {pile : String} {p : Pile} (hc : c.pile? = some pile)
      (hpile : s.supply.pile? pile = some p) (h : p.top? = none) :
      Refuses s c (.error (.emptyPile pile)) []
  | notAvailable {pile : String} {id : PlayerId} {destination : GainDestination}
      (h : s.supply.count pile = 0) :
      Refuses s (.gainIfAvailable pile id destination) (.ok none)
        [⟨.verbose, s!"{id} cannot gain {pile}: pile is empty", none⟩]

/-- The call gains a card for somebody who is not at the table. -/
structure GainsForNobody (s : GameState) (c : Call) (pile : String) (id : PlayerId) : Prop where
  gains : c.gain? = some (pile, id)
  top : ∃ p card, s.supply.pile? pile = some p ∧ p.top? = some card
  nobody : s.player? id = none

/-- The arguments are in order: the card is one of the game and is the player's, the pile has a card,
the player is at the table. -/
structure Accepts (s : GameState) (c : Call) : Prop where
  card : ∀ card, c.subject? = some card → ∃ found, s.card? card = some found
  player : ∀ id, c.owner? = some id → ∃ p, s.player? id = some p
  held : ∀ card id, c.takes? = some (card, id) → ∀ p, s.player? id = some p →
    ∃ zone, p.zones.locate card = some zone
  pile : ∀ pile id, c.gain? = some (pile, id) →
    ∃ p card, s.supply.pile? pile = some p ∧ p.top? = some card
  gainer : ∀ pile id, c.gain? = some (pile, id) → ∃ p, s.player? id = some p

/-- A pile of which no card is left has no top card. -/
theorem count_eq_zero_iff {s : GameState} {pile : String} :
    s.supply.count pile = 0 ↔ ∀ p, s.supply.pile? pile = some p → p.top? = none := by
  unfold Supply.count
  cases s.supply.pile? pile with
  | none => simp
  | some p => simp [Pile.size, Pile.top?]

variable {s : GameState} {c : Call}

theorem exists_top_of_count {pile : String} (h : s.supply.count pile ≠ 0) :
    ∃ p card, s.supply.pile? pile = some p ∧ p.top? = some card := by
  cases hpile : s.supply.pile? pile with
  | none => exact absurd (count_eq_zero_iff.mpr fun p hp => by rw [hpile] at hp; cases hp) h
  | some p =>
    obtain ⟨card, htop⟩ := Option.ne_none_iff_exists'.mp fun hnone : p.top? = none =>
      h (count_eq_zero_iff.mpr fun p' hp' => Option.some.inj (hpile.symm.trans hp') ▸ hnone)
    exact ⟨p, card, rfl, htop⟩

theorem GainsForNobody.count_ne_zero {pile : String} {id : PlayerId}
    (h : s.GainsForNobody c pile id) : s.supply.count pile ≠ 0 := by
  obtain ⟨p, card, hpile, htop⟩ := h.top
  intro hzero
  rw [count_eq_zero_iff.mp hzero p hpile] at htop
  cases htop

/-- Arguments that are in order give no ground for a refusal. -/
theorem Accepts.not_refuses (h : s.Accepts c) (r : Except GameError c.Answer)
    (entries : List LogEntry) : ¬ s.Refuses c r entries := by
  intro hrefuses
  cases hrefuses with
  | noCard hc hcard =>
    obtain ⟨_, hfound⟩ := h.card _ hc
    exact Option.some_ne_none _ (hfound.symm.trans hcard)
  | noPlayer hc _ hp =>
    obtain ⟨_, hplayer⟩ := h.player _ hc
    exact Option.some_ne_none _ (hplayer.symm.trans hp)
  | playNotHeld _ hp hnot | discardNotHeld hp hnot | trashNotHeld _ hp hnot =>
    obtain ⟨_, hzone⟩ := h.held _ _ rfl _ hp
    exact Option.some_ne_none _ (hzone.symm.trans hnot)
  | noPile hc hpile =>
    obtain ⟨id, hgain⟩ := Call.gain?_of_pile? hc
    obtain ⟨_, _, hsome, -⟩ := h.pile _ _ hgain
    exact Option.some_ne_none _ (hsome.symm.trans hpile)
  | emptyPile hc hpile htop =>
    obtain ⟨id, hgain⟩ := Call.gain?_of_pile? hc
    obtain ⟨_, _, hsome, hcard⟩ := h.pile _ _ hgain
    obtain rfl := Option.some.inj (hpile.symm.trans hsome)
    exact Option.some_ne_none _ (hcard.symm.trans htop)
  | notAvailable hzero =>
    obtain ⟨p, _, hsome, hcard⟩ := h.pile _ _ rfl
    exact Option.some_ne_none _ (hcard.symm.trans (count_eq_zero_iff.mp hzero p hsome))

theorem Accepts.not_gainsForNobody (h : s.Accepts c) (pile : String) (id : PlayerId) :
    ¬ s.GainsForNobody c pile id := by
  intro hgains
  obtain ⟨_, hplayer⟩ := h.gainer _ _ hgains.gains
  exact Option.some_ne_none _ (hplayer.symm.trans hgains.nobody)

/-- A call that gains is refused if no card of the pile is left. -/
theorem refuses_of_count {pile : String} {id : PlayerId} (hc : c.gain? = some (pile, id))
    (hzero : s.supply.count pile = 0) : ∃ r entries, s.Refuses c r entries := by
  obtain hc | ⟨destination, rfl⟩ := Call.pile?_of_gain? hc
  · cases hpile : s.supply.pile? pile with
    | none => exact ⟨_, _, .noPile hc hpile⟩
    | some p => exact ⟨_, _, .emptyPile hc hpile (count_eq_zero_iff.mp hzero p hpile)⟩
  · exact ⟨_, _, .notAvailable hzero⟩

/-- A call that takes a card from a player is refused if the player does not have it. -/
theorem refuses_of_locate {card : CardId} {id : PlayerId} {p : Player}
    (hc : c.takes? = some (card, id)) (hp : s.player? id = some p)
    (hcards : ∀ card, c.subject? = some card → ∃ found, s.card? card = some found)
    (h : p.zones.locate card = none) : ∃ r entries, s.Refuses c r entries := by
  cases c <;> cases hc
  · exact ⟨_, _, .discardNotHeld hp h⟩
  · obtain ⟨_, hfound⟩ := hcards _ rfl
    exact ⟨_, _, .trashNotHeld hfound hp h⟩
  · obtain ⟨_, hfound⟩ := hcards _ rfl
    exact ⟨_, _, .playNotHeld hfound hp h⟩

/-- What is neither refused nor gained for nobody has arguments that are in order. -/
theorem accepts_of_not_refuses (hrefuses : ¬ ∃ r entries, s.Refuses c r entries)
    (hnobody : ¬ ∃ pile id, s.GainsForNobody c pile id) : s.Accepts c := by
  have hcards : ∀ card, c.subject? = some card → ∃ found, s.card? card = some found :=
    fun card hc => Option.ne_none_iff_exists'.mp fun hnone => hrefuses ⟨_, _, .noCard hc hnone⟩
  have hpiles : ∀ pile id, c.gain? = some (pile, id) →
      ∃ p card, s.supply.pile? pile = some p ∧ p.top? = some card :=
    fun pile id hc => exists_top_of_count fun hzero => hrefuses (refuses_of_count hc hzero)
  exact {
    card := hcards
    player := fun id hc => Option.ne_none_iff_exists'.mp fun hnone =>
      hrefuses ⟨_, _, .noPlayer hc hcards hnone⟩
    held := fun card id hc p hp => Option.ne_none_iff_exists'.mp fun hnone =>
      hrefuses (refuses_of_locate hc hp hcards hnone)
    pile := hpiles
    gainer := fun pile id hc => Option.ne_none_iff_exists'.mp fun hnone =>
      hnobody ⟨pile, id, hc, hpiles pile id hc, hnone⟩ }

end GameState

/-- The game with these entries in the log book. -/
def Game.logging {M : Type} (g : Game M) (entries : List LogEntry) : Game M :=
  { g with state := { g.state with logger := entries.foldl Logger.log g.state.logger } }

/-- The game without the top card of a pile. -/
def Game.without {M : Type} (g : Game M) (pile : String) : Game M :=
  { g with state := { g.state with supply := g.state.supply.updatePile pile Pile.pop } }

namespace Engine

variable {M : Type} {g : Game M}

/-! ### What the calls do with such arguments -/

theorem draw_of_noPlayer {id : PlayerId} (h : g.state.player? id = none) (count : Nat) :
    (draw id (count + 1)).runOn g = (.error (.error (.playerNotFound id)), g) := by
  have hdraw : g.state.draw id (count + 1) = .error (.playerNotFound id) := by
    rw [GameState.draw, GameState.drawEach, h]
    rfl
  rw [draw, step, runOn_bind_of_ok runOn_state, hdraw]
  rfl

section

variable (provoke : Program → Engine M Bool) {card : CardId} {id : PlayerId} {pile : String}

theorem play_of_notHeld {found : Card} {p : Player} (hcard : g.state.card? card = some found)
    (hp : g.state.player? id = some p) (h : p.zones.locate card = none) :
    (play provoke card id).runOn g =
      (.ok (), g.logging [⟨.minimal,
        "warning: " ++ (s!"{id} cannot play " ++ found.definition.name ++ ": not held"),
        some .warning⟩]) := by
  rw [play, runOn_bind_of_ok (runOn_definition hcard), runOn_bind_of_ok (runOn_player hp),
    Tableau.remove?_eq_none_iff.mpr h]
  rfl

theorem discard_of_notHeld {p : Player} (hp : g.state.player? id = some p)
    (h : p.zones.locate card = none) :
    (discard provoke card id).runOn g =
      (.ok false, g.logging [⟨.minimal,
        "warning: " ++ s!"{id} cannot discard {g.state.cardName card} {card}: not found",
        some .warning⟩]) := by
  rw [discard, runOn_bind_of_ok runOn_state, runOn_bind_of_ok (runOn_player hp),
    Tableau.remove?_eq_none_iff.mpr h]
  rfl

theorem trash_of_notHeld {found : Card} {p : Player} (hcard : g.state.card? card = some found)
    (hp : g.state.player? id = some p) (h : p.zones.locate card = none) :
    (trash provoke card id).runOn g =
      (.ok false, g.logging [⟨.minimal,
        "warning: " ++ (s!"{id} cannot trash " ++ found.definition.name ++ s!" {card}: not found"),
        some .warning⟩]) := by
  rw [trash, runOn_bind_of_ok (runOn_definition hcard), runOn_bind_of_ok (runOn_player hp),
    Tableau.remove?_eq_none_iff.mpr h]
  rfl

theorem gain_of_noPile (h : g.state.supply.pile? pile = none) (bought : Bool)
    (destination : GainDestination) :
    (gain provoke pile id bought destination).runOn g =
      (.error (.error (.unknownPile pile)), g) := by
  rw [gain, runOn_bind_of_ok runOn_state, h]
  rfl

theorem gain_of_emptyPile {p : Pile} (hpile : g.state.supply.pile? pile = some p)
    (h : p.top? = none) (bought : Bool) (destination : GainDestination) :
    (gain provoke pile id bought destination).runOn g =
      (.error (.error (.emptyPile pile)), g) := by
  rw [gain, runOn_bind_of_ok runOn_state, hpile]
  dsimp only
  rw [h]
  rfl

/-- The top card of the pile is gone when the player is missed. -/
theorem gain_of_noPlayer {p : Pile} (hpile : g.state.supply.pile? pile = some p)
    (htop : p.top? = some card) (h : g.state.player? id = none) (bought : Bool)
    (destination : GainDestination) :
    (gain provoke pile id bought destination).runOn g =
      (.error (.error (.playerNotFound id)), g.without pile) := by
  have hmissed : (g.without pile).state.player? id = none := h
  rw [gain, runOn_bind_of_ok runOn_state, hpile]
  dsimp only
  rw [htop]
  change (modifyPlayer id _ >>= _).runOn (g.without pile) = _
  exact runOn_bind_of_error (runOn_modifyPlayer_of_none hmissed _)

/-- A purchase that cannot gain the card ends as the gain does. -/
theorem buy_of_gain {p : Pile} (hpile : g.state.supply.pile? pile = some p) {halt : Halt}
    {g' : Game M}
    (h : (gain provoke pile id true .discard).runOn g = (.error halt, g')) :
    (buy provoke pile id).runOn g = (.error halt, g') := by
  have hcost : g.state.pileCost? pile = some (g.state.cost p.definition) := by
    rw [GameState.pileCost?, hpile]
    rfl
  rw [buy, runOn_bind_of_ok runOn_state, hcost]
  exact runOn_bind_of_error h

theorem buy_of_noPile (h : g.state.supply.pile? pile = none) :
    (buy provoke pile id).runOn g = (.error (.error (.unknownPile pile)), g) := by
  have hcost : g.state.pileCost? pile = none := by
    rw [GameState.pileCost?, h]
    rfl
  rw [buy, runOn_bind_of_ok runOn_state, hcost]
  rfl

theorem gainIfAvailable_of_none (h : g.state.supply.count pile = 0)
    (destination : GainDestination) :
    (gainIfAvailable provoke pile id destination).runOn g =
      (.ok none, g.logging [⟨.verbose, s!"{id} cannot gain {pile}: pile is empty", none⟩]) := by
  rw [gainIfAvailable, runOn_bind_of_ok runOn_state, if_pos h]
  rfl

theorem gainIfAvailable_of_gain (hsome : g.state.supply.count pile ≠ 0)
    {destination : GainDestination} {halt : Halt} {g' : Game M}
    (h : (gain provoke pile id false destination).runOn g = (.error halt, g')) :
    (gainIfAvailable provoke pile id destination).runOn g = (.error halt, g') := by
  rw [gainIfAvailable, runOn_bind_of_ok runOn_state, if_neg hsome]
  exact runOn_bind_of_error h

variable [Controllers M] {c : Call}

/-- A call that is refused over its arguments changes nothing but the log book. -/
theorem perform_of_refuses {r : Except GameError c.Answer} {entries : List LogEntry}
    (h : g.state.Refuses c r entries) :
    (perform provoke c).runOn g = (r.mapError Halt.error, g.logging entries) := by
  cases h with
  | noCard hc h =>
    cases c <;> cases hc
    · exact runOn_bind_of_error (runOn_definition_of_none h)
    · exact runOn_bind_of_error (runOn_definition_of_none h)
  | noPlayer hc hcard h =>
    cases c with
    | draw id count =>
      cases count with
      | zero => cases hc
      | succ count =>
        cases hc
        exact draw_of_noPlayer h count
    | discard card id =>
      cases hc
      rw [perform, discard, runOn_bind_of_ok runOn_state]
      exact runOn_bind_of_error (runOn_player_of_none h)
    | trash card id =>
      cases hc
      obtain ⟨found, hfound⟩ := hcard card rfl
      rw [perform, trash, runOn_bind_of_ok (runOn_definition hfound)]
      exact runOn_bind_of_error (runOn_player_of_none h)
    | play card id =>
      cases hc
      obtain ⟨found, hfound⟩ := hcard card rfl
      rw [perform, play, runOn_bind_of_ok (runOn_definition hfound)]
      exact runOn_bind_of_error (runOn_player_of_none h)
    | _ => cases hc
  | playNotHeld hcard hp h => exact play_of_notHeld provoke hcard hp h
  | discardNotHeld hp h => exact discard_of_notHeld provoke hp h
  | trashNotHeld hcard hp h => exact trash_of_notHeld provoke hcard hp h
  | noPile hc h =>
    cases c <;> cases hc
    · exact gain_of_noPile provoke h _ _
    · exact buy_of_noPile provoke h
  | emptyPile hc hpile h =>
    cases c <;> cases hc
    · exact gain_of_emptyPile provoke hpile h _ _
    · exact buy_of_gain provoke hpile (gain_of_emptyPile provoke hpile h _ _)
  | notAvailable h => exact gainIfAvailable_of_none provoke h _

/-- A gain for nobody takes the top card of the pile all the same, and it is then nowhere. -/
theorem perform_of_gainsForNobody (h : g.state.GainsForNobody c pile id) :
    (perform provoke c).runOn g = (.error (.error (.playerNotFound id)), g.without pile) := by
  have hsome := h.count_ne_zero
  obtain ⟨hgains, ⟨p, card, hpile, htop⟩, hnobody⟩ := h
  cases c with
  | gain pile id bought destination =>
    cases hgains
    exact gain_of_noPlayer provoke hpile htop hnobody _ _
  | gainIfAvailable pile id destination =>
    cases hgains
    exact gainIfAvailable_of_gain provoke hsome
      (gain_of_noPlayer provoke hpile htop hnobody _ _)
  | buy pile id =>
    cases hgains
    exact buy_of_gain provoke hpile (gain_of_noPlayer provoke hpile htop hnobody _ _)
  | _ => cases hgains

end

variable [Controllers M]

/-- Whatever is given to a call, and whatever other cards would do: a call that is refused over its
arguments leaves the game as it was, but for what it logs. It is refused unless the arguments are in
order, except that a gain for nobody is not refused in time: it fails, and the pile has lost a card. -/
theorem refused_calls_leave_game (provoke : Program → Engine M Bool) (c : Call) (g : Game M) :
    (∀ r entries, g.state.Refuses c r entries →
      (perform provoke c).runOn g = (r.mapError Halt.error, g.logging entries)) ∧
    (∀ pile id, g.state.GainsForNobody c pile id →
      (perform provoke c).runOn g = (.error (.error (.playerNotFound id)), g.without pile)) ∧
    (g.state.Accepts c ↔
      (¬ ∃ r entries, g.state.Refuses c r entries) ∧ ¬ ∃ pile id, g.state.GainsForNobody c pile id) := by
  refine ⟨fun _ _ => perform_of_refuses provoke, fun _ _ => perform_of_gainsForNobody provoke, ?_, ?_⟩
  · intro haccepts
    constructor
    · rintro ⟨r, entries, hrefuses⟩
      exact haccepts.not_refuses r entries hrefuses
    · rintro ⟨pile, id, hnobody⟩
      exact haccepts.not_gainsForNobody pile id hnobody
  · rintro ⟨hrefuses, hnobody⟩
    exact GameState.accepts_of_not_refuses hrefuses hnobody

/-! ### A table with one card in the supply -/

/-- One player, who has no card; the only card of the game is in the supply. -/
def lastMoat : Game Table where
  state :=
    { cards := (({} : Store Card).add { definition := Catalog.moat }).2
      players := [{ id := ⟨0⟩, name := "Ann" }]
      supply := { piles := [{ definition := Catalog.moat, cards := [⟨0⟩] }], baseCount := 0 }
      rng := default }
  memory := Table.ofMinds [.random]

/-- A gain for a second player, who is not there: it fails, and the card is nowhere any more. -/
theorem gain_for_nobody_loses_card :
    lastMoat.state.player? ⟨1⟩ = none ∧ lastMoat.state.whereabouts = [⟨0⟩] ∧
    let ended := (perform run (.gain "Moat" ⟨1⟩ false .discard)).runOn lastMoat
    ended.1 = .error (.error (.playerNotFound ⟨1⟩)) ∧ ended.2.state.whereabouts = [] := by
  refine ⟨rfl, rfl, ?_⟩
  decide +kernel

/-- The first player does not have the card and cannot trash it. -/
theorem refused_calls_leave_last_moat :
    ∃ entries, (perform run (.trash ⟨0⟩ ⟨0⟩)).runOn lastMoat =
      (.ok false, lastMoat.logging entries) := by
  have hcard : lastMoat.state.card? ⟨0⟩ = some { definition := Catalog.moat } := rfl
  exact ⟨_, (refused_calls_leave_game run (.trash ⟨0⟩ ⟨0⟩) lastMoat).1 _ _
    (.trashNotHeld hcard rfl rfl)⟩

end Engine

end DeckBuilder
