import DeckBuilder.Proofs.Discretion
import DeckBuilder.Proofs.Underway

/-!
Reckoning. What has happened in a turn tells what cards cost and what waits on plays: every Bridge that
was carried out has made cards cheaper by one, and every Merchant has hung a bonus on the player, which
the next Silver takes. A moment at which this is so is reckoned. A play, which empties what waits and
fills it again, goes from one reckoned moment to another; in the middle of it only the prices are.
-/
namespace DeckBuilder

open Catalog

/-! ### Counting what has happened -/

namespace Happening

/-- A Bridge has made cards cheaper. -/
def cheapens : Happening → Bool
  | .carried _ card step => card == "Bridge" && step == "cheaper this turn"
  | _ => false

/-- A Merchant has hung a bonus on the player. -/
def promises (id : PlayerId) : Happening → Bool
  | .carried player card step => player == id && card == "Merchant" && step == "silver bonus"
  | _ => false

/-- The player has played a Silver. -/
def redeems (id : PlayerId) : Happening → Bool
  | .played player card => player == id && card == "Silver"
  | _ => false

/-- What has happened since the last turn was passed on. A turn that was given up goes on. -/
def thisTurn (past : List Happening) : List Happening := past.takeWhile fun h => h != .passed

/-- How often a Bridge has made cards cheaper in this turn. -/
def cheaper (past : List Happening) : Nat := (thisTurn past).countP cheapens

/-- How many bonuses have been hung on the player in this turn since the player's last Silver. -/
def bonuses (id : PlayerId) (past : List Happening) : Nat :=
  ((thisTurn past).takeWhile fun h => !h.redeems id).countP (promises id)

variable {id : PlayerId} {h : Happening} (past : List Happening)

theorem cheaper_passed : cheaper (.passed :: past) = 0 := rfl

theorem thisTurn_cons (hpassed : h ≠ .passed) : thisTurn (h :: past) = h :: thisTurn past :=
  List.takeWhile_cons_of_pos (by simpa using hpassed)

theorem cheaper_cons (hpassed : h ≠ .passed) :
    cheaper (h :: past) = cheaper past + if h.cheapens then 1 else 0 := by
  rw [cheaper, thisTurn_cons past hpassed, List.countP_cons, cheaper]

theorem bonuses_of_redeems (hpassed : h ≠ .passed) (hredeems : h.redeems id) :
    bonuses id (h :: past) = 0 := by
  rw [bonuses, thisTurn_cons past hpassed, List.takeWhile_cons_of_neg (by simpa using hredeems)]
  rfl

theorem bonuses_cons (hpassed : h ≠ .passed) (hredeems : h.redeems id = false) :
    bonuses id (h :: past) = bonuses id past + if h.promises id then 1 else 0 := by
  rw [bonuses, thisTurn_cons past hpassed, List.takeWhile_cons_of_pos (by simpa using hredeems),
    List.countP_cons, bonuses]

theorem cheaper_playing (card : String) : cheaper (.playing id card :: past) = cheaper past :=
  cheaper_cons past nofun

theorem cheaper_played (card : String) : cheaper (.played id card :: past) = cheaper past :=
  cheaper_cons past nofun

theorem cheaper_carried (player : PlayerId) (card step : String) :
    cheaper (.carried player card step :: past) =
      cheaper past + if (carried player card step).cheapens then 1 else 0 :=
  cheaper_cons past nofun

theorem bonuses_carried (player : PlayerId) (card step : String) :
    bonuses id (.carried player card step :: past) =
      bonuses id past + if (carried player card step).promises id then 1 else 0 :=
  bonuses_cons past nofun rfl

theorem bonuses_playing (card : String) :
    bonuses id (.playing id card :: past) = bonuses id past :=
  bonuses_cons past nofun rfl

/-- A Silver takes the bonuses, other cards leave them. -/
theorem bonuses_played (card : String) :
    bonuses id (.played id card :: past) = if card = "Silver" then 0 else bonuses id past := by
  by_cases hsilver : card = "Silver"
  · rw [if_pos hsilver]
    exact bonuses_of_redeems past nofun (by simp [redeems, hsilver])
  · rw [if_neg hsilver]
    exact bonuses_cons past nofun (by simp [redeems, hsilver])

end Happening

open Happening

/-! ### States -/

namespace GameState

/-- Every card is one of the catalog, and what waits anywhere does nothing to prices or to plays. -/
structure Tame (s : GameState) : Prop where
  registered : ∀ id c, s.card? id = some c → c.definition ∈ Registry.allCards
  hooks : ∀ id c, s.card? id = some c → Hooks.catalog.AllowCard c
  ready : s.Ready noCard

/-- It is the same player's turn, with the same prices, and the same waits on plays. -/
structure Unswayed (s s' : GameState) : Prop where
  active : s'.active = s.active
  prices : s'.costModifiers = s.costModifiers
  plays : s'.plays? = s.plays?
  tame : s.Tame → s'.Tame

variable {s s' s'' : GameState} {id : PlayerId} {p : Player}

theorem Tame.congr (h : s.Tame) (hcards : ∀ card, s'.card? card = s.card? card)
    (hplayers : ∀ p ∈ s'.players, p.Ready noCard) : s'.Tame where
  registered card c hc := h.registered card c (hcards card ▸ hc)
  hooks card c hc := h.hooks card c (hcards card ▸ hc)
  ready := ⟨fun card c hc => h.ready.cards card c (hcards card ▸ hc), hplayers,
    fun _ _ _ _ hlocked => hlocked, fun _ _ hlocked => hlocked⟩

theorem Tame.setPlayer (h : s.Tame) {p' : Player} (hp' : p'.Ready noCard) :
    (s.setPlayer id p').Tame :=
  h.congr (fun _ => rfl) (h.ready.setPlayer id hp').players

namespace Unswayed

theorem trans (h : s.Unswayed s') (h' : s'.Unswayed s'') : s.Unswayed s'' :=
  ⟨h'.active.trans h.active, h'.prices.trans h.prices, h'.plays.trans h.plays,
    fun hs => h'.tame (h.tame hs)⟩

theorem activePlayer (h : s.Unswayed s') : s'.activePlayer = s.activePlayer :=
  congrArg PlayerId.mk h.active

/-- Whatever else changes. -/
theorem aside (hactive : s'.active = s.active) (hprices : s'.costModifiers = s.costModifiers)
    (hplayers : s'.players = s.players) (hcards : ∀ card, s'.card? card = s.card? card) :
    s.Unswayed s' where
  active := hactive
  prices := hprices
  plays := by
    funext other
    rw [plays?, player?, hplayers, plays?, player?]
  tame hs := hs.congr hcards (hplayers ▸ hs.ready.players)

theorem publish (s : GameState) (id : PlayerId) (kind : EventKind) : s.Unswayed (s.publish id kind) :=
  .aside rfl rfl rfl fun _ => rfl

/-- The player's tableau changes. -/
theorem arrange (hp : s.player? id = some p) (tableau : Tableau) :
    s.Unswayed (s.setPlayer id { p with toTableau := tableau }) where
  active := rfl
  prices := rfl
  plays := plays?_setPlayer_of_same hp rfl
  tame hs := by
    have hready := hs.ready.players p (player?_mem hp)
    exact hs.setPlayer ⟨fun _ _ hlocked => hlocked, hready.gain, hready.play⟩

theorem move {card : CardId} {target : Zone} {position : Position} {source : Option Zone}
    (h : s.move card id target position = .ok (source, s')) : s.Unswayed s' := by
  have hwarn : ∀ (s : GameState) message, s.Unswayed (s.warn message) :=
    fun _ _ => .aside rfl rfl rfl fun _ => rfl
  rw [GameState.move] at h
  cases hp : s.player? id with
  | none => simp [hp] at h
  | some p =>
    simp only [hp] at h
    cases hloc : p.zones.locate card with
    | none =>
      simp only [hloc, Except.ok.injEq, Prod.mk.injEq] at h
      rw [← h.2]
      exact hwarn s _
    | some zone =>
      simp only [hloc] at h
      by_cases hmoved : (p.toTableau.transfer card zone target position).1 = true
      · rw [if_pos hmoved] at h
        obtain ⟨-, rfl⟩ := Prod.mk.inj (Except.ok.inj h)
        exact (arrange hp _).trans (.publish _ id _)
      · rw [if_neg hmoved] at h
        obtain ⟨-, rfl⟩ := Prod.mk.inj (Except.ok.inj h)
        exact (arrange hp _).trans (hwarn _ _)

/-- What waits on a card changes. -/
theorem hang (s : GameState) (card : CardId) {f : Card → Card}
    (hdef : ∀ c, (f c).definition = c.definition)
    (hhooks : ∀ c, Hooks.catalog.AllowCard c → Hooks.catalog.AllowCard (f c)) :
    s.Unswayed { s with cards := s.cards.modify card f } where
  active := rfl
  prices := rfl
  plays := rfl
  tame hs := by
    have hcards : ∀ id c, ({ s with cards := s.cards.modify card f } : GameState).card? id = some c →
        ∃ before, s.card? id = some before ∧ (c = f before ∨ c = before) := by
      intro id c hc
      change (s.cards.modify card f).get? id = some c at hc
      rw [Store.get?_modify] at hc
      by_cases hid : card = id
      · rw [if_pos hid] at hc
        obtain ⟨before, hbefore, heq⟩ := Option.map_eq_some_iff.mp hc
        exact ⟨before, hbefore, .inl heq.symm⟩
      · rw [if_neg hid] at hc
        exact ⟨c, hc, .inr rfl⟩
    refine ⟨?_, ?_, ?_, hs.ready.players, fun _ _ _ _ hlocked => hlocked, fun _ _ hlocked => hlocked⟩
    all_goals
      intro id c hc
      obtain ⟨before, hbefore, rfl | rfl⟩ := hcards id c hc
    · rw [hdef]
      exact hs.registered id before hbefore
    · exact hs.registered id _ hbefore
    · exact hhooks before (hs.hooks id before hbefore)
    · exact hs.hooks id _ hbefore
    · rw [hdef]
      exact hs.ready.cards id before hbefore
    · exact hs.ready.cards id _ hbefore

end Unswayed

end GameState

/-- The licence to do whatever leaves prices alone and what waits on plays. -/
def Licence.unswayed : Licence :=
  ⟨noCard, fun _ => True, fun _ callback => Hooks.catalog.duration callback, True, False⟩

theorem GameState.Unswayed.of_allows {s s' : GameState} (h : Licence.unswayed.Allows s s') :
    s.Unswayed s' where
  active := h.active
  prices := h.prices not_false
  plays := by
    funext other
    cases hp' : s'.player? other with
    | some p' =>
      obtain ⟨p, hp, hallows⟩ := h.player_before hp'
      rw [plays?, hp', plays?, hp]
      exact congrArg some (hallows.waits not_false)
    | none =>
      cases hp : s.player? other with
      | none => rw [plays?, hp', plays?, hp]
      | some p =>
        obtain ⟨p', hsome, -⟩ := h.players other p hp
        rw [hp'] at hsome
        cases hsome
  tame hs := by
    refine ⟨?_, ?_, h.ready hs.ready⟩
    · intro card c hc
      obtain ⟨before, hbefore, heq⟩ := carded_before (h.definition? card) hc
      rw [← heq]
      exact hs.registered card before hbefore
    · intro card c hc
      obtain ⟨hung, hall, heq⟩ := h.cards card
      rw [heq] at hc
      obtain ⟨before, hbefore, rfl⟩ := Option.map_eq_some_iff.mp hc
      exact List.forall_mem_append.mpr ⟨hs.hooks card before hbefore, hall⟩

/-! ### Moments -/

namespace Moment

/-- No play is underway. -/
def Between (m : Moment) : Prop := ∀ player card, m.past.head? ≠ some (.playing player card)

/-- What has happened in the turn is reckoned in prices and waits. -/
structure Reckoned (m : Moment) : Prop where
  tame : m.state.Tame
  prices : m.state.costModifiers = List.replicate (cheaper m.past) fun _ => -1
  awaits : m.Between → m.state.plays? m.state.activePlayer =
    some (List.replicate (bonuses m.state.activePlayer m.past) payForSilver)
  others : ∀ id, id ≠ m.state.activePlayer → ∀ triggers ∈ m.state.plays? id, triggers = []

variable {past past' : List Happening} {s s' : GameState}

theorem Reckoned.unsway (h : Reckoned ⟨past, s⟩) (h' : s.Unswayed s') : Reckoned ⟨past, s'⟩ where
  tame := h'.tame h.tame
  prices := h'.prices.trans h.prices
  awaits hbetween := by
    rw [h'.plays, h'.activePlayer]
    exact h.awaits hbetween
  others := by
    rw [h'.plays, h'.activePlayer]
    exact h.others

/-- The bonuses that wait on the plays of the active player are set. -/
theorem Reckoned.setWaiting (h : Reckoned ⟨past, s⟩) {id : PlayerId} (hid : s.activePlayer = id)
    {p : Player} (hp : s.player? id = some p) {k : Nat} (hcheaper : cheaper past' = cheaper past)
    (hbonuses : (∀ player card, past'.head? ≠ some (.playing player card)) → bonuses id past' = k) :
    Reckoned ⟨past', s.setPlayer id { p with playTriggers := List.replicate k payForSilver }⟩ where
  tame := by
    refine h.tame.setPlayer ⟨fun _ _ hlocked => hlocked, ?_, ?_⟩
    · exact (h.tame.ready.players p (GameState.player?_mem hp)).gain
    · intro trigger htrigger
      rw [List.eq_of_mem_replicate htrigger]
      exact payForSilver_fair
  prices := h.prices.trans (by rw [hcheaper])
  awaits hbetween := by
    change (s.setPlayer _ _).plays? s.activePlayer = some (List.replicate (bonuses s.activePlayer _) _)
    rw [hid, GameState.plays?_setPlayer hp, if_pos rfl, hbonuses hbetween]
  others := by
    intro other hother
    have hne : id ≠ other := hid ▸ Ne.symm hother
    rw [GameState.plays?_setPlayer hp, if_neg hne]
    exact h.others other hother

end Moment

end DeckBuilder
