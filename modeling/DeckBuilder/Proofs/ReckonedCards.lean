import DeckBuilder.Proofs.Reckoning

/-!
What cards do, reckoned. Playing a card of the catalog and carrying it out leads from a reckoned moment
to a reckoned one, and so are all moments in between, whatever the controllers answer. All but five cards
do nothing that sways prices or plays; of these the Throne Room has others carried out, so that this is
shown by induction on the depth to which cards provoke each other.
-/
namespace DeckBuilder

open Catalog Happening

variable {M : Type}

/-- The player's turn at a reckoned moment between plays; so far all moments were reckoned. -/
structure Game.Reckons (id : PlayerId) (n : Game (Chronicled M)) : Prop where
  turn : n.state.activePlayer = id
  now : n.moment.Reckoned
  between : n.moment.Between
  ever : ∀ m ∈ n.memory.moments, m.Reckoned

/-- A game that was given up, but for going on beyond every bound, is still reckoned. -/
def Game.GivenUp (id : PlayerId) (r : Halt) (n : Game (Chronicled M)) : Prop :=
  r ≠ .endless → n.Reckons id

namespace Game

variable {n : Game (Chronicled M)} {id : PlayerId}

theorem Reckons.unsway (h : n.Reckons id) {s : GameState} (hs : n.state.Unswayed s) :
    Reckons id { n with state := s } :=
  ⟨hs.activePlayer.trans h.turn, h.now.unsway hs, h.between, h.ever⟩

theorem Reckons.seen (h : n.Reckons id) : n.seen.Reckons id :=
  ⟨h.turn, h.now, h.between, List.forall_mem_cons.mpr ⟨h.now, h.ever⟩⟩

theorem reckons_heard {e : Happening} (hturn : n.state.activePlayer = id)
    (hnow : Moment.Reckoned ⟨e :: n.memory.past, n.state⟩)
    (hbetween : ∀ player card, e ≠ .playing player card)
    (hever : ∀ m ∈ n.memory.moments, m.Reckoned) : (n.heard e).Reckons id where
  turn := hturn
  now := hnow
  between player card heq := hbetween player card (Option.some.inj heq)
  ever := List.forall_mem_cons.mpr ⟨hnow, hever⟩

/-- Something has happened that goes with no change. -/
theorem Reckons.heard (h : n.Reckons id) {e : Happening}
    (hcheaper : cheaper (e :: n.memory.past) = cheaper n.memory.past)
    (hbonuses : bonuses id (e :: n.memory.past) = bonuses id n.memory.past)
    (hbetween : ∀ player card, e ≠ .playing player card) : (n.heard e).Reckons id := by
  refine reckons_heard h.turn ?_ hbetween h.ever
  refine ⟨h.now.tame, h.now.prices.trans (by rw [hcheaper]; rfl), fun _ => ?_, h.now.others⟩
  rw [h.turn, hbonuses, ← h.turn]
  exact h.now.awaits h.between

/-- Something that a card does has been carried out, and was not of a kind that is counted. -/
theorem Reckons.carried (h : n.Reckons id) {player : PlayerId} {card step : String}
    (hcheapens : (Happening.carried player card step).cheapens = false)
    (hpromises : (Happening.carried player card step).promises id = false) :
    (n.heard (.carried player card step)).Reckons id := by
  refine h.heard ?_ ?_ nofun
  · rw [cheaper_carried, hcheapens]
    rfl
  · rw [bonuses_carried, hpromises]
    rfl

theorem Reckons.plays (h : n.Reckons id) :
    n.state.plays? id = some (List.replicate (bonuses id n.memory.past) payForSilver) := by
  have hawaits := h.now.awaits h.between
  rw [show n.moment.state.activePlayer = id from h.turn] at hawaits
  exact hawaits

/-- The player whose turn it is is at the table. -/
theorem Reckons.player (h : n.Reckons id) : ∃ p, n.state.player? id = some p ∧
    p.playTriggers = List.replicate (bonuses id n.memory.past) payForSilver :=
  Option.map_eq_some_iff.mp h.plays

end Game

namespace Engine

variable {α β : Type} {id : PlayerId} {n : Game (Chronicled M)}

/-- All moments are reckoned that are seen of what keeps to the licence. -/
theorem Discreet.reckoned [Controllers M] {e : Chronicler (Chronicled M) → Engine (Chronicled M) α}
    (he : Discreet .unswayed e) (hnow : n.moment.Reckoned)
    (hever : ∀ m ∈ n.memory.moments, m.Reckoned) :
    let after n' := Licence.unswayed.Allows n.state n'.state ∧ n'.memory.past = n.memory.past ∧
      ∀ m ∈ n'.memory.moments, m.Reckoned
    Ensures (e .faithful) n (fun _ => after) fun _ => after := by
  have hgood : ∀ s, Licence.unswayed.Allows n.state s → Moment.Reckoned ⟨n.memory.past, s⟩ :=
    fun s hallows => hnow.unsway (.of_allows hallows)
  exact he.ensures hnow.tame.ready hgood hever

/-- A computation in the course of which all moments are reckoned, and that ends at such a moment. -/
def Reckoning (id : PlayerId) (e : Engine (Chronicled M) α) : Prop :=
  ∀ n : Game (Chronicled M), n.Reckons id → Ensures e n (fun _ n' => n'.Reckons id) (Game.GivenUp id)

namespace Reckoning

theorem of_upholds {e : Engine (Chronicled M) α} (h : Upholds (Game.Reckons id) e) :
    Reckoning id e :=
  fun n hn => (h n hn).mono (fun _ _ h => h) fun _ _ h _ => h

theorem pure (a : α) : Reckoning id (Pure.pure a : Engine (Chronicled M) α) := fun _ hn => hn

theorem endless : Reckoning id (throw .endless : Engine (Chronicled M) α) :=
  fun _ _ h => absurd rfl h

theorem bind {e : Engine (Chronicled M) α} {f : α → Engine (Chronicled M) β} (h : Reckoning id e)
    (hf : ∀ a, Reckoning id (f a)) : Reckoning id (e >>= f) :=
  fun n hn => ensures_bind.mpr ((h n hn).imp fun a n' hn' => hf a n' hn')

theorem ite {c : Prop} [Decidable c] {e e' : Engine (Chronicled M) α} (h : c → Reckoning id e)
    (h' : ¬ c → Reckoning id e') : Reckoning id (if c then e else e') :=
  fun n hn => ensures_ite.mpr ⟨fun hc => h hc n hn, fun hc => h' hc n hn⟩

theorem forM {f : α → Engine (Chronicled M) PUnit} (h : ∀ a, Reckoning id (f a)) (xs : List α) :
    Reckoning id (xs.forM f) :=
  fun _ hn => ensures_forM hn fun a _ => h a

theorem state : Reckoning id (Engine.state : Engine (Chronicled M) GameState) :=
  .of_upholds Upholds.state

theorem player (other : PlayerId) :
    Reckoning id (Engine.player other : Engine (Chronicled M) Player) :=
  .of_upholds (Upholds.player other)

theorem modifyState {f : GameState → GameState} (h : ∀ s : GameState, s.Unswayed (f s)) :
    Reckoning id (Engine.modifyState f : Engine (Chronicled M) Unit) :=
  fun n hn => hn.unsway (h n.state)

theorem warn (message : String) : Reckoning id (Engine.warn message : Engine (Chronicled M) Unit) :=
  modifyState fun _ => .aside rfl rfl rfl fun _ => rfl

theorem publish (other : PlayerId) (kind : EventKind) :
    Reckoning id (Engine.publish other kind : Engine (Chronicled M) Unit) :=
  modifyState fun s => .publish s other kind

theorem onTableau (other : PlayerId) (f : Tableau → Tableau) :
    Reckoning id (modifyPlayer other (·.onTableau f) : Engine (Chronicled M) Unit) := by
  intro n hn
  rw [ensures_modifyPlayer]
  cases hp : n.state.player? other with
  | none => exact fun _ => hn
  | some p => exact hn.unsway (.arrange hp _)

theorem look : Reckoning id (Chronicler.faithful (M := M)).look := fun _ hn => hn.seen

variable [Controllers M]

/-- What keeps to the licence gives nothing to tell. -/
theorem of_discreet {e : Chronicler (Chronicled M) → Engine (Chronicled M) α}
    (he : Discreet .unswayed e) : Reckoning id (e .faithful) := by
  intro n hn
  have hafter : ∀ n' : Game (Chronicled M), Licence.unswayed.Allows n.state n'.state ∧
      n'.memory.past = n.memory.past ∧ (∀ m ∈ n'.memory.moments, m.Reckoned) → n'.Reckons id := by
    rintro n' ⟨hallows, hpast, hever⟩
    have hunswayed := GameState.Unswayed.of_allows hallows
    refine ⟨hunswayed.activePlayer.trans hn.turn, ?_, ?_, hever⟩
    · rw [Game.moment, hpast]
      exact hn.now.unsway hunswayed
    · rw [Game.moment, hpast]
      exact hn.between
  exact (he.reckoned hn.now hn.ever).mono (fun _ n' h => hafter n' h) fun _ n' h _ => hafter n' h

end Reckoning

/-! ### Ways of running programs -/

variable [Controllers M]

/-- Programs are run with everything told. -/
def Telling (provoke : Program → Engine (Chronicled M) Bool) : Prop :=
  ∀ p n, ∃ depth, (provoke p).runOn n = (runToldWithin .faithful depth p).runOn n

theorem telling_runToldWithin (depth : Nat) :
    Telling (runToldWithin (M := Chronicled M) .faithful depth) :=
  fun _ _ => ⟨depth, rfl⟩

theorem telling_runTold : Telling (runTold (M := Chronicled M) .faithful) :=
  fun _ n => ⟨n.state.patience, runOn_bind_of_ok runOn_state⟩

/-- A call as programs make it, with a look at the game before it. -/
abbrev callTold (provoke : Program → Engine (Chronicled M) Bool) (c : Call) :
    Engine (Chronicled M) c.Answer := do
  (Chronicler.faithful (M := M)).look
  performTold .faithful provoke c

section

variable {provoke : Program → Engine (Chronicled M) Bool} (htelling : Telling provoke)
variable {p : Program} {Q : Bool → Game (Chronicled M) → Prop}
variable {E : Halt → Game (Chronicled M) → Prop}
include htelling

theorem Telling.within (h : ∀ depth, Ensures (runToldWithin .faithful depth p) n Q E) :
    Ensures (provoke p) n Q E := by
  obtain ⟨depth, heq⟩ := htelling p n
  exact .of_runOn heq.symm (h depth)

theorem Telling.ensures (hendless : E .endless n)
    (h : ∀ depth, Ensures (interpret (callTold (runToldWithin .faithful depth)) p) n Q E) :
    Ensures (provoke p) n Q E := by
  refine htelling.within fun depth => ?_
  cases depth with
  | zero => exact hendless
  | succ depth => exact h depth

end

/-! ### Plays -/

end Engine

theorem GameState.canPlay_iff {s : GameState} {id : PlayerId} {card : CardId} :
    s.canPlay id card = true ↔ ∃ c p taken, s.card? card = some c ∧ s.player? id = some p ∧
      p.toTableau.remove? card = some taken := by
  cases hc : s.card? card <;> cases hp : s.player? id <;>
    simp [canPlay, holds, hc, hp, Tableau.remove?, PlayerZones.remove?, Option.isSome_iff_exists]

theorem GameState.cardName_of_card? {s : GameState} {card : CardId} {c : Card}
    (hc : s.card? card = some c) : s.cardName card = c.definition.name := by
  rw [cardName, hc]

theorem GameState.cardName_congr {s s' : GameState} {card : CardId}
    (h : s'.definition? card = s.definition? card) : s'.cardName card = s.cardName card := by
  unfold definition? at h
  unfold cardName
  cases hc : s.card? card <;> cases hc' : s'.card? card <;> simp_all

theorem GameState.cardName_outlook (s : GameState) (card : CardId) :
    s.outlook.cardName card = s.cardName card := by
  have hface : s.outlook.face? card = s.face? card := rfl
  rw [Outlook.cardName, hface, face?, cardName]
  cases s.card? card <;> rfl

namespace Engine

variable {N : Type} {id : PlayerId} {card : CardId}

/-- What a Merchant has hung on its player pays for a Silver and is done then, and stays otherwise. -/
theorem interpret_payForSilver (handler : (c : Call) → Engine N c.Answer) :
    interpret handler (payForSilver id card) = (do
      let s ← state
      if s.cardName card = "Silver" then
        handler (.credit id .money 1)
        return false
      else return true) := by
  refine bind_congr fun s => ?_
  rw [← s.cardName_outlook]
  by_cases hsilver : s.outlook.cardName card = "Silver"
  · rw [if_pos hsilver]
    change interpret handler ((if s.outlook.cardName card = "Silver" then _ else _ : Script Bool) _) = _
    rw [if_pos hsilver]
    rfl
  · rw [if_neg hsilver]
    change interpret handler ((if s.outlook.cardName card = "Silver" then _ else _ : Script Bool) _) = _
    rw [if_neg hsilver]
    rfl

variable [Controllers M] {n : Game (Chronicled M)} {provoke : Program → Engine (Chronicled M) Bool}

theorem payForSilver_kept {p : Player} (hp : n.state.player? id = some p) :
    Ensures (interpret (callTold provoke) (payForSilver id card)) n
      (fun kept _ => kept = !(n.state.cardName card == "Silver")) fun _ _ => False := by
  rw [interpret_payForSilver, ensures_bind, ensures_state, ensures_ite]
  refine ⟨fun hsilver => ?_, fun hother => ?_⟩
  · have hcredit : Ensures (callTold provoke (.credit id .money 1)) n (fun _ _ => True)
        fun _ _ => False := by
      refine ensures_bind.mpr (ensures_bind.mpr (ensures_modifyPlayer.mpr ?_))
      rw [show n.seen.state.player? id = some p from hp]
      trivial
    refine ensures_bind.mpr (hcredit.imp fun _ _ _ => ?_)
    exact (by simp [hsilver] : false = !(n.state.cardName card == "Silver"))
  · exact (by simp [hother] : true = !(n.state.cardName card == "Silver"))

/-- A bonus does what it does by way of the licence, and stays unless the card is a Silver. -/
theorem payForSilver_reckoned (htelling : Telling provoke) {p : Player}
    (hp : n.state.player? id = some p) (hnow : n.moment.Reckoned)
    (hever : ∀ m ∈ n.memory.moments, m.Reckoned) :
    Ensures (provoke (payForSilver id card)) n
      (fun kept n' => (Licence.unswayed.Allows n.state n'.state ∧ n'.memory.past = n.memory.past ∧
        ∀ m ∈ n'.memory.moments, m.Reckoned) ∧ kept = !(n.state.cardName card == "Silver"))
      fun r _ => r = .endless := by
  have hwithin : (payForSilver id card).Within Licence.unswayed := payForSilver_fair _ _ _ trivial
  refine htelling.within fun depth => ?_
  have hdiscreet := (discreet_runToldWithin (M := M) hwithin depth).reckoned hnow hever
  have hkept : Ensures (runToldWithin .faithful depth (payForSilver id card)) n
      (fun kept _ => kept = !(n.state.cardName card == "Silver")) fun r _ => r = .endless := by
    cases depth with
    | zero => exact rfl
    | succ depth => exact (payForSilver_kept hp).mono (fun _ _ h => h) fun _ _ h => h.elim
  exact (hdiscreet.and hkept).mono (fun _ _ h => h) fun _ _ h => h.2

/-- The bonuses that wait on the play of a card: in the end they are those that the play leaves. -/
theorem firePlayTriggers_reckoned (htelling : Telling provoke) {name : String}
    {past : List Happening} (hid : n.state.activePlayer = id) (hnow : n.moment.Reckoned)
    (hpast : n.memory.past = .playing id name :: past) (hname : n.state.cardName card = name)
    {p : Player} (hp : n.state.player? id = some p)
    (hplays : p.playTriggers = List.replicate (bonuses id past) payForSilver)
    (hever : ∀ m ∈ n.memory.moments, m.Reckoned) :
    Ensures (firePlayTriggers provoke id card) n
      (fun _ n' => (n'.heard (.played id name)).Reckons id) fun r _ => r = .endless := by
  have hcleared : Moment.Reckoned ⟨n.memory.past, n.state.setPlayer id { p with playTriggers := [] }⟩ :=
    Moment.Reckoned.setWaiting hnow hid hp (k := 0) rfl fun hbetween =>
      absurd (by rw [hpast]; rfl) (hbetween id name)
  simp only [firePlayTriggers, ensures_bind, ensures_player, hp, ensures_modifyPlayer]
  generalize hs₁ : n.state.setPlayer id { p with playTriggers := [] } = s₁ at hcleared ⊢
  have hp₁ : s₁.player? id = some { p with playTriggers := [] } := by
    rw [← hs₁]
    exact GameState.player?_setPlayer_self _ hp
  have hnow' : ∀ n' : Game (Chronicled M), Licence.unswayed.Allows s₁ n'.state →
      n'.memory.past = n.memory.past → n'.moment.Reckoned := by
    intro n' hallows hpast'
    rw [Game.moment, hpast']
    exact hcleared.unsway (.of_allows hallows)
  have hid₁ : s₁.activePlayer = id := by rw [← hs₁]; exact hid
  have hname₁ : s₁.cardName card = name := by rw [← hs₁]; exact hname
  have hkeepers : Ensures (keepers (fun trigger => provoke (trigger id card)) p.playTriggers)
      ⟨s₁, n.memory⟩
      (fun kept n' => (Licence.unswayed.Allows s₁ n'.state ∧ n'.memory.past = n.memory.past ∧
        ∀ m ∈ n'.memory.moments, m.Reckoned) ∧
        kept = p.playTriggers.filter fun _ => !(name == "Silver")) fun r _ => r = .endless := by
    rw [← filterM_eq_keepers]
    refine ensures_filterM_eq ⟨.refl s₁, rfl, hever⟩ ?_
    rintro trigger htrigger n' ⟨hallows, hpast', hever'⟩
    rw [hplays] at htrigger
    rw [List.eq_of_mem_replicate htrigger]
    obtain ⟨p', hp', -⟩ := hallows.players id _ hp₁
    have hname' : n'.state.cardName card = name := by
      rw [GameState.cardName_congr (hallows.definition? card), hname₁]
    refine (payForSilver_reckoned htelling hp' (hnow' n' hallows hpast') hever').imp ?_
    rintro kept n'' ⟨⟨hallows', hpast'', hever''⟩, hkept⟩
    exact ⟨⟨hallows.trans hallows', hpast''.trans hpast', hever''⟩, hname' ▸ hkept⟩
  refine hkeepers.imp ?_
  rintro kept n' ⟨⟨hallows, hpast', hever'⟩, rfl⟩
  obtain ⟨p', hp', hplayer⟩ := hallows.players id _ hp₁
  have hwaits : p'.playTriggers = [] := hplayer.waits not_false
  have hid' : n'.state.activePlayer = id := (congrArg PlayerId.mk hallows.active).trans hid₁
  have hleft : (p.playTriggers.filter fun _ => !(name == "Silver")) ++ p'.playTriggers =
      List.replicate (bonuses id (.played id name :: n'.memory.past)) payForSilver := by
    rw [hwaits, List.append_nil, hplays, List.filter_replicate, hpast', hpast, bonuses_played,
      bonuses_playing]
    by_cases hsilver : name = "Silver" <;> simp [hsilver]
  rw [hp']
  dsimp only
  rw [hleft]
  have hbetween : ∀ other card, Happening.played id name ≠ .playing other card := by simp
  exact Game.reckons_heard hid' ((hnow' n' hallows hpast').setWaiting hid' hp'
    (cheaper_played n'.memory.past name) fun _ => rfl) hbetween hever'

/-- A card is played. -/
theorem reckoning_play (htelling : Telling provoke) (card : CardId) :
    Reckoning id (playTold .faithful provoke card id) := by
  refine Reckoning.look.bind fun _ n hn => ?_
  rw [ensures_bind, ensures_state, ensures_ite]
  constructor
  · intro hheld
    obtain ⟨c, p, ⟨zone, tableau⟩, hc, hp, hremove⟩ := GameState.canPlay_iff.mp hheld
    obtain ⟨q, hq, hplays⟩ := hn.player
    obtain rfl := Option.some.inj (hp.symm.trans hq)
    have hplaying : Moment.Reckoned ⟨.playing id (n.state.cardName card) :: n.memory.past, n.state⟩ :=
      ⟨hn.now.tame, hn.now.prices.trans (by rw [cheaper_playing]; rfl),
        fun hbetween => absurd rfl (hbetween id (n.state.cardName card)), hn.now.others⟩
    refine ensures_bind.mpr ?_
    change Ensures _ (n.heard (.playing id (n.state.cardName card))) _ _
    refine ensures_bind.mpr ?_
    rw [ensures_play_iff (g := n.heard _) hc hp hremove]
    have hplayed := (GameState.Unswayed.arrange hp (afterPlay c.definition card tableau)).trans
      (.publish _ id (.playCard card c.definition.name))
    have hp' := GameState.player?_setPlayer_self
      { p with toTableau := afterPlay c.definition card tableau } hp
    let n₁ : Game (Chronicled M) := ⟨(n.state.setPlayer id
      { p with toTableau := afterPlay c.definition card tableau }).publish id
        (.playCard card c.definition.name), (n.heard (.playing id (n.state.cardName card))).memory⟩
    have hfire := firePlayTriggers_reckoned (n := n₁) htelling hn.turn (hplaying.unsway hplayed) rfl rfl
      hp' hplays (List.forall_mem_cons.mpr ⟨hplaying, hn.ever⟩)
    refine hfire.mono (fun _ _ h => h) ?_
    exact fun _ _ hendless hne => absurd hendless hne
  · intro hnot
    cases hc : n.state.card? card with
    | none =>
      simp only [play, ensures_bind, ensures_definition, hc]
      exact fun _ => hn
    | some c =>
    cases hp : n.state.player? id with
    | none =>
      simp only [play, ensures_bind, ensures_definition, hc, ensures_player, hp]
      exact fun _ => hn
    | some p =>
    have hnone : p.toTableau.remove? card = none := by
      by_contra hsome
      obtain ⟨taken, hremove⟩ := Option.ne_none_iff_exists'.mp hsome
      exact hnot (GameState.canPlay_iff.mpr ⟨c, p, taken, hc, hp, hremove⟩)
    simp only [play, ensures_bind, ensures_definition, hc, ensures_player, hp, hnone]
    exact Reckoning.warn _ n hn

/-! ### Carrying out -/

/-- Whatever card of the catalog it is, each thing that it does is reckoned. -/
def ReckonsSteps (id : PlayerId) (provoke : Program → Engine (Chronicled M) Bool) : Prop :=
  ∀ d ∈ Registry.allCards, ∀ step ∈ d.onPlay, ∀ card,
    Reckoning id (carryOutTold .faithful provoke ⟨card, id⟩ d.name step)

omit [Controllers M] in
theorem reckoning_resolve (hsteps : ReckonsSteps id provoke) (card : CardId) :
    Reckoning id (resolveTold .faithful provoke card id) := by
  intro n hn
  rw [resolveTold, ensures_bind, ensures_definition]
  cases hc : n.state.card? card with
  | none => exact fun _ => hn
  | some c =>
    have hd := hn.now.tame.registered card c hc
    exact ensures_forM hn fun step hstep => hsteps c.definition hd step hstep card

section

variable {name : String} {step : Effect}

/-- Something that is within the licence to leave prices and waits alone, and is not told of as what
a Bridge or a Merchant does. -/
theorem reckoning_step (htelling : Telling provoke) (hstep : step.Within .unswayed ⟨card, id⟩)
    (hcheapens : (Happening.carried id name step.describe).cheapens = false)
    (hpromises : (Happening.carried id name step.describe).promises id = false) :
    Reckoning id (carryOutTold .faithful provoke ⟨card, id⟩ name step) := by
  have hprogram : (step.program ⟨card, id⟩ (.finish false)).Within .unswayed :=
    Effect.Within.program step hstep trivial
  refine Reckoning.bind (fun n hn => ?_) fun _ n hn => hn.carried hcheapens hpromises
  exact htelling.within fun depth =>
    Reckoning.of_discreet (discreet_runToldWithin hprogram depth) n hn

/-- Something that a script does. -/
theorem carryOut_scripted (htelling : Telling provoke) {label : String}
    {script : EffectContext → Script Unit}
    (hscript : ∀ depth n, n.Reckons id → (script ⟨card, id⟩).Leads
      (callTold (runToldWithin (M := Chronicled M) .faithful depth)) n
      (fun _ n' => (n'.heard (.carried id name label)).Reckons id) (Game.GivenUp id)) :
    Reckoning id (carryOutTold .faithful provoke ⟨card, id⟩ name (.scripted label script)) := by
  intro n hn
  refine ensures_bind.mpr (htelling.ensures (fun hne => absurd rfl hne) fun depth => ?_)
  exact ensures_andThen (Script.Leads.once (hscript depth n hn))

end

/-- A Bridge makes cards cheaper by one. -/
theorem reckoning_bridge (htelling : Telling provoke) (card : CardId) :
    Reckoning id (carryOutTold .faithful provoke ⟨card, id⟩ bridge.name
      (.scripted "cheaper this turn" fun _ => Script.call (.addCostModifier fun _ => -1))) := by
  refine carryOut_scripted htelling fun depth n hn => Script.Leads.call ?_
  refine ensures_bind.mpr (Game.reckons_heard hn.turn ?_ nofun hn.seen.ever)
  have hbonuses : bonuses id (.carried id bridge.name "cheaper this turn" :: n.memory.past) =
      bonuses id n.memory.past := by
    rw [bonuses_carried]
    simp [promises, bridge]
  refine ⟨hn.now.tame.congr (fun _ => rfl) hn.now.tame.ready.players, ?_, fun _ => ?_, hn.now.others⟩
  · change n.state.costModifiers ++ [fun _ => -1] = List.replicate (cheaper (_ :: n.memory.past)) _
    rw [cheaper_carried, show n.state.costModifiers = _ from hn.now.prices]
    exact List.replicate_succ'.symm
  · change n.state.plays? n.state.activePlayer =
      some (List.replicate (bonuses n.state.activePlayer (_ :: n.memory.past)) _)
    rw [hn.turn, hbonuses]
    exact hn.plays

/-- A Merchant hangs a bonus on the player. -/
theorem reckoning_merchant (htelling : Telling provoke) (card : CardId) :
    Reckoning id (carryOutTold .faithful provoke ⟨card, id⟩ merchant.name
      (.scripted "silver bonus" silverBonus)) := by
  refine carryOut_scripted htelling fun depth n hn => Script.Leads.addPlayTrigger ?_
  obtain ⟨p, hp, hplays⟩ := hn.player
  refine ensures_modifyPlayer.mpr ?_
  rw [hp]
  dsimp only
  have hmore : p.playTriggers ++ [payForSilver] =
      List.replicate (bonuses id n.memory.past + 1) payForSilver := by
    rw [hplays]
    exact List.replicate_succ'.symm
  have hset : Moment.Reckoned ⟨.carried id merchant.name "silver bonus" :: n.memory.past,
      n.state.setPlayer id { p with playTriggers := p.playTriggers ++ [payForSilver] }⟩ := by
    rw [hmore]
    refine Moment.Reckoned.setWaiting hn.now hn.turn hp (cheaper_carried _ _ _ _) fun _ => ?_
    rw [bonuses_carried]
    simp [promises, merchant]
  exact Game.reckons_heard hn.turn hset nofun hn.ever

/-! ### Cards that move onto the table, and cards that have others played -/

omit [Controllers M] in
/-- Between two looks. -/
theorem reckoning_lookBoth {e : Engine (Chronicled M) α} (h : Reckoning id e) :
    Reckoning id (do
      (Chronicler.faithful (M := M)).look
      let a ← e
      (Chronicler.faithful (M := M)).look
      return a) :=
  Reckoning.look.bind fun _ => h.bind fun _ => Reckoning.look.bind fun _ => .pure _

omit [Controllers M] in
theorem reckoning_move (card : CardId) (other : PlayerId) (target : Zone) (position : Position) :
    Reckoning id (move card other target position : Engine (Chronicled M) (Option Zone)) := by
  intro n hn
  rw [move, ensures_step]
  cases hmove : n.state.move card other target position with
  | error e => exact fun _ => hn
  | ok found => exact hn.unsway (.move hmove)

omit [Controllers M] in
theorem reckoning_addDuration (card : CardId) {callback : EffectContext → Program}
    (hcallback : Hooks.catalog.duration callback) :
    Reckoning id (addDuration card callback : Engine (Chronicled M) Unit) := by
  refine Reckoning.bind (.of_upholds (Upholds.card card)) fun _ => .modifyState fun s => ?_
  refine .hang s card (fun _ => rfl) fun c hc => ?_
  exact List.forall_mem_append.mpr ⟨hc, List.forall_mem_singleton.mpr hcallback⟩

theorem reckoning_standWatch (htelling : Telling provoke) (card : CardId) :
    Reckoning id (carryOutTold .faithful provoke ⟨card, id⟩ lighthouse.name
      (.scripted "stand watch" standWatch)) := by
  refine carryOut_scripted htelling fun depth n hn => ?_
  refine Script.Leads.callBind ((reckoning_lookBoth (reckoning_move _ _ _ _) n hn).imp ?_)
  intro _ n₁ hn₁
  refine Script.Leads.addDuration ((reckoning_addDuration card (.inl rfl) n₁ hn₁).imp ?_)
  exact fun _ n₂ hn₂ => hn₂.carried rfl (by simp [promises, lighthouse])

omit [Controllers M] in
/-- Cards are looked up in the hand, or there is no such player or card. -/
theorem leads_handWhere {handler : (c : Call) → Engine M c.Answer} {g : Game M} {pred : CardFace → Bool}
    {P : Game M → Prop} {E : Halt → Game M → Prop} (hP : P g) (hE : ∀ e g, P g → E (.error e) g) :
    (Script.handWhere id pred).Leads handler g (fun _ => P) E := by
  have hfail : ∀ {α : Type} (e : GameError) (g : Game M) {Q : α → Game M → Prop}, P g →
      (Script.fail e : Script α).Leads handler g Q E := fun e g _ hg _ _ _ => hE e g hg
  have htableau : (Script.tableau id).Leads handler g (fun _ => P) E := by
    refine Script.Leads.bind (Script.Leads.look ?_)
    cases g.state.outlook.tableau? id with
    | none => exact hfail _ g hP
    | some t => exact Script.Leads.pure hP
  refine Script.Leads.bind (Script.Leads.bind (htableau.imp fun t g₁ h₁ => Script.Leads.pure ?_))
  refine (Script.Leads.filterM (I := P) h₁ fun card _ g₂ h₂ => ?_).imp fun _ _ h => h.1
  refine Script.Leads.bind (Script.Leads.bind (Script.Leads.look ?_))
  cases g₂.state.outlook.face? card with
  | none => exact hfail _ g₂ h₂
  | some face => exact Script.Leads.pure (Script.Leads.pure h₂)

theorem reckoning_chooseCards (other : PlayerId) (choice : CardChoice) :
    Reckoning id (chooseCards other choice : Engine (Chronicled M) (List CardId)) :=
  .of_discreet (discreet_of_heeds (chooseCards_heeds other choice) fun _ hI =>
    .chooseCards hI.abiding other choice)

/-- The Throne Room has a card played, and carried out twice. -/
theorem reckoning_playTwice {depth : Nat}
    (hsteps : ReckonsSteps id (runToldWithin (M := Chronicled M) .faithful depth)) (card : CardId) :
    Reckoning id (carryOutTold .faithful (runToldWithin (M := Chronicled M) .faithful (depth + 1))
      ⟨card, id⟩ throneRoom.name (.scripted "play twice" playTwice)) := by
  have hscript : ∀ n : Game (Chronicled M), n.Reckons id → (playTwice ⟨card, id⟩).Leads
      (callTold (runToldWithin .faithful depth)) n (fun _ n' => n'.Reckons id) (Game.GivenUp id) := by
    intro n hn
    refine Script.Leads.bind ((leads_handWhere hn fun _ _ h _ => h).imp fun actions n₁ hn₁ => ?_)
    refine Script.Leads.callBind ((reckoning_lookBoth (reckoning_chooseCards id _) n₁ hn₁).imp ?_)
    intro chosen n₂ hn₂
    cases chosen.head? with
    | none => exact Script.Leads.pure hn₂
    | some other =>
      have hplay : Reckoning id (callTold (runToldWithin (M := Chronicled M) .faithful depth)
          (.play other id)) :=
        Reckoning.look.bind fun _ => reckoning_play (telling_runToldWithin depth) other
      have hresolve : Reckoning id (callTold (runToldWithin (M := Chronicled M) .faithful depth)
          (.resolve other id)) :=
        Reckoning.look.bind fun _ => reckoning_resolve hsteps other
      refine Script.Leads.callBind ((hplay n₂ hn₂).imp fun _ n₃ hn₃ => ?_)
      refine Script.Leads.callBind ((hresolve n₃ hn₃).imp fun _ n₄ hn₄ => ?_)
      exact Script.Leads.call (hresolve n₄ hn₄)
  intro n hn
  refine ensures_bind.mpr (ensures_andThen (Script.Leads.once ((hscript n hn).imp ?_)))
  exact fun _ n' hn' => hn'.carried rfl (by simp [promises, throneRoom])

end Engine

theorem Effect.WithinAll.of_mem {L : Licence} {ctx : EffectContext} {effects : List Effect}
    (h : Effect.WithinAll L ctx effects) {effect : Effect} (heffect : effect ∈ effects) :
    effect.Within L ctx := by
  induction effects with
  | nil => simp at heffect
  | cons first rest ih =>
    rcases List.mem_cons.mp heffect with rfl | hrest
    · exact h.1
    · exact ih h.2 hrest

namespace Registry

theorem eq_bridge {d : CardDefinition} (hd : d ∈ allCards) (h : d.name = bridge.name) : d = bridge := by
  refine eq_of_filter (p := fun d => d.name == bridge.name) rfl hd ?_
  simpa using h

theorem eq_merchant {d : CardDefinition} (hd : d ∈ allCards) (h : d.name = merchant.name) :
    d = merchant := by
  refine eq_of_filter (p := fun d => d.name == merchant.name) rfl hd ?_
  simpa using h

end Registry

namespace Engine

variable [Controllers M] {id : PlayerId} {provoke : Program → Engine (Chronicled M) Bool}

/-- Whatever a card of the catalog does is reckoned, if that is so of the Throne Room. -/
theorem reckonsSteps (htelling : Telling provoke)
    (htwice : ∀ card, Reckoning id (carryOutTold .faithful provoke ⟨card, id⟩ throneRoom.name
      (.scripted "play twice" playTwice))) : ReckonsSteps id provoke := by
  intro d hd step hstep card
  by_cases hlighthouse : d.name = lighthouse.name
  · obtain rfl := Registry.eq_lighthouse hd hlighthouse
    simp only [lighthouse, List.mem_cons, List.not_mem_nil, or_false] at hstep
    rcases hstep with rfl | rfl | rfl
    · exact reckoning_step htelling trivial rfl (by simp [promises, lighthouse])
    · exact reckoning_step htelling trivial rfl (by simp [promises, lighthouse])
    · exact reckoning_standWatch htelling card
  by_cases hthroneRoom : d.name = throneRoom.name
  · obtain rfl := Registry.eq_throneRoom hd hthroneRoom
    obtain rfl := List.mem_singleton.mp hstep
    exact htwice card
  by_cases hbridge : d.name = bridge.name
  · obtain rfl := Registry.eq_bridge hd hbridge
    simp only [bridge, List.mem_cons, List.not_mem_nil, or_false] at hstep
    rcases hstep with rfl | rfl | rfl
    · exact reckoning_step htelling trivial rfl (by simp [promises, bridge])
    · exact reckoning_step htelling trivial rfl (by simp [promises, bridge])
    · exact reckoning_bridge htelling card
  by_cases hmerchant : d.name = merchant.name
  · obtain rfl := Registry.eq_merchant hd hmerchant
    simp only [merchant, List.mem_cons, List.not_mem_nil, or_false] at hstep
    have hcard : (Effect.drawCards 1).describe ≠ "silver bonus" := by decide
    have haction : (Effect.gainActions 1).describe ≠ "silver bonus" := by decide
    rcases hstep with rfl | rfl | rfl
    · exact reckoning_step htelling trivial rfl (by simp [promises, hcard])
    · exact reckoning_step htelling trivial rfl (by simp [promises, haction])
    · exact reckoning_merchant htelling card
  have hwithin : Effect.WithinAll .unswayed ⟨card, id⟩ d.onPlay := by
    refine Registry.allCards_licensed hd hlighthouse hthroneRoom .unswayed ⟨card, id⟩ trivial ?_ ?_ ?_
    · exact fun hsways => (hsways.elim hbridge hmerchant).elim
    · exact fun _ => not_false
    · exact fun _ effects hplain => .inr ⟨effects, hplain, rfl⟩
  refine reckoning_step htelling (hwithin.of_mem hstep) ?_ ?_
  · have hne : d.name ≠ "Bridge" := hbridge
    simp [cheapens, hne]
  · have hne : d.name ≠ "Merchant" := hmerchant
    simp [promises, hne]

/-- However deep cards provoke each other. -/
theorem runToldWithin_reckonsSteps (depth : Nat) :
    ReckonsSteps id (runToldWithin (M := Chronicled M) .faithful depth) := by
  induction depth with
  | zero =>
    refine reckonsSteps (telling_runToldWithin 0) fun card n _ => ?_
    exact fun hne => absurd rfl hne
  | succ depth ih => exact reckonsSteps (telling_runToldWithin (depth + 1)) (reckoning_playTwice ih)

theorem runTold_reckonsSteps : ReckonsSteps id (runTold (M := Chronicled M) .faithful) := by
  intro d hd step hstep card n hn
  obtain ⟨depth, heq⟩ := telling_runTold (step.program ⟨card, id⟩ (.finish false)) n
  refine .of_runOn ?_ (runToldWithin_reckonsSteps depth d hd step hstep card n hn)
  rw [carryOutTold, carryOutTold, runOn_bind, runOn_bind, heq]

end Engine

end DeckBuilder
