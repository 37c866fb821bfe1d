import DeckBuilder.Controller.HeuristicPlayer
import DeckBuilder.Controller.Table
import DeckBuilder.Proofs.Provoked
import DeckBuilder.Proofs.Replenishing

/-!
What the tally of a card foretells. An effect that draws cards and gives actions, buys and money is told
in numbers, and so are such effects in sequences, however deep. Two recursions go over the steps: the
tally adds the numbers up, and the interpreter carries the steps out one after the other, with a shuffle
where the deck runs out. They agree at every step, and so they agree at the end.
-/
namespace DeckBuilder

mutual
/-- Draws, actions, buys and money, and sequences of such effects. -/
def Effect.Counted : Effect → Prop
  | .drawCards _ | .gainActions _ | .gainBuys _ | .gainMoney _ => True
  | .sequence steps => Effect.CountedAll steps
  | _ => False
def Effect.CountedAll : List Effect → Prop
  | [] => True
  | effect :: rest => effect.Counted ∧ Effect.CountedAll rest
end

namespace EffectTally

mutual
/-- Nothing of a counted effect is left over as a custom step. -/
theorem custom_add : ∀ (t : EffectTally) (effect : Effect), effect.Counted →
    (t.add effect).custom = t.custom
  | _, .drawCards _, _ | _, .gainActions _, _ | _, .gainBuys _, _ | _, .gainMoney _, _ => rfl
  | t, .sequence steps, h => custom_addAll t steps h
theorem custom_addAll : ∀ (t : EffectTally) (effects : List Effect), Effect.CountedAll effects →
    (t.addAll effects).custom = t.custom
  | _, [], _ => rfl
  | t, effect :: rest, h =>
    (custom_addAll (t.add effect) rest h.2).trans (custom_add t effect h.1)
end

end EffectTally

/-- As many cards have been drawn as were tallied, as far as there are so many, and the counters have
gone up by what was tallied. -/
def Tableau.tallied (t : Tableau) (g : Generator) (tally : EffectTally) : Tableau :=
  { t.afterDraw tally.cards g with
    actions := t.actions + tally.actions
    buys := t.buys + tally.buys
    money := t.money + tally.money }

theorem Tableau.tallied_nothing (t : Tableau) (g : Generator) : t.tallied g {} = t := by
  have hnot : ¬ t.RunsOut 0 := fun h => Nat.not_lt_zero _ h.1
  rw [tallied, afterDraw_of_not_runsOut hnot]
  simp [drawn]

/-- Further cards are drawn by a player who has been credited as by one who has not. -/
theorem Tableau.afterDraw_tallied (t : Tableau) (g : Generator) (tally : EffectTally) (n : Nat) :
    (t.tallied g tally).afterDraw n (t.rngAfterDraw tally.cards g) =
      t.tallied g { tally with cards := tally.cards + n } := by
  have hzones := congrArg Tableau.zones (t.afterDraw_add tally.cards n g)
  exact congrArg (fun zones => { t.tallied g tally with zones }) hzones

theorem Tableau.rngAfterDraw_tallied (t : Tableau) (g : Generator) (tally : EffectTally) (n : Nat) :
    (t.tallied g tally).rngAfterDraw n (t.rngAfterDraw tally.cards g) =
      t.rngAfterDraw (tally.cards + n) g :=
  t.rngAfterDraw_add tally.cards n g

namespace GameState

variable {s s' : GameState} {id : PlayerId} {p : Player} {tally : EffectTally}

/-- The tally has been carried out for the player, and but for the generator and the log everything
else is as it was. -/
def Tallied (s : GameState) (id : PlayerId) (p : Player) (tally : EffectTally) (s' : GameState) : Prop :=
  ∃ events logger, s' =
    { s.setPlayer id (p.onTableau (·.tallied s.rng tally)) with
      rng := p.rngAfterDraw tally.cards s.rng, events, logger }

theorem tallied_nothing (hp : s.player? id = some p) : Tallied s id p {} s := by
  have hsame : p.onTableau (·.tallied s.rng {}) = p := by
    rw [Player.onTableau, Tableau.tallied_nothing]
  have hrng : p.rngAfterDraw 0 s.rng = s.rng := if_neg fun h => Nat.not_lt_zero _ h.1
  refine ⟨s.events, s.logger, ?_⟩
  rw [hsame, setPlayer_self hp, hrng]

namespace Tallied

theorem player? (h : Tallied s id p tally s') (hp : s.player? id = some p) :
    s'.player? id = some (p.onTableau (·.tallied s.rng tally)) := by
  obtain ⟨_, _, rfl⟩ := h
  exact player?_setPlayer_self _ hp

theorem player?_of_ne (h : Tallied s id p tally s') {other : PlayerId} (hother : other ≠ id) :
    s'.player? other = s.player? other := by
  obtain ⟨_, _, rfl⟩ := h
  exact player?_setPlayer_of_ne hother _

/-- A credit to the player. -/
theorem credit (h : Tallied s id p tally s') {tally' : EffectTally} {n : Nat} {counter : Counter}
    (hcredit : (p.tallied s.rng tally).credit n counter = p.tallied s.rng tally')
    (hcards : tally'.cards = tally.cards) :
    Tallied s id p tally'
      (s'.setPlayer id ((p.onTableau (·.tallied s.rng tally)).onTableau (·.credit n counter))) := by
  obtain ⟨events, logger, rfl⟩ := h
  have hplayer : (p.onTableau (·.tallied s.rng tally)).onTableau (·.credit n counter) =
      p.onTableau (·.tallied s.rng tally') :=
    congrArg (fun t => { p with toTableau := t }) hcredit
  have hset : (s.setPlayer id (p.onTableau (·.tallied s.rng tally))).setPlayer id
      (p.onTableau (·.tallied s.rng tally')) =
        s.setPlayer id (p.onTableau (·.tallied s.rng tally')) := setPlayer_setPlayer _ _
  refine ⟨events, logger, ?_⟩
  rw [hplayer, hcards, ← hset]
  rfl

/-- A draw by the player. -/
theorem draw (h : Tallied s id p tally s') (hp : s.player? id = some p) (n : Nat) :
    ∃ cards s'', s'.draw id n = .ok (cards, s'') ∧
      Tallied s id p { tally with cards := tally.cards + n } s'' := by
  obtain ⟨cards, s'', hdraw, hdrew⟩ := exists_drew (h.player? hp) n
  obtain ⟨_, _, rfl⟩ := h
  have hplayer : (p.onTableau (·.tallied s.rng tally)).onTableau
      (·.afterDraw n (p.rngAfterDraw tally.cards s.rng)) =
        p.onTableau (·.tallied s.rng { tally with cards := tally.cards + n }) :=
    congrArg (fun t => { p with toTableau := t }) (p.afterDraw_tallied s.rng tally n)
  have hset : (s.setPlayer id (p.onTableau (·.tallied s.rng tally))).setPlayer id
      (p.onTableau (·.tallied s.rng { tally with cards := tally.cards + n })) =
        s.setPlayer id (p.onTableau (·.tallied s.rng { tally with cards := tally.cards + n })) :=
    setPlayer_setPlayer _ _
  have hrng := p.rngAfterDraw_tallied s.rng tally n
  have hplayers := (congrArg (fun q => (s.players.set id.seat
    (p.onTableau (·.tallied s.rng tally))).set id.seat q) hplayer).trans (congrArg players hset)
  have hstate := congrArg
    (fun x : GameState => { x with events := s''.events, logger := s''.logger }) hdrew.state
  refine ⟨cards, s'', hdraw, s''.events, s''.logger, hstate.trans ?_⟩
  exact congrArg₂ (fun players rng =>
    ({ s with players, rng, events := s''.events, logger := s''.logger } : GameState)) hplayers hrng

end Tallied

end GameState

namespace Engine

variable {M : Type} [Controllers M] {g : Game M} {id : PlayerId} {p : Player} {card : CardId}

omit [Controllers M] in
theorem runOn_modifyPlayer (hp : g.state.player? id = some p) (f : Player → Player) :
    (modifyPlayer id f).runOn g = (.ok (), { g with state := g.state.setPlayer id (f p) }) :=
  runOn_bind_of_ok (runOn_player hp)

section

variable {s s' : GameState} {tally : EffectTally} (provoke : Program → Engine M Bool) (memory : M)

/-- A credit is carried out, and the program goes on. -/
theorem interpret_credit (hp : s.player? id = some p) (hs' : s.Tallied id p tally s')
    (n : Nat) (counter : Counter) (tally' : EffectTally)
    (hcredit : (p.tallied s.rng tally).credit n counter = p.tallied s.rng tally')
    (hcards : tally'.cards = tally.cards) (k : Program) :
    ∃ s'', (interpret (perform provoke) (.call (.credit id counter n) fun _ => k)).runOn ⟨s', memory⟩ =
        (interpret (perform provoke) k).runOn ⟨s'', memory⟩ ∧ s.Tallied id p tally' s'' :=
  ⟨_, runOn_bind_of_ok (runOn_modifyPlayer (hs'.player? hp) _), hs'.credit hcredit hcards⟩

theorem interpret_draw (hp : s.player? id = some p) (hs' : s.Tallied id p tally s') (n : Nat)
    (k : Program) :
    ∃ s'', (interpret (perform provoke) (.call (.draw id n) fun _ => k)).runOn ⟨s', memory⟩ =
        (interpret (perform provoke) k).runOn ⟨s'', memory⟩ ∧
      s.Tallied id p { tally with cards := tally.cards + n } s'' := by
  obtain ⟨cards, s'', hdraw, hs''⟩ := hs'.draw hp n
  have hran : (Engine.draw id n : Engine M (List CardId)).runOn ⟨s', memory⟩ =
      (.ok cards, ⟨s'', memory⟩) := by
    rw [Engine.draw, step, runOn_bind_of_ok runOn_state, hdraw]
    rfl
  exact ⟨s'', runOn_bind_of_ok hran, hs''⟩

mutual
/-- Whatever has been tallied and carried out so far, a counted effect is added to both, and the
program goes on. -/
theorem interpret_counted (hp : s.player? id = some p) : ∀ {tally : EffectTally} {s' : GameState}
    (effect : Effect) (_ : effect.Counted) (k : Program) (_ : s.Tallied id p tally s'),
    ∃ s'', (interpret (perform provoke) (effect.program ⟨card, id⟩ k)).runOn ⟨s', memory⟩ =
        (interpret (perform provoke) k).runOn ⟨s'', memory⟩ ∧ s.Tallied id p (tally.add effect) s''
  | _, _, .drawCards n, _, k, hs' => interpret_draw provoke memory hp hs' n k
  | tally, _, .gainActions n, _, k, hs' =>
    interpret_credit provoke memory hp hs' n .actions (tally.add (.gainActions n))
      (by simp only [Tableau.tallied, Tableau.credit, EffectTally.add, Nat.add_assoc]) rfl k
  | tally, _, .gainBuys n, _, k, hs' =>
    interpret_credit provoke memory hp hs' n .buys (tally.add (.gainBuys n))
      (by simp only [Tableau.tallied, Tableau.credit, EffectTally.add, Nat.add_assoc]) rfl k
  | tally, _, .gainMoney n, _, k, hs' =>
    interpret_credit provoke memory hp hs' n .money (tally.add (.gainMoney n))
      (by simp only [Tableau.tallied, Tableau.credit, EffectTally.add, Nat.add_assoc]) rfl k
  | _, _, .sequence steps, h, k, hs' => interpret_countedAll hp steps h k hs'
theorem interpret_countedAll (hp : s.player? id = some p) : ∀ {tally : EffectTally} {s' : GameState}
    (effects : List Effect) (_ : Effect.CountedAll effects) (k : Program) (_ : s.Tallied id p tally s'),
    ∃ s'', (interpret (perform provoke) (Effect.programAll ⟨card, id⟩ effects k)).runOn ⟨s', memory⟩ =
        (interpret (perform provoke) k).runOn ⟨s'', memory⟩ ∧
      s.Tallied id p (tally.addAll effects) s''
  | _, s', [], _, _, hs' => ⟨s', rfl, hs'⟩
  | _, _, effect :: rest, h, k, hs' => by
    obtain ⟨s₁, hfirst, hs₁⟩ :=
      interpret_counted hp effect h.1 (Effect.programAll ⟨card, id⟩ rest k) hs'
    obtain ⟨s₂, hrest, hs₂⟩ := interpret_countedAll hp rest h.2 k hs₁
    exact ⟨s₂, hfirst.trans hrest, hs₂⟩
end

end

/-- A card of counted effects is carried out as it is tallied. -/
theorem resolve_tallied {provoke : Program → Engine M Bool} (hruns : Runs provoke) {c : Card}
    (hc : g.state.card? card = some c) (hcounted : Effect.CountedAll c.definition.onPlay)
    (hp : g.state.player? id = some p) :
    ∃ s', (resolve provoke card id).runOn g = (.ok (), { g with state := s' }) ∧
      g.state.Tallied id p (EffectTally.ofDefinition c.definition) s' := by
  rw [resolve, runOn_bind_of_ok (runOn_definition hc), EffectTally.ofDefinition]
  cases heffects : c.definition.onPlay with
  | nil => exact ⟨g.state, rfl, GameState.tallied_nothing hp⟩
  | cons effect rest =>
    rw [heffects] at hcounted
    obtain ⟨depth, hrun⟩ := hruns (Effect.programAll ⟨card, id⟩ (effect :: rest) (.finish false)) g
    obtain ⟨s', hends, hs'⟩ := interpret_countedAll (runWithin depth) g.memory hp (effect :: rest)
      hcounted (.finish false) (GameState.tallied_nothing hp)
    exact ⟨s', runOn_bind_of_ok (hrun.trans hends), hs'⟩

/-- Two sequences, one within the other, and six cards to draw in three steps. -/
def fairground : CardDefinition where
  name := "Fairground"
  types := [.action]
  cost := 5
  onPlay := [.sequence [.drawCards 2, .sequence [.gainActions 1, .drawCards 1, .gainMoney 2]],
    .drawCards 3, .gainBuys 1]

end Engine

end DeckBuilder
