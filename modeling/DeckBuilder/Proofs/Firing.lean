import DeckBuilder.Proofs.Underway

/-!
The start of a turn. Every program that waits on a card in front of the player is run once, card after
card in the order in which they lie there. These programs only draw and count, and the Lighthouse
comes back into play; none of them asks anything and none fails, so the start of a turn comes to its end
whoever answers.
-/
namespace DeckBuilder

/-- A Lighthouse of which the programs are about to be run lies aside, and nothing waits on it. -/
def CardDefinition.Astray (d : CardDefinition) (holder card : CardId) : Prop :=
  card = holder ∧ d = Catalog.lighthouse

namespace GameState

/-- The programs that wait on a card, each with the card. -/
def dueOn (s : GameState) (card : CardId) : List (CardId × (EffectContext → Program)) :=
  (s.durations card).map fun callback => (card, callback)

/-- The programs that wait on the player's cards. -/
def due (s : GameState) (id : PlayerId) : List (CardId × (EffectContext → Program)) :=
  match s.player? id with
  | some p => p.allCards.flatMap s.dueOn
  | none => []

/-- The turn of the player has begun, and nothing is run yet. -/
def begun (s : GameState) (id : PlayerId) (p : Player) : GameState :=
  (({ s with turn := s.turn + 1, phase := .action, turnStart := s.events.lastSeq } :
      GameState).setPlayer id (p.onTableau fun t => { t with turns := t.turns + 1 })).publish id
    .startTurn

/-- Nothing waits on the card any more. -/
def cleared (s : GameState) (card : CardId) : GameState :=
  { s with cards := s.cards.modify card fun c => { c with durations := [] } }

/-- Programs wait on the card again, before those that wait on it meanwhile. -/
def rehung (s : GameState) (card : CardId) (kept : List (EffectContext → Program)) : GameState :=
  { s with cards := s.cards.modify card fun c => { c with durations := kept ++ c.durations } }

/-- What waited on some cards has been done: nothing waits on them any more, on other cards waits what
waited before, and nothing has come in front of the player. -/
structure Settled (id : PlayerId) (done : List CardId) (s s' : GameState) : Prop where
  keeps : s.Keeps id s'
  cards : ∀ card, s'.card? card =
    if card ∈ done then (s.card? card).map fun c => { c with durations := [] } else s.card? card
  table : ∀ card, s'.Lies id card → s.Lies id card

namespace Settled

variable {s s' s'' : GameState} {id : PlayerId} {card : CardId} {done done' : List CardId}

theorem of_same (hkeeps : s.Keeps id s') (hcards : ∀ card, s'.card? card = s.card? card)
    (htable : ∀ card, s'.Lies id card → s.Lies id card) : s.Settled id [] s' :=
  ⟨hkeeps, fun card => (hcards card).trans (if_neg List.not_mem_nil).symm, htable⟩

theorem refl (id : PlayerId) (s : GameState) : s.Settled id [] s :=
  .of_same (.refl id s) (fun _ => rfl) fun _ h => h

theorem card?_of_not_mem (h : s.Settled id done s') (hcard : card ∉ done) :
    s'.card? card = s.card? card :=
  (h.cards card).trans (if_neg hcard)

theorem not_pending (h : s.Settled id done s') (hcard : card ∈ done) : ¬ s'.Pending card := by
  rw [Pending, durations, h.cards, if_pos hcard]
  cases s.card? card <;> simp

theorem trans (h : s.Settled id done s') (h' : s'.Settled id done' s'') :
    s.Settled id (done ++ done') s'' where
  keeps := h.keeps.trans h'.keeps
  cards card := by
    rw [h'.cards, h.cards]
    by_cases hdone' : card ∈ done'
    · rw [if_pos hdone', if_pos (List.mem_append_right _ hdone')]
      by_cases hdone : card ∈ done
      · rw [if_pos hdone, Option.map_map]
        rfl
      · rw [if_neg hdone]
    · simp only [List.mem_append, hdone', or_false, if_false]
  table card hlies := h.table card (h'.table card hlies)

end Settled

/-! ### Clearing a card -/

variable {s : GameState} {id : PlayerId} {card holder : CardId}

theorem card?_cleared (s : GameState) (holder card : CardId) :
    (s.cleared holder).card? card =
      if card ∈ [holder] then (s.card? card).map fun c => { c with durations := [] }
      else s.card? card := by
  have hget := s.cards.get?_modify holder card fun c => { c with durations := [] }
  simp only [List.mem_singleton, eq_comm (a := card)]
  exact hget

theorem definition?_cleared (s : GameState) (holder card : CardId) :
    (s.cleared holder).definition? card = s.definition? card := by
  rw [definition?, card?_cleared, definition?]
  by_cases hcard : card ∈ [holder]
  · rw [if_pos hcard, Option.map_map]
    rfl
  · rw [if_neg hcard]

theorem cleared_settled (id : PlayerId) (s : GameState) (holder : CardId) :
    s.Settled id [holder] (s.cleared holder) where
  keeps := ⟨rfl, rfl, definition?_cleared s holder, fun _ _ h => h⟩
  cards := card?_cleared s holder
  table _ h := h

/-- Hanging nothing on a card changes nothing. -/
theorem Midway.rehung (h : s.Midway (· = id) noCard) (holder : CardId) :
    (s.rehung holder []).Midway (· = id) noCard ∧ s.Settled id [] (s.rehung holder []) := by
  have hcards : ∀ card, (s.rehung holder []).card? card = s.card? card := by
    intro card
    refine (s.cards.get?_modify holder card _).trans ?_
    by_cases heq : holder = card
    · rw [if_pos heq]
      exact Option.map_id'
    · exact if_neg heq
  have hsame : (s.rehung holder []).Midway (· = id) noCard ∧ s.Keeps id (s.rehung holder []) :=
    h.aside rfl hcards rfl rfl rfl
  exact ⟨hsame.1, .of_same hsame.2 hcards fun _ h => h⟩

/-- What still waits waits on another card. -/
theorem pending_cleared (h : (s.cleared holder).Pending card) :
    s.Pending card ∧ (s.cleared holder).card? card = s.card? card := by
  have hnot : card ∉ [holder] := by
    intro hmem
    rw [Pending, durations, card?_cleared, if_pos hmem] at h
    cases hc : s.card? card <;> simp [hc] at h
  have hsame := (card?_cleared s holder card).trans (if_neg hnot)
  rw [Pending, durations_congr hsame] at h
  exact ⟨h, hsame⟩

/-- Nothing but that is out of order when a card of the player has been cleared. -/
theorem Midway.cleared (h : s.Midway (· = id) noCard) (hlies : s.Lies id holder)
    {d : CardDefinition} (hdef : s.definition? holder = some d) :
    (s.cleared holder).Midway (· = id) (d.Astray holder) := by
  have hsame : ∀ card, card ≠ holder → (s.cleared holder).card? card = s.card? card := by
    intro card hne
    apply (cleared_settled id s holder).card?_of_not_mem
    simpa using hne
  have hchange : Change (Hooks.seated s.players.length) s (s.cleared holder) :=
    .hang s holder _ (fun _ => rfl) fun _ _ _ t ht => absurd ht List.not_mem_nil
  refine ⟨Changes.seated (.single hchange) h.seated, ?_, ?_, ?_, ?_, ?_, ?_⟩
  · intro card c hc
    obtain ⟨before, hbefore, heq⟩ := carded_before (definition?_cleared s holder card) hc
    rw [← heq]
    exact h.registered card before hbefore
  · refine ⟨?_, h.ready.players, h.ready.supply, h.ready.trash⟩
    intro card c hc
    obtain ⟨before, hbefore, heq⟩ := carded_before (definition?_cleared s holder card) hc
    rw [← heq]
    exact h.ready.cards card before hbefore
  · intro card d' hd' t ht
    rw [definition?_cleared] at hd'
    rw [durations_congr (pending_cleared (List.ne_nil_of_mem ht)).2] at ht
    exact h.hung card d' hd' t ht
  · exact fun card hcard => h.onTable card (pending_cleared hcard).1
  · intro other q hq hother
    refine (h.resting other q hq hother).congr fun card hmem => hsame card ?_
    rintro rfl
    exact hother (h.seated.sound.lies_unique ⟨q, hq, hmem⟩ hlies)
  · intro other q hq hother card hmem
    have hwatching := (h.setAside other q hq hother card hmem).resolve_left not_false
    by_cases heq : card = holder
    · refine Or.inl ⟨heq, ?_⟩
      have hlighthouse := hwatching.1
      rw [heq, hdef] at hlighthouse
      exact Option.some.inj hlighthouse
    · exact Or.inr (hwatching.congr (hsame card heq))

end GameState

/-- The programs are run for the player and their cards, in this order. Between two of them nothing
changes but what waits on cards. -/
inductive Engine.Firing {M : Type} [Controllers M] (id : PlayerId) :
    List (CardId × (EffectContext → Program)) → Game M → Game M → Prop
  | done (g : Game M) : Firing id [] g g
  | hang {due : List (CardId × (EffectContext → Program))} {g g' : Game M} (card : CardId)
      (f : Card → Card) (hf : ∀ c, (f c).definition = c.definition)
      (rest : Firing id due ⟨{ g.state with cards := g.state.cards.modify card f }, g.memory⟩ g') :
      Firing id due g g'
  | run {due : List (CardId × (EffectContext → Program))} {g g₁ g' : Game M} {card : CardId}
      {callback : EffectContext → Program} {keep : Bool}
      (h : (Engine.run (callback ⟨card, id⟩)).runOn g = (.ok keep, g₁))
      (rest : Firing id due g₁ g') : Firing id ((card, callback) :: due) g g'

theorem Engine.Firing.trans {M : Type} [Controllers M] {id : PlayerId}
    {due due' : List (CardId × (EffectContext → Program))} {g g' g'' : Game M}
    (h : Firing id due g g') (h' : Firing id due' g' g'') : Firing id (due ++ due') g g'' := by
  induction h with
  | done g => exact h'
  | hang card f hf _ ih => exact .hang card f hf (ih h')
  | run hrun _ ih => exact .run hrun (ih h')

/-- The licence of a player who is paid for what waited: nothing is hung, nothing bought. -/
def Licence.payday (s : GameState) (id : PlayerId) : Licence :=
  ⟨s.Fixed, (· = id), fun _ _ => False, False, False⟩

namespace Licence.Allows

variable {s s' : GameState} {L : Licence} {id : PlayerId}

theorem of_payday (h : (payday s id).Allows s s') : (turn s (· = id)).Allows s s' :=
  h.mono rfl (fun _ h => h) (fun _ _ h => h.elim) (fun h => h.elim) fun h => h.elim

theorem card?_of_payday (h : (payday s id).Allows s s') (card : CardId) :
    s'.card? card = s.card? card := by
  obtain ⟨hung, hall, heq⟩ := h.cards card
  have hnone : hung = [] := List.eq_nil_iff_forall_not_mem.mpr fun t ht => hall t ht
  rw [heq, hnone]
  cases s.card? card <;> simp

/-- Nothing comes in front of a player. -/
theorem lies_before (h : L.Allows s s') {card : CardId} (hlies : s'.Lies id card) :
    s.Lies id card := by
  obtain ⟨p', hp', hmem⟩ := hlies
  obtain ⟨p, hp, hallows⟩ := h.player_before hp'
  refine ⟨p, hp, ?_⟩
  rcases List.mem_append.mp hmem with hmem | hmem
  · exact List.mem_append_left _ (hallows.zones.inPlay hmem)
  · exact List.mem_append_right _ (hallows.zones.setAside hmem)

end Licence.Allows

namespace Engine

variable {M : Type} [Controllers M] {id : PlayerId} {card : CardId} {g : Game M}

/-! ### The programs that wait -/

/-- A program is run with some patience. -/
theorem ensures_run_of {p : Program} {Q : Bool → Game M → Prop} {E : Halt → Game M → Prop}
    (h : ∀ depth, Ensures (interpret (perform (runWithin depth)) p) g Q E) :
    Ensures (run p) g Q E := by
  obtain ⟨depth, hdepth⟩ : ∃ depth, g.state.patience = depth + 1 :=
    ⟨16 * g.state.cards.size + 255, rfl⟩
  simp only [run, ensures_bind, ensures_state, hdepth]
  exact h depth

omit [Controllers M] in
/-- A script that is run once is not kept. -/
theorem ensures_once {handler : (c : Call) → Engine M c.Answer} {s : Script Unit} {P : Game M → Prop}
    {E : Halt → Game M → Prop} (h : s.Leads handler g (fun _ => P) E) :
    Ensures (interpret handler s.once) g (fun keep g' => keep = false ∧ P g') E :=
  h _ _ fun _ _ hP => ⟨rfl, hP⟩

omit [Controllers M] in
theorem plain_leads {handler : (c : Call) → Engine M c.Answer} {ctx : EffectContext}
    {P : Game M → Prop} {E : Halt → Game M → Prop}
    (hdraw : ∀ n g, P g → Ensures (handler (.draw ctx.player n)) g (fun _ => P) E)
    (hcredit : ∀ counter n g, P g →
      Ensures (handler (.credit ctx.player counter n)) g (fun _ => P) E)
    {effects : List Effect} (hplain : ∀ effect ∈ effects, effect.Plain) (hP : P g) :
    (Effect.steps effects ctx).Leads handler g (fun _ => P) E := by
  induction effects generalizing g with
  | nil => exact .steps_nil hP
  | cons effect rest ih =>
    have hrest : ∀ {g' : Game M}, P g' →
        (Effect.steps rest ctx).Leads handler g' (fun _ => P) E :=
      fun hP' => ih (fun e he => hplain e (List.mem_cons_of_mem _ he)) hP'
    refine .steps_cons (Script.Leads.imp ?_ fun _ _ hP' => hrest hP')
    have heffect := hplain effect List.mem_cons_self
    cases effect with
    | drawCards n =>
      exact ofCall_leads (c := .draw ctx.player n) (fun _ => rfl) (hdraw n g hP)
    | gainActions n => exact ofCall_leads (fun _ => rfl) (hcredit .actions n g hP)
    | gainBuys n => exact ofCall_leads (fun _ => rfl) (hcredit .buys n g hP)
    | gainMoney n => exact ofCall_leads (fun _ => rfl) (hcredit .money n g hP)
    | gainVictoryTokens n => exact ofCall_leads (fun _ => rfl) (hcredit .victoryTokens n g hP)
    | _ => exact heffect.elim

/-- What a card has left for later only draws and counts, and asks nothing. -/
theorem doLater_settles (h : g.state.Midway (· = id) noCard) (hid : id.seat < g.state.players.length)
    {effects : List Effect} (hplain : ∀ effect ∈ effects, effect.Plain) :
    Ensures (run (Catalog.doLater effects ⟨card, id⟩)) g
      (fun keep g' => keep = false ∧ g'.state.Midway (· = id) noCard ∧
        g.state.Settled id [] g'.state) fun _ _ => False := by
  have hseat : ∀ {g' : Game M}, Reached M g.state.players.length g.state g' →
      id.seat < g'.state.players.length := by
    intro g' hr
    rw [(Changes.kept hr).seats]
    exact hid
  have hsteady := reached_steady (M := M) h.seated
  have hdone : Ensures (run (Catalog.doLater effects ⟨card, id⟩)) g
      (fun keep g' => keep = false ∧ Reached M g.state.players.length g.state g')
      fun _ _ => False := by
    refine ensures_run_of fun depth => ensures_once (plain_leads ?_ ?_ hplain .refl)
    · exact fun n g' hr => ensures_draw hsteady hr (hseat hr)
    · exact fun counter n g' hr => ensures_credit hsteady.toFirm hr (hseat hr)
  have hwithin : (Catalog.doLater effects ⟨card, id⟩).Within (.payday g.state id) :=
    Script.Within.once (Script.Within.steps (Catalog.plainAll_within rfl hplain))
  refine (hdone.and (run_heeds hwithin g h.ready_fixed)).mono ?_ fun _ _ h => h.1.elim
  rintro keep g' ⟨⟨hkeep, hr⟩, hallows, -⟩
  have hseated := Changes.seated hr h.seated
  rw [← hseated.seats] at hseated
  have hturn := hallows.of_payday
  exact ⟨hkeep, h.allows hturn hseated,
    .of_same (.of_allows hturn) hallows.card?_of_payday fun _ => hallows.lies_before⟩

/-- The Lighthouse pays and comes back into play. -/
theorem endWatch_settles (h : g.state.Midway (· = id) (· = card)) (hlasting : g.state.Lasting card)
    (hlies : g.state.Lies id card) :
    Ensures (run (Catalog.endWatch ⟨card, id⟩)) g
      (fun keep g' => keep = false ∧ g'.state.Midway (· = id) noCard ∧
        g.state.Settled id [] g'.state) fun _ _ => False := by
  obtain ⟨p, hp, hmem⟩ := hlies
  refine ensures_run_of fun depth => ensures_once (.callBind ?_)
  change Ensures (modifyPlayer id _) g _ _
  rw [ensures_modifyPlayer, hp]
  dsimp only
  generalize hg₁ : (⟨GameState.setPlayer _ _ _, g.memory⟩ : Game M) = g₁
  have hpaid : g₁.state.Midway (· = id) (· = card) ∧ g.state.Keeps id g₁.state := by
    rw [← hg₁]
    exact h.recount hp (fun _ => rfl) fun _ => rfl
  have hcards : ∀ c, g₁.state.card? c = g.state.card? c := by
    rw [← hg₁]
    exact fun _ => rfl
  have htable : ∀ c, g₁.state.Lies id c → g.state.Lies id c := by
    rw [← hg₁]
    rintro c ⟨q, hq, hc⟩
    rw [GameState.player?_setPlayer_self _ hp] at hq
    obtain rfl := Option.some.inj hq
    exact ⟨p, hp, hc⟩
  have hlies₁ := hpaid.2.stays card hlasting ⟨p, hp, hmem⟩
  have hinPlay : PlayerZones.OnTable .inPlay := trivial
  have hback : Ensures (move card id .inPlay .top) g₁ (fun _ g' =>
      (g'.state.Midway (· = id) noCard ∧ g₁.state.Keeps id g'.state) ∧
        (∀ c, g'.state.card? c = g₁.state.card? c) ∧
        ∀ c, g'.state.Lies id c → g₁.state.Lies id c) fun _ _ => False := by
    refine lay_midway hpaid.1 hlies₁ hinPlay ?_ ?_
    · exact fun c hc => Or.inr ⟨hc, rfl⟩
    · exact fun hzone => absurd hzone (by simp)
  refine .callBind (hback.imp ?_)
  rintro _ g₂ ⟨⟨hmidway, hkeeps⟩, hcards₂, htable₂⟩
  refine .pure ⟨hmidway, .of_same (hpaid.2.trans hkeeps) ?_ ?_⟩
  · exact fun c => (hcards₂ c).trans (hcards c)
  · exact fun c hc => htable c (htable₂ c hc)

theorem callback_settles {d : CardDefinition} (h : g.state.Midway (· = id) (d.Astray card))
    (hid : id.seat < g.state.players.length) (hlasting : g.state.Lasting card)
    (hlies : g.state.Lies id card) {callback : EffectContext → Program} (hhangs : d.Hangs callback) :
    Ensures (run (callback ⟨card, id⟩)) g
      (fun keep g' => keep = false ∧ g'.state.Midway (· = id) noCard ∧
        g.state.Settled id [] g'.state) fun _ _ => False := by
  rcases hhangs.2 with ⟨-, heq⟩ | ⟨hne, effects, hplain, heq⟩
  · rw [heq]
    exact endWatch_settles (h.weaken (fun _ h => h) fun _ h => h.1) hlasting hlies
  · rw [heq]
    exact doLater_settles (h.weaken (fun _ h => h) fun _ h => hne h.2) hid hplain

/-! ### Card after card -/

/-- All that waited on a card is run, and none of it is kept. -/
theorem keepers_settle {d : CardDefinition} {callbacks : List (EffectContext → Program)}
    (hhangs : ∀ callback ∈ callbacks, d.Hangs callback)
    (h : g.state.Midway (· = id) (d.Astray card))
    (hnil : callbacks = [] → g.state.Midway (· = id) noCard)
    (hid : id.seat < g.state.players.length) (hlasting : g.state.Lasting card)
    (hlies : g.state.Lies id card) :
    Ensures (keepers (fun callback => run (callback ⟨card, id⟩)) callbacks) g
      (fun kept g' => kept = [] ∧ g'.state.Midway (· = id) noCard ∧
        g.state.Settled id [] g'.state ∧
        Firing id (callbacks.map fun callback => (card, callback)) g g') fun _ _ => False := by
  induction callbacks generalizing g with
  | nil => exact ⟨rfl, hnil rfl, .refl id g.state, .done g⟩
  | cons first rest ih =>
    simp only [keepers, ensures_bind]
    refine (callback_settles h hid hlasting hlies (hhangs first List.mem_cons_self)).ran.imp ?_
    rintro keep g₁ ⟨⟨rfl, hmidway, hsettled⟩, hrun⟩
    have hid₁ := hsettled.keeps.seated hid
    refine (ih (fun t ht => hhangs t (List.mem_cons_of_mem _ ht))
      (hmidway.weaken (fun _ h => h) fun _ h => h.elim) (fun _ => hmidway) hid₁
      (hsettled.keeps.lasting hlasting) (hsettled.keeps.stays card hlasting hlies)).imp ?_
    rintro kept g₂ ⟨rfl, hmidway₂, hsettled₂, hfiring⟩
    exact ⟨rfl, hmidway₂, hsettled.trans hsettled₂, .run hrun hfiring⟩

/-- Runs the programs that wait on a card of the player. -/
def fireCard (provoke : Program → Engine M Bool) (id : PlayerId) (holder : CardId) :
    Engine M Unit := do
  let durations := (← Engine.card holder).durations
  modifyState (·.cleared holder)
  let kept ← keepers (fun callback => provoke (callback ⟨holder, id⟩)) durations
  let _ ← Engine.card holder
  modifyState (·.rehung holder kept)

theorem fireCard_settles (h : g.state.Midway (· = id) noCard) (hlies : g.state.Lies id card)
    (hpending : g.state.Pending card) :
    Ensures (fireCard run id card) g
      (fun _ g' => g'.state.Midway (· = id) noCard ∧ g.state.Settled id [card] g'.state ∧
        Firing id (g.state.dueOn card) g g') fun _ _ => False := by
  have hlasting := h.lasting hpending
  obtain ⟨d, hdef, -⟩ := h.lasting hpending
  obtain ⟨c, hc, -⟩ := Option.map_eq_some_iff.mp hdef
  have hdurations : g.state.durations card = c.durations := by
    rw [GameState.durations, hc]
    rfl
  have hid : id.seat < g.state.players.length := by
    obtain ⟨p, hp, -⟩ := hlies
    exact GameState.seat_lt_of_player? hp
  simp only [fireCard, ensures_bind, ensures_card, hc, ensures_modifyState]
  have hfirst : Firing id [] g ⟨g.state.cleared card, g.memory⟩ :=
    .hang card (fun c => { c with durations := [] }) (fun _ => rfl) (.done _)
  generalize hg₀ : (⟨g.state.cleared card, g.memory⟩ : Game M) = g₀ at hfirst ⊢
  have hclear : g.state.Settled id [card] g₀.state := hg₀ ▸ GameState.cleared_settled id g.state card
  have hmidway₀ : g₀.state.Midway (· = id) (d.Astray card) := hg₀ ▸ h.cleared hlies hdef
  have hlies₀ : g₀.state.Lies id card := hg₀ ▸ hlies
  have hid₀ : id.seat < g₀.state.players.length := hg₀ ▸ hid
  refine (keepers_settle (fun t ht => h.hung card d hdef t (hdurations ▸ ht)) hmidway₀ ?_ hid₀
    (hclear.keeps.lasting hlasting) hlies₀).imp ?_
  · intro hnil
    rw [GameState.Pending, hdurations] at hpending
    exact absurd hnil hpending
  rintro kept g₁ ⟨rfl, hmidway, hsettled, hfiring⟩
  have hafter := hclear.trans hsettled
  obtain ⟨c₁, hc₁, -⟩ := Option.map_eq_some_iff.mp ((hafter.keeps.definitions card).trans hdef)
  simp only [hc₁]
  obtain ⟨hmidway₂, hsettled₂⟩ := hmidway.rehung card
  have hlast : Firing id [] g₁ ⟨g₁.state.rehung card [], g₁.memory⟩ :=
    .hang card (fun c => { c with durations := [] ++ c.durations }) (fun _ => rfl) (.done _)
  have hall := (hfirst.trans hfiring).trans hlast
  rw [List.nil_append, List.append_nil, ← hdurations] at hall
  exact ⟨hmidway₂, hafter.trans hsettled₂, hall⟩

/-- What waits on some cards of the player is run, card after card. -/
theorem forM_settles {holders : List CardId} (hnodup : holders.Nodup)
    (h : g.state.Midway (· = id) noCard)
    (hholders : ∀ holder ∈ holders, g.state.Lies id holder ∧ g.state.Pending holder) :
    Ensures (holders.forM (fireCard run id)) g
      (fun _ g' => g'.state.Midway (· = id) noCard ∧ g.state.Settled id holders g'.state ∧
        Firing id (holders.flatMap g.state.dueOn) g g') fun _ _ => False := by
  induction holders generalizing g with
  | nil => exact ⟨h, .refl id g.state, .done g⟩
  | cons first rest ih =>
    obtain ⟨hlies, hpending⟩ := hholders first List.mem_cons_self
    obtain ⟨hnot, hrest⟩ := List.nodup_cons.mp hnodup
    change Ensures (fireCard run id first >>= fun _ => rest.forM (fireCard run id)) g _ _
    rw [ensures_bind]
    refine (fireCard_settles h hlies hpending).imp ?_
    rintro _ g₁ ⟨hmidway, hsettled, hfiring⟩
    -- what waits on the other cards has not changed
    have hsame : ∀ card ∈ rest, g₁.state.durations card = g.state.durations card := by
      intro card hcard
      apply GameState.durations_congr
      apply hsettled.card?_of_not_mem
      rw [List.mem_singleton]
      rintro rfl
      exact hnot hcard
    have hdue : rest.flatMap g₁.state.dueOn = rest.flatMap g.state.dueOn := by
      refine List.flatMap_congr fun card hcard => ?_
      rw [GameState.dueOn, hsame card hcard, GameState.dueOn]
    refine (ih hrest hmidway ?_).imp ?_
    · intro holder hholder
      obtain ⟨hlies', hpending'⟩ := hholders holder (List.mem_cons_of_mem _ hholder)
      refine ⟨hsettled.keeps.stays holder (h.lasting hpending') hlies', ?_⟩
      rw [GameState.Pending, hsame holder hholder]
      exact hpending'
    · rintro _ g₂ ⟨hmidway₂, hsettled₂, hfiring₂⟩
      rw [hdue] at hfiring₂
      exact ⟨hmidway₂, hsettled.trans hsettled₂, hfiring.trans hfiring₂⟩

end Engine

/-! ### The player's cards -/

theorem PlayerZones.flatMap_allCards {β : Type} {z : PlayerZones} {f : CardId → List β}
    (h : ∀ card ∈ z.elsewhere, f card = []) : z.allCards.flatMap f = z.table.flatMap f := by
  have hnil : ∀ cards : List CardId, cards ⊆ z.elsewhere → cards.flatMap f = [] :=
    fun cards hsub => List.flatMap_eq_nil_iff.mpr fun card hcard => h card (hsub hcard)
  have hhand := hnil z.hand (by intro c hc; exact mem_elsewhere.mpr (Or.inl hc))
  have hdeck := hnil z.deck (by intro c hc; exact mem_elsewhere.mpr (Or.inr (Or.inl hc)))
  have hdiscard := hnil z.discard
    (by intro c hc; exact mem_elsewhere.mpr (Or.inr (Or.inr (Or.inl hc))))
  have hmats := hnil (z.mats.flatMap (·.2)) (List.subset_append_right _ _)
  have heq : z.allCards =
      z.hand ++ z.deck ++ z.inPlay ++ z.discard ++ z.setAside ++ z.mats.flatMap (·.2) := by
    simp only [allCards, inOrder, List.flatMap_append, List.flatMap_cons, List.flatMap_nil,
      List.append_nil, List.flatMap_map, List.append_assoc]
  rw [heq, table]
  simp only [List.flatMap_append, hhand, hdeck, hdiscard, hmats, List.nil_append, List.append_nil]

namespace GameState

variable {s : GameState} {id : PlayerId} {busy : PlayerId → Prop} {excused : CardId → Prop}

/-- Whether something waits on the card. -/
theorem waiting_iff {card : CardId} :
    ((s.card? card).any fun c => !c.durations.isEmpty) = true ↔ s.Pending card := by
  rw [Pending, durations]
  cases s.card? card <;> simp

theorem Midway.elsewhere (h : s.Midway busy excused) {p : Player} (hp : p ∈ s.players)
    {card : CardId} (hcard : card ∈ p.zones.elsewhere) : ¬ s.Pending card := by
  intro hpending
  obtain ⟨other, hlies⟩ := h.onTable card hpending
  exact (h.seated.sound.apart hlies).1 p hp hcard

/-- The cards in front of the player on which something waits. -/
def holders (s : GameState) (p : Player) : List CardId :=
  p.zones.table.filter fun card => (s.card? card).any fun c => !c.durations.isEmpty

theorem mem_holders {p : Player} (hp : s.player? id = some p) {card : CardId} :
    card ∈ s.holders p ↔ s.Lies id card ∧ s.Pending card := by
  rw [holders, List.mem_filter, waiting_iff]
  refine and_congr_left fun _ => ⟨fun hmem => ⟨p, hp, hmem⟩, ?_⟩
  rintro ⟨q, hq, hmem⟩
  rw [hp] at hq
  obtain rfl := Option.some.inj hq
  exact hmem

theorem Sound.nodup_holders (hs : s.Sound) {p : Player} (hp : s.player? id = some p) :
    (s.holders p).Nodup :=
  (PlayerZones.nodup_table (hs.nodup_allCards hp)).filter _

/-- All that waits on the player's cards waits on cards in front of the player. -/
theorem Midway.due_eq (h : s.Midway busy excused) {p : Player} (hp : s.player? id = some p) :
    s.due id = (s.holders p).flatMap s.dueOn := by
  have hnone : ∀ card, ¬ s.Pending card → s.dueOn card = [] := by
    intro card hcard
    rw [dueOn, not_not.mp hcard, List.map_nil]
  simp only [due, hp]
  refine (PlayerZones.flatMap_allCards fun card hcard =>
    hnone card (h.elsewhere (player?_mem hp) hcard)).trans ?_
  unfold holders
  generalize p.zones.table = cards
  induction cards with
  | nil => rfl
  | cons first rest ih =>
    rw [List.flatMap_cons, ih, List.filter_cons]
    by_cases hwaiting : ((s.card? first).any fun c => !c.durations.isEmpty) = true
    · rw [if_pos hwaiting, List.flatMap_cons]
    · rw [if_neg hwaiting, hnone first (mt waiting_iff.mpr hwaiting), List.nil_append]

section Begun

variable {p : Player} (hp : s.player? id = some p)

include hp

theorem player?_begun : (s.begun id p).player? id =
    some (p.onTableau fun t => { t with turns := t.turns + 1 }) :=
  player?_setPlayer_self _ hp

theorem due_begun : (s.begun id p).due id = s.due id := by
  simp only [due, player?_begun hp, hp]
  rfl

theorem lies_begun {card : CardId} : (s.begun id p).Lies id card ↔ s.Lies id card := by
  simp only [Lies, player?_begun hp, hp, Option.some.injEq, exists_eq_left']
  rfl

/-- The table is still as it should be when the turn has begun. -/
theorem Midway.begun (h : s.Midway (· = id) noCard) : s.Underway id (s.begun id p) := by
  have hphase : s.Underway id
      { s with turn := s.turn + 1, phase := .action, turnStart := s.events.lastSeq } :=
    .of_and (h.aside rfl (fun _ => rfl) rfl rfl rfl)
  have hcounted := hphase.trans
    (.of_and (hphase.midway.recount (p := p) hp (f := fun t => { t with turns := t.turns + 1 })
      (fun _ => rfl) fun _ => rfl))
  exact hcounted.trans (.of_and (hcounted.midway.aside rfl (fun _ => rfl) rfl rfl rfl))

end Begun

end GameState

namespace Engine

variable {M : Type} [Controllers M] {id : PlayerId} {g : Game M}

theorem fireDurations_settles (h : g.state.Midway (· = id) noCard) {p : Player}
    (hp : g.state.player? id = some p) :
    Ensures (fireDurations run id) g
      (fun _ g' => g'.state.Midway (· = id) noCard ∧
        g.state.Settled id (g.state.holders p) g'.state ∧ Firing id (g.state.due id) g g')
      fun _ _ => False := by
  simp only [fireDurations, ensures_bind, ensures_player, hp, ensures_state]
  rw [h.due_eq hp]
  refine forM_settles (h.seated.sound.nodup_holders hp) h fun card hcard => ?_
  exact (GameState.mem_holders hp).mp hcard

omit [Controllers M] in
/-- No card of the catalog reacts to the start of a turn. -/
theorem ensures_fireReactions_startTurn {busy : PlayerId → Prop} {excused : CardId → Prop}
    (provoke : Program → Engine M Bool) (h : g.state.Midway busy excused) (id : PlayerId)
    {Q : Unit → Game M → Prop} {E : Halt → Game M → Prop} (hQ : Q () g) :
    Ensures (fireReactions provoke (.startTurn id)) g Q E := by
  obtain ⟨found, hfound, hall⟩ := h.seated.sound.candidates .startTurn
  have hnone : found = [] := by
    refine List.eq_nil_iff_forall_not_mem.mpr fun k hk => ?_
    obtain ⟨c, hc, hreaction⟩ := (hall k hk).card
    rw [Reactions.get?, Registry.onStartTurn_eq_none (h.registered _ c hc)] at hreaction
    exact absurd hreaction (by simp)
  simp only [fireReactions, ensures_bind, ensures_state, ReactionTrigger.kind, hfound,
    ensures_lift_ok, hnone]
  exact hQ

/-- At the start of a turn all that waits on the player's cards is run, and nothing waits on them
then. On the cards of the others waits what waited before. -/
theorem startTurn_settles (hid : g.state.activePlayer = id) (h : g.state.Midway (· = id) noCard)
    {p : Player} (hp : g.state.player? id = some p) :
    Ensures startTurn g
      (fun _ g' => g.state.Underway id g'.state ∧
        Firing id (g.state.due id) ⟨g.state.begun id p, g.memory⟩ g' ∧
        (∀ card, g'.state.Lies id card → ¬ g'.state.Pending card) ∧
        ∀ card, ¬ g.state.Lies id card → g'.state.card? card = g.state.card? card)
      fun _ _ => False := by
  have hbegun := h.begun hp
  have hp₁ := GameState.player?_begun hp
  have hp' : GameState.player? { g.state with
      turn := g.state.turn + 1, phase := .action, turnStart := g.state.events.lastSeq } id =
      some p := hp
  simp only [startTurn, ensures_bind, ensures_modifyState, ensures_modifyPlayer, ensures_publish]
  rw [Catalog.ensures_active, hid, hp', ← GameState.due_begun hp]
  change Ensures (fireDurations run id) ⟨g.state.begun id p, g.memory⟩ _ _
  generalize hg₁ : (⟨g.state.begun id p, g.memory⟩ : Game M) = g₁
  have hunderway : g.state.Underway id g₁.state := hg₁ ▸ hbegun
  rw [show g.state.begun id p = g₁.state by rw [← hg₁]] at hp₁ ⊢
  refine (fireDurations_settles hunderway.midway hp₁).imp ?_
  rintro _ g₂ ⟨hmidway, hsettled, hfiring⟩
  refine ensures_fireReactions_startTurn run hmidway id ?_
  refine ⟨hunderway.trans ⟨hmidway, hsettled.keeps⟩, hfiring, ?_, ?_⟩
  · intro card hlies
    by_cases hpending : g₁.state.Pending card
    · exact hsettled.not_pending ((GameState.mem_holders hp₁).mpr ⟨hsettled.table card hlies, hpending⟩)
    · rw [GameState.Pending, GameState.durations_congr]
      · exact hpending
      · exact hsettled.card?_of_not_mem fun hmem => hpending ((GameState.mem_holders hp₁).mp hmem).2
  · intro card hnot
    have hbefore : g₁.state.card? card = g.state.card? card := by
      rw [← hg₁]
      rfl
    refine (hsettled.card?_of_not_mem fun hmem => hnot ?_).trans hbefore
    have hlies := ((GameState.mem_holders hp₁).mp hmem).1
    rw [← hg₁] at hlies
    exact (GameState.lies_begun hp).mp hlies

end Engine

end DeckBuilder
