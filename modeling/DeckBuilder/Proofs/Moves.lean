import DeckBuilder.Proofs.Steady

/-!
Operations that move cards. Each makes one change by itself and leaves the rest to what it provokes.
So a firm assertion holds at the end if it holds after that one change and every provoked program
keeps it. Where the card is not found there is only a warning.
-/
namespace DeckBuilder.Engine

variable {M : Type} {H : Hooks} {s₀ : GameState} {P : Game M → Prop} {E : Halt → Game M → Prop}
variable {provoke : Program → Engine M Bool} {g : Game M}

theorem ensures_executeAll {effects : List Effect} {ctx : EffectContext}
    (h : P g)
    (hprovoke : effects ≠ [] →
      Ensures (provoke (Effect.programAll ctx effects (.finish false))) g (fun _ => P) E) :
    Ensures (executeAll provoke effects ctx) g (fun _ => P) E := by
  rw [executeAll, ensures_ite]
  constructor
  · intro _
    exact h
  · intro hne
    rw [ensures_bind]
    exact hprovoke (by simpa using hne)

/-- A card among the player's zones. -/
theorem ensures_move (hP : Firm H s₀ P) {card : CardId} {id : PlayerId} {target : Zone}
    {position : Position} {p : Player} (h : P g) (hp : g.state.player? id = some p)
    (hmove : ∀ source, p.zones.locate card = some source →
      P ⟨g.state.setPlayer id
        { p with toTableau := (p.toTableau.transfer card source target position).2 }, g.memory⟩) :
    Ensures (move card id target position) g (fun _ => P) E := by
  rw [move, ensures_step, GameState.move]
  simp only [hp]
  have hm := (hP.soundAt h).mats p (GameState.player?_mem hp)
  cases hloc : p.zones.locate card with
  | none => exact hP.warn h _
  | some source =>
    have hmoved := hmove source hloc
    obtain ⟨hz, -⟩ := PlayerZones.mem_row_of_locate hm hloc
    dsimp only
    by_cases hdone : (p.toTableau.transfer card source target position).1 = true
    · rw [if_pos hdone]
      refine hP.publish hmoved id ?_
      intro htrash
      rw [htrash] at hz
      simp [PlayerZones.holds] at hz
    · rw [if_neg hdone]
      exact hP.warn hmoved _

/-- A card out of the trash. -/
theorem ensures_recover {card : CardId} {id : PlayerId} {p : Player} (h : P g)
    (hp : g.state.player? id = some p)
    (hrecover : card ∈ g.state.trash → ∀ name,
      P ⟨({ g.state.setPlayer id (p.onTableau (·.put card .hand .top)) with
        trash := g.state.trash.erase card } : GameState).publish id
          (.moveCard card name .trash .hand), g.memory⟩) :
    Ensures (recover card id) g (fun _ => P) E := by
  simp only [recover, ensures_bind, ensures_state]
  rw [ensures_ite]
  constructor
  · intro hcard
    simp only [ensures_bind, ensures_modifyPlayer, hp, ensures_modifyState, ensures_state,
      ensures_publish]
    exact hrecover (by simpa using hcard) _
  · intro _
    exact h

/-- The tableau after a card has come into play; a treasure has given its money. -/
def afterPlay (d : CardDefinition) (card : CardId) (t : Tableau) : Tableau :=
  let t := t.put card .inPlay .top
  if d.isTreasure then t.credit d.worth .money else t

theorem afterPlay_zones (d : CardDefinition) (card : CardId) (t : Tableau) :
    (afterPlay d card t).zones = t.zones.update .inPlay (·.insert card .top) := by
  unfold afterPlay
  by_cases ht : d.isTreasure = true <;> simp only [ht] <;> rfl

theorem ensures_play (hP : Firm H s₀ P) {card : CardId} {owner : PlayerId} {c : Card}
    {p : Player} (hc : g.state.card? card = some c) (hp : g.state.player? owner = some p)
    (hmissing : p.toTableau.remove? card = none → P g)
    (hplay : ∀ zone tableau, p.toTableau.remove? card = some (zone, tableau) →
      P ⟨g.state.setPlayer owner { p with toTableau := afterPlay c.definition card tableau },
        g.memory⟩)
    (hprovoke : ∀ t, H.play t → ∀ g', P g' →
      Ensures (provoke (t owner card)) g' (fun _ => P) E) :
    Ensures (play provoke card owner) g (fun _ => P) E := by
  simp only [play, ensures_bind, ensures_definition, hc, ensures_player, hp]
  cases hremove : p.toTableau.remove? card with
  | none => exact hP.warn (hmissing hremove) _
  | some taken =>
    obtain ⟨zone, tableau⟩ := taken
    have hplayed := hplay zone tableau hremove
    simp only [ensures_bind, ensures_modifyState, ensures_publish]
    have hpublished := hP.publish hplayed owner
      (show (EventKind.playCard card c.definition.name).Plain from trivial)
    refine ensures_firePlayTriggers hP hpublished ?_ hprovoke
    have hlt := GameState.seat_lt_of_player? hp
    simpa [GameState.publish] using hlt

theorem ensures_discard (hP : Firm H s₀ P) {card : CardId} {owner : PlayerId} {p : Player}
    (hp : g.state.player? owner = some p)
    (hmissing : p.toTableau.remove? card = none → P g)
    (hdiscard : ∀ zone tableau, p.toTableau.remove? card = some (zone, tableau) →
      P ⟨g.state.setPlayer owner { p with toTableau := tableau.put card .discard .top },
        g.memory⟩)
    (hprovoke : ∀ g₁, P g₁ → ∀ c : Candidate, Candidate.Of g₁.state .discard c →
      ∀ g' q, P g' → g'.state.player? c.owner = some q →
        q.zones.locate c.card = some c.reaction.zone →
        Ensures (provoke (c.reaction.effect ⟨c.card, c.owner, .discard owner card⟩)) g'
          (fun _ => P) E) :
    Ensures (discard provoke card owner) g (fun _ => P) E := by
  simp only [discard, ensures_bind, ensures_state, ensures_player, hp]
  cases hremove : p.toTableau.remove? card with
  | none => exact hP.warn (hmissing hremove) _
  | some taken =>
    obtain ⟨zone, tableau⟩ := taken
    have hdiscarded := hdiscard zone tableau hremove
    simp only [ensures_bind, ensures_modifyState, ensures_publish]
    have hpublished := hP.publish hdiscarded owner
      (show (EventKind.discardCard card (g.state.cardName card)).Plain from trivial)
    exact ensures_fireReactions hP _ hpublished fun c hc g' q h' hq hloc =>
      hprovoke _ hpublished c hc g' q h' hq hloc

theorem ensures_trash (hP : Firm H s₀ P) {card : CardId} {owner : PlayerId} {c : Card}
    {p : Player} (hc : g.state.card? card = some c) (hp : g.state.player? owner = some p)
    (hmissing : p.toTableau.remove? card = none → P g)
    (htrash : ∀ zone tableau, p.toTableau.remove? card = some (zone, tableau) →
      P ⟨({ g.state.setPlayer owner { p with toTableau := tableau } with
        trash := g.state.trash ++ [card] } : GameState).publish owner
          (.trashCard card c.definition.name), g.memory⟩)
    (hprovoke : c.definition.onTrash ≠ [] → ∀ g', P g' →
      Ensures (provoke (Effect.programAll ⟨card, owner⟩ c.definition.onTrash (.finish false))) g'
        (fun _ => P) E) :
    Ensures (trash provoke card owner) g (fun _ => P) E := by
  simp only [trash, ensures_bind, ensures_definition, hc, ensures_player, hp]
  cases hremove : p.toTableau.remove? card with
  | none => exact hP.warn (hmissing hremove) _
  | some taken =>
    obtain ⟨zone, tableau⟩ := taken
    have htrashed := htrash zone tableau hremove
    simp only [ensures_bind, ensures_modifyState, ensures_publish]
    exact ensures_executeAll htrashed fun hne => hprovoke hne _ htrashed

/-- A card from a pile: first its own hooks, then the triggers of the player, then the reactions. -/
theorem ensures_gain (hP : Firm H s₀ P) {pile : String} {owner : PlayerId} {bought : Bool}
    {destination : GainDestination} {q : Pile} {card : CardId} {c : Card} {p : Player}
    (hpile : g.state.supply.pile? pile = some q) (htop : q.top? = some card)
    (hc : g.state.card? card = some c) (hp : g.state.player? owner = some p)
    (hgain : P ⟨g.state.gained pile owner p card bought destination, g.memory⟩)
    (hhooks : c.definition.onGain ≠ [] → ∀ g', P g' →
      Ensures (provoke (Effect.programAll ⟨card, owner⟩ c.definition.onGain (.finish false))) g'
        (fun _ => P) E)
    (htriggers : ∀ t, H.gain t → ∀ g', P g' →
      Ensures (provoke (t ⟨owner, card, bought, destination⟩)) g' (fun _ => P) E)
    (hreactions : ∀ g₁, P g₁ → ∀ k : Candidate, Candidate.Of g₁.state .gain k →
      ∀ g' r, P g' → g'.state.player? k.owner = some r →
        r.zones.locate k.card = some k.reaction.zone →
        Ensures (provoke (k.reaction.effect
          ⟨k.card, k.owner, .gain ⟨owner, card, bought, destination⟩⟩)) g' (fun _ => P) E) :
    Ensures (gain provoke pile owner bought destination) g
      (fun a g' => P g' ∧ a = card) E := by
  simp only [gain, ensures_bind, ensures_state, hpile, htop, ensures_modifyState,
    ensures_modifyPlayer]
  have hp' : GameState.player? { g.state with
      supply := g.state.supply.updatePile pile Pile.pop } owner = some p := hp
  simp only [hp', ensures_publish]
  -- From here on `g₁` is the game just after the card has changed hands.
  generalize hg₁ : ({ state := GameState.publish _ _ _, memory := g.memory } : Game M) = g₁
  have hgain₁ : P g₁ := by
    rw [← hg₁]
    exact hgain
  have hc₁ : g₁.state.card? card = some c := by
    rw [← hg₁]
    exact hc
  have hseat : owner.seat < g₁.state.players.length := by
    have hlt := GameState.seat_lt_of_player? hp
    rw [← hg₁]
    simpa [GameState.publish] using hlt
  simp only [ensures_definition, hc₁]
  refine (ensures_executeAll hgain₁ fun hne => hhooks hne g₁ hgain₁).imp ?_
  intro _ g₂ hgain₂
  obtain ⟨p₂, hp₂⟩ := hP.seated hgain₁ hgain₂ hseat
  have hallow := (hP.allowAt hgain₂).players p₂ (GameState.player?_mem hp₂)
  simp only [ensures_player, hp₂]
  refine (ensures_forM hgain₂ ?_).imp ?_
  · intro t ht g' h'
    rw [ensures_bind]
    exact htriggers t (hallow.gain t ht) g' h'
  · intro _ g₃ hgain₃
    have hfire := ensures_fireReactions hP (.gain ⟨owner, card, bought, destination⟩)
      hgain₃ (hreactions g₃ hgain₃)
    exact hfire.imp fun _ g₄ hgain₄ => ⟨hgain₄, rfl⟩

end DeckBuilder.Engine
