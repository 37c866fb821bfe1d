import DeckBuilder.Proofs.Firing
import DeckBuilder.Proofs.TurnParts

/-!
The end of a turn. Of the cards in play those are discarded on which nothing waits, and no hook of a
card lays anything else onto a table. So when the counters are cleared the player rests like all the
others, and a turn that comes to its end leaves the table as it was before: at rest.
-/
namespace DeckBuilder

/-! ### Laying down -/

namespace PlayerZones

theorem nodup_inPlay {z : PlayerZones} (h : z.allCards.Nodup) : z.inPlay.Nodup :=
  (List.nodup_flatMap.mp h).1 (.inPlay, z.inPlay) (by simp [inOrder])

theorem transfer_inPlay_discard {z : PlayerZones} {card : CardId} (h : card ∈ z.inPlay) :
    (z.transfer card .inPlay .discard .top).2 =
      { z with inPlay := z.inPlay.erase card, discard := z.discard ++ [card] } := by
  have hmem : (((z.update .inPlay id).get? .inPlay).getD []).contains card :=
    List.contains_iff_mem.mpr h
  unfold transfer
  dsimp only
  rw [if_pos hmem]
  rfl

theorem transfer_discard (z : PlayerZones) (card : CardId) :
    (z.transfer card .inPlay .discard .top).2.inPlay = z.inPlay.erase card ∧
      (z.transfer card .inPlay .discard .top).2.setAside = z.setAside := by
  by_cases hmem : card ∈ z.inPlay
  · rw [transfer_inPlay_discard hmem]
    exact ⟨rfl, rfl⟩
  · have hnot : ¬ (((z.update .inPlay id).get? .inPlay).getD []).contains card :=
      mt List.contains_iff_mem.mp hmem
    unfold transfer
    dsimp only
    rw [if_neg hnot]
    exact ⟨(List.erase_of_not_mem hmem).symm, rfl⟩

end PlayerZones

namespace Tableau

theorem layDown_inPlay (t : Tableau) (done : List CardId) :
    (t.layDown done).zones.inPlay = t.zones.inPlay.diff done ∧
      (t.layDown done).zones.setAside = t.zones.setAside := by
  unfold layDown
  dsimp only
  induction done generalizing t with
  | nil => exact ⟨rfl, rfl⟩
  | cons card rest ih =>
    obtain ⟨hplay, haside⟩ := ih (t.transfer card .inPlay .discard .top).2
    obtain ⟨hplay₁, haside₁⟩ := t.zones.transfer_discard card
    rw [List.foldl_cons, List.diff_cons]
    exact ⟨hplay.trans (congrArg (·.diff rest) hplay₁), haside.trans haside₁⟩

end Tableau

namespace GameState

variable {s s' : GameState} {id : PlayerId}

/-- All players rest. -/
def Rested (s : GameState) : Prop := s.Midway (fun _ => False) noCard

/-- If the busy player rests too, all do. -/
theorem Midway.rested (h : s.Midway (· = id) noCard)
    (hrest : ∀ p, s.player? id = some p → s.Resting p) : s.Rested := by
  refine ⟨h.seated, h.registered, h.ready, h.hung, h.onTable, ?_, fun _ _ _ h => h.elim⟩
  intro other p hp _
  by_cases hother : other = id
  · rw [hother] at hp
    exact hrest p hp
  · exact h.resting other p hp hother

/-- The player's turn is nearly over: on all the cards in play something waits. -/
structure Tidied (id : PlayerId) (s : GameState) : Prop where
  midway : s.Midway (· = id) noCard
  inPlay : ∀ p, s.player? id = some p → ∀ card ∈ p.inPlay, s.Pending card

theorem Tidied.allows (h : s.Tidied id) (hallows : (Licence.turn s (· = id)).Allows s s')
    (hseated : s'.Seated s'.players.length) : s'.Tidied id where
  midway := h.midway.allows hallows hseated
  inPlay p' hp' card hcard := by
    obtain ⟨p, hp, hplayer⟩ := hallows.player_before hp'
    exact hallows.pending (h.inPlay p hp card (hplayer.zones.inPlay hcard))

/-- Once the cards are laid down on which nothing waits, something waits on all in play. -/
theorem Midway.layDown (h : s.Midway (· = id) noCard) {p : Player} (hp : s.player? id = some p)
    {done : List CardId} (hdone : ∀ card ∈ p.inPlay, card ∈ done ↔ ¬ s.Pending card) :
    (s.setPlayer id (p.onTableau (·.layDown done))).Tidied id := by
  obtain ⟨hplay, haside⟩ := p.toTableau.layDown_inPlay done
  have hsound := h.seated.sound
  have hseated := Changes.seated (.single (Change.layDown hsound hp done)) h.seated
  rw [← length_players_setPlayer s id (p.onTableau (·.layDown done))] at hseated
  have hnodup := PlayerZones.nodup_inPlay (hsound.nodup_allCards hp)
  have hmem : ∀ card, card ∈ (p.toTableau.layDown done).zones.inPlay ↔
      card ∈ p.inPlay ∧ card ∉ done := by
    intro card
    rw [hplay]
    exact hnodup.mem_sdiff_iff
  have hready := h.ready.players p (player?_mem hp)
  constructor
  · refine h.rearrange hp rfl rfl hseated ⟨fun _ _ h => h, hready.gain, hready.play⟩ ?_
      (fun _ h => Or.inl h) ?_
    · intro card hcard hpending
      rcases List.mem_append.mp hcard with hcard | hcard
      · refine List.mem_append_left _ ((hmem card).mpr ⟨hcard, fun hdone' => ?_⟩)
        exact (hdone card hcard).mp hdone' hpending
      · exact List.mem_append_right _ (haside.symm ▸ hcard)
    · exact fun card hcard => Or.inr (haside ▸ hcard)
  · intro q hq card hcard
    rw [player?_setPlayer_self _ hp] at hq
    obtain rfl := Option.some.inj hq
    obtain ⟨hcard, hnot⟩ := (hmem card).mp hcard
    exact not_not.mp (mt (hdone card hcard).mpr hnot)

/-- With the counters cleared the player rests. -/
theorem Tidied.rested (h : s.Tidied id) {p : Player} (hp : s.player? id = some p) :
    (s.setPlayer id { toTableau := p.toTableau.resetCounters }).Rested := by
  have hchange : Change (Hooks.seated s.players.length) s
      (s.setPlayer id { toTableau := p.toTableau.resetCounters }) :=
    .arrange s id p _ hp rfl rfl (fun hm => ⟨hm, .refl _⟩) fun _ => ⟨by simp, by simp⟩
  have hseated := Changes.seated (.single hchange) h.midway.seated
  rw [← length_players_setPlayer s id { toTableau := p.toTableau.resetCounters }] at hseated
  have hcleared : (s.setPlayer id { toTableau := p.toTableau.resetCounters }).Midway (· = id)
      noCard := by
    refine h.midway.rearrange hp rfl rfl hseated ⟨fun _ _ h => h, by simp, by simp⟩ ?_
      (fun _ h => Or.inl h) ?_
    · exact fun _ hcard _ => hcard
    · exact fun _ hcard => Or.inr hcard
  refine hcleared.rested fun q hq => ?_
  rw [player?_setPlayer_self _ hp] at hq
  obtain rfl := Option.some.inj hq
  refine ⟨rfl, rfl, rfl, h.inPlay p hp, fun card hcard => ?_⟩
  exact (h.midway.setAside id p hp rfl card hcard).resolve_left not_false

/-- And the turn passes. -/
theorem Rested.pass (h : s.Rested) :
    ({ s with active := (s.active + 1) % s.players.length, costModifiers := [], phase := .action } :
      GameState).Rested :=
  Midway.congr h (Changes.seated (.single (.pass s)) h.seated) (fun _ => rfl) rfl rfl rfl

end GameState

namespace Engine

variable {M : Type} {id : PlayerId} {g : Game M}

/-- The cards in play that are done are those on which nothing waits. -/
theorem ensures_done {n : Nat} (hs : g.state.Seated n) {p : Player}
    (hp : g.state.player? id = some p) {Q : List CardId → Game M → Prop} {E : Halt → Game M → Prop}
    (hQ : ∀ done, (∀ card ∈ p.inPlay, card ∈ done ↔ ¬ g.state.Pending card) → Q done g) :
    Ensures (p.inPlay.filterM fun c => do return (← card c).cleansUp) g Q E := by
  have hcard : ∀ card ∈ p.inPlay, ∃ c, g.state.card? card = some c := fun card hcard =>
    hs.carded hp (PlayerZones.mem_allCards_of_mem_row (show card ∈ p.zones.row .inPlay from hcard))
  refine (ensures_filterM_eq (I := fun g' => g' = g)
    (f := fun c => (g.state.card? c).any Card.cleansUp) rfl ?_).imp ?_
  · rintro c hc _ rfl
    obtain ⟨k, hk⟩ := hcard c hc
    simp only [ensures_bind, ensures_card, hk]
    exact ⟨rfl, rfl⟩
  · rintro done _ ⟨rfl, hdone⟩
    refine hQ done fun card hmem => ?_
    obtain ⟨c, hc⟩ := hcard card hmem
    rw [hdone, List.mem_filter, GameState.Pending, GameState.durations, hc]
    simp [hmem, Card.cleansUp]

theorem Heeds.tidied {α : Type} {e : Engine M α} {Q R : α → Prop} (h : g.state.Tidied id)
    (he : Heeds (.turn g.state (· = id)) e Q) (hacts : Acts g.state.players.length e R) :
    Ensures e g (fun _ g' => g'.state.Tidied id) fun _ _ => True := by
  refine ((he g h.midway.ready_fixed).and (hacts.seated h.midway.seated)).mono ?_ fun _ _ _ => trivial
  rintro _ g' ⟨⟨hallows, -⟩, hseated⟩
  exact h.allows hallows hseated

/-- When the cards are laid down, a new hand is drawn, and the turn passes with all players at rest. -/
theorem newHand_rests (h : g.state.Midway (· = id) noCard) {p : Player}
    (hp : g.state.player? id = some p) {done : List CardId}
    (hdone : ∀ card ∈ p.inPlay, card ∈ done ↔ ¬ g.state.Pending card) :
    Ensures (do
      modifyPlayer id (·.onTableau (·.layDown done))
      publish id .cleanUp
      let _ ← draw id handSize
      modifyPlayer id fun p => { toTableau := p.toTableau.resetCounters }
      modifyState fun s =>
        { s with
          active := (s.active + 1) % s.players.length
          costModifiers := []
          phase := .action }) g (fun _ g' => g'.state.Rested) fun _ _ => True := by
  have hlaid := h.layDown hp hdone
  rw [ensures_bind, ensures_modifyPlayer, hp]
  dsimp only
  generalize hg₁ : (⟨GameState.setPlayer _ _ _, g.memory⟩ : Game M) = g₁
  have h₁ : g₁.state.Tidied id := hg₁ ▸ hlaid
  have hdraw : Ensures (do publish id .cleanUp; draw id handSize) g₁
      (fun _ g' => g'.state.Tidied id) fun _ _ => True := by
    refine Heeds.tidied h₁ ((Heeds.publish id rfl rfl).bind fun _ _ => draw_heeds id handSize)
      (Acts.bind (Q := fun _ => True) ?_ fun _ _ => draw_acts id handSize)
    exact Acts.of_steady fun _ hs _ hr => (reached_steady hs).publish hr id trivial
  rw [ensures_bind] at hdraw ⊢
  refine hdraw.imp fun _ _ hdrawn => ?_
  rw [ensures_bind]
  refine hdrawn.imp fun _ g₂ h₂ => ?_
  rw [ensures_bind, ensures_modifyPlayer]
  cases hp₂ : g₂.state.player? id with
  | none => exact trivial
  | some p₂ => exact (h₂.rested hp₂).pass

/-- At the end of the turn only the Treasury does anything, and it has no duration. -/
theorem onCleanUp_within (h : g.state.Midway (· = id) noCard) {card : CardId} {c : Card}
    (hc : g.state.card? card = some c) (hhook : c.definition.onCleanUp ≠ []) :
    Effect.WithinAll (.modest g.state.Fixed) ⟨card, id⟩ c.definition.onCleanUp := by
  have hdef := Registry.eq_treasury (h.registered card c hc) hhook
  refine (h.ready.cards card c hc).cleanUp g.state.Fixed ⟨card, id⟩ ?_
  rintro ⟨⟨d, hd, hduration⟩, -⟩
  rw [GameState.definition?, hc, Option.map_some, hdef] at hd
  rw [← Option.some.inj hd] at hduration
  exact absurd hduration (by decide)

variable [Controllers M]

theorem onCleanUp_underway (h : g.state.Midway (· = id) noCard)
    (hid : id.seat < g.state.players.length) {card : CardId} {c : Card}
    (hc : g.state.card? card = some c) (hhook : c.definition.onCleanUp ≠ []) :
    Ensures (executeAll run c.definition.onCleanUp ⟨card, id⟩) g
      (fun _ g' => g.state.Underway id g'.state) fun _ _ => True := by
  have hheeds : Heeds (.turn g.state (· = id))
      (executeAll run c.definition.onCleanUp ⟨card, id⟩ : Engine M Unit) fun _ => True :=
    executeAll_heeds (fun _ hp => (run_heeds hp).of_modest) (onCleanUp_within h hc hhook)
  have hacts := executeAll_acts (run_acts (M := M)) ⟨card, id⟩ (h.seated.rules card c hc).cleanUp hid
  exact (hheeds.underway h hacts).imp fun _ _ h' => h'.1

theorem cleanUpHooks_underway (h : g.state.Midway (· = id) noCard)
    (hid : id.seat < g.state.players.length) :
    Ensures (cleanUpHooks run id) g (fun _ g' => g.state.Underway id g'.state) fun _ _ => True := by
  obtain ⟨p, hp⟩ := GameState.player?_of_lt hid
  refine ensures_bind.mpr (ensures_player.mpr ?_)
  rw [hp]
  refine ensures_forM (I := fun g' => g.state.Underway id g'.state) h.underway ?_
  intro card _ g₁ h₁
  have hid₁ := h₁.keeps.seated hid
  obtain ⟨p₁, hp₁⟩ := GameState.player?_of_lt hid₁
  refine ensures_bind.mpr (ensures_definition.mpr ?_)
  cases hc : g₁.state.card? card with
  | none => exact trivial
  | some c =>
  refine ensures_bind.mpr (ensures_player.mpr ?_)
  rw [hp₁]
  refine ensures_ite.mpr ⟨fun hhook => ?_, fun _ => h₁⟩
  have hnonempty : c.definition.onCleanUp ≠ [] := by
    have hand := (Bool.and_eq_true_iff.mp hhook).1
    simpa using hand
  exact (onCleanUp_underway h₁.midway hid₁ hc hnonempty).imp fun _ _ h₂ => h₁.trans h₂

theorem cleanUp_rests (hid : g.state.activePlayer = id) (h : g.state.Midway (· = id) noCard) :
    Ensures cleanUp g (fun _ g' => g'.state.Rested) fun _ _ => True := by
  have hseat : id.seat < g.state.players.length := hid ▸ h.seated.sound.active
  rw [← cleanUpBy_run]
  refine ensures_bind.mpr (Catalog.ensures_active.mpr ?_)
  rw [hid]
  refine ensures_bind.mpr (ensures_modifyState.mpr ?_)
  generalize hg₁ : (⟨{ g.state with phase := .cleanUp }, g.memory⟩ : Game M) = g₁
  have h₁ : g.state.Underway id g₁.state := by
    rw [← hg₁]
    exact .of_and (h.aside rfl (fun _ => rfl) rfl rfl rfl)
  have hseat₁ := h₁.keeps.seated hseat
  refine ensures_bind.mpr ((cleanUpHooks_underway h₁.midway hseat₁).imp fun _ g₂ h₂ => ?_)
  have hseat₂ := h₂.keeps.seated hseat₁
  obtain ⟨p₂, hp₂⟩ := GameState.player?_of_lt hseat₂
  refine ensures_bind.mpr (ensures_player.mpr ?_)
  rw [hp₂]
  refine ensures_bind.mpr (ensures_done h₂.midway.seated hp₂ fun done hdone => ?_)
  exact newHand_rests h₂.midway hp₂ hdone

end Engine

end DeckBuilder
