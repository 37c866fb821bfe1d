import DeckBuilder.Proofs.Opening

/-!
Games with the cards of the catalog. Six of the cards do something at other times than when they are
played, and four hang a program on a card or a player for later. These programs have names here, and
a state is one of the catalog if nothing else hangs anywhere, if every card is one of the catalog, and
if it is sound. Every change keeps that.
-/
namespace DeckBuilder

namespace Catalog

open Script

/-- What the Royal Seal hangs on its player. -/
def sealGain (source : CardId) (info : GainInfo) : Program :=
  (offerTopdeck info.player info.card source).once

/-- What the Merchant hangs on its player. -/
def payForSilver (player : PlayerId) (card : CardId) : Program := keeping do
  if (← look).cardName card = "Silver" then
    credit player .money 1
    return false
  else return true

/-- What the Lighthouse hangs on itself. -/
def endWatch (ctx : EffectContext) : Program := once do
  credit ctx.player .money 1
  let _ ← move ctx.card ctx.player .inPlay

/-- What a card hangs on itself that does something more when the next turn starts. -/
def doLater (effects : List Effect) (ctx : EffectContext) : Program := (Effect.steps effects ctx).once

end Catalog

/-- Effects that only draw or count. -/
def Effect.Plain : Effect → Prop
  | .drawCards _ | .gainActions _ | .gainBuys _ | .gainMoney _ | .gainVictoryTokens _ => True
  | _ => False

/-- What cards of the catalog hang on cards and players. -/
def Hooks.catalog : Hooks where
  gain t := ∃ source, t = Catalog.sealGain source
  play t := t = Catalog.payForSilver
  duration t := t = Catalog.endWatch ∨ ∃ effects, (∀ e ∈ effects, e.Plain) ∧
    t = Catalog.doLater effects

namespace Registry

/-! ### What the cards do at other times than when they are played -/

theorem eq_of_filter {p : CardDefinition → Bool} {d only : CardDefinition}
    (h : allCards.filter p = [only]) (hd : d ∈ allCards) (hp : p d = true) : d = only := by
  have hmem : d ∈ allCards.filter p := List.mem_filter.mpr ⟨hd, hp⟩
  rw [h] at hmem
  exact List.mem_singleton.mp hmem

variable {d : CardDefinition}

theorem eq_borderVillage (hd : d ∈ allCards) (h : d.onGain ≠ []) : d = Catalog.borderVillage := by
  refine eq_of_filter (p := fun d => !d.onGain.isEmpty) rfl hd ?_
  simpa using h

theorem eq_fortress (hd : d ∈ allCards) (h : d.onTrash ≠ []) : d = Catalog.fortress := by
  refine eq_of_filter (p := fun d => !d.onTrash.isEmpty) rfl hd ?_
  simpa using h

theorem eq_treasury (hd : d ∈ allCards) (h : d.onCleanUp ≠ []) : d = Catalog.treasury := by
  refine eq_of_filter (p := fun d => !d.onCleanUp.isEmpty) rfl hd ?_
  simpa using h

theorem eq_watchtower (hd : d ∈ allCards) {r : Reaction} (h : d.reactions.onGain = some r) :
    d = Catalog.watchtower := by
  refine eq_of_filter (p := fun d => d.reactions.onGain.isSome) rfl hd ?_
  simp [h]

theorem eq_tunnel (hd : d ∈ allCards) {r : Reaction} (h : d.reactions.onDiscard = some r) :
    d = Catalog.tunnel := by
  refine eq_of_filter (p := fun d => d.reactions.onDiscard.isSome) rfl hd ?_
  simp [h]

/-- No card of the catalog reacts to the start of a turn. -/
theorem onStartTurn_eq_none (hd : d ∈ allCards) : d.reactions.onStartTurn = none := by
  by_contra h
  have hnone : allCards.filter (fun d => d.reactions.onStartTurn.isSome) = [] := rfl
  have hmem : d ∈ allCards.filter (fun d => d.reactions.onStartTurn.isSome) := by
    refine List.mem_filter.mpr ⟨hd, ?_⟩
    simpa [Option.isSome_iff_ne_none] using h
  rw [hnone] at hmem
  simp at hmem

end Registry

/-! ### States of the catalog -/

structure GameState.OfCatalog (s : GameState) : Prop where
  sound : s.Sound
  hooks : Hooks.catalog.Allow s
  registered : ∀ id c, s.card? id = some c → c.definition ∈ Registry.allCards
  names : (s.supply.piles.map Pile.name).Nodup

theorem Changes.ofCatalog {s s' : GameState} (h : Changes Hooks.catalog s s')
    (hs : s.OfCatalog) : s'.OfCatalog where
  sound := h.sound hs.sound
  hooks := h.allow hs.hooks
  registered := by
    intro id c hc
    obtain ⟨before, hbefore, hdef⟩ := h.kept.carded_before hc
    rw [← hdef]
    exact hs.registered id before hbefore
  names := by
    rw [h.kept.names]
    exact hs.names

/-- The opening state of a game with the catalog is one. -/
theorem GameState.Opened.ofCatalog {n : Nat} {s : GameState} (h : s.Opened Registry.catalog n) :
    s.OfCatalog :=
  ⟨h.sound, h.unhooked _, fun id c hc => Registry.mem_catalog (h.registered id c hc), h.names⟩

theorem find?_name {piles : List Pile} (h : (piles.map Pile.name).Nodup) {p : Pile}
    (hp : p ∈ piles) : piles.find? (·.name == p.name) = some p := by
  induction piles with
  | nil => simp at hp
  | cons q rest ih =>
    rw [List.map_cons, List.nodup_cons] at h
    rcases List.mem_cons.mp hp with rfl | hp
    · simp
    · have hne : q.name ≠ p.name := by
        intro heq
        exact h.1 (List.mem_map.mpr ⟨p, hp, heq.symm⟩)
      rw [List.find?_cons_of_neg (by simpa using hne)]
      exact ih h.2 hp

namespace GameState.OfCatalog

variable {s : GameState}

/-- Every pile has a name of its own, so it is the one found by its name. -/
theorem pile?_of_mem (hs : s.OfCatalog) {p : Pile} (hp : p ∈ s.supply.piles) :
    s.supply.pile? p.name = some p :=
  find?_name hs.names hp

/-- A pile with cards left has a top card, and that is a card of the game. -/
theorem top_of_count (hs : s.OfCatalog) {pile : String} (h : 0 < s.supply.count pile) :
    ∃ p card c, s.supply.pile? pile = some p ∧ p.top? = some card ∧ s.card? card = some c := by
  cases hpile : s.supply.pile? pile with
  | none => simp [Supply.count, hpile] at h
  | some p =>
    simp only [Supply.count, hpile, Option.map_some, Option.getD_some, Pile.size] at h
    have hne : p.cards ≠ [] := List.length_pos_iff.mp h
    have htop : p.top? = some (p.cards.getLast hne) := List.getLast?_eq_some_getLast hne
    have hmem : p.cards.getLast hne ∈ s.whereabouts := by
      simp only [whereabouts, List.mem_append, List.mem_flatMap]
      exact Or.inl (Or.inl ⟨p, List.mem_of_find?_eq_some hpile, List.getLast_mem hne⟩)
    obtain ⟨c, hc⟩ := contains_iff_card?.mp (hs.sound.contains_of_mem hmem)
    exact ⟨p, _, c, rfl, htop, hc⟩

/-- A card in a zone of a player is a card of the game. -/
theorem card_of_mem_row (hs : s.OfCatalog) {id : PlayerId} {p : Player}
    (hp : s.player? id = some p) {zone : Zone} {card : CardId} (hc : card ∈ p.zones.row zone) :
    ∃ c, s.card? card = some c := by
  have hmem := mem_whereabouts_of_player hp (PlayerZones.mem_allCards_of_mem_row hc)
  exact contains_iff_card?.mp (hs.sound.contains_of_mem hmem)

end GameState.OfCatalog

end DeckBuilder
