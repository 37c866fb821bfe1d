import DeckBuilder.Proofs.Attacks
import DeckBuilder.Proofs.Ledger
import DeckBuilder.Proofs.Pending
import DeckBuilder.Proofs.Provoked
import DeckBuilder.Proofs.SetUp

/-!
What a gain leaves alone. A card that does nothing of itself comes to the discard pile, and then cards
of its owner may put it onto the deck or into the trash; no other card goes anywhere, and no other card
is gained. So a gain in the middle of something else does not show in anybody's hand, in play, set aside
or on the mats.
-/
namespace DeckBuilder

/-! ### Gains in the log -/

def EventKind.isGain : EventKind → Bool
  | .gainCard .. => true
  | _ => false

theorem EventKind.Idle.isGain {kind : EventKind} (h : kind.Idle) : kind.isGain = false := by
  cases kind <;> first | rfl | exact h.elim

namespace GameState

/-- The gains that the log tells of, each with its player. -/
def gains (s : GameState) : List (PlayerId × EventKind) := s.told.filter fun e => e.2.isGain

theorem gains_publish (s : GameState) (id : PlayerId) (kind : EventKind) :
    (s.publish id kind).gains = s.gains ++ if kind.isGain then [(id, kind)] else [] := by
  rw [gains, told_publish, List.filter_append]
  cases h : kind.isGain <;> simp [gains, h]

theorem gains_publish_of_not {s : GameState} {kind : EventKind} (h : kind.isGain = false)
    (id : PlayerId) : (s.publish id kind).gains = s.gains := by
  rw [gains_publish, h, if_neg Bool.false_ne_true, List.append_nil]

end GameState

/-- Idle events tell of no gain. -/
theorem Idling.gains {events : List GameEvent} {s s' : GameState} (h : Idling events s s') :
    s'.gains = s.gains := by
  have hnone : (events.map fun e => (e.player, e.kind)).filter (fun e => e.2.isGain) = [] := by
    rw [List.filter_map, List.map_eq_nil_iff, List.filter_eq_nil_iff]
    intro e he
    rw [Function.comp_apply, (h.idle e he).isGain]
    exact Bool.false_ne_true
  have htold : s'.told = s.told ++ events.map fun e => (e.player, e.kind) := by
    rw [GameState.told, GameState.log, h.log, List.map_append]
    rfl
  rw [GameState.gains, htold, List.filter_append, hnone, List.append_nil]
  rfl

/-! ### Beside the decks and discard piles -/

/-- The zones of a player but for deck and discard pile. -/
def PlayerZones.aside (z : PlayerZones) : PlayerZones := { z with deck := [], discard := [] }

namespace PlayerZones

variable {z z' : PlayerZones} {zone : Zone} {card : CardId}

theorem row_aside (z : PlayerZones) (hdeck : zone ≠ .deck) (hdiscard : zone ≠ .discard) :
    z.aside.row zone = z.row zone := by
  cases zone with
  | deck => exact absurd rfl hdeck
  | discard => exact absurd rfl hdiscard
  | _ => rfl

theorem mem_allCards_of_aside (h : card ∈ z.aside.allCards) : card ∈ z.allCards := by
  simp only [allCards, inOrder, aside, List.flatMap_append, List.flatMap_cons, List.flatMap_nil,
    List.mem_append, List.append_nil, List.nil_append] at h ⊢
  rcases h with (h | h | h) | h
  · exact .inl (.inl h)
  · exact .inl (.inr (.inr (.inl h)))
  · exact .inl (.inr (.inr (.inr (.inr h))))
  · exact .inr h

/-- Who takes out a card that lies in the deck or in the discard pile leaves the rest alone. -/
theorem aside_remove? (hs : z.MatsSorted) (h : z.remove? card = some (zone, z'))
    (hcard : card ∉ z.aside.allCards) : z'.aside = z.aside := by
  obtain ⟨hloc, rfl⟩ := remove?_eq_some_iff.mp h
  by_cases hdeck : zone = .deck
  · rw [hdeck]
    rfl
  by_cases hdiscard : zone = .discard
  · rw [hdiscard]
    rfl
  have hmem := (mem_row_of_locate hs hloc).2
  rw [← row_aside z hdeck hdiscard] at hmem
  exact absurd (mem_allCards_of_mem_row hmem) hcard

theorem aside_transfer (z : PlayerZones) (card : CardId) (position : Position) :
    (z.transfer card .discard .deck position).2.aside = z.aside := by
  unfold transfer
  dsimp only
  split <;> rfl

end PlayerZones

namespace GameState

/-- What the player has but for deck and discard pile. -/
def aside? (s : GameState) (id : PlayerId) : Option PlayerZones :=
  (s.player? id).map (·.zones.aside)

theorem aside?_setPlayer {s : GameState} {id : PlayerId} {p : Player} (hp : s.player? id = some p)
    (p' : Player) (other : PlayerId) :
    (s.setPlayer id p').aside? other =
      if id = other then some p'.zones.aside else s.aside? other := by
  rw [aside?, player?_setPlayer (seat_lt_of_player? hp)]
  by_cases hid : id = other
  · rw [if_pos hid, if_pos hid]
    rfl
  · rw [if_neg hid, if_neg hid]
    rfl

theorem aside?_setPlayer_of_same {s : GameState} {id : PlayerId} {p p' : Player}
    (hp : s.player? id = some p) (h : p'.zones.aside = p.zones.aside) :
    (s.setPlayer id p').aside? = s.aside? := by
  funext other
  rw [aside?_setPlayer hp]
  by_cases hid : id = other
  · rw [if_pos hid, ← hid, aside?, hp, h]
    rfl
  · rw [if_neg hid]

end GameState

theorem Still.aside? {s s' : GameState} (h : Still s s') : s'.aside? = s.aside? := by
  funext id
  have hzones : ∀ t : GameState, t.aside? id =
      ((t.players.map (·.zones))[id.seat]?).map PlayerZones.aside := by
    intro t
    rw [List.getElem?_map, Option.map_map]
    rfl
  rw [hzones, hzones, h.zones]

/-- The game has gone on, and in the hands, in play, set aside and on the mats lies what lay there. -/
structure Beside (s s' : GameState) : Prop where
  changes : Changes Hooks.catalog s s'
  aside : s'.aside? = s.aside?

/-- Besides, nobody has gained anything. -/
structure Ungained (s s' : GameState) : Prop extends Beside s s' where
  supply : s'.supply = s.supply
  gains : s'.gains = s.gains

namespace Beside

variable {s s' s'' : GameState} {id : PlayerId} {p : Player}

theorem refl (s : GameState) : Beside s s := ⟨.refl, rfl⟩

theorem trans (h : Beside s s') (h' : Beside s' s'') : Beside s s'' :=
  ⟨h.changes.trans h'.changes, h'.aside.trans h.aside⟩

theorem kept (h : Beside s s') : Kept s s' := h.changes.kept

theorem of_still (h : Change Hooks.catalog s s') (hstill : Still s s') : Beside s s' :=
  ⟨.single h, hstill.aside?⟩

/-- What the player has aside is what it was. -/
theorem player? (h : Beside s s') (hp : s.player? id = some p) :
    ∃ p', s'.player? id = some p' ∧ p'.zones.aside = p.zones.aside := by
  have haside : s'.aside? id = some p.zones.aside := by
    rw [h.aside, GameState.aside?, hp]
    rfl
  exact Option.map_eq_some_iff.mp haside

/-- Something that goes on holding while no card goes anywhere but beside. -/
theorem firm {M : Type} (hs : s.OfCatalog) :
    Firm Hooks.catalog s fun g : Game M => Beside s g.state where
  sound := hs.sound
  allow := hs.hooks
  changes _ h := h.changes
  still _ _ h hchange hstill := h.trans (.of_still hchange hstill)

end Beside

/-- While nothing moves, nothing is gained. -/
theorem Change.gains {H : Hooks} {s s' : GameState} (h : Change H s s') (hstill : Still s s') :
    s'.gains = s.gains := by
  cases h with
  | think id rng notes =>
    obtain ⟨logger, heq⟩ := GameState.enterAll_eq { s with rng } id notes
    rw [heq]
    rfl
  | publish id kind hplain => exact GameState.gains_publish_of_not hplain.idle.isGain id
  | draw id p hp =>
    obtain ⟨events, hidling⟩ := s.drawOne_idling id hp
    exact hidling.gains
  | peek _ id n cards ht =>
    obtain ⟨events, hidling⟩ := GameState.topCards_idling ht
    exact hidling.gains
  | gain pile p card id owner bought destination hpile htop howner =>
    have hsize := size_updatePile hpile htop
    have hsame : (s.supply.updatePile pile Pile.pop).size = s.supply.size :=
      congrArg Supply.size hstill.supply
    omega
  | trash | recover | begin => exact GameState.gains_publish_of_not rfl _
  | _ => rfl

namespace Ungained

variable {s s' s'' : GameState}

theorem refl (s : GameState) : Ungained s s := ⟨.refl s, rfl, rfl⟩

theorem trans (h : Ungained s s') (h' : Ungained s' s'') : Ungained s s'' :=
  ⟨h.toBeside.trans h'.toBeside, h'.supply.trans h.supply, h'.gains.trans h.gains⟩

theorem of_still (h : Change Hooks.catalog s s') (hstill : Still s s') : Ungained s s' :=
  ⟨.of_still h hstill, hstill.supply, h.gains hstill⟩

theorem firm {M : Type} (hs : s.OfCatalog) :
    Firm Hooks.catalog s fun g : Game M => Ungained s g.state where
  sound := hs.sound
  allow := hs.hooks
  changes _ h := h.changes
  still _ _ h hchange hstill := h.trans (.of_still hchange hstill)

end Ungained

/-! ### What is done with a card that was gained -/

/-- Nobody has the card in hand, in play, set aside or on a mat. -/
def GameState.Stowed (s : GameState) (card : CardId) : Prop :=
  ∀ id z, s.aside? id = some z → card ∉ z.allCards

namespace GameState

variable {s s' : GameState} {id : PlayerId} {p : Player} {card : CardId}

theorem Stowed.beside (h : s.Stowed card) (h' : Beside s s') : s'.Stowed card := by
  intro id z hz
  rw [h'.aside] at hz
  exact h id z hz

theorem stowed_of_mem_pile (hs : s.Sound) {q : Pile} (hq : q ∈ s.supply.piles)
    (hcard : card ∈ q.cards) : s.Stowed card := by
  intro id z hz hmem
  obtain ⟨p, hp, rfl⟩ := Option.map_eq_some_iff.mp hz
  exact hs.notMem_pile hp (PlayerZones.mem_allCards_of_aside hmem) hq hcard

/-- What a gain to the discard pile does at once. -/
theorem gains_gained (s : GameState) (pile : String) (id : PlayerId) (p : Player) (card : CardId)
    (bought : Bool) (destination : GainDestination) :
    (s.gained pile id p card bought destination).gains =
      s.gains ++ [(id, .gainCard card pile bought destination)] :=
  gains_publish _ _ _

theorem beside_gained {pile : String} {q : Pile} (hpile : s.supply.pile? pile = some q)
    (htop : q.top? = some card) (hp : s.player? id = some p) (bought : Bool) :
    Beside s (s.gained pile id p card bought .discard) :=
  ⟨.single (.gain s pile q card id p bought .discard hpile htop hp),
    aside?_setPlayer_of_same (s := { s with supply := s.supply.updatePile pile Pile.pop }) hp rfl⟩

end GameState

namespace Catalog

open Engine Script.Leads

variable {M : Type} [Controllers M] {g : Game M} {E : Halt → Game M → Prop} {depth : Nat}
variable {id : PlayerId} {p : Player} {card : CardId} {c : Card}

theorem chooseBoolean_ungained {choice : BooleanChoice} (hid : id.seat < g.state.players.length) :
    Ensures (chooseBoolean id choice) g
      (fun _ g' => Ungained g.state g'.state ∧ Still g.state g'.state) E := by
  rw [chooseBoolean, ensures_ask hid]
  have hstill : Still g.state (asked g id (.boolean choice)).2.state := .think g.state id _ _
  exact ⟨.of_still (.think g.state id _ _) hstill, hstill⟩

omit [Controllers M] in
/-- A card goes from the discard pile onto the deck. -/
theorem move_ungained (hs : g.state.OfCatalog) (hp : g.state.player? id = some p)
    (hloc : p.zones.locate card = some .discard) :
    Ensures (move card id .deck .top) g (fun _ g' => Ungained g.state g'.state) E := by
  refine ensures_move (Ungained.firm hs) (.refl g.state) hp fun source hsource => ?_
  obtain rfl : source = .discard := Option.some.inj (hsource.symm.trans hloc)
  refine ⟨⟨.single (.arrange g.state id p _ hp rfl rfl ?_ ?_), ?_⟩, rfl, rfl⟩
  · intro hm
    refine ⟨hm.transfer card .discard .deck .top, ?_⟩
    rw [List.perm_iff_count]
    exact PlayerZones.count_transfer hm card rfl .deck .top
  · exact fun hallow => ⟨hallow.gain, hallow.play⟩
  · exact GameState.aside?_setPlayer_of_same hp (PlayerZones.aside_transfer _ _ _)

theorem offerTopdeck_ungained {provoke : Program → Engine M Bool} {source : CardId}
    (hs : g.state.OfCatalog) (hid : id.seat < g.state.players.length)
    (hc : g.state.card? card = some c) :
    (offerTopdeck id card source).Leads (perform provoke) g
      (fun _ g' => Ungained g.state g'.state) E := by
  obtain ⟨p, hp⟩ := GameState.player?_of_lt hid
  refine bind (tableau hp (ite (fun hloc => ?_) fun _ => pure (.refl g.state)))
  refine bind (face hc (callBind ((chooseBoolean_ungained hid).imp ?_)))
  rintro answer g₁ ⟨hg₁, hstill⟩
  refine ite (fun _ => ?_) fun _ => pure hg₁
  obtain ⟨p₁, hp₁, hzones⟩ := hstill.player? hp
  have hloc₁ : p₁.zones.locate card = some .discard := hzones ▸ hloc
  refine callBind ((move_ungained (hg₁.changes.ofCatalog hs) hp₁ hloc₁).imp ?_)
  intro _ g₂ hg₂
  exact pure (hg₁.trans hg₂)

omit [Controllers M] in
/-- A card that does nothing when it is trashed goes there from the deck or the discard pile. -/
theorem trash_ungained {provoke : Program → Engine M Bool} (hs : g.state.OfCatalog)
    (hp : g.state.player? id = some p) (hc : g.state.card? card = some c)
    (hplain : c.definition.onTrash = []) (hcard : g.state.Stowed card) :
    Ensures (trash provoke card id) g (fun _ g' => Ungained g.state g'.state) E := by
  refine ensures_trash (Ungained.firm hs) hc hp (fun _ => .refl g.state) ?_ fun hne => absurd hplain hne
  intro zone tableau hremove
  obtain ⟨zones, hzones, rfl⟩ := Tableau.remove?_eq_some hremove
  have hm := hs.sound.mats p (GameState.player?_mem hp)
  have haside : ({ p with zones } : Player).zones.aside = p.zones.aside :=
    PlayerZones.aside_remove? hm hzones (hcard id _ (by rw [GameState.aside?, hp]; rfl))
  refine ⟨⟨.single (.trash g.state id p card zone _ _ hp hremove), ?_⟩, rfl,
    GameState.gains_publish_of_not rfl id⟩
  exact GameState.aside?_setPlayer_of_same hp haside

/-- The Watchtower sees such a card being gained. -/
theorem watch_ungained {provoke : Program → Engine M Bool} {ctx : ReactionContext}
    {info : GainInfo} (hs : g.state.OfCatalog) (htrigger : ctx.trigger = .gain info)
    (hid : info.player.seat < g.state.players.length) (hc : g.state.card? info.card = some c)
    (hplain : c.definition.onTrash = []) (hcard : g.state.Stowed info.card) :
    (watch ctx).Leads (perform provoke) g (fun _ g' => Ungained g.state g'.state) E := by
  unfold watch
  rw [htrigger]
  refine ite (fun howner => ?_) fun _ => pure (.refl g.state)
  rw [← howner]
  refine bind (face hc (callBind ((chooseBoolean_ungained hid).imp ?_)))
  rintro answer g₁ ⟨hg₁, -⟩
  have hs₁ := hg₁.changes.ofCatalog hs
  have hid₁ := hg₁.kept.seated hid
  obtain ⟨c₁, hc₁, hdef⟩ := hg₁.kept.carded hc
  refine ite (fun _ => ?_) fun _ =>
    (offerTopdeck_ungained hs₁ hid₁ hc₁).imp fun _ _ hg₂ => hg₁.trans hg₂
  refine callBind ((ensures_reveal (Ungained.firm hs₁) (.refl g₁.state)).imp ?_)
  intro _ g₂ hg₂
  obtain ⟨p₂, hp₂⟩ := GameState.player?_of_lt (hg₂.kept.seated hid₁)
  obtain ⟨c₂, hc₂, hdef₂⟩ := hg₂.kept.carded hc₁
  have hplain₂ : c₂.definition.onTrash = [] := by rw [hdef₂, hdef, hplain]
  have hcard₂ := (hcard.beside hg₁.toBeside).beside hg₂.toBeside
  refine callBind ((trash_ungained (hg₂.changes.ofCatalog hs₁) hp₂ hc₂ hplain₂ hcard₂).imp ?_)
  intro _ g₃ hg₃
  exact pure ((hg₁.trans hg₂).trans hg₃)

/-- Definitions that do nothing when a card is gained or trashed. -/
structure Inert (d : CardDefinition) : Prop where
  onGain : d.onGain = []
  onTrash : d.onTrash = []

/-- A card that does nothing of itself is gained, and nothing else is; and this never fails but for want
of depth. -/
theorem gain_ungained {pile : String} {q : Pile} (hs : g.state.OfCatalog)
    (hpile : g.state.supply.pile? pile = some q) (htop : q.top? = some card)
    (hc : g.state.card? card = some c) (hinert : Inert c.definition)
    (hp : g.state.player? id = some p) (bought : Bool) (hE : depth = 0 → ∀ g', E .endless g') :
    Ensures (gain (runWithin depth) pile id bought .discard) g
      (fun a g' => Ungained (g.state.gained pile id p card bought .discard) g'.state ∧ a = card)
      E := by
  have hbeside := GameState.beside_gained hpile htop hp bought
  have hcard : (g.state.gained pile id p card bought .discard).Stowed card :=
    (GameState.stowed_of_mem_pile hs.sound (List.mem_of_find?_eq_some hpile)
      (List.mem_of_getLast? htop)).beside hbeside
  have hs₁ := hbeside.changes.ofCatalog hs
  have hid := hbeside.kept.seated (GameState.seat_lt_of_player? hp)
  obtain ⟨c₁, hc₁, hdef⟩ := hbeside.kept.carded hc
  have hplain : c₁.definition.onTrash = [] := by rw [hdef, hinert.onTrash]
  refine ensures_gain (Ungained.firm hs₁) hpile htop hc hp (.refl _)
    (fun hne => absurd hinert.onGain hne) ?_ ?_
  · rintro t ⟨source, rfl⟩ g' hg'
    cases depth with
    | zero => exact hE rfl g'
    | succ depth =>
      obtain ⟨c', hc', -⟩ := hg'.kept.carded hc₁
      have hoffer : (offerTopdeck id card source).Leads (perform (runWithin depth)) g'
          (fun _ g'' => Ungained g'.state g''.state) E :=
        offerTopdeck_ungained (hg'.changes.ofCatalog hs₁) (hg'.kept.seated hid) hc'
      exact once (hoffer.imp fun _ _ hg'' => hg'.trans hg'')
  · intro g₂ hg₂ k hk g' r hg' _ _
    cases depth with
    | zero => exact hE rfl g'
    | succ depth =>
      rw [reaction_gain (hg₂.changes.ofCatalog hs₁) hk]
      obtain ⟨c', hc', hdef'⟩ := hg'.kept.carded hc₁
      have hplain' : c'.definition.onTrash = [] := by rw [hdef', hplain]
      have hwatch : (watch ⟨k.card, k.owner, .gain ⟨id, card, bought, .discard⟩⟩).Leads
          (perform (runWithin depth)) g' (fun _ g'' => Ungained g'.state g''.state) E :=
        watch_ungained (hg'.changes.ofCatalog hs₁) rfl (hg'.kept.seated hid) hc' hplain'
          (hcard.beside hg'.toBeside)
      exact once (hwatch.imp fun _ _ hg'' => hg'.trans hg'')

end Catalog

/-! ### Piles of one kind -/

/-- A state of the catalog in which every pile holds cards of its own definition. -/
structure GameState.Filed (s : GameState) : Prop extends s.OfCatalog where
  piles : ∀ q ∈ s.supply.piles, ∀ card ∈ q.cards,
    ∃ c, s.card? card = some c ∧ c.definition = q.definition

namespace GameState.Filed

variable {s s' : GameState}

/-- What is left of a pile was in it before. -/
theorem changes {H : Hooks} (hs : s.Filed) (h : Changes H s s') (hs' : s'.OfCatalog) : s'.Filed where
  toOfCatalog := hs'
  piles := by
    obtain ⟨events, hbalance⟩ := h.balance hs.sound hs.names
    intro q' hq' card hcard
    obtain ⟨i, hi⟩ := List.mem_iff_getElem?.mp hq'
    have hdefinition : (s.supply.piles[i]?).map Pile.definition = some q'.definition := by
      rw [← List.getElem?_map, ← h.kept.piles, List.getElem?_map, hi]
      rfl
    obtain ⟨q, hq, heq⟩ := Option.map_eq_some_iff.mp hdefinition
    obtain ⟨_, hsame, hdrained⟩ := hbalance.piles i q hq
    obtain rfl := Option.some.inj (hi.symm.trans hsame)
    have hbefore : card ∈ q.cards := by
      rw [hdrained.cards]
      exact List.mem_append_left _ hcard
    obtain ⟨c, hc, hdef⟩ := hs.piles q (List.mem_of_getElem? hq) card hbefore
    obtain ⟨c', hc', hdef'⟩ := h.kept.carded hc
    exact ⟨c', hc', by rw [hdef', hdef, heq]⟩

theorem beside (hs : s.Filed) (h : Beside s s') : s'.Filed :=
  hs.changes h.changes (h.changes.ofCatalog hs.toOfCatalog)

/-- The top card of a pile is one of the catalog, and has the name of the pile. -/
theorem top (hs : s.Filed) {pile : String} {q : Pile} {card : CardId}
    (hpile : s.supply.pile? pile = some q) (htop : q.top? = some card) :
    ∃ c, s.card? card = some c ∧ c.definition ∈ Registry.allCards ∧ c.definition.name = pile := by
  obtain ⟨c, hc, hdef⟩ :=
    hs.piles q (List.mem_of_find?_eq_some hpile) card (List.mem_of_getLast? htop)
  refine ⟨c, hc, hs.registered card c hc, ?_⟩
  have hname := List.find?_some hpile
  rw [hdef]
  exact beq_iff_eq.mp hname

end GameState.Filed

theorem Game.Reachable.filed {M : Type} [Controllers M] {config : GameConfig} {s₀ : GameState}
    {g : Game M} (hinit : initGame Registry.catalog config = .ok s₀) (hg : g.Reachable s₀) :
    g.state.Filed := by
  have hcatalog := (initGame_opened hinit).ofCatalog
  obtain ⟨kingdom, -, hsetUp⟩ := Setup.setUp_of_initGame hinit
  have hfiled : s₀.Filed := ⟨hcatalog, hsetUp.piles⟩
  exact hfiled.changes (hg.changes hcatalog) (hg.ofCatalog hcatalog).1

namespace Catalog

open Engine

variable {M : Type} [Controllers M] {g : Game M} {E : Halt → Game M → Prop}

/-- Cards of some names do nothing when they are gained or trashed; one of them is gained, unless the
pile is empty. -/
theorem gainIfAvailable_ungained {id : PlayerId} {p : Player} {pile : String}
    (hs : g.state.Filed) (hp : g.state.player? id = some p)
    (hinert : ∀ d ∈ Registry.allCards, d.name = pile → Inert d) {depth : Nat}
    (hE : depth = 0 → ∀ g', E .endless g') :
    Ensures (gainIfAvailable (runWithin depth) pile id .discard) g
      (fun _ g' => g.state.supply.count pile = 0 ∧ Ungained g.state g'.state ∨
        ∃ q card, g.state.supply.pile? pile = some q ∧ q.top? = some card ∧
          Ungained (g.state.gained pile id p card false .discard) g'.state) E := by
  simp only [gainIfAvailable, ensures_bind, ensures_state]
  rw [ensures_ite]
  constructor
  · intro hempty
    exact .inl ⟨hempty, (Ungained.firm hs.toOfCatalog).verbose (.refl g.state) _⟩
  · intro hcount
    rw [ensures_bind]
    obtain ⟨q, card, c, hpile, htop, hc⟩ := hs.top_of_count (Nat.pos_of_ne_zero hcount)
    obtain ⟨_, hc', hmem, hname⟩ := hs.top hpile htop
    obtain rfl := Option.some.inj (hc.symm.trans hc')
    refine (gain_ungained hs.toOfCatalog hpile htop hc (hinert _ hmem hname) hp false hE).imp ?_
    intro _ g' h
    exact .inr ⟨q, card, hpile, htop, h.1⟩

end Catalog

/-! ### Attacks -/

namespace GameState

variable {s s' : GameState} {target : PlayerId} {card attack : CardId}

theorem grants_of_kept (h : Kept s s') : s'.grants = s.grants := by
  have hface : ∀ (t : GameState) card,
      t.face? card = ((t.card? card).map (·.definition)).map CardDefinition.toCardFace := by
    intro t card
    rw [Option.map_map]
    rfl
  funext kind card
  rw [grants, grants, hface, hface, h.definitions]

/-- Whether a player is immune can be seen from the hand and the cards set aside. -/
theorem immune_iff_aside? :
    s.Immune target ↔ ∃ z, s.aside? target = some z ∧
      (z.hand.any (s.grants .revealFromHand) ∨ z.setAside.any (s.grants .whileSetAside)) := by
  constructor
  · rintro ⟨p, hp, himmune⟩
    exact ⟨p.zones.aside, by rw [aside?, hp]; rfl, himmune⟩
  · rintro ⟨z, hz, himmune⟩
    obtain ⟨p, hp, rfl⟩ := Option.map_eq_some_iff.mp hz
    exact ⟨p, hp, himmune⟩

theorem immune_congr (h : Kept s s') (haside : s'.aside? target = s.aside? target) :
    s'.Immune target ↔ s.Immune target := by
  rw [immune_iff_aside?, immune_iff_aside?, haside, grants_of_kept h]

theorem fendedOff_ungained (s : GameState) (target : PlayerId) (card attack : CardId) :
    Ungained s (s.fendedOff target card attack) := by
  have hshown : Ungained s (s.publish target (.revealCards [card] [s.cardName card])) :=
    .of_still (.publish s target _ trivial) ⟨rfl, rfl, rfl⟩
  exact hshown.trans (.of_still (.publish _ target _ trivial) ⟨rfl, rfl, rfl⟩)

theorem sheltered_ungained (s : GameState) (target : PlayerId) (attack : CardId) :
    Ungained s (s.sheltered target attack) :=
  .of_still (.remark s ⟨.verbose, _, none⟩ (by simp)) ⟨rfl, rfl, rfl⟩

end GameState

namespace Engine

section

variable {M : Type} {g g' : Game M} {attack : CardId} {strike : PlayerId → Engine M Unit}
variable {target : PlayerId}

/-- Who is immune is passed by, and nothing but the log tells of it. -/
theorem Attacked.ungained (h : Attacked attack strike target g g') (himmune : g.state.Immune target) :
    Ungained g.state g'.state := by
  cases h with
  | shown hp hcard => exact GameState.fendedOff_ungained _ _ _ _
  | shielded hp hhand haside => exact GameState.sheltered_ungained _ _ _
  | struck hp hopen h => exact absurd himmune hopen

/-- Who is not immune is struck. -/
theorem Attacked.runOn_strike (h : Attacked attack strike target g g')
    (hopen : ¬ g.state.Immune target) : (strike target).runOn g = (.ok (), g') := by
  cases h with
  | @shown p card hp hcard =>
    have hgrants := List.find?_some hcard
    exact absurd ⟨p, hp, .inl (List.any_eq_true.mpr ⟨card, List.mem_of_find?_eq_some hcard, hgrants⟩)⟩
      hopen
  | shielded hp hhand haside => exact absurd ⟨_, hp, .inr haside⟩ hopen
  | struck hp _ h => exact h

end

variable {M : Type} [Controllers M] {g : Game M} {provoke : Program → Engine M Bool} {depth : Nat}

/-- A card does one thing after the other. -/
theorem ProvokesAt.resolve (h : ProvokesAt depth g provoke) {card : CardId} {c : Card}
    (hc : g.state.card? card = some c) (id : PlayerId) :
    (resolve provoke card id).runOn g =
      (c.definition.onPlay.forM fun e => executeWithin depth e ⟨card, id⟩ : Engine M Unit).runOn g := by
  rw [Engine.resolve, runOn_bind_of_ok (runOn_definition hc), ← executeAll_runWithin]
  cases c.definition.onPlay with
  | nil => rfl
  | cons e rest =>
    change (provoke (Effect.programAll ⟨card, id⟩ (e :: rest) (.finish false)) >>= fun _ =>
      Pure.pure ()).runOn g = (runWithin depth (Effect.programAll ⟨card, id⟩ (e :: rest)
        (.finish false)) >>= fun _ => Pure.pure ()).runOn g
    rw [runOn_bind, runOn_bind, h _ g (.refl g.state)]

/-- So is a single effect. -/
theorem ProvokesAt.execute {g' : Game M} (h : ProvokesAt depth g provoke)
    (hkept : Kept g.state g'.state) (effect : Effect) (ctx : EffectContext) :
    (executeAll provoke [effect] ctx).runOn g' = (executeWithin depth effect ctx).runOn g' := by
  change (provoke (effect.program ctx (.finish false)) >>= fun _ => Pure.pure ()).runOn g' = _
  rw [executeWithin, runOn_bind, runOn_bind, h _ g' hkept]

end Engine

end DeckBuilder
