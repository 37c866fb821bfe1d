import DeckBuilder.Proofs.Change
import DeckBuilder.Proofs.Outcome

/-!
Operations that move nothing but what is drawn, and the loops that run triggers, reactions and
programs that waited. An assertion about games is firm if it goes on holding while nothing moves, and
steady if it does so while cards are drawn, too. An operation that moves nothing keeps every firm
assertion, and so does such a loop if every program it runs does; the loops themselves never fail,
since the cards and players they look up are there.
-/
namespace DeckBuilder

/-- Nothing lies elsewhere than before. -/
structure Still (s s' : GameState) : Prop where
  supply : s'.supply = s.supply
  trash : s'.trash = s.trash
  zones : s'.players.map (·.zones) = s.players.map (·.zones)

namespace Still

theorem refl (s : GameState) : Still s s := ⟨rfl, rfl, rfl⟩

theorem trans {s s' s'' : GameState} (h : Still s s') (h' : Still s' s'') : Still s s'' :=
  ⟨h'.supply.trans h.supply, h'.trash.trans h.trash, h'.zones.trans h.zones⟩

theorem symm {s s' : GameState} (h : Still s s') : Still s' s :=
  ⟨h.supply.symm, h.trash.symm, h.zones.symm⟩

/-- Controllers move nothing while they think. -/
theorem think (s : GameState) (id : PlayerId) (rng : Generator) (notes : Array Note) :
    Still s ({ s with rng }.enterAll id notes) := by
  obtain ⟨logger, heq⟩ := GameState.enterAll_eq { s with rng } id notes
  rw [heq]
  exact ⟨rfl, rfl, rfl⟩

theorem player? {s s' : GameState} (h : Still s s') {id : PlayerId} {p : Player}
    (hp : s.player? id = some p) : ∃ p', s'.player? id = some p' ∧ p'.zones = p.zones := by
  have hzones : (s.players.map (·.zones))[id.seat]? = some p.zones := by
    rw [List.getElem?_map, show s.players[id.seat]? = some p from hp]
    rfl
  rw [← h.zones, List.getElem?_map] at hzones
  exact Option.map_eq_some_iff.mp hzones

theorem weigh {s s' : GameState} (h : Still s s') (w : Scale) : s'.weigh w = s.weigh w := by
  have hsum : ∀ t : GameState, (t.players.map fun p => p.zones.weigh w.zone) =
      (t.players.map (·.zones)).map (·.weigh w.zone) := fun t => by
    rw [List.map_map]
    rfl
  simp only [GameState.weigh, h.supply, h.trash, hsum, h.zones]

theorem setPlayer {s : GameState} {id : PlayerId} {p p' : Player} (hp : s.player? id = some p)
    (hz : p'.zones = p.zones) : Still s (s.setPlayer id p') where
  supply := rfl
  trash := rfl
  zones := by
    apply List.ext_getElem?
    intro i
    simp only [GameState.setPlayer, List.map_set, List.getElem?_set, List.getElem?_map]
    by_cases hi : id.seat = i
    · subst hi
      have hp' : s.players[id.seat]? = some p := hp
      have hlt : id.seat < s.players.length := GameState.seat_lt_of_player? hp
      simp only [if_true, List.length_map, hlt, hp', Option.map_some, hz]
    · simp [hi]

end Still

/-- An assertion about games that come from the state `s₀`, which goes on holding as long as nothing
moves. -/
structure Firm {M : Type} (H : Hooks) (s₀ : GameState) (P : Game M → Prop) : Prop where
  sound : s₀.Sound
  allow : H.Allow s₀
  changes : ∀ g, P g → Changes H s₀ g.state
  still : ∀ g s', P g → Change H g.state s' → Still g.state s' → P { g with state := s' }

/-- A firm assertion that goes on holding as long as cards are drawn and nothing else moves. -/
structure Steady {M : Type} (H : Hooks) (s₀ : GameState) (P : Game M → Prop) : Prop
    extends Firm H s₀ P where
  draw : ∀ g id p, P g → g.state.player? id = some p →
    P { g with state := (g.state.drawOne id p).2 }
  peek : ∀ g id n cards s', P g → g.state.topCards id n = .ok (cards, s') →
    P { g with state := s' }

namespace Firm

variable {M : Type} {H : Hooks} {s₀ : GameState} {P : Game M → Prop} {g : Game M}

theorem soundAt (hP : Firm H s₀ P) (h : P g) : g.state.Sound := (hP.changes g h).sound hP.sound

theorem allowAt (hP : Firm H s₀ P) (h : P g) : H.Allow g.state := (hP.changes g h).allow hP.allow

theorem keptAt (hP : Firm H s₀ P) (h : P g) : Kept s₀ g.state := (hP.changes g h).kept

/-- A seat that is taken at one moment is taken at every other. -/
theorem seated (hP : Firm H s₀ P) {g' : Game M} (h : P g) (h' : P g') {id : PlayerId}
    (hid : id.seat < g.state.players.length) : ∃ p, g'.state.player? id = some p := by
  apply GameState.player?_of_lt
  rw [(hP.keptAt h').seats, ← (hP.keptAt h).seats]
  exact hid

/-- A card keeps its definition from one moment to every other. -/
theorem carded (hP : Firm H s₀ P) {g' : Game M} (h : P g) (h' : P g') {id : CardId} {c : Card}
    (hc : g.state.card? id = some c) :
    ∃ c', g'.state.card? id = some c' ∧ c'.definition = c.definition := by
  have hdef := ((hP.keptAt h').definitions id).trans ((hP.keptAt h).definitions id).symm
  rw [hc] at hdef
  simpa using hdef

theorem publish (hP : Firm H s₀ P) (h : P g) (id : PlayerId) {kind : EventKind}
    (hk : kind.Plain) : P { g with state := g.state.publish id kind } :=
  hP.still g _ h (.publish g.state id kind hk) ⟨rfl, rfl, rfl⟩

theorem warn (hP : Firm H s₀ P) (h : P g) (message : String) :
    P { g with state := g.state.warn message } :=
  hP.still g _ h (.remark g.state ⟨.minimal, "warning: " ++ message, some .warning⟩ (by simp))
    ⟨rfl, rfl, rfl⟩

theorem verbose (hP : Firm H s₀ P) (h : P g) (message : String) :
    P { g with state := g.state.onLogger (·.verbose message) } :=
  hP.still g _ h (.remark g.state ⟨.verbose, message, none⟩ (by simp)) ⟨rfl, rfl, rfl⟩

/-- Counters and triggers may change. -/
theorem adjust (hP : Firm H s₀ P) (h : P g) {id : PlayerId} {p p' : Player}
    (hp : g.state.player? id = some p) (hid : p'.id = p.id) (hturns : p'.turns = p.turns)
    (hz : p'.zones = p.zones) (hhooks : H.AllowPlayer p → H.AllowPlayer p') :
    P { g with state := g.state.setPlayer id p' } := by
  refine hP.still g _ h (.arrange g.state id p p' hp hid hturns ?_ hhooks) (Still.setPlayer hp hz)
  intro hm
  rw [hz]
  refine ⟨hm, ?_⟩
  rw [Tableau.allCards, Tableau.allCards, hz]

theorem hang (hP : Firm H s₀ P) (h : P g) (card : CardId) {f : Card → Card}
    (hf : ∀ c, (f c).definition = c.definition)
    (hhooks : ∀ c, g.state.card? card = some c → H.AllowCard c → H.AllowCard (f c)) :
    P { g with state := { g.state with cards := g.state.cards.modify card f } } :=
  hP.still g _ h (.hang g.state card f hf hhooks) ⟨rfl, rfl, rfl⟩

theorem reprice (hP : Firm H s₀ P) (h : P g) (modifiers : List (CardFace → Int)) :
    P { g with state := { g.state with costModifiers := modifiers } } :=
  hP.still g _ h (.reprice g.state modifiers) ⟨rfl, rfl, rfl⟩

end Firm

/-! ### Who may react -/

/-- A card with a reaction of the kind, and its owner at the table. -/
structure Candidate.Of (s : GameState) (kind : ReactionKind) (c : Candidate) : Prop where
  card : ∃ k, s.card? c.card = some k ∧ k.definition.reactions.get? kind = some c.reaction
  owner : c.owner.seat < s.players.length

theorem bind_ok {ε α β : Type} {e : Except ε α} {f : α → Except ε β} {R : α → Prop} {S : β → Prop}
    (he : ∃ a, e = .ok a ∧ R a) (hf : ∀ a, R a → ∃ b, f a = .ok b ∧ S b) :
    ∃ b, (e >>= f) = .ok b ∧ S b := by
  obtain ⟨a, rfl, hR⟩ := he
  exact hf a hR

theorem mapM_ok {ε α β : Type} {f : α → Except ε β} {R : β → Prop} {xs : List α}
    (h : ∀ x ∈ xs, ∃ y, f x = .ok y ∧ R y) : ∃ ys, xs.mapM f = .ok ys ∧ ∀ y ∈ ys, R y := by
  induction xs with
  | nil => exact ⟨[], rfl, by simp⟩
  | cons x rest ih =>
    obtain ⟨y, hy, hR⟩ := h x List.mem_cons_self
    obtain ⟨ys, hys, hall⟩ := ih fun x hx => h x (List.mem_cons_of_mem _ hx)
    refine ⟨y :: ys, ?_, ?_⟩
    · rw [List.mapM_cons, hy, hys]
      rfl
    · intro z hz
      rcases List.mem_cons.mp hz with rfl | hz
      · exact hR
      · exact hall z hz

theorem filterMapM_ok {ε α β : Type} {f : α → Except ε (Option β)} {R : β → Prop} {xs : List α}
    (h : ∀ x ∈ xs, ∃ o, f x = .ok o ∧ ∀ y ∈ o, R y) :
    ∃ ys, xs.filterMapM f = .ok ys ∧ ∀ y ∈ ys, R y := by
  induction xs with
  | nil => exact ⟨[], rfl, by simp⟩
  | cons x rest ih =>
    obtain ⟨o, ho, hR⟩ := h x List.mem_cons_self
    obtain ⟨ys, hys, hall⟩ := ih fun x hx => h x (List.mem_cons_of_mem _ hx)
    rw [List.filterMapM_cons, ho]
    cases o with
    | none => exact ⟨ys, hys, hall⟩
    | some y =>
      refine ⟨y :: ys, ?_, ?_⟩
      · change (do return y :: (← rest.filterMapM f)) = _
        rw [hys]
        rfl
      · intro z hz
        rcases List.mem_cons.mp hz with rfl | hz
        · exact hR z rfl
        · exact hall z hz

/-- In a sound state the search finds no card that is not in the store. -/
theorem GameState.Sound.candidates {s : GameState} (h : s.Sound) (kind : ReactionKind) :
    ∃ found, s.candidates kind = .ok found ∧ ∀ c ∈ found, Candidate.Of s kind c := by
  have hsearch : ∀ p ∈ s.players, ∀ zone cards, (zone, cards) ∈ p.zones.inOrder → ∀ id ∈ cards,
      ∃ k, s.card? id = some k := by
    intro p hp zone cards hz id hid
    rw [← GameState.contains_iff_card?]
    apply h.contains_of_mem
    simp only [GameState.whereabouts, List.mem_append, List.mem_flatMap]
    refine Or.inr ⟨p, hp, ?_⟩
    rw [Tableau.allCards, PlayerZones.allCards, List.mem_flatMap]
    exact ⟨_, hz, hid⟩
  have hseat : ∀ p ∈ s.players, p.id.seat < s.players.length := by
    intro p hp
    obtain ⟨i, hi⟩ := List.mem_iff_getElem?.mp hp
    have hid := h.seats ⟨i⟩ p hi
    rw [hid]
    exact (List.getElem?_eq_some_iff.mp hi).1
  unfold GameState.candidates
  refine bind_ok (R := fun found : List (List (List Candidate)) =>
    ∀ rows ∈ found, ∀ row ∈ rows, ∀ c ∈ row, Candidate.Of s kind c) ?_ ?_
  case refine_2 =>
    intro found hall
    refine ⟨_, rfl, ?_⟩
    intro c hc
    obtain ⟨row, hrow, hc⟩ := List.mem_flatten.mp hc
    obtain ⟨rows, hrows, hrow⟩ := List.mem_flatten.mp hrow
    exact hall rows hrows row hrow c hc
  refine mapM_ok fun p hp => ?_
  refine mapM_ok ?_
  rintro ⟨zone, cards⟩ hz
  refine filterMapM_ok fun id hid => ?_
  obtain ⟨k, hk⟩ := hsearch p hp zone cards hz id hid
  simp only [hk]
  cases hr : k.definition.reactions.get? kind with
  | none => exact ⟨none, rfl, by simp⟩
  | some reaction =>
    refine ⟨_, rfl, ?_⟩
    intro c hc
    by_cases hzone : reaction.zone = zone
    · rw [if_pos hzone, Option.mem_some_iff] at hc
      subst hc
      exact ⟨⟨k, hk, hr⟩, hseat p hp⟩
    · rw [if_neg hzone] at hc
      simp at hc

/-! ### The loops -/

namespace Engine

variable {M : Type} {H : Hooks} {s₀ : GameState} {P : Game M → Prop} {E : Halt → Game M → Prop}
variable {provoke : Program → Engine M Bool} {g : Game M}

theorem ensures_fireReactions (hP : Firm H s₀ P) (trigger : ReactionTrigger) (h : P g)
    (hprovoke : ∀ c : Candidate, Candidate.Of g.state trigger.kind c → ∀ g' p, P g' →
      g'.state.player? c.owner = some p → p.zones.locate c.card = some c.reaction.zone →
      Ensures (provoke (c.reaction.effect ⟨c.card, c.owner, trigger⟩)) g' (fun _ => P) E) :
    Ensures (fireReactions provoke trigger) g (fun _ => P) E := by
  obtain ⟨found, hfound, hall⟩ := (hP.soundAt h).candidates trigger.kind
  simp only [fireReactions, ensures_bind, ensures_state, hfound, ensures_lift_ok]
  refine ensures_forM h fun c hmem g' h' => ?_
  have hc := hall c hmem
  obtain ⟨p, hp⟩ := hP.seated h h' hc.owner
  simp only [ensures_bind, ensures_player, hp]
  by_cases hloc : p.zones.locate c.card = some c.reaction.zone
  · simp only [hloc, if_true, ensures_bind]
    exact hprovoke c hc g' p h' hp hloc
  · simp only [hloc, if_false]
    exact h'

theorem ensures_firePlayTriggers (hP : Firm H s₀ P) {id : PlayerId} {card : CardId} (h : P g)
    (hid : id.seat < g.state.players.length)
    (hprovoke : ∀ t, H.play t → ∀ g', P g' →
      Ensures (provoke (t id card)) g' (fun _ => P) E) :
    Ensures (firePlayTriggers provoke id card) g (fun _ => P) E := by
  obtain ⟨p, hp⟩ := GameState.player?_of_lt hid
  have hallow := (hP.allowAt h).players p (GameState.player?_mem hp)
  simp only [firePlayTriggers, ensures_bind, ensures_player, ensures_modifyPlayer, hp]
  have hclear : P { g with state := g.state.setPlayer id { p with playTriggers := [] } } :=
    hP.adjust h hp rfl rfl rfl fun hallow => ⟨hallow.gain, by simp⟩
  refine (ensures_keepers hclear fun t ht => hprovoke t (hallow.play t ht)).imp ?_
  rintro kept g' ⟨h', hsub⟩
  obtain ⟨p', hp'⟩ := hP.seated h h' hid
  simp only [hp']
  refine hP.adjust h' hp' rfl rfl rfl fun hallow' => ⟨hallow'.gain, ?_⟩
  intro t ht
  rcases List.mem_append.mp ht with ht | ht
  · exact hallow.play t (hsub.mem ht)
  · exact hallow'.play t ht

theorem ensures_fireDurations (hP : Firm H s₀ P) {id : PlayerId} (h : P g)
    (hid : id.seat < g.state.players.length)
    (hprovoke : ∀ d, H.duration d → ∀ holder c g', P g' → g'.state.card? holder = some c →
      Ensures (provoke (d ⟨holder, id⟩)) g' (fun _ => P) E) :
    Ensures (fireDurations provoke id) g (fun _ => P) E := by
  obtain ⟨p, hp⟩ := GameState.player?_of_lt hid
  simp only [fireDurations, ensures_bind, ensures_player, hp, ensures_state]
  generalize hw : (p.inPlay ++ p.zones.setAside).filter
    (fun card => (g.state.card? card).any fun c => !c.durations.isEmpty) = waiting
  have hknown : ∀ holder ∈ waiting, ∃ c, g.state.card? holder = some c := by
    intro holder hh
    rw [← hw] at hh
    have hany := (List.mem_filter.mp hh).2
    cases hc : g.state.card? holder with
    | none => simp [hc] at hany
    | some c => exact ⟨c, rfl⟩
  refine ensures_forM h fun holder hmem g' h' => ?_
  obtain ⟨c, hc⟩ := hknown holder hmem
  obtain ⟨c', hc', -⟩ := hP.carded h h' hc
  have hallow := (hP.allowAt h').cards holder c' hc'
  simp only [ensures_bind, ensures_card, hc', ensures_modifyState]
  have hclear : P { g' with state := { g'.state with
      cards := g'.state.cards.modify holder fun c => { c with durations := [] } } } :=
    hP.hang h' holder (fun _ => rfl) (fun _ _ _ => by simp [Hooks.AllowCard])
  refine (ensures_keepers hclear ?_).imp ?_
  · intro d hd g'' h''
    obtain ⟨k, hk, -⟩ := hP.carded h h'' hc
    exact hprovoke d (hallow d hd) holder k g'' h'' hk
  · rintro kept g'' ⟨h'', hsub⟩
    obtain ⟨c'', hc'', -⟩ := hP.carded h h'' hc
    simp only [hc'']
    refine hP.hang h'' holder (fun _ => rfl) ?_
    intro k hk hallow'' d hd
    rcases List.mem_append.mp hd with hd | hd
    · exact hallow d (hsub.mem hd)
    · exact hallow'' d hd

/-! ### Operations that move nothing but what is drawn -/

theorem drawEach_ok (hP : Steady H s₀ P) {id : PlayerId} (h : P g)
    (hid : id.seat < g.state.players.length) (n : Nat) :
    ∃ cards s', GameState.drawEach id n g.state = .ok (cards, s') ∧ P { g with state := s' } := by
  induction n generalizing g with
  | zero => exact ⟨[], g.state, rfl, h⟩
  | succ n ih =>
    obtain ⟨p, hp⟩ := GameState.player?_of_lt hid
    have hdraw := hP.draw g id p h hp
    simp only [GameState.drawEach, hp]
    generalize g.state.drawOne id p = drawn at hdraw ⊢
    obtain ⟨card, s⟩ := drawn
    cases card with
    | none => exact ⟨[], s, rfl, hdraw⟩
    | some card =>
      have hseats := (hP.keptAt hdraw).seats.trans (hP.keptAt h).seats.symm
      obtain ⟨cards, s', hrest, h'⟩ := ih hdraw (hseats ▸ hid)
      exact ⟨card :: cards, s', by simp only [hrest]; rfl, h'⟩

theorem ensures_draw (hP : Steady H s₀ P) {id : PlayerId} {n : Nat} (h : P g)
    (hid : id.seat < g.state.players.length) :
    Ensures (draw id n) g (fun _ => P) E := by
  obtain ⟨cards, s', hdraw, h'⟩ := drawEach_ok hP h hid n
  simp only [draw, ensures_step, GameState.draw, hdraw]
  change P { g with
    state := if cards.isEmpty = true then s' else s'.publish id (.drawCards cards.length) }
  by_cases hc : cards.isEmpty = true
  · rw [if_pos hc]
    exact h'
  · rw [if_neg hc]
    exact hP.publish h' id trivial

theorem ensures_topCards (hP : Steady H s₀ P) {id : PlayerId} {n : Nat} (h : P g)
    (hid : id.seat < g.state.players.length) :
    Ensures (topCards id n) g (fun _ => P) E := by
  obtain ⟨p, hp⟩ := GameState.player?_of_lt hid
  have hlook : ∃ result, g.state.topCards id n = .ok result := by
    simp only [GameState.topCards, hp]
    exact ⟨_, rfl⟩
  obtain ⟨⟨cards, s'⟩, hlook⟩ := hlook
  simp only [topCards, ensures_step, hlook]
  exact hP.peek g id n cards s' h hlook

theorem ensures_reveal (hP : Firm H s₀ P) {id : PlayerId} {cards : List CardId} (h : P g) :
    Ensures (reveal cards id) g (fun _ => P) E := by
  rw [reveal, ensures_ite]
  constructor
  · intro _
    exact h
  · intro _
    exact hP.publish h id trivial

theorem ensures_blocksAttack (hP : Firm H s₀ P) {target : PlayerId} {attack : CardId} (h : P g)
    (hid : target.seat < g.state.players.length) :
    Ensures (blocksAttack target attack) g (fun _ => P) E := by
  obtain ⟨p, hp⟩ := GameState.player?_of_lt hid
  simp only [blocksAttack, ensures_bind, ensures_player, hp, ensures_state]
  cases p.hand.find? (g.state.grants .revealFromHand) with
  | some card =>
    simp only [ensures_bind]
    exact (ensures_reveal hP h).imp fun _ g' h' => hP.publish h' target trivial
  | none =>
    dsimp only
    rw [ensures_ite]
    constructor
    · intro _
      exact hP.verbose h _
    · intro _
      exact h

theorem ensures_credit (hP : Firm H s₀ P) {id : PlayerId} {counter : Counter} {n : Nat}
    (h : P g) (hid : id.seat < g.state.players.length) :
    Ensures (modifyPlayer id (·.onTableau (·.credit n counter))) g (fun _ => P) E := by
  obtain ⟨p, hp⟩ := GameState.player?_of_lt hid
  simp only [ensures_modifyPlayer, hp]
  cases counter <;> exact hP.adjust h hp rfl rfl rfl fun hallow => ⟨hallow.gain, hallow.play⟩

theorem ensures_addCostModifier (hP : Firm H s₀ P) {modifier : CardFace → Int} (h : P g) :
    Ensures (addCostModifier modifier) g (fun _ => P) E :=
  hP.reprice h (g.state.costModifiers ++ [modifier])

theorem ensures_addDuration (hP : Firm H s₀ P) {card : CardId}
    {callback : EffectContext → Program} {c : Card} (h : P g)
    (hcard : g.state.card? card = some c) (hcallback : H.duration callback) :
    Ensures (addDuration card callback) g (fun _ => P) E := by
  simp only [addDuration, ensures_bind, ensures_card, hcard]
  refine hP.hang h card (fun _ => rfl) ?_
  intro k _ hallow d hd
  rcases List.mem_append.mp hd with hd | hd
  · exact hallow d hd
  · rw [List.mem_singleton.mp hd]
    exact hcallback

theorem ensures_addGainTrigger (hP : Firm H s₀ P) {id : PlayerId}
    {callback : GainInfo → Program} (h : P g) (hid : id.seat < g.state.players.length)
    (hcallback : H.gain callback) : Ensures (addGainTrigger id callback) g (fun _ => P) E := by
  obtain ⟨p, hp⟩ := GameState.player?_of_lt hid
  simp only [addGainTrigger, ensures_modifyPlayer, hp]
  refine hP.adjust h hp rfl rfl rfl fun hallow => ⟨?_, hallow.play⟩
  intro t ht
  rcases List.mem_append.mp ht with ht | ht
  · exact hallow.gain t ht
  · rw [List.mem_singleton.mp ht]
    exact hcallback

theorem ensures_addPlayTrigger (hP : Firm H s₀ P) {id : PlayerId}
    {callback : PlayerId → CardId → Program} (h : P g) (hid : id.seat < g.state.players.length)
    (hcallback : H.play callback) : Ensures (addPlayTrigger id callback) g (fun _ => P) E := by
  obtain ⟨p, hp⟩ := GameState.player?_of_lt hid
  simp only [addPlayTrigger, ensures_modifyPlayer, hp]
  refine hP.adjust h hp rfl rfl rfl fun hallow => ⟨hallow.gain, ?_⟩
  intro t ht
  rcases List.mem_append.mp ht with ht | ht
  · exact hallow.play t ht
  · rw [List.mem_singleton.mp ht]
    exact hcallback

end Engine

end DeckBuilder
