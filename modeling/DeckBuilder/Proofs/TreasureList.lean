import DeckBuilder.Controller.Table
import DeckBuilder.Proofs.Drawing
import DeckBuilder.Proofs.Heeded
import DeckBuilder.Proofs.Reachable
import DeckBuilder.Proofs.TurnParts

/-!
The treasures of a list are played one after the other. Before each of them one could look whether it
is still in the hand. With the catalog that makes no difference: a treasure leaves the hand only by
being played itself, since what treasures do, and what is provoked when they are played, moves no card
at all. With cards that do more it makes one, and then a treasure is played from where it lies.
-/
namespace DeckBuilder

open Engine

/-! ### Cards in hand -/

theorem Tableau.mem_hand_draw {t : Tableau} {card : CardId} (rng : Generator) (h : card ∈ t.hand) :
    card ∈ (t.draw rng).2.1.hand := by
  obtain ⟨deck, discard, hprepared⟩ := t.prepare_eq 1 rng
  unfold draw
  generalize t.prepare 1 rng = prepared at hprepared ⊢
  obtain ⟨t', rng'⟩ := prepared
  dsimp only at hprepared ⊢
  subst hprepared
  split
  · exact List.mem_append_left _ h
  · exact h

theorem Tableau.hand_topCards (t : Tableau) (n : Nat) (rng : Generator) :
    (t.topCards n rng).2.1.hand = t.hand := by
  obtain ⟨deck, discard, hprepared⟩ := t.prepare_eq n rng
  change (t.prepare n rng).1.hand = t.hand
  rw [hprepared]
  rfl

theorem nodup_of_selectFrom_go {α : Type} [BEq α] [LawfulBEq α] {pool xs selected chosen : List α}
    {max : Nat} (h : selectFrom.go pool max selected xs = some chosen) (hs : selected.Nodup) :
    chosen.Nodup := by
  induction xs generalizing selected with
  | nil =>
    obtain rfl := Option.some.inj h
    exact List.nodup_reverse.mpr hs
  | cons y ys ih =>
    unfold selectFrom.go at h
    by_cases hy : (pool.contains y && !selected.contains y) = true
    · rw [if_pos hy] at h
      refine ih h ?_
      split
      · refine List.nodup_cons.mpr ⟨fun hmem => ?_, hs⟩
        simp [hmem] at hy
      · exact hs
    · rw [if_neg hy] at h
      simp at h

/-- Nothing is selected twice. -/
theorem nodup_of_selectFrom {α : Type} [BEq α] [LawfulBEq α] {pool answer chosen : List α} {max : Nat}
    (h : selectFrom answer pool max = some chosen) : chosen.Nodup :=
  nodup_of_selectFrom_go h List.nodup_nil

namespace GameState

variable {s s' : GameState} {id : PlayerId} {cards : List CardId}

/-- The cards are in the player's hand, and perhaps others. -/
def Holds (s : GameState) (id : PlayerId) (cards : List CardId) : Prop :=
  ∃ p, s.player? id = some p ∧ ∀ card ∈ cards, card ∈ p.hand

theorem Holds.still (h : s.Holds id cards) (hstill : Still s s') : s'.Holds id cards := by
  obtain ⟨p, hp, hcards⟩ := h
  obtain ⟨p', hp', hzones⟩ := hstill.player? hp
  refine ⟨p', hp', fun card hcard => ?_⟩
  rw [Tableau.hand, hzones]
  exact hcards card hcard

theorem Holds.pondered (h : s.Holds id cards) (hthought : s.Pondered s') : s'.Holds id cards := by
  obtain ⟨rng, logger, rfl⟩ := hthought
  exact h

theorem OfCatalog.pondered (h : s.OfCatalog) (hthought : s.Pondered s') : s'.OfCatalog := by
  obtain ⟨rng, logger, rfl⟩ := hthought
  exact ⟨h.sound.congr rfl rfl rfl rfl fun _ => rfl, ⟨h.hooks.players, h.hooks.cards⟩,
    h.registered, h.names⟩

/-- Who is given another tableau with as much in hand holds as much, and so do the others. -/
theorem Holds.setPlayer (h : s.Holds id cards) {other : PlayerId} {p : Player}
    (hp : s.player? other = some p) (p' : Player) (hmore : ∀ card ∈ p.hand, card ∈ p'.hand) :
    (s.setPlayer other p').Holds id cards := by
  obtain ⟨q, hq, hcards⟩ := h
  rw [Holds, player?_setPlayer (seat_lt_of_player? hp)]
  by_cases hother : other = id
  · rw [hother] at hp
    obtain rfl := Option.some.inj (hp.symm.trans hq)
    rw [if_pos hother]
    exact ⟨p', rfl, fun card hcard => hmore card (hcards card hcard)⟩
  · rw [if_neg hother]
    exact ⟨q, hq, hcards⟩

theorem Holds.drawOne (h : s.Holds id cards) {other : PlayerId} {p : Player}
    (hp : s.player? other = some p) : (s.drawOne other p).2.Holds id cards := by
  obtain ⟨rng, events, logger, heq⟩ := drawOne_eq s other p
  rw [heq]
  exact h.setPlayer hp { p with toTableau := (p.toTableau.draw s.rng).2.1 }
    fun _ hcard => Tableau.mem_hand_draw s.rng hcard

theorem Holds.topCards (h : s.Holds id cards) {other : PlayerId} {n : Nat} {found : List CardId}
    (htop : s.topCards other n = .ok (found, s')) : s'.Holds id cards := by
  obtain ⟨p, rng, events, logger, hp, -, rfl⟩ := topCards_eq htop
  refine h.setPlayer hp { p with toTableau := (p.toTableau.topCards n s.rng).2.1 }
    fun card hcard => ?_
  rw [← Tableau.hand_topCards p.toTableau n s.rng] at hcard
  exact hcard

/-- A card that the player holds has left the hand; the others are still there. -/
theorem Holds.played {card : CardId} (h : s.Holds id (card :: cards))
    (hnodup : (card :: cards).Nodup) {p : Player} (hp : s.player? id = some p) {zone : Zone}
    {tableau : Tableau} (hremove : p.toTableau.remove? card = some (zone, tableau))
    (d : CardDefinition) :
    (s.setPlayer id { p with toTableau := afterPlay d card tableau }).Holds id cards := by
  obtain ⟨q, hq, hcards⟩ := h
  obtain rfl := Option.some.inj (hp.symm.trans hq)
  refine ⟨_, player?_setPlayer_self _ hp, fun other hother => ?_⟩
  have hne : other ≠ card := fun heq => (List.nodup_cons.mp hnodup).1 (heq ▸ hother)
  obtain ⟨zones, hzones, rfl⟩ := Tableau.remove?_eq_some hremove
  obtain ⟨-, rfl⟩ := PlayerZones.remove?_eq_some_iff.mp hzones
  rw [Tableau.hand, afterPlay_zones]
  have hheld : other ∈ p.zones.hand := hcards other (List.mem_cons_of_mem _ hother)
  cases zone with
  | hand => exact (List.mem_erase_of_ne hne).mpr hheld
  | _ => exact hheld

/-- The card is a treasure. -/
def IsTreasure (s : GameState) (card : CardId) : Prop :=
  ∃ c, s.card? card = some c ∧ c.definition.isTreasure = true

theorem IsTreasure.of_face {card : CardId} (h : (s.face? card).any CardFace.isTreasure = true) :
    s.IsTreasure card := by
  unfold face? at h
  cases hc : s.card? card with
  | none => simp [hc] at h
  | some c =>
    rw [hc] at h
    exact ⟨c, hc, h⟩

theorem IsTreasure.kept {card : CardId} (h : s.IsTreasure card) (hkept : Kept s s') :
    s'.IsTreasure card := by
  obtain ⟨c, hc, htreasure⟩ := h
  obtain ⟨c', hc', hdef⟩ := hkept.carded hc
  exact ⟨c', hc', hdef ▸ htreasure⟩

end GameState

theorem Registry.treasure_onPlay {d : CardDefinition} (hd : d ∈ allCards)
    (htreasure : d.isTreasure = true) : d.onPlay = [] ∨ d = Catalog.royalSeal := by
  by_cases hnone : d.onPlay = []
  · exact Or.inl hnone
  · refine Or.inr (eq_of_filter (p := fun d => d.isTreasure && !d.onPlay.isEmpty) rfl hd ?_)
    simp [htreasure, hnone]

variable {M : Type} {g : Game M} {id : PlayerId} {card : CardId} {cards : List CardId}

/-- From a state on games of the catalog in which the player holds these cards. -/
def Game.Holding (s : GameState) (id : PlayerId) (cards : List CardId) (g : Game M) : Prop :=
  Changes Hooks.catalog s g.state ∧ g.state.Holds id cards

theorem GameState.OfCatalog.steady_holding {s : GameState} (hs : s.OfCatalog) :
    Steady Hooks.catalog s (Game.Holding (M := M) s id cards) where
  sound := hs.sound
  allow := hs.hooks
  changes _ h := h.1
  still _ _ h hchange hstill := ⟨h.1.tail hchange, h.2.still hstill⟩
  draw g other p h hp := ⟨h.1.tail (.draw g.state other p hp), h.2.drawOne hp⟩
  peek g other n found s' h htop := ⟨h.1.tail (.peek g.state s' other n found htop), h.2.topCards htop⟩

namespace Engine

/-! ### What playing a treasure provokes -/

open GameState Script.Leads

variable [Controllers M]

theorem payForSilver_holds {s : GameState} (hs : s.OfCatalog) (played : CardId)
    (h : Game.Holding s id cards g) :
    Ensures (run (Catalog.payForSilver id played)) g (fun _ => Game.Holding s id cards)
      fun _ _ => True := by
  obtain ⟨p, hp, -⟩ := h.2
  refine Catalog.ensures_run fun depth hdepth => ?_
  obtain ⟨k, rfl⟩ : ∃ k, depth = k + 1 := ⟨_, hdepth.symm⟩
  refine keeping (bind (look (ite (fun _ => ?_) fun _ => pure h)))
  refine callBind ((ensures_credit hs.steady_holding.toFirm h (GameState.seat_lt_of_player? hp)).imp ?_)
  exact fun _ _ h' => pure h'

/-- When a treasure that the player holds is played, the others stay in the hand. -/
theorem play_holds (hs : g.state.OfCatalog) (h : g.state.Holds id (card :: cards))
    (hnodup : (card :: cards).Nodup) :
    Ensures (play run card id) g (fun _ => Game.Holding g.state id cards) fun _ _ => True := by
  obtain ⟨p, hp, hcards⟩ := h
  have hcard := hcards card List.mem_cons_self
  obtain ⟨-, c, hc⟩ := Catalog.atHand_hand hs hp card hcard
  obtain ⟨taken, htaken⟩ := Catalog.remove?_of_mem_hand hcard
  refine ensures_play hs.steady_holding.toFirm hc hp ?_ ?_ ?_
  · intro hnone
    rw [htaken] at hnone
    exact absurd hnone (by simp)
  · intro zone tableau hremove
    have hcalm := (calm_play (H := Hooks.catalog) hs.sound hp c.definition hremove).1
    exact ⟨hcalm.changes, Holds.played ⟨p, hp, hcards⟩ hnodup hp hremove c.definition⟩
  · rintro t rfl g' h'
    exact payForSilver_holds hs card h'

/-- What a treasure does moves no card. -/
theorem resolve_holds {s : GameState} (hs : s.OfCatalog) {c : Card} (hc : s.card? card = some c)
    (htreasure : c.definition.isTreasure = true) (h : Game.Holding s id cards g) :
    Ensures (resolve run card id) g (fun _ => Game.Holding s id cards) fun _ _ => True := by
  obtain ⟨c', hc', hdef⟩ := h.1.kept.carded hc
  obtain ⟨p, hp, -⟩ := h.2
  simp only [resolve, ensures_bind, ensures_definition, hc']
  refine ensures_executeAll h fun hne => Catalog.ensures_run fun depth hdepth => ?_
  obtain ⟨k, rfl⟩ : ∃ k, depth = k + 1 := ⟨_, hdepth.symm⟩
  rw [hdef] at hne ⊢
  obtain hnone | hseal := Registry.treasure_onPlay (hs.registered card c hc) htreasure
  · exact absurd hnone hne
  · rw [hseal]
    refine programAll (steps_scripted (Script.Leads.addGainTrigger ?_))
    exact ensures_addGainTrigger hs.steady_holding.toFirm h (GameState.seat_lt_of_player? hp) ⟨card, rfl⟩

/-! ### Playing only what is held -/

/-- Plays the treasures of a list one after the other, each if it is in the hand when it is its turn. -/
def playHeld (id : PlayerId) (treasures : List CardId) : Engine M Unit :=
  treasures.forM fun card => do
    if (← player id).hand.contains card then playOut run id card

/-- A treasure that is in the hand is played whether one looks or not. -/
theorem playTreasure_same (hs : g.state.OfCatalog) (h : g.state.Holds id (card :: cards))
    (hnodup : (card :: cards).Nodup) {c : Card} (hc : g.state.card? card = some c)
    (htreasure : c.definition.isTreasure = true) :
    SameRun (playOut run id card)
      (do if (← player id).hand.contains card then playOut run id card) g
      fun _ => Game.Holding g.state id cards := by
  refine ⟨?_, ensures_bind.mpr ((play_holds hs h hnodup).imp fun _ g₁ h₁ =>
    resolve_holds hs hc htreasure h₁)⟩
  obtain ⟨p, hp, hcards⟩ := h
  have hplayer : Ensures (player id) g (fun q g' => q = p ∧ g' = g) fun _ _ => False := by
    rw [ensures_player, hp]
    exact ⟨rfl, rfl⟩
  obtain ⟨_, _, hrun, rfl, rfl⟩ := hplayer.total
  rw [runOn_bind (player id), hrun]
  dsimp only
  rw [if_pos (List.contains_iff_mem.mpr (hcards card List.mem_cons_self))]

/-- Different treasures in hand: each of them is still there when it is its turn. -/
theorem playEach_same (hs : g.state.OfCatalog) (h : g.state.Holds id cards) (hnodup : cards.Nodup)
    (htreasures : ∀ card ∈ cards, g.state.IsTreasure card) :
    SameRun (cards.forM (playOut run id)) (playHeld id cards) g fun _ g' => g'.state.OfCatalog := by
  induction cards generalizing g with
  | nil => exact .refl hs
  | cons card rest ih =>
    obtain ⟨c, hc, htreasure⟩ := htreasures card List.mem_cons_self
    change SameRun (playOut run id card >>= fun _ => rest.forM (playOut run id))
      (_ >>= fun _ => playHeld id rest) g _
    refine SameRun.bind ((playTreasure_same hs h hnodup hc htreasure).imp fun _ g' h' => ?_)
    refine ih (h'.1.ofCatalog hs) h'.2 (List.nodup_cons.mp hnodup).2 fun other hother => ?_
    exact (htreasures other (List.mem_cons_of_mem _ hother)).kept h'.1.kept

/-- The treasure phase in which only treasures that are in the hand are played. -/
def heldTreasurePhase (id : PlayerId) : Nat → Engine M Unit
  | 0 => throw .endless
  | n + 1 => do
    let playable ← handWhere id CardFace.isTreasure
    if playable.isEmpty then return
    match ← chooseTreasures id playable with
    | none => return
    | some [] => return
    | some treasures =>
      playHeld id treasures
      heldTreasurePhase id n

/-- The buy phase with that treasure phase. -/
def heldBuyPhase (id : PlayerId) : Engine M Unit := do
  modifyState fun s => { s with phase := .buy }
  heldTreasurePhase id (← state).patience
  purchases id ((← state).supply.size + 1)

/-- The treasures that are chosen are in hand, and there is none among them twice. -/
theorem chooseTreasures_holds (playable : List CardId) :
    Ensures (chooseTreasures id playable) g
      (fun choice g' => g.state.Pondered g'.state ∧
        ∀ cards ∈ choice, cards.Nodup ∧ ∀ card ∈ cards, card ∈ playable) fun _ _ => True := by
  refine (askUntil_ponders id (.treasures playable) "treasures to play" _ g).mono ?_
    fun _ _ _ => trivial
  rintro choice g' ⟨h, answer, haccepted⟩
  refine ⟨h, fun cards hcards => ?_⟩
  cases answer with
  | none =>
    obtain rfl := Option.some.inj haccepted
    exact absurd hcards (by simp)
  | some answer =>
    obtain ⟨chosen, hchosen, rfl⟩ := Option.map_eq_some_iff.mp haccepted
    obtain rfl := Option.mem_some_iff.mp hcards
    exact ⟨nodup_of_selectFrom hchosen, mem_of_selectFrom hchosen⟩

theorem treasurePhase_same (hs : g.state.OfCatalog) (n : Nat) :
    SameRun (treasurePhase id n) (heldTreasurePhase id n) g fun _ g' => g'.state.OfCatalog := by
  induction n generalizing g with
  | zero => exact .refl trivial
  | succ n ih =>
    refine SameRun.after ((ensures_handWhere_eq id _ g).mono ?_ fun _ _ _ => trivial)
    rintro playable g₀ ⟨hsame, p, hp, hplayable⟩
    rw [hsame]
    refine .ite (fun _ => .refl hs) fun _ => ?_
    refine SameRun.after ((chooseTreasures_holds playable).mono ?_ fun _ _ _ => trivial)
    rintro choice g₁ ⟨hthought, hchoice⟩
    have hs₁ : g₁.state.OfCatalog := hs.pondered hthought
    cases choice with
    | none => exact .refl hs₁
    | some cards =>
    cases cards with
    | nil => exact .refl hs₁
    | cons first rest =>
    obtain ⟨hnodup, hmem⟩ := hchoice _ rfl
    have hheld : g.state.Holds id (first :: rest) := by
      refine ⟨p, hp, fun card hcard => ?_⟩
      have hfound := hmem card hcard
      rw [hplayable] at hfound
      exact (List.mem_filter.mp hfound).1
    have htreasures : ∀ card ∈ first :: rest, g₁.state.IsTreasure card := by
      intro card hcard
      have hfound := hmem card hcard
      rw [hplayable] at hfound
      obtain ⟨rng, logger, heq⟩ := hthought
      rw [heq]
      exact IsTreasure.of_face (List.mem_filter.mp hfound).2
    exact SameRun.bind ((playEach_same hs₁ (hheld.pondered hthought) hnodup htreasures).imp
      fun _ _ h => ih h)

theorem buyPhase_same (hs : g.state.OfCatalog) :
    SameRun (buyPhase id) (heldBuyPhase id) g fun _ _ => True := by
  have hentered : Changes Hooks.catalog g.state { g.state with phase := .buy } :=
    .single (.enter g.state .buy)
  refine SameRun.after (ensures_modifyState.mpr ?_)
  refine SameRun.after (ensures_state.mpr ?_)
  refine SameRun.bind ((treasurePhase_same (hentered.ofCatalog hs) _).imp fun _ _ _ => ?_)
  exact .refl (by unfold Ensures; split <;> trivial)

end Engine

/-- With the catalog, whoever answers: the buy phase is the one in which a treasure is only played if it
is in the hand when it is its turn. -/
theorem treasures_in_hand {config : GameConfig} {s₀ : GameState}
    (hinit : initGame Registry.catalog config = .ok s₀) [Controllers M] {g : Game M}
    (hg : g.Reachable s₀) (id : PlayerId) :
    (buyPhase id).runOn g = (heldBuyPhase id).runOn g :=
  (buyPhase_same (hg.ofCatalog (initGame_opened hinit).ofCatalog).1).1

/-- The opening of a game between two players who answer at random. -/
theorem treasures_in_hand_at_random :
    ∃ s₀, initGame Registry.catalog { players := ["Player 1", "Player 2"] } = .ok s₀ ∧
      let g : Game Table := ⟨s₀, Table.ofMinds [.random, .random]⟩
      (buyPhase s₀.activePlayer).runOn g = (heldBuyPhase s₀.activePlayer).runOn g := by
  obtain ⟨s₀, h⟩ := initGame_catalog
  exact ⟨s₀, h, treasures_in_hand h (.opening (Table.ofMinds [.random, .random])) s₀.activePlayer⟩

/-! ### A treasure that is played from elsewhere -/

/-- A treasure whose player discards a card. -/
def tollCard : CardDefinition where
  name := "Toll"
  cost := 2
  types := [.treasure]
  worth := 1
  onPlay := [.custom "toll" fun ctx => .call (.discard ⟨1⟩ ctx.player) fun _ => .finish false]

def coinCard : CardDefinition where
  name := "Coin"
  cost := 3
  types := [.treasure]
  worth := 2

/-- A player with the two of them in hand, who means to play both. -/
def tollTable : Game Table where
  state :=
    { cards := ((({} : Store Card).add { definition := tollCard }).2.add
        { definition := coinCard }).2
      players := [{ id := ⟨0⟩, name := "Ann", zones := { hand := [⟨0⟩, ⟨1⟩] } }]
      supply := { piles := [], baseCount := 0 }
      rng := default }
  memory := Table.ofMinds [.queue { values := [.arr [.int 0, .int 1]] }]

/-- What is told of a computation that comes to its end, and the money that the first player has. -/
def account (e : Engine Table Unit) (g : Game Table) : Option (List EventKind × Option Nat) :=
  match e.runOn g with
  | (.ok _, g') => some (g'.state.told.map Prod.snd, (g'.state.player? ⟨0⟩).map (·.money))
  | (.error _, _) => none

/-- The Toll has the coin discarded. It is played all the same, and gives its money; it would not if
one looked. -/
theorem treasure_played_from_discard :
    account (buyPhase ⟨0⟩) tollTable =
        some ([.playCard ⟨0⟩ "Toll", .discardCard ⟨1⟩ "Coin", .playCard ⟨1⟩ "Coin"], some 3) ∧
      account (heldBuyPhase ⟨0⟩) tollTable =
        some ([.playCard ⟨0⟩ "Toll", .discardCard ⟨1⟩ "Coin"], some 1) := by
  decide +kernel

end DeckBuilder
