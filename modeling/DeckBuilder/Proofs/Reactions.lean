import DeckBuilder.Controller.Table
import DeckBuilder.Proofs.Drawing
import DeckBuilder.Proofs.Pending
import DeckBuilder.Proofs.Winning
import Mathlib.Data.List.Flatten

/-!
Which cards react, and in what order. The cards that may react are found when the trigger comes, seat by
seat and zone by zone, each at the place where it lies; then they have their turns in this order, and
one that has left its zone by then is passed over. What a reaction does is arbitrary: it may move any
card and provoke other reactions, and still no card reacts twice to one trigger, and none that was not
in its zone when the trigger came.
-/
namespace DeckBuilder

theorem eq_map_of_mapM {α β ε : Type} {f : α → Except ε β} {h : α → β} {xs : List α} {ys : List β}
    (hf : ∀ x y, f x = .ok y → h x = y) (hys : xs.mapM f = .ok ys) : ys = xs.map h := by
  have hall : List.Forall₂ (fun x y => h x = y) xs ys := (mapM_eq_ok_iff.mp hys).imp hf
  rw [← List.forall₂_map_left_iff (R := Eq), List.forall₂_eq_eq_eq] at hall
  exact hall.symm

theorem eq_filterMap_of_filterMapM {α β ε : Type} {f : α → Except ε (Option β)} {h : α → Option β}
    {xs : List α} {ys : List β} (hf : ∀ x y, f x = .ok y → h x = y)
    (hys : xs.filterMapM f = .ok ys) : ys = xs.filterMap h := by
  induction xs generalizing ys with
  | nil => exact (Except.ok.inj hys).symm
  | cons x rest ih =>
    rw [List.filterMapM_cons] at hys
    obtain ⟨first, hfirst, hys⟩ := ok_bind hys
    rw [List.filterMap_cons, hf x first hfirst]
    cases first with
    | none => exact ih hys
    | some y =>
      obtain ⟨others, hothers, hys⟩ := ok_bind hys
      rw [← Except.ok.inj hys, ih hothers]

/-! ### The order of the zones -/

/-- Which kind of zone is looked through first; the trash is no zone of a player. -/
def Zone.rank : Zone → Nat
  | .hand => 0
  | .deck => 1
  | .inPlay => 2
  | .discard => 3
  | .setAside => 4
  | .mat _ => 5
  | .trash => 6

/-- Which of two zones of a player is looked through first; mats come by their names. -/
def Zone.Precedes : Zone → Zone → Prop
  | .mat name, .mat other => name < other
  | zone, other => zone.rank < other.rank

theorem PlayerZones.pairwise_inOrder {z : PlayerZones} (hs : z.MatsSorted) :
    z.inOrder.Pairwise fun e e' => e.1.Precedes e'.1 := by
  rw [inOrder, List.pairwise_append]
  refine ⟨?_, List.pairwise_map.mpr hs, ?_⟩
  · simp [Zone.Precedes, Zone.rank]
  · intro e he e' he'
    obtain ⟨m, -, rfl⟩ := List.mem_map.mp he'
    simp only [List.mem_cons, List.not_mem_nil, or_false] at he
    rcases he with rfl | rfl | rfl | rfl | rfl <;> simp [Zone.Precedes, Zone.rank]

namespace GameState

/-- No card lies at two places of the players, and seats and mats are in order. -/
structure Partitioned (s : GameState) : Prop where
  seats : ∀ id p, s.player? id = some p → p.id = id
  mats : ∀ p ∈ s.players, p.zones.MatsSorted
  once : (s.players.flatMap fun p => p.allCards).Nodup

theorem Sound.partitioned {s : GameState} (hs : s.Sound) : s.Partitioned :=
  ⟨hs.seats, hs.mats, (List.nodup_append.mp hs.nodup_whereabouts).2.1⟩

variable {s : GameState} {kind : ReactionKind}

/-- The card with a reaction of the kind, if the reaction is for where the card lies. -/
def candidate? (s : GameState) (kind : ReactionKind) (owner : PlayerId) (zone : Zone)
    (card : CardId) : Option Candidate := do
  let found ← s.card? card
  let reaction ← found.definition.reactions.get? kind
  if reaction.zone = zone then some ⟨card, owner, reaction⟩ else none

/-- All candidates of a player, zone by zone. -/
def candidatesOf (s : GameState) (kind : ReactionKind) (p : Player) : List Candidate :=
  p.zones.inOrder.flatMap fun e => e.2.filterMap (s.candidate? kind p.id e.1)

theorem candidate?_eq_some_iff {owner : PlayerId} {zone : Zone} {card : CardId} {c : Candidate} :
    s.candidate? kind owner zone card = some c ↔
      (∃ found, s.card? card = some found ∧
        found.definition.reactions.get? kind = some c.reaction) ∧
      c.card = card ∧ c.owner = owner ∧ c.reaction.zone = zone := by
  obtain ⟨card', owner', reaction'⟩ := c
  simp only [candidate?, Option.bind_eq_bind, Option.bind_eq_some_iff, Option.ite_none_right_eq_some,
    Option.some.injEq, Candidate.mk.injEq]
  constructor
  · rintro ⟨found, hfound, reaction, hreaction, rfl, rfl, rfl, rfl⟩
    exact ⟨⟨found, hfound, hreaction⟩, rfl, rfl, rfl⟩
  · rintro ⟨⟨found, hfound, hreaction⟩, rfl, rfl, rfl⟩
    exact ⟨found, hfound, reaction', hreaction, rfl, rfl, rfl, rfl⟩

/-- A search that does not fail finds all candidates. -/
theorem candidates_eq {found : List Candidate} (h : s.candidates kind = .ok found) :
    found = s.players.flatMap (s.candidatesOf kind) := by
  obtain ⟨rows, hrows, heq⟩ := ok_bind h
  obtain rfl := Except.ok.inj heq
  have hall : rows = s.players.map fun p =>
      p.zones.inOrder.map fun e => e.2.filterMap (s.candidate? kind p.id e.1) := by
    refine eq_map_of_mapM (fun p cells hp => ?_) hrows
    refine (eq_map_of_mapM (fun e cards he => ?_) hp).symm
    refine (eq_filterMap_of_filterMapM (fun id o ho => ?_) he).symm
    rw [candidate?]
    cases hcard : s.card? id with
    | none => simp [hcard] at ho
    | some card =>
      cases hreaction : card.definition.reactions.get? kind with
      | none =>
        simp only [hcard, hreaction] at ho
        simpa [hreaction] using Except.ok.inj ho
      | some reaction =>
        simp only [hcard, hreaction] at ho
        simpa [hreaction] using Except.ok.inj ho
  rw [hall, List.flatten_flatten, List.map_map]
  rfl

/-- The card lies in the zone of its owner for which it has a reaction of the kind. -/
structure MayReact (s : GameState) (kind : ReactionKind) (c : Candidate) : Prop where
  card : ∃ found, s.card? c.card = some found ∧
    found.definition.reactions.get? kind = some c.reaction
  lies : ∃ p, s.player? c.owner = some p ∧ c.card ∈ p.zones.row c.reaction.zone

/-- By seat, then by zone, then by place in the zone. -/
inductive Before (s : GameState) (c c' : Candidate) : Prop
  | seat (h : c.owner.seat < c'.owner.seat)
  | zone (owner : c.owner = c'.owner) (h : c.reaction.zone.Precedes c'.reaction.zone)
  | place (p : Player) (hp : s.player? c.owner = some p) (owner : c.owner = c'.owner)
      (zone : c.reaction.zone = c'.reaction.zone)
      (h : (p.zones.row c.reaction.zone).idxOf c.card < (p.zones.row c.reaction.zone).idxOf c'.card)

namespace Partitioned

variable {p : Player}

theorem player?_of_mem (h : s.Partitioned) (hp : p ∈ s.players) : s.player? p.id = some p := by
  obtain ⟨seat, hseat⟩ := List.mem_iff_getElem?.mp hp
  have hget : s.player? ⟨seat⟩ = some p := hseat
  rw [h.seats ⟨seat⟩ p hget]
  exact hget

theorem pairwise_seat (h : s.Partitioned) :
    s.players.Pairwise fun p q => p.id.seat < q.id.seat := by
  have hid : ∀ (i : Nat) (hi : i < s.players.length), s.players[i].id = ⟨i⟩ := fun i hi =>
    h.seats ⟨i⟩ _ (List.getElem?_eq_getElem hi)
  refine List.pairwise_iff_getElem.mpr fun i j hi hj hij => ?_
  rw [hid i hi, hid j hj]
  exact hij

theorem nodup_allCards (h : s.Partitioned) (hp : p ∈ s.players) : p.zones.allCards.Nodup :=
  (List.nodup_flatMap.mp h.once).1 p hp

theorem nodup_row (h : s.Partitioned) (hp : p ∈ s.players) {e : Zone × CardRow}
    (he : e ∈ p.zones.inOrder) : e.2.Nodup :=
  (List.nodup_flatMap.mp (h.nodup_allCards hp)).1 e he

theorem mem_candidates_iff (h : s.Partitioned) {c : Candidate} :
    c ∈ s.players.flatMap (s.candidatesOf kind) ↔ s.MayReact kind c := by
  simp only [candidatesOf, List.mem_flatMap, List.mem_filterMap, candidate?_eq_some_iff]
  constructor
  · rintro ⟨p, hp, ⟨zone, cards⟩, hzone, card, hcard, hfound, rfl, howner, rfl⟩
    obtain ⟨-, hrow⟩ := PlayerZones.row_of_mem_inOrder (h.mats p hp) hzone
    refine ⟨hfound, p, howner ▸ h.player?_of_mem hp, ?_⟩
    rw [hrow]
    exact hcard
  · rintro ⟨hfound, p, hp, hcard⟩
    exact ⟨p, player?_mem hp, _, PlayerZones.mem_inOrder_of_mem_row hcard, c.card, hcard, hfound,
      rfl, (h.seats _ _ hp).symm, rfl⟩

/-- The candidates of one zone come in the order of their cards. -/
theorem pairwise_zone (h : s.Partitioned) (hp : p ∈ s.players) {e : Zone × CardRow}
    (he : e ∈ p.zones.inOrder) :
    (e.2.filterMap (s.candidate? kind p.id e.1)).Pairwise s.Before := by
  obtain ⟨-, hrow⟩ := PlayerZones.row_of_mem_inOrder (h.mats p hp) he
  have hnodup := h.nodup_row hp he
  refine List.pairwise_filterMap.mpr (List.pairwise_iff_getElem.mpr ?_)
  intro i j hi hj hij c hc c' hc'
  obtain ⟨-, hcard, howner, hzone⟩ := candidate?_eq_some_iff.mp hc
  obtain ⟨-, hcard', howner', hzone'⟩ := candidate?_eq_some_iff.mp hc'
  refine .place p (howner ▸ h.player?_of_mem hp) (howner.trans howner'.symm)
    (hzone.trans hzone'.symm) ?_
  rw [hzone, hrow, hcard, hcard', hnodup.idxOf_getElem, hnodup.idxOf_getElem]
  exact hij

theorem pairwise_candidates (h : s.Partitioned) :
    (s.players.flatMap (s.candidatesOf kind)).Pairwise s.Before := by
  have howner : ∀ p c, c ∈ s.candidatesOf kind p → c.owner = p.id := by
    intro p c hc
    obtain ⟨e, -, hc⟩ := List.mem_flatMap.mp hc
    obtain ⟨card, -, hc⟩ := List.mem_filterMap.mp hc
    exact (candidate?_eq_some_iff.mp hc).2.2.1
  refine List.pairwise_flatMap.mpr ⟨fun p hp => ?_, ?_⟩
  · refine List.pairwise_flatMap.mpr ⟨fun e he => h.pairwise_zone hp he, ?_⟩
    refine (PlayerZones.pairwise_inOrder (h.mats p hp)).imp ?_
    intro e e' hprecedes c hc c' hc'
    obtain ⟨card, -, hc⟩ := List.mem_filterMap.mp hc
    obtain ⟨card', -, hc'⟩ := List.mem_filterMap.mp hc'
    obtain ⟨-, -, hown, hzone⟩ := candidate?_eq_some_iff.mp hc
    obtain ⟨-, -, hown', hzone'⟩ := candidate?_eq_some_iff.mp hc'
    exact .zone (hown.trans hown'.symm) (hzone ▸ hzone' ▸ hprecedes)
  · refine h.pairwise_seat.imp fun {p q} hlt c hc c' hc' => .seat ?_
    rw [howner p c hc, howner q c' hc']
    exact hlt

/-- No card is found twice, since each lies at one place. -/
theorem nodup_cards (h : s.Partitioned) :
    ((s.players.flatMap (s.candidatesOf kind)).map (·.card)).Nodup := by
  have hrow : ∀ owner zone (cards : CardRow),
      ((cards.filterMap (s.candidate? kind owner zone)).map (·.card)).Sublist cards := by
    intro owner zone cards
    induction cards with
    | nil => exact .slnil
    | cons card rest ih =>
      rw [List.filterMap_cons]
      cases hc : s.candidate? kind owner zone card with
      | none => exact ih.cons card
      | some c =>
        obtain ⟨-, hcard, -⟩ := candidate?_eq_some_iff.mp hc
        rw [List.map_cons, hcard]
        exact ih.cons_cons card
  refine h.once.sublist ?_
  rw [List.map_flatMap]
  refine List.Sublist.flatMap_right _ fun p _ => ?_
  rw [candidatesOf, List.map_flatMap]
  exact List.Sublist.flatMap_right _ fun e _ => hrow p.id e.1 e.2

end Partitioned

end GameState

namespace Engine

variable {M : Type}

/-- The card is now in its reaction's zone, with the same owner. -/
def Located (g : Game M) (c : Candidate) : Prop :=
  ∃ p, g.state.player? c.owner = some p ∧ p.zones.locate c.card = some c.reaction.zone

/-- As long as no card lies at two places, that is where the card lies. -/
theorem located_iff {g : Game M} (h : g.state.Partitioned) {c : Candidate} :
    Located g c ↔
      ∃ p, g.state.player? c.owner = some p ∧ c.card ∈ p.zones.row c.reaction.zone := by
  refine exists_congr fun p => and_congr_right fun hp => ?_
  have hmem := GameState.player?_mem hp
  have hmats := h.mats p hmem
  exact ⟨fun hlocate => (PlayerZones.mem_row_of_locate hmats hlocate).2,
    PlayerZones.locate_of_mem_row hmats (h.nodup_allCards hmem)⟩

/-- The candidates have their turns: one that is located in its zone reacts, any other is passed over.
The second list is of those that react. -/
inductive Reacting (provoke : Program → Engine M Bool) (trigger : ReactionTrigger) :
    List Candidate → List Candidate → Game M → Game M → Prop
  | done (g : Game M) : Reacting provoke trigger [] [] g g
  | reacts {c : Candidate} {rest ran : List Candidate} {g g₁ g' : Game M} {kept : Bool}
      (located : Located g c)
      (runs : (provoke (c.reaction.effect ⟨c.card, c.owner, trigger⟩)).runOn g = (.ok kept, g₁))
      (others : Reacting provoke trigger rest ran g₁ g') :
      Reacting provoke trigger (c :: rest) (c :: ran) g g'
  | passed {c : Candidate} {rest ran : List Candidate} {g g' : Game M} (gone : ¬ Located g c)
      (others : Reacting provoke trigger rest ran g g') :
      Reacting provoke trigger (c :: rest) ran g g'

variable {provoke : Program → Engine M Bool} {trigger : ReactionTrigger} {g g' : Game M}

theorem Reacting.sublist {found ran : List Candidate}
    (h : Reacting provoke trigger found ran g g') : ran.Sublist found := by
  induction h with
  | done g => exact .slnil
  | reacts _ _ _ ih => exact ih.cons_cons _
  | passed _ _ ih => exact ih.cons _

/-- The turn of one candidate. -/
def turnOf (provoke : Program → Engine M Bool) (trigger : ReactionTrigger) (c : Candidate) :
    Engine M PUnit := do
  if (← player c.owner).zones.locate c.card = some c.reaction.zone then
    let _ ← provoke (c.reaction.effect ⟨c.card, c.owner, trigger⟩)

theorem runOn_turnOf {c : Candidate} (h : (turnOf provoke trigger c).runOn g = (.ok ⟨⟩, g')) :
    (∃ kept, Located g c ∧
        (provoke (c.reaction.effect ⟨c.card, c.owner, trigger⟩)).runOn g = (.ok kept, g')) ∨
      (¬ Located g c ∧ g' = g) := by
  cases hp : g.state.player? c.owner with
  | none =>
    rw [turnOf, runOn_bind_of_error (runOn_player_of_none hp)] at h
    cases h
  | some p =>
    rw [turnOf, runOn_bind_of_ok (runOn_player hp)] at h
    by_cases hlocate : p.zones.locate c.card = some c.reaction.zone
    · rw [if_pos hlocate, runOn_bind] at h
      cases hrun : (provoke (c.reaction.effect ⟨c.card, c.owner, trigger⟩)).runOn g with
      | mk result g₁ =>
        rw [hrun] at h
        cases result with
        | error halt => cases h
        | ok kept =>
          cases h
          exact .inl ⟨kept, ⟨p, hp, hlocate⟩, rfl⟩
    · rw [if_neg hlocate] at h
      cases h
      refine .inr ⟨?_, rfl⟩
      rintro ⟨p', hp', hlocate'⟩
      obtain rfl := Option.some.inj (hp.symm.trans hp')
      exact hlocate hlocate'

/-- Who has a turn, in order, either reacts or is passed over. -/
theorem reacting_of_round {found : List Candidate}
    (h : Round (fun c g g' => (turnOf provoke trigger c).runOn g = (.ok ⟨⟩, g')) found g g') :
    ∃ ran, Reacting provoke trigger found ran g g' := by
  induction h with
  | done g => exact ⟨[], .done g⟩
  | next first _ ih =>
    obtain ⟨ran, hothers⟩ := ih
    obtain ⟨kept, hlocated, hruns⟩ | ⟨hgone, rfl⟩ := runOn_turnOf first
    · exact ⟨_, .reacts hlocated hruns hothers⟩
    · exact ⟨_, .passed hgone hothers⟩

theorem reacting_of_fireReactions (h : (fireReactions provoke trigger).runOn g = (.ok (), g')) :
    ∃ found ran, g.state.candidates trigger.kind = .ok found ∧
      Reacting provoke trigger found ran g g' := by
  rw [fireReactions, runOn_bind_of_ok runOn_state, runOn_bind] at h
  cases hfound : g.state.candidates trigger.kind with
  | error e =>
    rw [hfound] at h
    cases h
  | ok found =>
    rw [hfound] at h
    obtain ⟨ran, hreacting⟩ := reacting_of_round (runOn_forM.mp h)
    exact ⟨found, ran, rfl, hreacting⟩

/-- Whatever reactions do: those that run are, in order, some of the cards that might react when the
trigger came, seat by seat, zone by zone, from the bottom of each zone to its top. A card runs if it is
in its zone when its turn comes, and is passed over otherwise. None runs twice, and none that came to
its zone only later. -/
theorem reactions_fire_in_order (provoke : Program → Engine M Bool) (trigger : ReactionTrigger)
    {g g' : Game M} (h : g.state.Partitioned)
    (hran : (fireReactions provoke trigger).runOn g = (.ok (), g')) :
    ∃ found ran, (∀ c, c ∈ found ↔ g.state.MayReact trigger.kind c) ∧
      found.Pairwise g.state.Before ∧ Reacting provoke trigger found ran g g' ∧
      ran.Sublist found ∧ (ran.map (·.card)).Nodup ∧
      (∀ c ∈ ran, g.state.MayReact trigger.kind c) ∧
      ∀ g₁ : Game M, g₁.state.Partitioned → ∀ c, Located g₁ c ↔
        ∃ p, g₁.state.player? c.owner = some p ∧ c.card ∈ p.zones.row c.reaction.zone := by
  obtain ⟨found, ran, hfound, hreacting⟩ := reacting_of_fireReactions hran
  obtain rfl := GameState.candidates_eq hfound
  have hsublist := hreacting.sublist
  exact ⟨_, ran, fun c => h.mem_candidates_iff, h.pairwise_candidates, hreacting, hsublist,
    h.nodup_cards.sublist (hsublist.map _), fun c hc => h.mem_candidates_iff.mp (hsublist.subset hc),
    fun g₁ h₁ c => located_iff h₁⟩

/-! ### A reaction that moves another card -/

/-- A card that answers from the hand when a turn starts: its owner discards card number one. -/
def bell : CardDefinition where
  name := "Bell"
  cost := 2
  types := [.reaction]
  reactions :=
    { onStartTurn := some ⟨.hand, fun ctx => .call (.discard ⟨1⟩ ctx.owner) fun _ => .finish false⟩ }

/-- The first player has two bells in hand, the second one has one. -/
def bellTable : Game Table where
  state :=
    { cards := (((({} : Store Card).add { definition := bell }).2.add { definition := bell }).2.add
        { definition := bell }).2
      players :=
        [{ id := ⟨0⟩, name := "Ann", zones := { hand := [⟨0⟩, ⟨1⟩] } },
          { id := ⟨1⟩, name := "Ben", zones := { hand := [⟨2⟩] } }]
      supply := { piles := [], baseCount := 0 }
      rng := default }
  memory := Table.ofMinds [.random, .random]

/-- The first bell discards the second, which is passed over; the third one has nothing to discard. -/
theorem bells_ring_in_order :
    ∃ g' found ran, (fireReactions run (.startTurn ⟨0⟩)).runOn bellTable = (.ok (), g') ∧
      Reacting run (.startTurn ⟨0⟩) found ran bellTable g' ∧ (ran.map (·.card)).Nodup ∧
      g'.state.told.map Prod.snd = [.discardCard ⟨1⟩ "Bell"] := by
  have hends : ((fireReactions run (.startTurn ⟨0⟩)).runOn bellTable).1 = .ok () := by
    decide +kernel
  have htold : ((fireReactions run (.startTurn ⟨0⟩)).runOn bellTable).2.state.told.map Prod.snd =
      [.discardCard ⟨1⟩ "Bell"] := by
    decide +kernel
  have hpartitioned : bellTable.state.Partitioned := by
    refine ⟨?_, ?_, by decide⟩
    · intro id p hp
      obtain ⟨seat⟩ := id
      rcases seat with _ | _ | seat
      · exact Option.some.inj hp ▸ rfl
      · exact Option.some.inj hp ▸ rfl
      · cases hp
    · intro p hp
      rcases List.mem_pair.mp hp with rfl | rfl
      · exact List.Pairwise.nil
      · exact List.Pairwise.nil
  have hran := runOn_eq_of_ok hends
  obtain ⟨found, ran, -, -, hreacting, -, honce, -, -⟩ :=
    reactions_fire_in_order run (.startTurn ⟨0⟩) hpartitioned hran
  exact ⟨_, found, ran, hran, hreacting, honce, htold⟩

end Engine

end DeckBuilder
