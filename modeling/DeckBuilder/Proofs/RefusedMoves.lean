import DeckBuilder.Proofs.Census

/-!
Moves that do not take place. A transfer is refused if the card is not in the zone it is taken from,
and then nothing changes; and it is refused if the other place is no zone of a player, but then the
card has been taken out already and is put back on top of its zone. So a refused move loses no card
and publishes nothing, and the order of the cards is kept unless the card was under another one.
-/
namespace DeckBuilder

namespace CardRow

/-- The row with the card brought to the top. -/
def raise (cards : CardRow) (card : CardId) : CardRow := insert (cards.erase card) card .top

theorem perm_raise {cards : CardRow} {card : CardId} (h : card ∈ cards) :
    (cards.raise card).Perm cards :=
  (List.perm_append_singleton card _).trans (List.perm_cons_erase h).symm

/-- In a row without repetitions only the top card can be brought to the top without a change. -/
theorem raise_eq_self_iff {cards : CardRow} {card : CardId} (hn : cards.Nodup) :
    cards.raise card = cards ↔ cards.top? = some card := by
  rw [top?, List.getLast?_eq_some_iff]
  constructor
  · intro h
    exact ⟨cards.erase card, h.symm⟩
  · rintro ⟨below, rfl⟩
    have hbelow : card ∉ below := fun h =>
      List.disjoint_of_nodup_append hn h List.mem_cons_self
    rw [raise, List.erase_append_right _ hbelow, List.erase_cons_head, List.append_nil]
    rfl

end CardRow

namespace PlayerZones

/-- What the zones are after a transfer that was refused: a card that was to go where a player has no
zone lies on top of the zone it was in, and all else is as before. -/
structure Refused (z : PlayerZones) (card : CardId) (source target : Zone) (z' : PlayerZones) :
    Prop where
  others : ∀ zone, zone ≠ source → z'.row zone = z.row zone
  absent : card ∉ z.row source → z'.row source = z.row source
  returned : card ∈ z.row source → target = .trash ∧ z'.row source = (z.row source).raise card

variable {z z' : PlayerZones} {card : CardId} {source target : Zone} {position : Position}

theorem eq_trash_of_not_holds {zone : Zone} (h : holds zone = false) : zone = .trash := by
  cases zone <;> first | rfl | cases h

/-- A zone that is only looked up keeps its cards; a mat may come into being, and it is empty. -/
theorem row_update_id (hs : z.MatsSorted) (zone other : Zone) :
    (z.update zone id).row other = z.row other := by
  by_cases heq : zone = other
  · subst heq
    cases hz : holds zone with
    | true => exact row_update_self hs hz id
    | false =>
      obtain rfl := eq_trash_of_not_holds hz
      rfl
  · exact row_update_of_ne z id heq

theorem holds_of_mem_row {zone : Zone} (h : card ∈ z.row zone) : holds zone := by
  cases zone <;> first | rfl | cases h

/-- A card held that was to go to the trash is taken out and put back. -/
theorem transfer_to_trash (hs : z.MatsSorted) (hc : card ∈ z.row source) :
    z.transfer card source .trash position =
      (false, ((z.update source id).update source (·.erase card)).update source
        (·.insert card .top)) := by
  have hrow : ((z.update source id).get? source).getD [] = z.row source :=
    row_update_id hs source source
  rw [transfer, hrow, if_pos (List.contains_iff_mem.mpr hc)]
  rfl

theorem transfer_of_not_mem (hs : z.MatsSorted) (hc : card ∉ z.row source) :
    z.transfer card source target position = (false, z.update source id) := by
  have hrow : ((z.update source id).get? source).getD [] = z.row source :=
    row_update_id hs source source
  have hnot : ¬ (z.row source).contains card = true := fun h => hc (List.contains_iff_mem.mp h)
  rw [transfer, hrow, if_neg hnot]

/-- A transfer takes place exactly if the card is there and the other place is a zone of a player. -/
theorem transfer_moves_iff (hs : z.MatsSorted) :
    (z.transfer card source target position).1 = true ↔
      card ∈ z.row source ∧ target ≠ .trash := by
  by_cases hc : card ∈ z.row source
  · cases hz : holds target with
    | true =>
      have htarget : target ≠ .trash := fun heq => by rw [heq] at hz; cases hz
      simp [(transfer_of_mem hs (holds_of_mem_row hc) hc hz position).1, hc, htarget]
    | false =>
      obtain rfl := eq_trash_of_not_holds hz
      simp [transfer_to_trash hs hc]
  · simp [transfer_of_not_mem hs hc, hc]

theorem refused_of_transfer (hs : z.MatsSorted)
    (h : (z.transfer card source target position).1 = false) :
    z.Refused card source target (z.transfer card source target position).2 := by
  by_cases hc : card ∈ z.row source
  · have htarget : target = .trash := by
      by_contra hne
      rw [(transfer_moves_iff hs).mpr ⟨hc, hne⟩] at h
      cases h
    have hz := holds_of_mem_row hc
    have hs₁ := hs.update source id
    have hs₂ := hs₁.update source (·.erase card)
    rw [htarget, transfer_to_trash hs hc]
    refine ⟨fun zone hne => ?_, fun hnot => absurd hc hnot, fun _ => ⟨rfl, ?_⟩⟩
    · rw [row_update_of_ne _ _ hne.symm, row_update_of_ne _ _ hne.symm, row_update_id hs]
    · rw [row_update_self hs₂ hz, row_update_self hs₁ hz, row_update_id hs]
      rfl
  · rw [transfer_of_not_mem hs hc]
    exact ⟨fun zone _ => row_update_id hs source zone, fun _ => row_update_id hs source source,
      fun h => absurd h hc⟩

/-- No zone gains or loses a card by a refused transfer. -/
theorem Refused.perm (h : z.Refused card source target z') (zone : Zone) :
    (z'.row zone).Perm (z.row zone) := by
  by_cases hzone : zone = source
  · subst hzone
    by_cases hc : card ∈ z.row zone
    · rw [(h.returned hc).2]
      exact CardRow.perm_raise hc
    · rw [h.absent hc]
  · rw [h.others zone hzone]

/-- When a refused transfer keeps the order of the cards. -/
theorem Refused.same_iff (h : z.Refused card source target z') (hn : (z.row source).Nodup) :
    (∀ zone, z'.row zone = z.row zone) ↔
      card ∉ z.row source ∨ (z.row source).top? = some card := by
  have hsource : (∀ zone, z'.row zone = z.row zone) ↔ z'.row source = z.row source := by
    refine ⟨fun hall => hall source, fun heq zone => ?_⟩
    by_cases hzone : zone = source
    · rw [hzone, heq]
    · exact h.others zone hzone
  rw [hsource]
  by_cases hc : card ∈ z.row source
  · rw [(h.returned hc).2, CardRow.raise_eq_self_iff hn]
    simp [hc]
  · simp [hc, h.absent hc]

end PlayerZones

namespace GameState

/-- What a state is after a move that was refused: the card was nowhere with the player, or it was to
go where a player has no zone. All that changes is the zones of the player, and a warning is logged. -/
inductive MoveRefused (s : GameState) (card : CardId) (id : PlayerId) (target : Zone) (p : Player)
    (s' : GameState) : Prop
  | notHeld (absent : p.zones.locate card = none)
      (same : s' = s.warn
        s!"{id} cannot move {s.cardName card} {card}: not found in any zone")
  | noZone (source : Zone) (held : p.zones.locate card = some source) (zones : PlayerZones)
      (refused : p.zones.Refused card source target zones)
      (rest : s' = (s.setPlayer id { p with zones }).warn
        s!"{id} cannot move {s.cardName card} {card} to {target}")

variable {s s' : GameState} {card : CardId} {id : PlayerId} {target : Zone} {position : Position}
  {p : Player}

theorem moveRefused_of_move (hmats : ∀ p ∈ s.players, p.zones.MatsSorted)
    (h : s.move card id target position = .ok (none, s')) :
    ∃ p, s.player? id = some p ∧ s.MoveRefused card id target p s' := by
  unfold move at h
  cases hp : s.player? id with
  | none => simp [hp] at h
  | some p =>
    refine ⟨p, rfl, ?_⟩
    cases hlocate : p.zones.locate card with
    | none =>
      simp only [hp, hlocate, Except.ok.injEq, Prod.mk.injEq, true_and] at h
      exact .notHeld hlocate h.symm
    | some source =>
      have hs := hmats p (player?_mem hp)
      simp only [hp, hlocate, Tableau.transfer] at h
      cases hmoved : (p.zones.transfer card source target position).1 with
      | true => simp [hmoved] at h
      | false =>
        simp only [hmoved, Bool.false_eq_true, if_false, Except.ok.injEq, Prod.mk.injEq,
          true_and] at h
        exact .noZone source hlocate _ (PlayerZones.refused_of_transfer hs hmoved) h.symm

/-- A refused move publishes nothing, and no zone of the player gains or loses a card. -/
theorem MoveRefused.kept (hp : s.player? id = some p) (h : s.MoveRefused card id target p s') :
    s'.events = s.events ∧
      ∃ p', s'.player? id = some p' ∧ ∀ zone, (p'.zones.row zone).Perm (p.zones.row zone) := by
  cases h with
  | notHeld _ same =>
    subst same
    exact ⟨rfl, p, hp, fun zone => .refl _⟩
  | noZone source _ zones refused rest =>
    subst rest
    exact ⟨rfl, { p with zones }, player?_setPlayer_self _ hp, refused.perm⟩

end GameState

/-- Whatever a player has, whichever card is to be moved, from where, to where and to which end: a
transfer that is refused leaves each zone with the cards it had, and a move that is refused also
publishes nothing. The order in a zone changes in one case only, when the card is to go where a
player has no zone: then it comes to the top of the zone in which it was. -/
theorem refused_moves_keep_cards (card : CardId) (target : Zone) (position : Position) :
    (∀ (t : Tableau) (source : Zone), t.zones.MatsSorted →
      (t.transfer card source target position).1 = false →
      ∃ zones, (t.transfer card source target position).2 = { t with zones } ∧
        t.zones.Refused card source target zones ∧
        (∀ zone, (zones.row zone).Perm (t.zones.row zone)) ∧
        ((t.zones.row source).Nodup →
          ((∀ zone, zones.row zone = t.zones.row zone) ↔
            card ∉ t.zones.row source ∨ (t.zones.row source).top? = some card))) ∧
    ∀ (s s' : GameState) (id : PlayerId), (∀ p ∈ s.players, p.zones.MatsSorted) →
      s.move card id target position = .ok (none, s') →
      ∃ p, s.player? id = some p ∧ s.MoveRefused card id target p s' ∧
        s'.events = s.events ∧
        ∃ p', s'.player? id = some p' ∧
          ∀ zone, (p'.zones.row zone).Perm (p.zones.row zone) := by
  constructor
  · intro t source hs h
    have hrefused := PlayerZones.refused_of_transfer hs h
    exact ⟨_, rfl, hrefused, hrefused.perm, hrefused.same_iff⟩
  · intro s s' id hmats h
    obtain ⟨p, hp, hrefused⟩ := GameState.moveRefused_of_move hmats h
    exact ⟨p, hp, hrefused, hrefused.kept hp⟩

/-! ### A card under two others -/

/-- A player with three cards in the hand. -/
def threeInHand : Player where
  id := ⟨0⟩
  name := "Ann"
  zones := { hand := [⟨1⟩, ⟨2⟩, ⟨3⟩] }

def threeOnTable : GameState where
  cards := {}
  players := [threeInHand]
  supply := { piles := [], baseCount := 0 }
  rng := default

/-- The lowest card of the hand cannot go to the trash in this way, and afterwards it is the topmost
one. -/
theorem refused_move_reorders :
    threeInHand.zones.row .hand = [⟨1⟩, ⟨2⟩, ⟨3⟩] ∧
    (threeInHand.transfer ⟨1⟩ .hand .trash .top).1 = false ∧
    (threeInHand.transfer ⟨1⟩ .hand .trash .top).2.zones.row .hand = [⟨2⟩, ⟨3⟩, ⟨1⟩] ∧
    ∃ s', threeOnTable.move ⟨1⟩ ⟨0⟩ .trash .top = .ok (none, s') ∧
      (s'.player? ⟨0⟩).map (·.zones.row .hand) = some [⟨2⟩, ⟨3⟩, ⟨1⟩] :=
  ⟨rfl, rfl, rfl, _, rfl, rfl⟩

theorem refused_moves_keep_three :
    (∃ zones, (threeInHand.transfer ⟨1⟩ .hand .trash .top).2 =
        { threeInHand.toTableau with zones } ∧
      ∀ zone, (zones.row zone).Perm (threeInHand.zones.row zone)) ∧
    ∃ s', threeOnTable.move ⟨1⟩ ⟨0⟩ .trash .top = .ok (none, s') ∧
      s'.events = threeOnTable.events := by
  have hsorted : threeInHand.zones.MatsSorted := List.Pairwise.nil
  have hmats : ∀ p ∈ threeOnTable.players, p.zones.MatsSorted := by
    intro p hp
    obtain rfl := List.mem_singleton.mp hp
    exact hsorted
  obtain ⟨zones, heq, -, hperm, -⟩ :=
    (refused_moves_keep_cards ⟨1⟩ .trash .top).1 threeInHand.toTableau .hand hsorted rfl
  obtain ⟨_, _, _, hevents, _⟩ :=
    (refused_moves_keep_cards ⟨1⟩ .trash .top).2 threeOnTable _ ⟨0⟩ hmats rfl
  exact ⟨⟨zones, heq, hperm⟩, _, rfl, hevents⟩

end DeckBuilder
