import DeckBuilder.Tableau
import Mathlib.Algebra.BigOperators.Group.List.Basic
import Mathlib.Algebra.Ring.Nat
import Mathlib.Data.List.Nodup
import Mathlib.Data.List.Pairwise

/-!
The cards of a player under a weight that may depend on the zone. Changing one zone changes the
total by what that zone weighs after and before; all that is said about taking a card out of a zone,
putting one in, drawing and shuffling follows from it. With the weight that singles out one card the
total is the number of times the card occurs, so the same facts say that no card is lost or doubled.
-/
namespace DeckBuilder

def CardRow.weigh (w : CardId → Nat) (cards : CardRow) : Nat := (cards.map w).sum

namespace CardRow

variable (w : CardId → Nat)

theorem weigh_insert (cards : CardRow) (card : CardId) (position : Position) :
    weigh w (cards.insert card position) = weigh w cards + w card := by
  cases position <;> simp [weigh, insert, Nat.add_comm]

theorem weigh_erase {cards : CardRow} {card : CardId} (h : card ∈ cards) :
    weigh w (cards.erase card) + w card = weigh w cards := by
  rw [Nat.add_comm]
  exact List.sum_map_erase w h

theorem weigh_append (cards more : CardRow) :
    weigh w (cards ++ more) = weigh w cards + weigh w more := by
  simp [weigh]

theorem weigh_perm {cards cards' : CardRow} (h : cards.Perm cards') :
    weigh w cards = weigh w cards' :=
  (h.map w).sum_eq

/-- The top card and the cards below it make up the row. -/
theorem weigh_dropLast {cards : CardRow} {card : CardId} (h : cards.getLast? = some card) :
    weigh w cards.dropLast + w card = weigh w cards := by
  obtain ⟨below, rfl⟩ := List.getLast?_eq_some_iff.mp h
  simp [weigh]

theorem weigh_indicator (cards : CardRow) (card : CardId) :
    weigh (fun c => if c = card then 1 else 0) cards = cards.count card := by
  induction cards with
  | nil => rfl
  | cons c cards ih =>
    simp only [weigh, List.map_cons, List.sum_cons, List.count_cons] at ih ⊢
    rw [ih]
    by_cases hc : c = card <;> simp [hc, Nat.add_comm]

end CardRow

namespace PlayerZones

/-- The cards of a zone; none in a mat never used. -/
def row (z : PlayerZones) (zone : Zone) : CardRow := (z.get? zone).getD []

/-- The mats stand in the order of their names, and no name stands twice. -/
def MatsSorted (z : PlayerZones) : Prop := z.mats.Pairwise fun m m' => m.1 < m'.1

def weigh (w : Zone → CardId → Nat) (z : PlayerZones) : Nat :=
  (z.inOrder.map fun e => CardRow.weigh (w e.1) e.2).sum

def weighMats (w : Zone → CardId → Nat) (mats : List (String × CardRow)) : Nat :=
  (mats.map fun m => CardRow.weigh (w (.mat m.1)) m.2).sum

theorem weigh_eq (w : Zone → CardId → Nat) (z : PlayerZones) :
    z.weigh w = CardRow.weigh (w .hand) z.hand + CardRow.weigh (w .deck) z.deck +
      CardRow.weigh (w .inPlay) z.inPlay + CardRow.weigh (w .discard) z.discard +
      CardRow.weigh (w .setAside) z.setAside + weighMats w z.mats := by
  simp [weigh, inOrder, weighMats, Function.comp_def, Nat.add_assoc]

theorem weigh_indicator (z : PlayerZones) (card : CardId) :
    z.weigh (fun _ c => if c = card then 1 else 0) = z.allCards.count card := by
  simp only [weigh, CardRow.weigh_indicator, allCards, List.count_flatMap, Function.comp_def]

/-! ### Mats -/

theorem find?_mat_eq_none {name : String} {mats : List (String × CardRow)}
    (h : ∀ m ∈ mats, name < m.1) : mats.find? (·.1 == name) = none := by
  rw [List.find?_eq_none]
  intro m hm heq
  have hlt := h m hm
  rw [beq_iff_eq] at heq
  exact String.lt_irrefl name (heq ▸ hlt)

theorem weighMats_updateMat (w : Zone → CardId → Nat) (name : String) (f : CardRow → CardRow)
    {mats : List (String × CardRow)} (hs : mats.Pairwise fun m m' => m.1 < m'.1) :
    weighMats w (updateMat name f mats) +
        CardRow.weigh (w (.mat name)) (((mats.find? (·.1 == name)).map (·.2)).getD []) =
      weighMats w mats +
        CardRow.weigh (w (.mat name)) (f (((mats.find? (·.1 == name)).map (·.2)).getD [])) := by
  induction mats with
  | nil => simp [updateMat, weighMats, CardRow.weigh]
  | cons m rest ih =>
    obtain ⟨other, cards⟩ := m
    have hrest := ih hs.of_cons
    by_cases heq : other = name
    · subst heq
      simp [updateMat, weighMats]
      omega
    · by_cases hlt : name < other
      · -- The mats after this one have names that come later still, so there is none of this name.
        have hnone : ((other, cards) :: rest).find? (·.1 == name) = none := by
          apply find?_mat_eq_none
          intro m hm
          rcases List.mem_cons.mp hm with rfl | hm
          · exact hlt
          · exact String.lt_trans hlt (List.rel_of_pairwise_cons hs hm)
        rw [hnone]
        simp [updateMat, heq, hlt, weighMats, CardRow.weigh]
        omega
      · simp only [updateMat, heq, hlt, if_false, List.find?_cons, beq_eq_false_iff_ne.mpr heq,
          weighMats, List.map_cons, List.sum_cons] at hrest ⊢
        omega

theorem mem_updateMat {name : String} {f : CardRow → CardRow} {mats : List (String × CardRow)}
    {m : String × CardRow} (h : m ∈ updateMat name f mats) :
    m.1 = name ∨ ∃ m' ∈ mats, m'.1 = m.1 := by
  induction mats with
  | nil => simp [updateMat] at h; exact Or.inl (by rw [h])
  | cons first rest ih =>
    obtain ⟨other, cards⟩ := first
    unfold updateMat at h
    split at h
    · rcases List.mem_cons.mp h with rfl | hm
      · exact Or.inl rfl
      · exact Or.inr ⟨m, List.mem_cons_of_mem _ hm, rfl⟩
    · split at h
      · rcases List.mem_cons.mp h with rfl | hm
        · exact Or.inl rfl
        · exact Or.inr ⟨m, hm, rfl⟩
      · rcases List.mem_cons.mp h with rfl | hm
        · exact Or.inr ⟨_, List.mem_cons_self, rfl⟩
        · rcases ih hm with hname | ⟨m', hm', hn⟩
          · exact Or.inl hname
          · exact Or.inr ⟨m', List.mem_cons_of_mem _ hm', hn⟩

theorem updateMat_sorted (name : String) (f : CardRow → CardRow) {mats : List (String × CardRow)}
    (hs : mats.Pairwise fun m m' => m.1 < m'.1) :
    (updateMat name f mats).Pairwise fun m m' => m.1 < m'.1 := by
  induction mats with
  | nil => simp [updateMat]
  | cons first rest ih =>
    obtain ⟨other, cards⟩ := first
    unfold updateMat
    split
    · next heq =>
      subst heq
      exact List.pairwise_cons.mpr ⟨fun m hm => List.rel_of_pairwise_cons hs hm, hs.of_cons⟩
    · next heq =>
      split
      · next hlt =>
        refine List.pairwise_cons.mpr ⟨fun m hm => ?_, hs⟩
        rcases List.mem_cons.mp hm with rfl | hm
        · exact hlt
        · exact String.lt_trans hlt (List.rel_of_pairwise_cons hs hm)
      · next hlt =>
        refine List.pairwise_cons.mpr ⟨fun m hm => ?_, ih hs.of_cons⟩
        rcases mem_updateMat hm with hname | ⟨m', hm', hn⟩
        · have hle : other ≤ name := String.not_lt.mp hlt
          rw [hname]
          exact Std.lt_of_le_of_ne hle heq
        · exact hn ▸ List.rel_of_pairwise_cons hs hm'

/-! ### Zones -/

theorem MatsSorted.update {z : PlayerZones} (h : z.MatsSorted) (zone : Zone)
    (f : CardRow → CardRow) : (z.update zone f).MatsSorted := by
  cases zone with
  | mat name => exact updateMat_sorted name f h
  | _ => exact h

/-- What one zone weighs before and after is all that a change of it changes. -/
theorem weigh_update (w : Zone → CardId → Nat) {z : PlayerZones} (hs : z.MatsSorted)
    {zone : Zone} (hz : holds zone) (f : CardRow → CardRow) :
    (z.update zone f).weigh w + CardRow.weigh (w zone) (z.row zone) =
      z.weigh w + CardRow.weigh (w zone) (f (z.row zone)) := by
  cases zone with
  | trash => simp [holds] at hz
  | mat name =>
    have h := weighMats_updateMat w name f hs
    simp only [weigh_eq, update, row, get?, mat?]
    omega
  | _ =>
    simp only [weigh_eq, update, row, get?, Option.getD_some]
    omega

theorem weigh_put (w : Zone → CardId → Nat) {z : PlayerZones} (hs : z.MatsSorted)
    {zone : Zone} (hz : holds zone) (card : CardId) (position : Position) :
    (z.update zone (·.insert card position)).weigh w = z.weigh w + w zone card := by
  have h := weigh_update w hs hz (·.insert card position)
  rw [CardRow.weigh_insert] at h
  omega

theorem weigh_take (w : Zone → CardId → Nat) {z : PlayerZones} (hs : z.MatsSorted)
    {zone : Zone} (hz : holds zone) {card : CardId} (hc : card ∈ z.row zone) :
    (z.update zone (·.erase card)).weigh w + w zone card = z.weigh w := by
  have h := weigh_update w hs hz (·.erase card)
  have he := CardRow.weigh_erase (w zone) hc
  omega

theorem find?_updateMat_of_ne {name other : String} (f : CardRow → CardRow)
    (mats : List (String × CardRow)) (h : name ≠ other) :
    (updateMat name f mats).find? (·.1 == other) = mats.find? (·.1 == other) := by
  have hne : (name == other) = false := beq_eq_false_iff_ne.mpr h
  induction mats with
  | nil => simp [updateMat, hne]
  | cons first rest ih =>
    obtain ⟨first, cards⟩ := first
    unfold updateMat
    split
    · next heq =>
      subst heq
      simp [hne]
    · split
      · simp [hne]
      · simp only [List.find?_cons, ih]

/-- A change of one zone leaves the others alone. -/
theorem row_update_of_ne {zone other : Zone} (z : PlayerZones) (f : CardRow → CardRow)
    (h : zone ≠ other) : (z.update zone f).row other = z.row other := by
  cases zone with
  | mat name =>
    cases other with
    | mat other =>
      have hname : name ≠ other := fun heq => h (by rw [heq])
      simp only [row, get?, mat?, update, find?_updateMat_of_ne f z.mats hname]
    | _ => rfl
  | _ => cases other <;> first | rfl | exact absurd rfl h

theorem find?_updateMat_self (name : String) (f : CardRow → CardRow)
    {mats : List (String × CardRow)} (hs : mats.Pairwise fun m m' => m.1 < m'.1) :
    (updateMat name f mats).find? (·.1 == name) =
      some (name, f (((mats.find? (·.1 == name)).map (·.2)).getD [])) := by
  induction mats with
  | nil => simp [updateMat]
  | cons first rest ih =>
    obtain ⟨other, cards⟩ := first
    by_cases heq : other = name
    · subst heq
      simp [updateMat]
    · by_cases hlt : name < other
      · have hnone : ((other, cards) :: rest).find? (·.1 == name) = none := by
          apply find?_mat_eq_none
          intro m hm
          rcases List.mem_cons.mp hm with rfl | hm
          · exact hlt
          · exact String.lt_trans hlt (List.rel_of_pairwise_cons hs hm)
        rw [hnone]
        simp [updateMat, heq, hlt]
      · simp only [updateMat, heq, hlt, if_false, List.find?_cons, beq_eq_false_iff_ne.mpr heq]
        exact ih hs.of_cons

theorem row_update_self {z : PlayerZones} (hs : z.MatsSorted) {zone : Zone} (hz : holds zone)
    (f : CardRow → CardRow) : (z.update zone f).row zone = f (z.row zone) := by
  cases zone with
  | trash => simp [holds] at hz
  | mat name => simp only [row, get?, mat?, update, find?_updateMat_self name f hs, Option.map_some,
      Option.getD_some]
  | _ => rfl

theorem mem_inOrder_of_mem_row {z : PlayerZones} {zone : Zone} {card : CardId}
    (h : card ∈ z.row zone) : (zone, z.row zone) ∈ z.inOrder := by
  cases zone with
  | mat name =>
    cases hfind : z.mats.find? (·.1 == name) with
    | none => simp [row, get?, mat?, hfind] at h
    | some m =>
      have hname : m.1 = name := by simpa using List.find?_some hfind
      have hrow : z.row (.mat name) = m.2 := by simp [row, get?, mat?, hfind]
      rw [hrow]
      simp only [inOrder, List.mem_append, List.mem_map]
      exact Or.inr ⟨m, List.mem_of_find?_eq_some hfind, by rw [hname]⟩
  | trash => simp [row, get?] at h
  | _ => simp [inOrder, row, get?]

theorem mem_allCards_of_mem_row {z : PlayerZones} {zone : Zone} {card : CardId}
    (h : card ∈ z.row zone) : card ∈ z.allCards :=
  List.mem_flatMap.mpr ⟨_, mem_inOrder_of_mem_row h, h⟩

/-- A card that a player has once lies in one zone. -/
theorem zone_unique {z : PlayerZones} (hn : z.allCards.Nodup) {zone other : Zone} {card : CardId}
    (h : card ∈ z.row zone) (h' : card ∈ z.row other) : zone = other := by
  by_contra hne
  have hdisjoint := (List.nodup_flatMap.mp hn).2
  have hsymm : Std.Symm (fun e e' : Zone × CardRow => List.Disjoint e.2 e'.2) :=
    ⟨fun _ _ hd c hc hc' => hd hc' hc⟩
  have hpair := hdisjoint.forall (mem_inOrder_of_mem_row h) (mem_inOrder_of_mem_row h')
    fun heq => hne (congrArg Prod.fst heq)
  exact hpair h h'

/-- Looking a zone up by its name finds it, since no mat is there twice. -/
theorem row_of_mem_inOrder {z : PlayerZones} (hs : z.MatsSorted) {zone : Zone} {cards : CardRow}
    (h : (zone, cards) ∈ z.inOrder) : holds zone ∧ z.row zone = cards := by
  simp only [inOrder, List.cons_append, List.nil_append, List.mem_cons, List.mem_map,
    Prod.mk.injEq] at h
  rcases h with ⟨rfl, rfl⟩ | ⟨rfl, rfl⟩ | ⟨rfl, rfl⟩ | ⟨rfl, rfl⟩ | ⟨rfl, rfl⟩ | ⟨m, hm, rfl, rfl⟩
  case inr.inr.inr.inr.inr =>
    refine ⟨rfl, ?_⟩
    have hfind : z.mats.find? (·.1 == m.1) = some m := by
      obtain ⟨before, after, hsplit⟩ := List.append_of_mem hm
      rw [hsplit, List.find?_append, List.find?_eq_none.mpr]
      · simp
      · intro m' hm' heq
        rw [MatsSorted, hsplit, List.pairwise_append] at hs
        have hlt := hs.2.2 m' hm' m List.mem_cons_self
        rw [beq_iff_eq] at heq
        exact String.lt_irrefl m.1 (heq ▸ hlt)
    simp [row, get?, mat?, hfind]
  all_goals exact ⟨rfl, rfl⟩

theorem mem_row_of_locate {z : PlayerZones} (hs : z.MatsSorted) {card : CardId} {zone : Zone}
    (h : z.locate card = some zone) : holds zone ∧ card ∈ z.row zone := by
  obtain ⟨⟨zone', cards⟩, hfind, rfl⟩ := Option.map_eq_some_iff.mp h
  obtain ⟨hz, hrow⟩ := row_of_mem_inOrder hs (List.mem_of_find?_eq_some hfind)
  refine ⟨hz, ?_⟩
  have hcontains := List.find?_some hfind
  rw [hrow]
  simpa using hcontains

/-- A card that a player has once is found in the zone in which it lies. -/
theorem locate_of_mem_row {z : PlayerZones} (hs : z.MatsSorted) (hn : z.allCards.Nodup) {zone : Zone}
    {card : CardId} (h : card ∈ z.row zone) : z.locate card = some zone := by
  cases hloc : z.locate card with
  | none =>
    have hentry := List.find?_eq_none.mp (Option.map_eq_none_iff.mp hloc)
    have hnone := hentry _ (mem_inOrder_of_mem_row h)
    exact absurd (List.contains_iff_mem.mpr h) hnone
  | some other => rw [zone_unique hn h (mem_row_of_locate hs hloc).2]

/-- Taking a card out of the zone where it is found. -/
theorem remove?_eq_some_iff {z z' : PlayerZones} {card : CardId} {zone : Zone} :
    z.remove? card = some (zone, z') ↔
      z.locate card = some zone ∧ z' = z.update zone (·.erase card) := by
  simp only [remove?, Option.map_eq_some_iff, Prod.mk.injEq]
  constructor
  · rintro ⟨a, ha, rfl, rfl⟩
    exact ⟨ha, rfl⟩
  · rintro ⟨ha, rfl⟩
    exact ⟨zone, ha, rfl, rfl⟩

theorem weigh_remove? (w : Zone → CardId → Nat) {z z' : PlayerZones} (hs : z.MatsSorted)
    {card : CardId} {zone : Zone} (h : z.remove? card = some (zone, z')) :
    z'.weigh w + w zone card = z.weigh w := by
  obtain ⟨hloc, rfl⟩ := remove?_eq_some_iff.mp h
  obtain ⟨hz, hc⟩ := mem_row_of_locate hs hloc
  exact weigh_take w hs hz hc

theorem MatsSorted.remove? {z z' : PlayerZones} (hs : z.MatsSorted) {card : CardId} {zone : Zone}
    (h : z.remove? card = some (zone, z')) : z'.MatsSorted := by
  obtain ⟨-, rfl⟩ := remove?_eq_some_iff.mp h
  exact hs.update zone _

/-- A card taken out of one zone and put into another is still there, once. -/
theorem perm_put_remove? {z z' : PlayerZones} (hs : z.MatsSorted) {card : CardId}
    {zone target : Zone} (h : z.remove? card = some (zone, z')) (ht : holds target)
    (position : Position) :
    (z'.update target (·.insert card position)).allCards.Perm z.allCards := by
  rw [List.perm_iff_count]
  intro c
  have htake := weigh_remove? (fun _ d => if d = c then 1 else 0) hs h
  have hput := weigh_put (fun _ d => if d = c then 1 else 0) (hs.remove? h) ht card position
  simp only [weigh_indicator] at htake hput
  omega

theorem MatsSorted.transfer {z : PlayerZones} (hs : z.MatsSorted) (card : CardId)
    (source target : Zone) (position : Position) :
    (z.transfer card source target position).2.MatsSorted := by
  unfold PlayerZones.transfer
  dsimp only
  by_cases hc : (((z.update source id).get? source).getD []).contains card = true
  · rw [if_pos hc]
    split <;> exact ((hs.update _ _).update _ _).update _ _
  · rw [if_neg hc]
    exact hs.update _ _

/-- A transfer that takes place changes the weight of the one card; any other changes nothing. -/
theorem weigh_transfer (w : Zone → CardId → Nat) {z : PlayerZones} (hs : z.MatsSorted)
    (card : CardId) {source : Zone} (hz : holds source) (target : Zone) (position : Position) :
    (z.transfer card source target position).2.weigh w +
        (if (z.transfer card source target position).1 then w source card else 0) =
      z.weigh w +
        (if (z.transfer card source target position).1 then w target card else 0) := by
  have hs' := hs.update source id
  have hid : (z.update source id).weigh w = z.weigh w := by
    have h := weigh_update w hs hz id
    simp only [id_eq] at h
    omega
  unfold transfer
  by_cases hc : card ∈ (z.update source id).row source
  · have htake := weigh_take w hs' hz hc
    have hs'' := hs'.update source (·.erase card)
    simp only [row] at hc
    simp only [List.contains_iff_mem.mpr hc, if_true]
    by_cases ht : holds target
    · have hput := weigh_put w hs'' ht card position
      simp only [ht, if_true]
      omega
    · have hput := weigh_put w hs'' hz card .top
      simp only [ht, if_false, Bool.false_eq_true, Nat.add_zero]
      omega
  · simp only [row] at hc
    have hnc : ((((z.update source id).get? source).getD []).contains card) = false := by
      simpa using hc
    simp only [hnc, Bool.false_eq_true, if_false, Nat.add_zero]
    exact hid

/-- A transfer out of a zone that holds the card takes place, and nothing but the card comes to the
target, and nothing to the other zones. -/
theorem transfer_of_mem {z : PlayerZones} (hs : z.MatsSorted) {card : CardId} {source target : Zone}
    (hz : holds source) (hc : card ∈ z.row source) (ht : holds target) (position : Position) :
    (z.transfer card source target position).1 = true ∧
      ∀ zone, target ≠ zone → ∀ c ∈ (z.transfer card source target position).2.row zone,
        c ∈ z.row zone := by
  have hrow : card ∈ (z.update source id).row source := by
    rw [row_update_self hs hz]
    exact hc
  have hcontains : (((z.update source id).get? source).getD []).contains card = true := by
    simpa [row] using hrow
  simp only [transfer, hcontains, if_true, ht, true_and]
  intro zone hne c hc'
  rw [row_update_of_ne _ _ hne] at hc'
  by_cases heq : source = zone
  · subst heq
    rw [row_update_self (hs.update source id) hz, row_update_self hs hz] at hc'
    exact List.mem_of_mem_erase hc'
  · rwa [row_update_of_ne _ _ heq, row_update_of_ne _ _ heq] at hc'

/-- The weight of a transfer within the zones that weigh alike is unchanged, done or not. -/
theorem count_transfer {z : PlayerZones} (hs : z.MatsSorted) (card : CardId) {source : Zone}
    (hz : holds source) (target : Zone) (position : Position) (c : CardId) :
    (z.transfer card source target position).2.allCards.count c = z.allCards.count c := by
  have h := weigh_transfer (fun _ d => if d = c then 1 else 0) hs card hz target position
  simp only [weigh_indicator] at h
  split at h <;> omega

/-- The whole hand laid onto the discard pile. -/
theorem perm_layDown (z : PlayerZones) :
    ({ z with hand := [], discard := z.discard ++ z.hand } : PlayerZones).allCards.Perm
      z.allCards := by
  rw [List.perm_iff_count]
  intro c
  simp only [← weigh_indicator, weigh_eq, CardRow.weigh_append]
  have hnil : CardRow.weigh (fun d => if d = c then 1 else 0) [] = 0 := rfl
  omega

end PlayerZones

namespace Tableau

open DeckBuilder.Random

theorem remove?_eq_some {t t' : Tableau} {card : CardId} {zone : Zone}
    (h : t.remove? card = some (zone, t')) :
    ∃ zones, t.zones.remove? card = some (zone, zones) ∧ t' = { t with zones } := by
  obtain ⟨⟨_, zones⟩, hzones, heq⟩ := Option.map_eq_some_iff.mp h
  obtain ⟨rfl, rfl⟩ := Prod.mk.inj heq
  exact ⟨zones, hzones, rfl⟩

/-- A card is taken out of the zone where it is found, if it is found. -/
theorem remove?_eq_none_iff {t : Tableau} {card : CardId} :
    t.remove? card = none ↔ t.zones.locate card = none := by
  simp [remove?, PlayerZones.remove?]

/-- Hand, deck and discard pile weigh alike, so that drawing and shuffling change nothing. -/
def Even (w : Zone → CardId → Nat) : Prop := w .hand = w .deck ∧ w .discard = w .deck

variable {w : Zone → CardId → Nat}

theorem weigh_reshuffle (hw : Even w) (t : Tableau) (g : Generator) :
    (t.reshuffle g).2.1.zones.weigh w = t.zones.weigh w := by
  unfold reshuffle
  split
  · rfl
  · have hperm := CardRow.weigh_perm (w .deck) (perm_shuffle t.zones.discard g)
    simp only [PlayerZones.weigh_eq, CardRow.weigh_append, hw.2] at hperm ⊢
    have hnil : CardRow.weigh (w .deck) [] = 0 := rfl
    omega

theorem weigh_prepare (hw : Even w) (t : Tableau) (n : Nat) (g : Generator) :
    (t.prepare n g).1.zones.weigh w = t.zones.weigh w := by
  unfold prepare
  split
  · exact weigh_reshuffle hw t g
  · rfl

theorem weigh_draw (hw : Even w) (t : Tableau) (g : Generator) :
    (t.draw g).2.1.zones.weigh w = t.zones.weigh w := by
  have hp := weigh_prepare hw t 1 g
  unfold draw
  generalize t.prepare 1 g = prepared at hp ⊢
  obtain ⟨t', g'⟩ := prepared
  simp only [CardRow.draw] at hp ⊢
  split
  · next card deck heq =>
    obtain ⟨htop, rfl⟩ := Prod.mk.inj heq
    have hd := CardRow.weigh_dropLast (w .deck) htop
    have hone : CardRow.weigh (w .deck) [card] = w .deck card := by simp [CardRow.weigh]
    simp only [PlayerZones.weigh_eq, CardRow.weigh_append, hw.1] at hp ⊢
    omega
  · exact hp

theorem weigh_topCards (hw : Even w) (t : Tableau) (n : Nat) (g : Generator) :
    (t.topCards n g).2.1.zones.weigh w = t.zones.weigh w :=
  weigh_prepare hw t n g

/-- Cards transferred one after the other stay with the player. -/
theorem foldl_transfer (cards : List CardId) (source : Zone) (hz : PlayerZones.holds source)
    (target : Zone) (position : Position) {t : Tableau} (hm : t.zones.MatsSorted) :
    ∃ zones, zones.MatsSorted ∧ zones.allCards.Perm t.allCards ∧
      cards.foldl (fun t c => (t.transfer c source target position).2) t = { t with zones } := by
  induction cards generalizing t with
  | nil => exact ⟨t.zones, hm, List.Perm.refl _, rfl⟩
  | cons card rest ih =>
    obtain ⟨zones, hm', hperm, heq⟩ := ih (t := (t.transfer card source target position).2)
      (hm.transfer card source target position)
    refine ⟨zones, hm', hperm.trans ?_, heq⟩
    rw [List.perm_iff_count]
    exact PlayerZones.count_transfer hm card hz target position

/-! ### What drawing and looking leave alone -/

theorem prepare_eq (t : Tableau) (n : Nat) (g : Generator) :
    ∃ deck discard, (t.prepare n g).1 = { t with zones := { t.zones with deck, discard } } := by
  unfold prepare reshuffle
  split
  · split
    · exact ⟨t.zones.deck, t.zones.discard, rfl⟩
    · exact ⟨_, [], rfl⟩
  · exact ⟨t.zones.deck, t.zones.discard, rfl⟩

theorem draw_eq (t : Tableau) (g : Generator) :
    ∃ hand deck discard,
      (t.draw g).2.1 = { t with zones := { t.zones with hand, deck, discard } } := by
  obtain ⟨deck, discard, hp⟩ := prepare_eq t 1 g
  unfold draw
  generalize t.prepare 1 g = prepared at hp ⊢
  obtain ⟨t', g'⟩ := prepared
  dsimp only at hp ⊢
  subst hp
  split
  · exact ⟨_, _, discard, rfl⟩
  · exact ⟨t.zones.hand, deck, discard, rfl⟩

theorem perm_draw (t : Tableau) (g : Generator) :
    (t.draw g).2.1.allCards.Perm t.allCards := by
  rw [List.perm_iff_count]
  intro card
  have h := weigh_draw (w := fun _ c => if c = card then 1 else 0) ⟨rfl, rfl⟩ t g
  simp only [PlayerZones.weigh_indicator] at h
  exact h

theorem perm_topCards (t : Tableau) (n : Nat) (g : Generator) :
    (t.topCards n g).2.1.allCards.Perm t.allCards := by
  rw [List.perm_iff_count]
  intro card
  have h := weigh_topCards (w := fun _ c => if c = card then 1 else 0) ⟨rfl, rfl⟩ t n g
  simp only [PlayerZones.weigh_indicator] at h
  exact h

end Tableau

end DeckBuilder
