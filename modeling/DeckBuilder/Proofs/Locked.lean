import DeckBuilder.Proofs.Weight

/-!
Cards that are locked where they lie. A player's table are the cards in play and set aside; locked
cards lie on tables only, and while other cards are moved about they stay where they are. What is
said here of the zones of one player does not depend on which cards are locked.
-/
namespace DeckBuilder

namespace PlayerZones

/-- The cards that are neither in play nor set aside. -/
def elsewhere (z : PlayerZones) : List CardId :=
  z.hand ++ z.deck ++ z.discard ++ z.mats.flatMap (·.2)

/-- The cards in front of the player. -/
def table (z : PlayerZones) : List CardId := z.inPlay ++ z.setAside

/-- Whether cards in the zone lie on the player's table. -/
def OnTable : Zone → Prop
  | .inPlay | .setAside => True
  | _ => False

/-- No locked card lies anywhere but on the table. -/
def Clear (locked : CardId → Prop) (z : PlayerZones) : Prop := ∀ c ∈ z.elsewhere, ¬ locked c

/-- Nothing has come onto the table, what is locked has stayed there, and nothing that is locked has
come elsewhere. -/
structure Loosened (locked : CardId → Prop) (z z' : PlayerZones) : Prop where
  inPlay : z'.inPlay ⊆ z.inPlay
  setAside : z'.setAside ⊆ z.setAside
  keepsPlay : ∀ c, locked c → c ∈ z.inPlay → c ∈ z'.inPlay
  keepsAside : ∀ c, locked c → c ∈ z.setAside → c ∈ z'.setAside
  clear : z.Clear locked → z'.Clear locked

namespace Loosened

variable {locked : CardId → Prop} {z z' z'' : PlayerZones}

theorem refl (z : PlayerZones) : z.Loosened locked z :=
  ⟨fun _ h => h, fun _ h => h, fun _ _ h => h, fun _ _ h => h, id⟩

theorem trans (h : z.Loosened locked z') (h' : z'.Loosened locked z'') : z.Loosened locked z'' where
  inPlay _ hc := h.inPlay (h'.inPlay hc)
  setAside _ hc := h.setAside (h'.setAside hc)
  keepsPlay c hl hc := h'.keepsPlay c hl (h.keepsPlay c hl hc)
  keepsAside c hl hc := h'.keepsAside c hl (h.keepsAside c hl hc)
  clear hz := h'.clear (h.clear hz)

/-- With the same table, it is enough to look at what lies elsewhere. -/
theorem of_table (hplay : z'.inPlay = z.inPlay) (haside : z'.setAside = z.setAside)
    (h : ∀ c ∈ z'.elsewhere, ¬ locked c ∨ c ∈ z.elsewhere) : z.Loosened locked z' where
  inPlay := by
    rw [hplay]
    exact fun _ h => h
  setAside := by
    rw [haside]
    exact fun _ h => h
  keepsPlay _ _ hc := by rwa [hplay]
  keepsAside _ _ hc := by rwa [haside]
  clear := by
    intro hz c hc
    rcases h c hc with hfree | hmem
    · exact hfree
    · exact hz c hmem

end Loosened

theorem mem_elsewhere {z : PlayerZones} {c : CardId} :
    c ∈ z.elsewhere ↔ c ∈ z.hand ∨ c ∈ z.deck ∨ c ∈ z.discard ∨ ∃ m ∈ z.mats, c ∈ m.2 := by
  simp only [elsewhere, List.mem_append, List.mem_flatMap, or_assoc]

theorem exists_mat_of_mem {z : PlayerZones} {name : String} {c : CardId} (hc : c ∈ z.mat name) :
    ∃ m ∈ z.mats, c ∈ m.2 := by
  rw [mat, mat?] at hc
  cases hfind : z.mats.find? (·.1 == name) with
  | none => simp [hfind] at hc
  | some m =>
    rw [hfind] at hc
    exact ⟨m, List.mem_of_find?_eq_some hfind, hc⟩

/-- A card on a mat after the mat of a name has changed was on a mat before, or comes of the
change. -/
theorem mem_updateMat_cards {name : String} {f : CardRow → CardRow}
    {mats : List (String × CardRow)} {m : String × CardRow} (hm : m ∈ updateMat name f mats) :
    m ∈ mats ∨ m.2 = f [] ∨ ∃ m' ∈ mats, m.2 = f m'.2 := by
  induction mats with
  | nil =>
    rw [updateMat, List.mem_singleton] at hm
    rw [hm]
    exact Or.inr (Or.inl rfl)
  | cons first rest ih =>
    obtain ⟨other, cards⟩ := first
    rw [updateMat] at hm
    by_cases hname : other = name
    · rw [if_pos hname] at hm
      rcases List.mem_cons.mp hm with heq | hm
      · rw [heq]
        exact Or.inr (Or.inr ⟨(other, cards), List.mem_cons_self, rfl⟩)
      · exact Or.inl (List.mem_cons_of_mem _ hm)
    · rw [if_neg hname] at hm
      by_cases hlt : name < other
      · rw [if_pos hlt] at hm
        rcases List.mem_cons.mp hm with heq | hm
        · rw [heq]
          exact Or.inr (Or.inl rfl)
        · exact Or.inl hm
      · rw [if_neg hlt] at hm
        rcases List.mem_cons.mp hm with heq | hm
        · rw [heq]
          exact Or.inl List.mem_cons_self
        · rcases ih hm with hmem | hnil | ⟨m', hm', heq⟩
          · exact Or.inl (List.mem_cons_of_mem _ hmem)
          · exact Or.inr (Or.inl hnil)
          · exact Or.inr (Or.inr ⟨m', List.mem_cons_of_mem _ hm', heq⟩)

/-- A row of which only cards that are not locked are taken, and to which only such are added. -/
structure RowLoosened (locked : CardId → Prop) (f : CardRow → CardRow) : Prop where
  adds : ∀ cards, ∀ c ∈ f cards, locked c → c ∈ cards
  keeps : ∀ cards, ∀ c ∈ cards, locked c → c ∈ f cards

variable {locked : CardId → Prop}

theorem RowLoosened.id : RowLoosened locked id := ⟨fun _ _ h _ => h, fun _ _ h _ => h⟩

theorem RowLoosened.insert {card : CardId} (h : ¬ locked card) (position : Position) :
    RowLoosened locked (·.insert card position) := by
  constructor
  · intro cards c hc hl
    cases position with
    | top =>
      rcases List.mem_append.mp hc with hc | hc
      · exact hc
      · rw [List.mem_singleton.mp hc] at hl
        exact absurd hl h
    | bottom =>
      rcases List.mem_cons.mp hc with heq | hc
      · rw [heq] at hl
        exact absurd hl h
      · exact hc
  · intro cards c hc _
    cases position with
    | top => exact List.mem_append_left _ hc
    | bottom => exact List.mem_cons_of_mem _ hc

theorem RowLoosened.erase {card : CardId} (h : ¬ locked card) :
    RowLoosened locked (·.erase card) := by
  constructor
  · intro cards c hc _
    exact List.mem_of_mem_erase hc
  · intro cards c hc hl
    have hne : c ≠ card := by
      intro heq
      rw [heq] at hl
      exact h hl
    exact (List.mem_erase_of_ne hne).mpr hc

/-- Changing a zone in such a way loosens only, if nothing comes onto the table by it. -/
theorem Loosened.update (z : PlayerZones) {zone : Zone} {f : CardRow → CardRow}
    (hf : RowLoosened locked f) (htable : OnTable zone → ∀ cards, f cards ⊆ cards) :
    z.Loosened locked (z.update zone f) := by
  have helse : ∀ c, c ∈ (z.update zone f).elsewhere → ¬ OnTable zone →
      ¬ locked c ∨ c ∈ z.elsewhere := by
    intro c hc hzone
    by_cases hl : locked c
    · right
      cases zone with
      | hand =>
        rcases mem_elsewhere.mp hc with hc | hc
        · exact mem_elsewhere.mpr (Or.inl (hf.adds _ c hc hl))
        · exact mem_elsewhere.mpr (Or.inr hc)
      | deck =>
        rcases mem_elsewhere.mp hc with hc | hc | hc
        · exact mem_elsewhere.mpr (Or.inl hc)
        · exact mem_elsewhere.mpr (Or.inr (Or.inl (hf.adds _ c hc hl)))
        · exact mem_elsewhere.mpr (Or.inr (Or.inr hc))
      | discard =>
        rcases mem_elsewhere.mp hc with hc | hc | hc | hc
        · exact mem_elsewhere.mpr (Or.inl hc)
        · exact mem_elsewhere.mpr (Or.inr (Or.inl hc))
        · exact mem_elsewhere.mpr (Or.inr (Or.inr (Or.inl (hf.adds _ c hc hl))))
        · exact mem_elsewhere.mpr (Or.inr (Or.inr (Or.inr hc)))
      | mat name =>
        rcases mem_elsewhere.mp hc with hc | hc | hc | ⟨m, hm, hc⟩
        · exact mem_elsewhere.mpr (Or.inl hc)
        · exact mem_elsewhere.mpr (Or.inr (Or.inl hc))
        · exact mem_elsewhere.mpr (Or.inr (Or.inr (Or.inl hc)))
        · refine mem_elsewhere.mpr (Or.inr (Or.inr (Or.inr ?_)))
          rcases mem_updateMat_cards hm with hmem | hnil | ⟨m', hm', heq⟩
          · exact ⟨m, hmem, hc⟩
          · rw [hnil] at hc
            exact absurd (hf.adds [] c hc hl) List.not_mem_nil
          · rw [heq] at hc
            exact ⟨m', hm', hf.adds _ c hc hl⟩
      | trash => exact hc
      | inPlay => exact absurd trivial hzone
      | setAside => exact absurd trivial hzone
    · exact Or.inl hl
  cases zone with
  | inPlay =>
    exact ⟨htable trivial _, fun _ h => h, fun c hl hc => hf.keeps _ c hc hl, fun _ _ h => h, fun h => h⟩
  | setAside =>
    exact ⟨fun _ h => h, htable trivial _, fun _ _ h => h, fun c hl hc => hf.keeps _ c hc hl, fun h => h⟩
  | _ => exact .of_table rfl rfl fun c hc => helse c hc (fun h => h)

/-- A card that is not locked is put anywhere but onto the table. -/
theorem Loosened.put (z : PlayerZones) {card : CardId} (zone : Zone) (h : ¬ locked card)
    (hzone : ¬ OnTable zone) (position : Position) :
    z.Loosened locked (z.update zone (·.insert card position)) :=
  .update z (.insert h position) fun htable => absurd htable hzone

/-- A card that is not locked is taken from anywhere. -/
theorem Loosened.take (z : PlayerZones) {card : CardId} (h : ¬ locked card) (zone : Zone) :
    z.Loosened locked (z.update zone (·.erase card)) :=
  .update z (.erase h) fun _ _ => List.erase_subset

theorem Loosened.remove? {z z' : PlayerZones} {card : CardId} {zone : Zone} (h : ¬ locked card)
    (hremove : z.remove? card = some (zone, z')) : z.Loosened locked z' := by
  obtain ⟨-, heq⟩ := remove?_eq_some_iff.mp hremove
  rw [heq]
  exact .take z h zone

/-- A card that is not locked goes from anywhere to anywhere but the table. -/
theorem Loosened.transfer (z : PlayerZones) {card : CardId} {source target : Zone}
    (h : ¬ locked card) (htarget : ¬ OnTable target) (hsource : holds target) (position : Position) :
    z.Loosened locked (z.transfer card source target position).2 := by
  have hsame : z.Loosened locked (z.update source id) := .update z .id fun _ _ _ hc => hc
  unfold PlayerZones.transfer
  dsimp only
  by_cases hmem : (((z.update source id).get? source).getD []).contains card = true
  · rw [if_pos hmem, if_pos hsource]
    exact (hsame.trans (.take _ h source)).trans (.put _ target h htarget position)
  · rw [if_neg hmem]
    exact hsame

theorem count_allCards (z : PlayerZones) (c : CardId) :
    z.allCards.count c = z.elsewhere.count c + z.inPlay.count c + z.setAside.count c := by
  have hmats : (z.mats.map fun m => ((Zone.mat m.1, m.2) : Zone × CardRow)).flatMap (·.2) =
      z.mats.flatMap (·.2) := by rw [List.flatMap_map]
  simp only [allCards, inOrder, elsewhere, List.flatMap_append, List.flatMap_cons, List.flatMap_nil,
    List.append_nil, List.count_append, hmats]
  omega

/-- The cards elsewhere than on the table are arranged anew. -/
theorem Loosened.of_perm {z z' : PlayerZones} (hplay : z'.inPlay = z.inPlay)
    (haside : z'.setAside = z.setAside) (hperm : z'.allCards.Perm z.allCards) :
    z.Loosened locked z' := by
  refine .of_table hplay haside ?_
  intro c hc
  right
  have hcount := hperm.count_eq c
  rw [count_allCards, count_allCards, hplay, haside] at hcount
  have hpos := List.count_pos_iff.mpr hc
  exact List.count_pos_iff.mp (by omega)

/-! ### Tables -/

theorem onTable_iff {zone : Zone} : OnTable zone ↔ zone = .inPlay ∨ zone = .setAside := by
  cases zone <;> simp [OnTable]

theorem row_of_mem_table {z : PlayerZones} {card : CardId} (h : card ∈ z.table) :
    ∃ zone, OnTable zone ∧ card ∈ z.row zone := by
  rcases List.mem_append.mp h with h | h
  · exact ⟨.inPlay, trivial, h⟩
  · exact ⟨.setAside, trivial, h⟩

/-- A card of the player lies on the table or elsewhere. -/
theorem mem_allCards {z : PlayerZones} {card : CardId} :
    card ∈ z.allCards ↔ card ∈ z.table ∨ card ∈ z.elsewhere := by
  simp only [← List.count_pos_iff, count_allCards, table, List.count_append]
  omega

theorem mem_allCards_of_table {z : PlayerZones} {card : CardId} (h : card ∈ z.table) :
    card ∈ z.allCards :=
  mem_allCards.mpr (Or.inl h)

theorem mem_allCards_of_elsewhere {z : PlayerZones} {card : CardId} (h : card ∈ z.elsewhere) :
    card ∈ z.allCards :=
  mem_allCards.mpr (Or.inr h)

theorem nodup_table {z : PlayerZones} (hz : z.allCards.Nodup) : z.table.Nodup := by
  refine List.nodup_iff_count_le_one.mpr fun card => ?_
  have hone := List.nodup_iff_count_le_one.mp hz card
  rw [count_allCards] at hone
  rw [table, List.count_append]
  omega

/-- A card lies either on the table or elsewhere. -/
theorem not_elsewhere {z : PlayerZones} (hz : z.allCards.Nodup) {card : CardId}
    (h : card ∈ z.table) : card ∉ z.elsewhere := by
  intro helse
  have hone := List.nodup_iff_count_le_one.mp hz card
  have hcount := z.count_allCards card
  have hpos := List.count_pos_iff.mpr helse
  have htable := List.count_pos_iff.mpr h
  rw [table, List.count_append] at htable
  omega

/-- A card on the table is found there. -/
theorem locate_of_table {z : PlayerZones} (hs : z.MatsSorted) (hz : z.allCards.Nodup)
    {card : CardId} (h : card ∈ z.table) :
    ∃ zone, OnTable zone ∧ card ∈ z.row zone ∧ z.locate card = some zone := by
  obtain ⟨zone, hzone, hrow⟩ := row_of_mem_table h
  exact ⟨zone, hzone, hrow, locate_of_mem_row hs hz hrow⟩

/-- A card is taken out of a zone and laid onto the table. -/
def lay (z : PlayerZones) (card : CardId) (source target : Zone) : PlayerZones :=
  (z.update source (·.erase card)).update target (·.insert card .top)

theorem transfer_of_table {z : PlayerZones} {card : CardId} {source target : Zone}
    (hsource : OnTable source) (htarget : OnTable target) (h : card ∈ z.row source) :
    z.transfer card source target .top = (true, z.lay card source target) := by
  rcases onTable_iff.mp hsource with rfl | rfl <;> rcases onTable_iff.mp htarget with rfl | rfl <;>
    simpa [transfer, lay, update, get?, holds, row] using h

/-- The other cards on the table stay there. -/
theorem mem_table_of_erase {z : PlayerZones} {card c : CardId} (source : Zone) (hne : c ≠ card)
    (h : c ∈ z.table) : c ∈ (z.update source (·.erase card)).table := by
  rcases List.mem_append.mp h with h | h
  · refine List.mem_append_left _ ?_
    cases source with
    | inPlay => exact (List.mem_erase_of_ne hne).mpr h
    | _ => exact h
  · refine List.mem_append_right _ ?_
    cases source with
    | setAside => exact (List.mem_erase_of_ne hne).mpr h
    | _ => exact h

theorem table_lay {z : PlayerZones} {card c : CardId} (source : Zone) {target : Zone}
    (htarget : OnTable target) (h : c ∈ z.table ∨ c = card) : c ∈ (z.lay card source target).table := by
  by_cases hc : c = card
  · rw [hc]
    rcases onTable_iff.mp htarget with rfl | rfl
    · exact List.mem_append_left _ (List.mem_append_right _ List.mem_cons_self)
    · exact List.mem_append_right _ (List.mem_append_right _ List.mem_cons_self)
  · have hstay := mem_table_of_erase source hc (h.resolve_right hc)
    rcases onTable_iff.mp htarget with rfl | rfl <;> rcases List.mem_append.mp hstay with hstay | hstay
    · exact List.mem_append_left _ (List.mem_append_left _ hstay)
    · exact List.mem_append_right _ hstay
    · exact List.mem_append_left _ hstay
    · exact List.mem_append_right _ (List.mem_append_left _ hstay)

/-- Nothing comes onto the table by it but the card. -/
theorem mem_table_of_lay {z : PlayerZones} {card c : CardId} {source target : Zone}
    (h : c ∈ (z.lay card source target).table) : c ∈ z.table ∨ c = card := by
  have herase : c ∈ (z.update source (·.erase card)).table → c ∈ z.table := by
    intro hmem
    rcases List.mem_append.mp hmem with hmem | hmem
    · refine List.mem_append_left _ ?_
      cases source with
      | inPlay => exact List.mem_of_mem_erase hmem
      | _ => exact hmem
    · refine List.mem_append_right _ ?_
      cases source with
      | setAside => exact List.mem_of_mem_erase hmem
      | _ => exact hmem
  cases target with
  | inPlay =>
    rcases List.mem_append.mp h with h | h
    · rcases List.mem_append.mp h with h | h
      · exact Or.inl (herase (List.mem_append_left _ h))
      · exact Or.inr (List.mem_singleton.mp h)
    · exact Or.inl (herase (List.mem_append_right _ h))
  | setAside =>
    rcases List.mem_append.mp h with h | h
    · exact Or.inl (herase (List.mem_append_left _ h))
    · rcases List.mem_append.mp h with h | h
      · exact Or.inl (herase (List.mem_append_right _ h))
      · exact Or.inr (List.mem_singleton.mp h)
  | _ => exact Or.inl (herase h)

/-- Nothing comes among the cards set aside but a card that is laid there. -/
theorem setAside_lay {z : PlayerZones} {card c : CardId} {source target : Zone}
    (h : c ∈ (z.lay card source target).setAside) :
    c ∈ z.setAside ∨ c = card ∧ target = .setAside := by
  have herase : c ∈ (z.update source (·.erase card)).setAside → c ∈ z.setAside := by
    cases source with
    | setAside => exact List.mem_of_mem_erase
    | _ => exact id
  cases target with
  | setAside =>
    rcases List.mem_append.mp h with h | h
    · exact Or.inl (herase h)
    · exact Or.inr ⟨List.mem_singleton.mp h, rfl⟩
  | _ => exact Or.inl (herase h)

/-- A card that comes into play is no longer set aside. -/
theorem not_setAside_lay {z : PlayerZones} (hz : z.allCards.Nodup) {card : CardId} {source : Zone}
    (h : card ∈ z.row source) : card ∉ (z.lay card source .inPlay).setAside := by
  intro hmem
  rcases setAside_lay hmem with haside | ⟨-, hzone⟩
  · obtain rfl := zone_unique hz h (show card ∈ z.row .setAside from haside)
    have hone := List.nodup_iff_count_le_one.mp hz card
    have hcount := z.count_allCards card
    have herase : 0 < (z.setAside.erase card).count card := List.count_pos_iff.mpr hmem
    rw [List.count_erase_self] at herase
    omega
  · exact absurd hzone (by simp)

end PlayerZones

namespace Tableau

open DeckBuilder.Random

variable {locked : CardId → Prop}

/-- What is drawn comes from among the cards that are not on the table. -/
theorem loosened_draw (t : Tableau) (g : Generator) :
    t.zones.Loosened locked (t.draw g).2.1.zones := by
  obtain ⟨hand, deck, discard, hdraw⟩ := draw_eq t g
  refine .of_perm ?_ ?_ (perm_draw t g) <;> rw [hdraw]

/-- Looking at the top cards may put the discard pile under the deck. -/
theorem loosened_topCards (t : Tableau) (n : Nat) (g : Generator) :
    t.zones.Loosened locked (t.topCards n g).2.1.zones := by
  obtain ⟨deck, discard, hprepare⟩ := prepare_eq t n g
  have heq : (t.topCards n g).2.1 = (t.prepare n g).1 := rfl
  refine .of_perm ?_ ?_ (perm_topCards t n g) <;> rw [heq, hprepare]

/-- The cards looked at lie on the deck. -/
theorem mem_deck_of_topCards {t : Tableau} {n : Nat} {g : Generator} {c : CardId}
    (hc : c ∈ (t.topCards n g).1) : c ∈ (t.topCards n g).2.1.zones.deck :=
  List.mem_reverse.mp (List.mem_of_mem_take hc)

end Tableau

end DeckBuilder
