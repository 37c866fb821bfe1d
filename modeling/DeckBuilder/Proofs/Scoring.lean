import DeckBuilder.Proofs.CatalogTurns
import DeckBuilder.Proofs.Results

/-!
What the points of a player depend on. With the cards of the catalog these are the tokens and what is printed
on the cards that the player has, wherever these lie: the Gardens, which alone go by more than themselves,
count the same cards once more.
-/
namespace DeckBuilder

theorem Registry.eq_gardens {d : CardDefinition} (hd : d ∈ allCards) (h : d.pointsRule ≠ none) :
    d = Catalog.gardens := by
  refine eq_of_filter (p := fun d => d.pointsRule.isSome) rfl hd ?_
  exact Option.isSome_iff_ne_none.mpr h

namespace GameState

/-- What is printed on each of a player's cards. -/
def collection (s : GameState) (t : Tableau) : List (Option CardDefinition) :=
  t.allCards.map fun card => (s.card? card).map (·.definition)

variable {s s' : GameState} {id : PlayerId} {p p' : Player}

/-- What a card of the catalog is worth to a player is printed on it, or depends on the number of the player's
cards. -/
theorem cardPoints_congr {d : CardDefinition} (hd : d ∈ Registry.allCards) (hp : s.player? id = some p)
    (hp' : s'.player? id = some p') (hcount : p'.allCards.length = p.allCards.length) :
    s'.cardPoints d id = s.cardPoints d id := by
  cases hrule : d.pointsRule with
  | none => simp only [cardPoints, hrule]
  | some rule =>
    obtain rfl : d = Catalog.gardens := Registry.eq_gardens hd (by simp [hrule])
    simp only [cardPoints, Catalog.gardens, outlook, hp, hp', Option.map_some, hcount]

theorem map_worth (s : GameState) (id : PlayerId) (t : Tableau) :
    t.allCards.map (s.worth id) = (s.collection t).map fun d => d.elim 0 (s.cardPoints · id) := by
  rw [collection, List.map_map]
  refine List.map_congr_left fun card _ => ?_
  rw [worth, Function.comp_apply]
  cases s.card? card <;> rfl

/-- Points depend on tokens and cards only. -/
theorem points_congr (hs : s.Sound) (hs' : s'.Sound)
    (hcatalog : ∀ card c, s'.card? card = some c → c.definition ∈ Registry.allCards)
    (hp : s.player? id = some p) (hp' : s'.player? id = some p')
    (htokens : p'.victoryTokens = p.victoryTokens)
    (hperm : (s'.collection p'.toTableau).Perm (s.collection p.toTableau)) :
    ∃ total, s.points id = .ok total ∧ s'.points id = .ok total := by
  have hcount : p'.allCards.length = p.allCards.length := by
    simpa only [collection, List.length_map] using hperm.length_eq
  have hsame : (s'.collection p'.toTableau).map (fun d => d.elim 0 (s'.cardPoints · id)) =
      (s'.collection p'.toTableau).map fun d => d.elim 0 (s.cardPoints · id) := by
    refine List.map_congr_left fun d? hd? => ?_
    obtain ⟨card, -, rfl⟩ := List.mem_map.mp hd?
    cases hc : s'.card? card with
    | none => rfl
    | some c => exact cardPoints_congr (hcatalog card c hc) hp hp' hcount
  obtain ⟨total, htotal⟩ := Catalog.points_ok hs hp
  obtain ⟨total', htotal'⟩ := Catalog.points_ok hs' hp'
  obtain ⟨q, hq, -, hsum⟩ := points_eq htotal
  obtain ⟨q', hq', -, hsum'⟩ := points_eq htotal'
  obtain rfl := Option.some.inj (hp.symm.trans hq)
  obtain rfl := Option.some.inj (hp'.symm.trans hq')
  have hequal : total' = total := by
    rw [hsum, hsum', htokens, map_worth, map_worth, hsame, (hperm.map _).sum_eq]
  exact ⟨total, htotal, hequal ▸ htotal'⟩

end GameState

end DeckBuilder
