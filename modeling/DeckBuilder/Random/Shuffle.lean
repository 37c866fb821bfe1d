import DeckBuilder.Random.Generator

/-!
Shuffling.  Going down from the last place of the list, each place is exchanged with a place not
above it, and the choice of that place is an index drawn from the generator.  `arrange` is the
shuffle as a function of those indexes; `shuffle` draws them.
-/
namespace DeckBuilder.Random

/-- Exchanges along a list of indexes: the first belongs to the place whose number is the length of
the list, the next to the place below, and so on down to place one. -/
def arrange {α : Type} (xs : Array α) : List Nat → Array α
  | [] => xs
  | j :: js => arrange (xs.swapIfInBounds (js.length + 1) j) js

/-- Draws the indexes for the places `n`, `n - 1`, and so on down to one: each at most its place. -/
def picks : Nat → Generator → List Nat × Generator
  | 0, g => ([], g)
  | n + 1, g =>
    let (j, g) := g.index (n + 2)
    let (js, g) := picks n g
    (j :: js, g)

def shuffle {α : Type} (xs : List α) (g : Generator) : List α × Generator :=
  let (js, g) := picks (xs.length - 1) g
  ((arrange xs.toArray js).toList, g)

@[simp] theorem shuffle_nil {α : Type} (g : Generator) : shuffle ([] : List α) g = ([], g) := rfl

theorem length_picks (n : Nat) (g : Generator) : (picks n g).1.length = n := by
  induction n generalizing g with
  | zero => rfl
  | succ n ih => simp [picks, ih]

theorem size_arrange {α : Type} (js : List Nat) (xs : Array α) :
    (arrange xs js).size = xs.size := by
  induction js generalizing xs with
  | nil => rfl
  | cons j js ih => simp [arrange, ih]

theorem length_shuffle {α : Type} (xs : List α) (g : Generator) :
    (shuffle xs g).1.length = xs.length := by
  simp [shuffle, size_arrange]

theorem perm_arrange {α : Type} (js : List Nat) (xs : Array α) :
    (arrange xs js).toList.Perm xs.toList := by
  induction js generalizing xs with
  | nil => exact List.Perm.refl _
  | cons j js ih =>
    refine (ih _).trans ?_
    unfold Array.swapIfInBounds
    split
    · split
      · exact Array.perm_iff_toList_perm.1 (Array.swap_perm ..)
      · exact List.Perm.refl _
    · exact List.Perm.refl _

/-- Shuffling only rearranges. -/
theorem perm_shuffle {α : Type} (xs : List α) (g : Generator) : (shuffle xs g).1.Perm xs := by
  simpa [shuffle] using perm_arrange (picks (xs.length - 1) g).1 xs.toArray

end DeckBuilder.Random
