import DeckBuilder.Proofs.Telling
import Mathlib.Data.List.Permutation
import Mathlib.Data.Set.Card
import Mathlib.Data.Set.Function

/-!
Shuffling as a choice of indexes. Each place of a list but the first gets an index, which is that place or
one below it. What is exchanged into a place stays there, and the places below are arranged without it. So
no two ways of choosing the indexes arrange different things in the same order, and every order is reached.
A shuffle chooses the indexes by one call for a random number each.
-/
namespace DeckBuilder.Random

/-- An index for each place of `n` but the first, from the last place down: that place or one below. -/
structure Indexes (n : Nat) (js : List Nat) : Prop where
  length : js.length = n - 1
  le : ∀ k j, js[k]? = some j → j ≤ n - 1 - k

theorem indexes_of_le_one {n : Nat} (hn : n ≤ 1) {js : List Nat} : Indexes n js ↔ js = [] := by
  constructor
  · intro h
    exact List.length_eq_zero_iff.mp (by rw [h.length]; omega)
  · rintro rfl
    exact ⟨by rw [List.length_nil]; omega, by simp⟩

theorem indexes_cons {n j : Nat} {js : List Nat} :
    Indexes (n + 2) (j :: js) ↔ j ≤ n + 1 ∧ Indexes (n + 1) js := by
  constructor
  · intro h
    refine ⟨h.le 0 j rfl, by simpa using h.length, fun k i hi => ?_⟩
    have hle := h.le (k + 1) i hi
    omega
  · intro h
    obtain ⟨hj, hjs⟩ := h
    refine ⟨by simpa using hjs.length, fun k i hi => ?_⟩
    cases k with
    | zero =>
      obtain rfl := Option.some.inj hi
      exact hj
    | succ k =>
      have hle := hjs.le k i hi
      omega

/-- The indexes for the places up to `n + 1` are one for this place and those for the places below. -/
theorem Indexes.exists_cons {n : Nat} {js : List Nat} (h : Indexes (n + 2) js) :
    ∃ j rest, js = j :: rest ∧ j ≤ n + 1 ∧ Indexes (n + 1) rest := by
  cases js with
  | nil => exact absurd h.length (by simp)
  | cons j rest => exact ⟨j, rest, rfl, indexes_cons.mp h⟩

/-! ### Exchanging along the indexes -/

section

variable {α : Type} {xs ys : Array α} {n : Nat} {js js' : List Nat}

theorem getElem?_swap_left {i j : Nat} (hi : i < xs.size) (hj : j < xs.size) :
    (xs.swap i j hi hj)[i]? = xs[j]? := by
  rw [Array.getElem?_eq_getElem (by rwa [Array.size_swap]), Array.getElem_swap_left,
    Array.getElem?_eq_getElem hj]

/-- An exchange leaves the places above it as they are. -/
theorem getElem?_swap_of_lt {i j k : Nat} (hi : i < xs.size) (hj : j ≤ i) (hk : i < k) :
    (xs.swap i j hi (hj.trans_lt hi))[k]? = xs[k]? := by
  rw [Array.getElem?_swap, if_neg (by omega), if_neg (by omega)]

theorem perm_swap {i j : Nat} (hi : i < xs.size) (hj : j < xs.size) :
    (xs.swap i j hi hj).toList.Perm xs.toList :=
  Array.perm_iff_toList_perm.mp (Array.swap_perm hi hj)

/-- Different things in different places. -/
theorem eq_of_getElem? (hxs : xs.toList.Nodup) {i j : Nat} (hi : i < xs.size)
    (h : xs[i]? = xs[j]?) : i = j := by
  rw [← Array.getElem?_toList, ← Array.getElem?_toList] at h
  exact (List.getElem?_inj (by rwa [Array.length_toList]) hxs).mp h

/-- The exchange of the last place comes first. -/
theorem arrange_cons {j : Nat} (h : Indexes (n + 1) js) (hn : n + 1 < xs.size) (hj : j ≤ n + 1) :
    arrange xs (j :: js) = arrange (xs.swap (n + 1) j hn (hj.trans_lt hn)) js := by
  rw [arrange, h.length, Nat.add_sub_cancel, Array.swapIfInBounds_def, dif_pos hn,
    dif_pos (hj.trans_lt hn)]

/-- The places above those with an index stay as they are. -/
theorem getElem?_arrange (h : Indexes (n + 1) js) (hn : n < xs.size) {i : Nat} (hi : n < i) :
    (arrange xs js)[i]? = xs[i]? := by
  induction n generalizing xs js with
  | zero =>
    obtain rfl := (indexes_of_le_one (Nat.le_refl 1)).mp h
    rfl
  | succ n ih =>
    obtain ⟨j, rest, rfl, hj, hrest⟩ := h.exists_cons
    rw [arrange_cons hrest hn hj, ih hrest (by rw [Array.size_swap]; omega) (by omega),
      getElem?_swap_of_lt hn hj hi]

/-- The last place gets what was at its index. -/
theorem getElem?_arrange_cons {j : Nat} (h : Indexes (n + 1) js) (hn : n + 1 < xs.size)
    (hj : j ≤ n + 1) : (arrange xs (j :: js))[n + 1]? = xs[j]? := by
  rw [arrange_cons h hn hj, getElem?_arrange h (by rw [Array.size_swap]; omega) (Nat.lt_succ_self n),
    getElem?_swap_left]

/-- Different indexes arrange different things differently. -/
theorem arrange_injective (hxs : xs.toList.Nodup) (hn : n < xs.size) (h : Indexes (n + 1) js)
    (h' : Indexes (n + 1) js') (heq : arrange xs js = arrange xs js') : js = js' := by
  induction n generalizing xs js js' with
  | zero => rw [(indexes_of_le_one (Nat.le_refl 1)).mp h, (indexes_of_le_one (Nat.le_refl 1)).mp h']
  | succ n ih =>
    obtain ⟨j, rest, rfl, hj, hrest⟩ := h.exists_cons
    obtain ⟨j', rest', rfl, hj', hrest'⟩ := h'.exists_cons
    have hlast : xs[j]? = xs[j']? := by
      rw [← getElem?_arrange_cons hrest hn hj, heq, getElem?_arrange_cons hrest' hn hj']
    obtain rfl := eq_of_getElem? hxs (hj.trans_lt hn) hlast
    rw [arrange_cons hrest hn hj, arrange_cons hrest' hn hj] at heq
    have hswapped := (perm_swap hn (hj.trans_lt hn)).nodup_iff.mpr hxs
    exact congrArg (j :: ·) (ih hswapped (by rw [Array.size_swap]; omega) hrest hrest' heq)

/-- Arrangements of the same things that agree in all places but the first are the same. -/
theorem eq_of_perm_of_agree (hperm : ys.toList.Perm xs.toList) (h : ∀ i, 0 < i → ys[i]? = xs[i]?) :
    ys = xs := by
  rw [← Array.toList_inj]
  have htail : ∀ i, ys.toList[i + 1]? = xs.toList[i + 1]? := fun i => by
    simpa using h (i + 1) (Nat.succ_pos i)
  generalize ys.toList = zs at *
  generalize xs.toList = ws at *
  cases zs with
  | nil => exact hperm.nil_eq
  | cons z zs =>
    cases ws with
    | nil => exact absurd hperm.symm.nil_eq (by simp)
    | cons w ws =>
      obtain rfl : zs = ws := List.ext_getElem? fun i => htail i
      have hhead : [z].Perm [w] := (List.perm_append_right_iff zs).mp hperm
      rw [List.singleton_perm_singleton.mp hhead]

/-- Every order is reached that leaves the places above those with an index as they are. -/
theorem exists_arrange (hxs : xs.toList.Nodup) (hn : n < xs.size)
    (hperm : ys.toList.Perm xs.toList) (hagree : ∀ i, n < i → ys[i]? = xs[i]?) :
    ∃ js, Indexes (n + 1) js ∧ arrange xs js = ys := by
  induction n generalizing xs with
  | zero =>
    exact ⟨[], (indexes_of_le_one (Nat.le_refl 1)).mpr rfl, (eq_of_perm_of_agree hperm hagree).symm⟩
  | succ n ih =>
    have hys : ys.toList.Nodup := hperm.nodup_iff.mpr hxs
    have hn' : n + 1 < ys.size := by
      have hlength := hperm.length_eq
      rw [Array.length_toList, Array.length_toList] at hlength
      omega
    -- What is wanted in the last place is somewhere, and it is not above that place.
    have hmem : ys[n + 1] ∈ xs.toList := hperm.mem_iff.mp (Array.getElem_mem_toList hn')
    obtain ⟨j, hj, hfound⟩ := List.getElem_of_mem hmem
    rw [Array.length_toList] at hj
    have hlast : xs[j]? = ys[n + 1]? := by
      rw [Array.getElem?_eq_getElem hj, Array.getElem?_eq_getElem hn', ← hfound, Array.getElem_toList]
    have hj' : j ≤ n + 1 := by
      by_contra habove
      have hsame := eq_of_getElem? hys hn' (hlast.symm.trans (hagree j (by omega)).symm)
      omega
    have hswapped := perm_swap hn hj
    have hagree' : ∀ i, n < i → ys[i]? = (xs.swap (n + 1) j hn hj)[i]? := by
      intro i hi
      rcases Nat.lt_or_eq_of_le (Nat.succ_le_of_lt hi) with habove | rfl
      · rw [getElem?_swap_of_lt hn hj' habove, hagree i habove]
      · rw [getElem?_swap_left, hlast]
    obtain ⟨js, hjs, harrange⟩ := ih (hswapped.nodup_iff.mpr hxs) (by rw [Array.size_swap]; omega)
      (hperm.trans hswapped.symm) hagree'
    exact ⟨j :: js, indexes_cons.mpr ⟨hj', hjs⟩, by rw [arrange_cons hjs hn hj', harrange]⟩

/-- As the indexes vary, every order of different things is reached once. -/
theorem arrange_bijOn {xs : List α} (hxs : xs.Nodup) :
    Set.BijOn (fun js => (arrange xs.toArray js).toList) {js | Indexes xs.length js}
      {ys | ys.Perm xs} := by
  refine ⟨fun js _ => perm_arrange js xs.toArray, ?_, ?_⟩
  · intro js hjs js' hjs' heq
    cases xs with
    | nil =>
      rw [(indexes_of_le_one (Nat.zero_le 1)).mp hjs, (indexes_of_le_one (Nat.zero_le 1)).mp hjs']
    | cons x rest =>
      have hsize : rest.length < (x :: rest).toArray.size := Nat.lt_succ_self _
      exact arrange_injective hxs hsize hjs hjs' (Array.toList_inj.mp heq)
  · intro ys hys
    cases xs with
    | nil => exact ⟨[], (indexes_of_le_one (Nat.zero_le 1)).mpr rfl, hys.symm.nil_eq⟩
    | cons x rest =>
      have hsize : rest.length < (x :: rest).toArray.size := Nat.lt_succ_self _
      have hperm : ys.toArray.toList.Perm (x :: rest) := hys
      have hnone : ∀ i, rest.length < i → ys.toArray[i]? = (x :: rest).toArray[i]? := by
        intro i hi
        have hlength : ys.length = rest.length + 1 := hys.length_eq
        simp [List.getElem?_eq_none, hlength, Nat.succ_le_of_lt hi]
      obtain ⟨js, hjs, harrange⟩ := exists_arrange hxs hsize hperm hnone
      exact ⟨js, hjs, congrArg Array.toList harrange⟩

/-- There are `n!` orders of `n` different things. -/
theorem ncard_perm {xs : List α} (hxs : xs.Nodup) :
    {ys : List α | ys.Perm xs}.ncard = xs.length.factorial := by
  classical
  have hset : {ys : List α | ys.Perm xs} = (xs.permutations.toFinset : Set (List α)) := by
    ext ys
    rw [Finset.mem_coe, List.mem_toFinset, List.mem_permutations]
    rfl
  rw [hset, Set.ncard_coe_finset, List.toFinset_card_of_nodup (List.nodup_permutations xs hxs),
    List.length_permutations]

end

/-! ### Drawing the indexes -/

theorem getElem?_picks {n k : Nat} (g : Generator) (hk : k < n) :
    (picks n g).1[k]? = some ((g.after k).index (n + 1 - k)).1 := by
  induction n generalizing g k with
  | zero => omega
  | succ n ih =>
    cases k with
    | zero => rfl
    | succ k =>
      have hrest := ih (g.index (n + 2)).2 (Nat.lt_of_succ_lt_succ hk)
      rw [Generator.index_snd g (Nat.succ_pos _), ← Generator.after_succ] at hrest
      rw [Nat.add_sub_add_right, ← hrest]
      rfl

/-- What is drawn for a place is that place or one below. -/
theorem indexes_picks (n : Nat) (g : Generator) : Indexes (n + 1) (picks n g).1 := by
  refine ⟨length_picks n g, fun k j hj => ?_⟩
  have hk : k < n := by
    rw [← length_picks n g]
    exact (List.getElem?_eq_some_iff.mp hj).1
  rw [getElem?_picks g hk, Option.some.injEq] at hj
  have hlt := Generator.index_lt (g.after k) (n := n + 1 - k) (by omega)
  omega

/-- A shuffle favours no order. Of the ways to choose the indexes, each of which may be its place or any
place below, no two arrange `n` different things in the same order, and each of the `n!` orders comes of
one. The shuffle arranges them by such indexes, one call for a random number for each place but the
first, and none for nothing. -/
theorem shuffle_unbiased {α : Type} {xs : List α} (hxs : xs.Nodup) :
    Set.BijOn (fun js => (arrange xs.toArray js).toList) {js | Indexes xs.length js}
        {ys | ys.Perm xs} ∧
      {ys : List α | ys.Perm xs}.ncard = xs.length.factorial ∧
      ∀ g, ∃ js, Indexes xs.length js ∧
        (∀ k < js.length, js[k]? = some ((g.after k).index (xs.length - k)).1) ∧
        shuffle xs g = ((arrange xs.toArray js).toList, g.after js.length) := by
  refine ⟨arrange_bijOn hxs, ncard_perm hxs, fun g => ?_⟩
  cases xs with
  | nil => exact ⟨[], (indexes_of_le_one (Nat.zero_le 1)).mpr rfl, by simp, rfl⟩
  | cons x rest =>
    have hlength := length_picks rest.length g
    refine ⟨(picks rest.length g).1, indexes_picks _ g, fun k hk => ?_, ?_⟩
    · exact getElem?_picks g (hlength ▸ hk)
    · rw [hlength, ← picks_snd]
      rfl

/-- Three different numbers and the six orders of them. -/
theorem shuffle_unbiased_of_three :
    [1, 2, 3].Nodup ∧
      Set.BijOn (fun js => (arrange #[1, 2, 3] js).toList) {js | Indexes 3 js}
        {ys | ys.Perm [1, 2, 3]} ∧
      {ys : List Nat | ys.Perm [1, 2, 3]}.ncard = 6 ∧
      ∀ g, ∃ js, Indexes 3 js ∧ (∀ k < js.length, js[k]? = some ((g.after k).index (3 - k)).1) ∧
        shuffle [1, 2, 3] g = ((arrange #[1, 2, 3] js).toList, g.after js.length) := by
  have hnodup : [1, 2, 3].Nodup := by decide
  exact ⟨hnodup, shuffle_unbiased hnodup⟩

end DeckBuilder.Random
