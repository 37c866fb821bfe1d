import DeckBuilder.Program

/-!
Scripts that fit in front of programs of a kind. A script gives values with a property if every program of
the kind may follow it that copes with such values: the script together with it is of the kind again. There
is a rule for each way in which scripts are put together, whatever the kind.
-/
namespace DeckBuilder

/-- Programs of the kind may follow the script if they cope with values that have the property. -/
def Script.Gives {α : Type} (P : Program → Prop) (s : Script α) (Q : α → Prop) : Prop :=
  ∀ k : α → Program, (∀ a, Q a → P (k a)) → P (s k)

namespace Script.Gives

variable {P : Program → Prop} {α β : Type} {Q : α → Prop} {R : β → Prop}

theorem pure {a : α} (h : Q a) : (Pure.pure a : Script α).Gives P Q := fun _ hk => hk a h

theorem imp {s : Script α} {Q' : α → Prop} (hs : s.Gives P Q) (h : ∀ a, Q a → Q' a) :
    s.Gives P Q' :=
  fun k hk => hs k fun a ha => hk a (h a ha)

theorem bind {s : Script α} {f : α → Script β} (hs : s.Gives P Q) (hf : ∀ a, Q a → (f a).Gives P R) :
    Script.Gives P (s >>= f) R :=
  fun k hk => hs _ fun a ha => hf a ha k hk

theorem ite {c : Prop} [Decidable c] {s s' : Script α} (hs : c → s.Gives P Q)
    (hs' : ¬ c → s'.Gives P Q) : (if c then s else s').Gives P Q := by
  by_cases hc : c
  · rw [if_pos hc]
    exact hs hc
  · rw [if_neg hc]
    exact hs' hc

theorem forM {f : α → Script PUnit} {xs : List α} (hf : ∀ a ∈ xs, (f a).Gives P fun _ => True) :
    Script.Gives P (xs.forM f) fun _ => True := by
  induction xs with
  | nil => exact pure trivial
  | cons a rest ih =>
    change Script.Gives P (f a >>= fun _ => rest.forM f) _
    refine (hf a List.mem_cons_self).bind fun _ _ => ih ?_
    exact fun b hb => hf b (List.mem_cons_of_mem _ hb)

/-- A loop that keeps some of the items. -/
theorem filterM {p : α → Script Bool} {xs : List α} (hp : ∀ a ∈ xs, (p a).Gives P fun _ => True) :
    Script.Gives P (xs.filterM p) fun ys => ∀ y ∈ ys, y ∈ xs := by
  have haux : ∀ (rest acc : List α), (∀ a ∈ rest, a ∈ xs) → (∀ a ∈ acc, a ∈ xs) →
      Script.Gives P (rest.filterAuxM p acc) fun ys => ∀ y ∈ ys, y ∈ xs := by
    intro rest
    induction rest with
    | nil => exact fun acc _ hacc => pure hacc
    | cons a rest ih =>
      intro acc hrest hacc
      refine (hp a (hrest a List.mem_cons_self)).bind fun kept _ => ?_
      refine ih _ (fun b hb => hrest b (List.mem_cons_of_mem _ hb)) ?_
      cases kept with
      | true => exact List.forall_mem_cons.mpr ⟨hrest a List.mem_cons_self, hacc⟩
      | false => exact hacc
  refine (haux xs [] (fun _ h => h) (by simp)).bind fun ys hys => pure ?_
  exact fun y hy => hys y (List.mem_reverse.mp hy)

theorem once {s : Script Unit} (hend : P (.finish false)) (hs : s.Gives P fun _ => True) :
    P s.once :=
  hs _ fun _ _ => hend

theorem keeping {s : Script Bool} (hend : ∀ keep, P (.finish keep)) (hs : s.Gives P fun _ => True) :
    P s.keeping :=
  hs _ fun keep _ => hend keep

end Script.Gives

end DeckBuilder
