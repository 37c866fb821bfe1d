import DeckBuilder.Proofs.Coupled
import DeckBuilder.Proofs.Heeded

/-!
Runs that are watched. After every call of a program, those of provoked programs among them, one looks
at the state, at the call and at its answer, and stops the run if there is cause for alarm. Until then
the watched run does as the run itself. So a run that is the same when it is watched, for whatever
reason one would stop it, is a run in the course of which there is no cause for alarm.
-/
namespace DeckBuilder.Engine

variable {M : Type} [Controllers M]

section

variable (alarm : GameState → (c : Call) → c.Answer → Bool) (halt : Halt)

def performUntil (provoke : Program → Engine M Bool) (c : Call) : Engine M c.Answer := do
  let a ← perform provoke c
  if alarm (← state) c a then throw halt else return a

def runWithinUntil : Nat → Program → Engine M Bool
  | 0, _ => throw .endless
  | depth + 1, p => interpret (performUntil alarm halt (runWithinUntil depth)) p

def runUntil (p : Program) : Engine M Bool := do
  runWithinUntil alarm halt (← state).patience p

end

variable {alarm : GameState → (c : Call) → c.Answer → Bool} {halt : Halt}

theorem ensures_performUntil {provoke : Program → Engine M Bool} {c : Call} {g : Game M}
    {Q : c.Answer → Game M → Prop} {E : Halt → Game M → Prop} :
    Ensures (performUntil alarm halt provoke c) g Q E ↔
      Ensures (perform provoke c) g
        (fun a g' => if alarm g'.state c a then E halt g' else Q a g') E := by
  rw [performUntil, ensures_bind]
  refine iff_of_eq (congrArg (Ensures _ g · E) (funext fun a => funext fun g' => ?_))
  rw [ensures_bind, ensures_state]
  by_cases h : alarm g'.state c a = true
  · rw [if_pos h, if_pos h, ensures_throw]
  · rw [if_neg h, if_neg h, ensures_pure]

/-! ### A watched run and the run itself -/

theorem coupling_eq : Coupling (Eq : Game M → Game M → Prop) where
  unlogged := by
    rintro g _ rfl
    exact ⟨g.state.logger, rfl⟩
  change := by
    rintro g _ change - rfl
    rfl
  asked := by
    rintro g _ rfl id q
    exact ⟨rfl, rfl⟩
  told := by
    rintro g _ rfl id won
    rfl

section

variable {E : Halt → Game M → Prop}
variable (halarm : ∀ (provoke : Program → Engine M Bool) g c a g',
  (perform provoke c).runOn g = (.ok a, g') → alarm g'.state c a = true → E halt g')

include halarm

theorem performUntil_coupled {provoke provoke' : Program → Engine M Bool}
    (hprovoke : ∀ p, Coupled Eq E (provoke p) (provoke' p)) (c : Call) :
    Coupled Eq E (perform provoke c) (performUntil alarm halt provoke' c) := by
  rintro g _ rfl
  rw [performUntil, runOn_bind]
  rcases Coupled.perform coupling_eq hprovoke c g g rfl with ⟨hvalue, hgame⟩ | ⟨r, g₁, hstop, hr⟩
  · cases hrun : (perform provoke' c).runOn g with
    | mk value g₁ =>
    rw [hrun] at hvalue hgame
    cases value with
    | error r => exact .inl ⟨hvalue, hgame⟩
    | ok a =>
      have hlook : (do if alarm (← state) c a then throw halt else return a : Engine M _).runOn g₁ =
          if alarm g₁.state c a then (.error halt, g₁) else (.ok a, g₁) := by
        rw [runOn_bind]
        change (if alarm g₁.state c a then _ else _ : Engine M _).runOn g₁ = _
        split <;> rfl
      dsimp only
      rw [hlook]
      by_cases h : alarm g₁.state c a = true
      · rw [if_pos h]
        exact .inr ⟨halt, g₁, rfl, halarm provoke' g c a g₁ hrun h⟩
      · rw [if_neg h]
        exact .inl ⟨hvalue, hgame⟩
  · rw [hstop]
    exact .inr ⟨r, g₁, rfl, hr⟩

theorem runWithinUntil_coupled (depth : Nat) (p : Program) :
    Coupled Eq E (runWithin depth p) (runWithinUntil alarm halt depth p) := by
  induction depth generalizing p with
  | zero => exact .throw _
  | succ depth ih => exact .interpret coupling_eq (performUntil_coupled halarm ih) p

theorem runUntil_coupled (p : Program) : Coupled Eq E (run p) (runUntil alarm halt p) := by
  refine .reads coupling_eq fun s l => ?_
  exact runWithinUntil_coupled halarm s.patience p

end

/-! ### Licences -/

section

variable {L : Licence}

theorem performUntil_heeds {provoke : Program → Engine M Bool}
    (hprovoke : ∀ p : Program, p.Within (.modest L.locked) → Heeds L (provoke p) fun _ => True)
    {c : Call} (hc : c.Within L) : Heeds L (performUntil alarm halt provoke c) (c.Known L) := by
  refine (perform_heeds hprovoke hc).bind fun a ha => Heeds.state.bind fun s _ => ?_
  exact .ite (fun _ => .throw) fun _ => .pure ha

theorem runWithinUntil_heeds (depth : Nat) {L : Licence} {p : Program} (hp : p.Within L) :
    Heeds L (runWithinUntil alarm halt depth p : Engine M Bool) fun _ => True := by
  induction depth generalizing L p with
  | zero => exact .throw
  | succ depth ih =>
    refine interpret_heeds (fun c hc => performUntil_heeds ?_ hc) hp
    exact fun q hq => (ih hq).of_modest

theorem runUntil_heeds {p : Program} (hp : p.Within L) :
    Heeds L (runUntil alarm halt p : Engine M Bool) fun _ => True :=
  Heeds.state.bind fun _ _ => runWithinUntil_heeds _ hp

end

end DeckBuilder.Engine
