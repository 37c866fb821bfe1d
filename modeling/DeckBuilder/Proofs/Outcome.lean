import DeckBuilder.Engine.Operations

/-!
What a computation of the engine leads to. `Ensures e g Q E` says of the one run of `e` from the
game `g`: if it gives a value then `Q` holds of the value and the game after it, and if it stops then
`E` holds of the reason and the game at that moment. Each step that computations are made of has an
equation here, so that a proof about an operation can follow its text.
-/
namespace DeckBuilder.Engine

variable {M : Type} {α β : Type}

def Ensures (e : Engine M α) (g : Game M) (Q : α → Game M → Prop)
    (E : Halt → Game M → Prop) : Prop :=
  match e.runOn g with
  | (.ok a, g') => Q a g'
  | (.error h, g') => E h g'

variable {g : Game M} {Q : α → Game M → Prop} {E : Halt → Game M → Prop}

theorem Ensures.mono {e : Engine M α} {Q' : α → Game M → Prop} {E' : Halt → Game M → Prop}
    (h : Ensures e g Q E) (hQ : ∀ a g', Q a g' → Q' a g') (hE : ∀ r g', E r g' → E' r g') :
    Ensures e g Q' E' := by
  unfold Ensures at h ⊢
  split <;> rename_i heq <;> rw [heq] at h
  · exact hQ _ _ h
  · exact hE _ _ h

theorem Ensures.imp {e : Engine M α} {Q' : α → Game M → Prop}
    (h : Ensures e g Q E) (hQ : ∀ a g', Q a g' → Q' a g') : Ensures e g Q' E :=
  h.mono hQ fun _ _ hE => hE

theorem Ensures.trivial {e : Engine M α} : Ensures e g (fun _ _ => True) fun _ _ => True := by
  unfold Ensures
  split <;> exact True.intro

/-- There is only one run, so what is shown of it apart holds of it together. -/
theorem Ensures.and {e : Engine M α} {Q' : α → Game M → Prop} {E' : Halt → Game M → Prop}
    (h : Ensures e g Q E) (h' : Ensures e g Q' E') :
    Ensures e g (fun a g' => Q a g' ∧ Q' a g') (fun r g' => E r g' ∧ E' r g') := by
  unfold Ensures at h h' ⊢
  split <;> rename_i heq <;> rw [heq] at h h' <;> exact ⟨h, h'⟩

theorem Ensures.ended {e : Engine M α} (h : Ensures e g Q E) {a : α} {g' : Game M}
    (ha : e.runOn g = (.ok a, g')) : Q a g' := by
  rw [Ensures, ha] at h
  exact h

theorem Ensures.stopped {e : Engine M α} (h : Ensures e g Q E) {r : Halt} {g' : Game M}
    (hr : e.runOn g = (.error r, g')) : E r g' := by
  rw [Ensures, hr] at h
  exact h

/-- What is shown of the end of the run, together with the run. -/
theorem Ensures.ran {e : Engine M α} (h : Ensures e g Q E) :
    Ensures e g (fun a g' => Q a g' ∧ e.runOn g = (.ok a, g')) E := by
  unfold Ensures at h ⊢
  split <;> rename_i heq <;> rw [heq] at h
  · exact ⟨h, heq⟩
  · exact h

theorem Ensures.of_runOn {e e' : Engine M α} (heq : e.runOn g = e'.runOn g) (h : Ensures e g Q E) :
    Ensures e' g Q E := by
  unfold Ensures at h ⊢
  rw [← heq]
  exact h

/-- A computation that cannot stop gives a value. -/
theorem Ensures.total {e : Engine M α} (h : Ensures e g Q fun _ _ => False) :
    ∃ a g', e.runOn g = (.ok a, g') ∧ Q a g' := by
  unfold Ensures at h
  split at h <;> rename_i heq
  · exact ⟨_, _, heq, h⟩
  · exact h.elim

/-- What holds whether a computation gives a value or stops holds after it. -/
theorem Ensures.after {e : Engine M α} {P : Game M → Prop}
    (h : Ensures e g (fun _ => P) (fun _ => P)) : P (e.runOn g).2 := by
  unfold Ensures at h
  split at h <;> rename_i heq <;> rw [heq] <;> exact h

/-- A computation that can come to one end only. -/
theorem Ensures.runOn_eq {e : Engine M α} {a : α} {g₁ : Game M}
    (h : Ensures e g (fun b g' => b = a ∧ g' = g₁) fun _ _ => False) :
    e.runOn g = (.ok a, g₁) := by
  obtain ⟨_, _, hran, rfl, rfl⟩ := h.total
  exact hran

theorem runOn_state : (state : Engine M GameState).runOn g = (.ok g.state, g) := rfl

theorem runOn_eq_of_ok {e : Engine M α} {a : α} (h : (e.runOn g).1 = .ok a) :
    e.runOn g = (.ok a, (e.runOn g).2) :=
  Prod.ext h rfl

theorem runOn_bind (e : Engine M α) (f : α → Engine M β) (g : Game M) :
    (e >>= f).runOn g =
      match e.runOn g with
      | (.ok a, g') => (f a).runOn g'
      | (.error h, g') => (.error h, g') := by
  change (match e.runOn g with | (r, g') => (ExceptT.bindCont f r).run g') = _
  rcases e.runOn g with ⟨_ | _, _⟩ <;> rfl

theorem runOn_bind_of_ok {e : Engine M α} {f : α → Engine M β} {a : α} {g' : Game M}
    (h : e.runOn g = (.ok a, g')) : (e >>= f).runOn g = (f a).runOn g' := by
  rw [runOn_bind, h]

theorem runOn_bind_of_error {e : Engine M α} {f : α → Engine M β} {halt : Halt} {g' : Game M}
    (h : e.runOn g = (.error halt, g')) : (e >>= f).runOn g = (.error halt, g') := by
  rw [runOn_bind, h]

/-- What comes of a computation does not depend on whether its value is used. -/
theorem runOn_forget (e : Engine M α) (g : Game M) :
    ((e >>= fun _ => pure ()).runOn g).2 = (e.runOn g).2 := by
  rw [runOn_bind]
  split <;> rename_i heq <;> rw [heq]
  rfl

theorem ensures_bind {e : Engine M α} {f : α → Engine M β} {Q : β → Game M → Prop} :
    Ensures (e >>= f) g Q E ↔ Ensures e g (fun a g' => Ensures (f a) g' Q E) E := by
  unfold Ensures
  rw [runOn_bind]
  rcases e.runOn g with ⟨_ | _, _⟩ <;> rfl

@[simp] theorem ensures_pure {a : α} : Ensures (pure a) g Q E ↔ Q a g := Iff.rfl

@[simp] theorem ensures_throw {h : Halt} : Ensures (throw h : Engine M α) g Q E ↔ E h g := Iff.rfl

@[simp] theorem ensures_fail {error : GameError} :
    Ensures (fail error : Engine M α) g Q E ↔ E (.error error) g := Iff.rfl

@[simp] theorem ensures_state {Q : GameState → Game M → Prop} :
    Ensures state g Q E ↔ Q g.state g := Iff.rfl

@[simp] theorem ensures_modifyState {f : GameState → GameState} {Q : Unit → Game M → Prop} :
    Ensures (modifyState f) g Q E ↔ Q () { g with state := f g.state } := Iff.rfl

@[simp] theorem ensures_publish {id : PlayerId} {kind : EventKind} {Q : Unit → Game M → Prop} :
    Ensures (publish id kind) g Q E ↔ Q () { g with state := g.state.publish id kind } := Iff.rfl

@[simp] theorem ensures_warn {message : String} {Q : Unit → Game M → Prop} :
    Ensures (warn message) g Q E ↔ Q () { g with state := g.state.warn message } := Iff.rfl

@[simp] theorem ensures_verbose {message : String} {Q : Unit → Game M → Prop} :
    Ensures (verbose message) g Q E ↔
      Q () { g with state := g.state.onLogger (·.verbose message) } := Iff.rfl

@[simp] theorem ensures_lift_ok {a : α} :
    Ensures (lift (.ok a) : Engine M α) g Q E ↔ Q a g := Iff.rfl

@[simp] theorem ensures_lift_error {error : GameError} :
    Ensures (lift (.error error) : Engine M α) g Q E ↔ E (.error error) g := Iff.rfl

theorem ensures_map {e : Engine M α} {f : α → β} {Q : β → Game M → Prop} :
    Ensures (f <$> e) g Q E ↔ Ensures e g (fun a g' => Q (f a) g') E := by
  rw [← bind_pure_comp, ensures_bind]
  rfl

theorem ensures_ite {c : Prop} [Decidable c] {e e' : Engine M α} :
    Ensures (if c then e else e') g Q E ↔
      (c → Ensures e g Q E) ∧ (¬ c → Ensures e' g Q E) := by
  by_cases hc : c <;> simp [hc]

theorem ensures_step {f : GameState → Except GameError (α × GameState)} :
    Ensures (step f) g Q E ↔
      match f g.state with
      | .ok (a, s) => Q a { g with state := s }
      | .error e => E (.error e) g := by
  simp only [step, ensures_bind, ensures_state]
  cases f g.state <;> rfl

theorem ensures_player {id : PlayerId} {Q : Player → Game M → Prop} :
    Ensures (player id) g Q E ↔
      match g.state.player? id with
      | some p => Q p g
      | none => E (.error (.playerNotFound id)) g := by
  simp only [player, ensures_bind, ensures_state]
  cases g.state.player? id <;> rfl

theorem ensures_card {id : CardId} {Q : Card → Game M → Prop} :
    Ensures (card id) g Q E ↔
      match g.state.card? id with
      | some c => Q c g
      | none => E (.error (.cardNotFound id)) g := by
  simp only [card, ensures_bind, ensures_state]
  cases g.state.card? id <;> rfl

theorem ensures_definition {id : CardId} {Q : CardDefinition → Game M → Prop} :
    Ensures (definition id) g Q E ↔
      match g.state.card? id with
      | some c => Q c.definition g
      | none => E (.error (.cardNotFound id)) g := by
  simp only [definition, ensures_bind, ensures_card]
  cases g.state.card? id <;> rfl

theorem ensures_modifyPlayer {id : PlayerId} {f : Player → Player} {Q : Unit → Game M → Prop} :
    Ensures (modifyPlayer id f) g Q E ↔
      match g.state.player? id with
      | some p => Q () { g with state := g.state.setPlayer id (f p) }
      | none => E (.error (.playerNotFound id)) g := by
  simp only [modifyPlayer, ensures_bind, ensures_player]
  cases g.state.player? id <;> rfl

/-! ### Looking things up -/

theorem runOn_card {card : CardId} {found : Card} (h : g.state.card? card = some found) :
    (Engine.card card).runOn g = (.ok found, g) := by
  rw [Engine.card, runOn_bind_of_ok runOn_state, h]
  rfl

theorem runOn_card_of_none {card : CardId} (h : g.state.card? card = none) :
    (Engine.card card).runOn g = (.error (.error (.cardNotFound card)), g) := by
  rw [Engine.card, runOn_bind_of_ok runOn_state, h]
  rfl

theorem runOn_definition {card : CardId} {found : Card} (h : g.state.card? card = some found) :
    (definition card).runOn g = (.ok found.definition, g) := by
  rw [definition, runOn_bind_of_ok (runOn_card h)]
  rfl

theorem runOn_definition_of_none {card : CardId} (h : g.state.card? card = none) :
    (definition card).runOn g = (.error (.error (.cardNotFound card)), g) :=
  runOn_bind_of_error (runOn_card_of_none h)

theorem runOn_player {id : PlayerId} {p : Player} (h : g.state.player? id = some p) :
    (player id).runOn g = (.ok p, g) := by
  rw [player, runOn_bind_of_ok runOn_state, h]
  rfl

theorem runOn_player_of_none {id : PlayerId} (h : g.state.player? id = none) :
    (player id).runOn g = (.error (.error (.playerNotFound id)), g) := by
  rw [player, runOn_bind_of_ok runOn_state, h]
  rfl

theorem runOn_modifyPlayer_of_none {id : PlayerId} (h : g.state.player? id = none)
    (f : Player → Player) :
    (modifyPlayer id f).runOn g = (.error (.error (.playerNotFound id)), g) :=
  runOn_bind_of_error (runOn_player_of_none h)

/-! ### Loops -/

/-- A loop over a list keeps what is kept for each of its items. -/
theorem ensures_forM {f : α → Engine M PUnit} {I : Game M → Prop} {xs : List α} (hstart : I g)
    (hstep : ∀ a ∈ xs, ∀ g, I g → Ensures (f a) g (fun _ => I) E) :
    Ensures (xs.forM f) g (fun _ => I) E := by
  induction xs generalizing g with
  | nil => exact hstart
  | cons a rest ih =>
    change Ensures (f a >>= fun _ => rest.forM f) g (fun _ => I) E
    rw [ensures_bind]
    refine (hstep a List.mem_cons_self g hstart).imp fun _ _ h => ?_
    exact ih h fun b hb => hstep b (List.mem_cons_of_mem _ hb)

/-- A loop that keeps some of the items. -/
theorem ensures_keepers {run : α → Engine M Bool} {I : Game M → Prop} {xs : List α} (hstart : I g)
    (hstep : ∀ a ∈ xs, ∀ g, I g → Ensures (run a) g (fun _ => I) E) :
    Ensures (keepers run xs) g (fun ys g' => I g' ∧ ys.Sublist xs) E := by
  induction xs generalizing g with
  | nil => exact ⟨hstart, List.Sublist.refl _⟩
  | cons a rest ih =>
    simp only [keepers, ensures_bind]
    refine (hstep a List.mem_cons_self g hstart).imp ?_
    intro kept g₁ h₁
    refine (ih h₁ fun b hb => hstep b (List.mem_cons_of_mem _ hb)).imp ?_
    rintro ys g₂ ⟨h₂, hsub⟩
    cases kept with
    | true => exact ⟨h₂, hsub.cons_cons a⟩
    | false => exact ⟨h₂, hsub.cons a⟩

theorem filterM_eq_keepers (p : α → Engine M Bool) (xs : List α) :
    xs.filterM p = keepers p xs := by
  have haux : ∀ (xs acc : List α),
      xs.filterAuxM p acc = (fun ys => ys.reverse ++ acc) <$> keepers p xs := by
    intro xs
    induction xs with
    | nil => intro acc; simp [List.filterAuxM, keepers]
    | cons a rest ih =>
      intro acc
      simp only [List.filterAuxM, keepers, ih, map_bind]
      refine bind_congr fun kept => ?_
      rw [← bind_pure_comp]
      refine bind_congr fun ys => ?_
      cases kept <;> simp
  simp [List.filterM, haux]

theorem ensures_filterM {p : α → Engine M Bool} {I : Game M → Prop} {xs : List α} (hstart : I g)
    (hstep : ∀ a ∈ xs, ∀ g, I g → Ensures (p a) g (fun _ => I) E) :
    Ensures (xs.filterM p) g (fun ys g' => I g' ∧ ys.Sublist xs) E := by
  rw [filterM_eq_keepers]
  exact ensures_keepers hstart hstep

/-- A loop that keeps the items with a property. -/
theorem ensures_filterM_eq {p : α → Engine M Bool} {f : α → Bool} {I : Game M → Prop} {xs : List α}
    (hstart : I g)
    (hstep : ∀ a ∈ xs, ∀ g, I g → Ensures (p a) g (fun kept g' => I g' ∧ kept = f a) E) :
    Ensures (xs.filterM p) g (fun ys g' => I g' ∧ ys = xs.filter f) E := by
  rw [filterM_eq_keepers]
  induction xs generalizing g with
  | nil => exact ⟨hstart, rfl⟩
  | cons a rest ih =>
    simp only [keepers, ensures_bind]
    refine (hstep a List.mem_cons_self g hstart).imp ?_
    intro kept g₁ h₁
    refine (ih h₁.1 fun b hb => hstep b (List.mem_cons_of_mem _ hb)).imp ?_
    intro ys g₂ h₂
    refine ⟨h₂.1, ?_⟩
    rw [h₂.2, h₁.2, List.filter_cons]

/-- One after the other something was done for each item of a list. -/
inductive Round (Step : α → Game M → Game M → Prop) : List α → Game M → Game M → Prop
  | done (g : Game M) : Round Step [] g g
  | next {a : α} {rest : List α} {g g₁ g' : Game M} (first : Step a g g₁)
      (others : Round Step rest g₁ g') : Round Step (a :: rest) g g'

/-- A loop over a list that comes to its end is a round of what it does for each item. -/
theorem runOn_forM {f : α → Engine M PUnit} {xs : List α} {g' : Game M} :
    (xs.forM f).runOn g = (.ok ⟨⟩, g') ↔
      Round (fun a g g' => (f a).runOn g = (.ok ⟨⟩, g')) xs g g' := by
  induction xs generalizing g with
  | nil =>
    constructor
    · intro h
      cases h
      exact .done _
    · rintro ⟨⟩
      rfl
  | cons a rest ih =>
    change (f a >>= fun _ => rest.forM f).runOn g = _ ↔ _
    rw [runOn_bind]
    constructor
    · intro h
      cases hfirst : (f a).runOn g with
      | mk result g₁ =>
        rw [hfirst] at h
        cases result with
        | error _ => cases h
        | ok _ => exact .next hfirst (ih.mp h)
    · rintro (_ | ⟨hfirst, hothers⟩)
      rw [hfirst]
      exact ih.mpr hothers

/-- What each step keeps a round keeps, and it may be used to tell what the steps are. -/
theorem Round.keeps {Step Step' : α → Game M → Game M → Prop} {I : Game M → Prop} {xs : List α}
    {g' : Game M} (h : Round Step xs g g') (hg : I g)
    (hstep : ∀ a ∈ xs, ∀ g g', I g → Step a g g' → Step' a g g' ∧ I g') :
    Round Step' xs g g' ∧ I g' := by
  induction h with
  | done g => exact ⟨.done g, hg⟩
  | next first _ ih =>
    obtain ⟨hfirst, h₁⟩ := hstep _ List.mem_cons_self _ _ hg first
    obtain ⟨hothers, h'⟩ := ih h₁ fun a ha => hstep a (List.mem_cons_of_mem _ ha)
    exact ⟨.next hfirst hothers, h'⟩

/-! ### Two computations from one game -/

section

variable {e e' : Engine M α} {f f' : α → Engine M β}

/-- From this game the two computations run alike, and if they give a value then `Q` holds. -/
def SameRun (e e' : Engine M α) (g : Game M) (Q : α → Game M → Prop) : Prop :=
  e.runOn g = e'.runOn g ∧ Ensures e g Q fun _ _ => True

theorem SameRun.refl (h : Ensures e g Q fun _ _ => True) : SameRun e e g Q := ⟨rfl, h⟩

theorem SameRun.imp {Q' : α → Game M → Prop} (h : SameRun e e' g Q)
    (hQ : ∀ a g', Q a g' → Q' a g') : SameRun e e' g Q' :=
  ⟨h.1, h.2.imp hQ⟩

/-- What is shown of the first run holds of both. -/
theorem SameRun.and {Q' : α → Game M → Prop} (h : SameRun e e' g Q) (h' : Ensures e g Q' E) :
    SameRun e e' g fun a g' => Q a g' ∧ Q' a g' :=
  ⟨h.1, (h.2.and h').mono (fun _ _ h => h) fun _ _ _ => trivial⟩

theorem SameRun.bind {R : β → Game M → Prop}
    (h : SameRun e e' g fun a g' => SameRun (f a) (f' a) g' R) :
    SameRun (e >>= f) (e' >>= f') g R := by
  obtain ⟨heq, hensures⟩ := h
  refine ⟨?_, ensures_bind.mpr (hensures.imp fun _ _ h => h.2)⟩
  rw [runOn_bind, runOn_bind, ← heq]
  unfold Ensures at hensures
  split <;> rename_i hrun
  · rw [hrun] at hensures
    exact hensures.1
  · rfl

/-- They run alike after one and the same beginning. -/
theorem SameRun.after {R : β → Game M → Prop}
    (h : Ensures e g (fun a g' => SameRun (f a) (f' a) g' R) fun _ _ => True) :
    SameRun (e >>= f) (e >>= f') g R :=
  .bind (.refl h)

theorem SameRun.ite {c : Prop} [Decidable c] {e₁ e₁' e₂ e₂' : Engine M α}
    (h : c → SameRun e₁ e₁' g Q) (h' : ¬ c → SameRun e₂ e₂' g Q) :
    SameRun (if c then e₁ else e₂) (if c then e₁' else e₂') g Q := by
  by_cases hc : c
  · rw [if_pos hc, if_pos hc]
    exact h hc
  · rw [if_neg hc, if_neg hc]
    exact h' hc

theorem SameRun.forM {f f' : α → Engine M PUnit} {I : Game M → Prop} {xs : List α} (hstart : I g)
    (hstep : ∀ a ∈ xs, ∀ g, I g → SameRun (f a) (f' a) g fun _ => I) :
    SameRun (xs.forM f) (xs.forM f') g fun _ => I := by
  induction xs generalizing g with
  | nil => exact .refl hstart
  | cons a rest ih =>
    change SameRun (f a >>= fun _ => rest.forM f) (f' a >>= fun _ => rest.forM f') g _
    refine SameRun.bind ((hstep a List.mem_cons_self g hstart).imp fun _ _ h => ?_)
    exact ih h fun b hb => hstep b (List.mem_cons_of_mem _ hb)

end

/-! ### Asking -/

section

variable [Controllers M]

/-- The answer of the player's controller, and the game after it. -/
def asked (g : Game M) (id : PlayerId) (q : Question) : q.Answer × Game M :=
  let (answer, desk) :=
    Controllers.answer g.state id q { memory := g.memory, rng := g.state.rng }
  (answer, ⟨{ g.state with rng := desk.rng }.enterAll id desk.notes, desk.memory⟩)

/-- The game after a controller has been told that it is over. -/
def told (g : Game M) (id : PlayerId) (won : Bool) : Game M :=
  let ((), desk) :=
    Controllers.gameOver g.state id won { memory := g.memory, rng := g.state.rng }
  ⟨{ g.state with rng := desk.rng }.enterAll id desk.notes, desk.memory⟩

theorem runOn_ask (g : Game M) (id : PlayerId) (q : Question) :
    (ask id q).runOn g =
      if id.seat < g.state.players.length then (.ok (asked g id q).1, (asked g id q).2)
      else (.error (.error (.playerNotFound id)), g) := by
  rw [ask, runOn_bind]
  change (if id.seat < g.state.players.length then _ else _ : Engine M q.Answer).runOn g = _
  by_cases hid : id.seat < g.state.players.length
  · rw [if_pos hid, if_pos hid]
    rfl
  · rw [if_neg hid, if_neg hid]
    rfl

theorem ensures_ask {id : PlayerId} {q : Question} {Q : q.Answer → Game M → Prop}
    (hid : id.seat < g.state.players.length) :
    Ensures (ask id q) g Q E ↔ Q (asked g id q).1 (asked g id q).2 := by
  rw [Ensures, runOn_ask, if_pos hid]

end

/-- The game after an answer was refused. -/
def refuse (id : PlayerId) (what : String) (g : Game M) : Game M :=
  let message := s!"{id} gave an invalid answer to " ++ Text.quote what ++ "; asking again"
  { g with state := g.state.warn message }

/-- Asking again and again, with an invariant that counts the answers still allowed. -/
theorem ensures_askTimes [Controllers M] {id : PlayerId} {q : Question} {what : String}
    {accept : q.Answer → Option β} {I : Nat → Game M → Prop} {Q : β → Game M → Prop} {n : Nat}
    (hstart : I n g)
    (hask : ∀ k g, I (k + 1) g →
      Ensures (ask id q) g (fun a g' => match accept a with
        | some b => Q b g'
        | none => I k (refuse id what g')) E)
    (hnone : ∀ g, I 0 g → E (.error (.invalidChoice
      (s!"{id} kept answering " ++ Text.quote what ++ " out of range"))) g) :
    Ensures (askTimes id q what accept n) g Q E := by
  induction n generalizing g with
  | zero => exact hnone g hstart
  | succ k ih =>
    simp only [askTimes, ensures_bind]
    refine (hask k g hstart).imp ?_
    intro a g' h
    cases ha : accept a with
    | some b =>
      rw [ha] at h
      exact h
    | none =>
      rw [ha] at h
      rw [ensures_bind]
      exact ih h

end DeckBuilder.Engine
