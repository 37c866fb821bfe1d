import DeckBuilder.Proofs.Alike
import DeckBuilder.Proofs.Upholding

/-!
What programs do to what waits. A program can install another one, to be run at a player's next plays, or
hang one on a card; and if it has a card played then what waits on the player's plays is run and may be
gone. Each of these leaves a mark. The marks are noted while a program runs, which makes no difference to
the run. Nothing else in a run reaches what waits, so that apart from plays it grows by what was
installed and hung, in this order.
-/
namespace DeckBuilder

/-- Whether a player has a card, so that it can be played. -/
def GameState.holds (s : GameState) (id : PlayerId) (card : CardId) : Bool :=
  (s.player? id).any fun p => (p.zones.locate card).isSome

/-- What a program leaves on what waits on plays or hangs on cards. A play that is refused because the
player does not have the card leaves no mark. -/
inductive Mark
  | played (owner : PlayerId) (card : CardId)
  | installed (owner : PlayerId) (trigger : PlayerId → CardId → Program)
  | hung (card : CardId) (callback : EffectContext → Program)

namespace Mark

/-- The cards that a player plays. -/
def plays (id : PlayerId) (marks : List Mark) : List CardId :=
  marks.filterMap fun
    | .played owner card => if owner = id then some card else none
    | _ => none

/-- What is installed to be run at a player's plays. -/
def triggers (id : PlayerId) (marks : List Mark) : List (PlayerId → CardId → Program) :=
  marks.filterMap fun
    | .installed owner trigger => if owner = id then some trigger else none
    | _ => none

/-- What is hung on a card. -/
def callbacks (card : CardId) (marks : List Mark) : List (EffectContext → Program) :=
  marks.filterMap fun
    | .hung holder callback => if holder = card then some callback else none
    | _ => none

variable (marks more : List Mark) (id : PlayerId) (card : CardId)

@[simp] theorem plays_append : plays id (marks ++ more) = plays id marks ++ plays id more :=
  List.filterMap_append

@[simp] theorem triggers_append :
    triggers id (marks ++ more) = triggers id marks ++ triggers id more :=
  List.filterMap_append

@[simp] theorem callbacks_append :
    callbacks card (marks ++ more) = callbacks card marks ++ callbacks card more :=
  List.filterMap_append

end Mark

/-- What controllers remember, with the marks so far. -/
structure Noted (M : Type) where
  memory : M
  marks : List Mark := []

variable {M : Type}

instance [Controllers M] : Controllers (Noted M) where
  answer s id q := fun desk =>
    let (answer, desk') := Controllers.answer s id q (desk.map Noted.memory)
    (answer, desk'.map fun memory => ⟨memory, desk.memory.marks⟩)
  gameOver s id won := fun desk =>
    let ((), desk') := Controllers.gameOver s id won (desk.map Noted.memory)
    ((), desk'.map fun memory => ⟨memory, desk.memory.marks⟩)

theorem Noted.alike [Controllers M] : Controllers.Alike (Noted.memory : Noted M → M) :=
  ⟨fun _ _ _ _ => rfl, fun _ _ _ _ => rfl⟩

namespace Game

/-- A game in which nothing has been noted yet. -/
def noted (g : Game M) : Game (Noted M) := ⟨g.state, ⟨g.memory, []⟩⟩

/-- One more mark has been noted. -/
def noting (n : Game (Noted M)) (mark : Mark) : Game (Noted M) :=
  { n with memory := { n.memory with marks := n.memory.marks ++ [mark] } }

end Game

namespace Engine

variable {α : Type}

/-! ### Running and noting -/

def note (mark : Mark) : Engine (Noted M) Unit := modify (·.noting mark)

def notePlay (card : CardId) (id : PlayerId) : Engine (Noted M) Unit := do
  if (← state).holds id card then note (.played id card)

def addDurationNoted (card : CardId) (callback : EffectContext → Program) : Engine (Noted M) Unit := do
  addDuration card callback
  note (.hung card callback)

def addPlayTriggerNoted (id : PlayerId) (callback : PlayerId → CardId → Program) :
    Engine (Noted M) Unit := do
  addPlayTrigger id callback
  note (.installed id callback)

/-- The operation of a call; a play comes with its note. -/
def performNoted [Controllers M] (provoke : Program → Engine (Noted M) Bool) :
    (c : Call) → Engine (Noted M) c.Answer
  | .play card id => do
    notePlay card id
    play provoke card id
  | c => perform provoke c

def interpretNoted (call : (c : Call) → Engine (Noted M) c.Answer) : Program → Engine (Noted M) Bool
  | .finish keep => pure keep
  | .fail e => fail e
  | .look next => do interpretNoted call (next (← state).outlook)
  | .call c next => do interpretNoted call (next (← call c))
  | .addDuration card callback next => do
    addDurationNoted card callback
    interpretNoted call next
  | .addGainTrigger id callback next => do
    addGainTrigger id callback
    interpretNoted call next
  | .addPlayTrigger id callback next => do
    addPlayTriggerNoted id callback
    interpretNoted call next

/-- Runs a program and notes the marks that it leaves, and those of all that it provokes. -/
def runNoted [Controllers M] : Nat → Program → Engine (Noted M) Bool
  | 0, _ => throw .endless
  | depth + 1, p => interpretNoted (performNoted (runNoted depth)) p

/-- The marks that are noted while a computation runs. -/
def marks (e : Engine (Noted M) α) (g : Game M) : List Mark := (e.runOn g.noted).2.memory.marks

/-! ### The notes make no difference -/

/-- A game with notes and the same game without them. -/
def Unnoted (n : Game (Noted M)) (g : Game M) : Prop := g = n.map Noted.memory

theorem runOn_notePlay (card : CardId) (id : PlayerId) (n : Game (Noted M)) :
    (notePlay card id).runOn n =
      (.ok (), if n.state.holds id card then n.noting (.played id card) else n) := by
  rw [notePlay, runOn_bind_of_ok runOn_state]
  by_cases hholds : n.state.holds id card
  · rw [if_pos hholds, if_pos hholds]
    rfl
  · rw [if_neg hholds, if_neg hholds]
    rfl

theorem Coupled.note {E : Halt → Game M → Prop} (mark : Mark) {e : Engine (Noted M) α}
    {e' : Engine M α} (h : Coupled Unnoted E e e') :
    Coupled Unnoted E (Engine.note mark >>= fun _ => e) e' :=
  fun n g hg => h (n.noting mark) g hg

theorem Coupled.notePlay {E : Halt → Game M → Prop} (card : CardId) (id : PlayerId)
    {e : Engine (Noted M) α} {e' : Engine M α} (h : Coupled Unnoted E e e') :
    Coupled Unnoted E (Engine.notePlay card id >>= fun _ => e) e' := by
  intro n g hg
  rw [runOn_bind_of_ok (runOn_notePlay card id n)]
  refine h _ g ?_
  by_cases hholds : n.state.holds id card
  · rw [if_pos hholds]
    exact hg
  · rw [if_neg hholds]
    exact hg

variable [Controllers M]

theorem coupling_unnoted : Coupling (Unnoted (M := M)) := Agrees.coupling Noted.alike

/-- Only plays come with a note. -/
theorem performNoted_eq (provoke : Program → Engine (Noted M) Bool) {c : Call}
    (h : ∀ card id, c ≠ .play card id) : performNoted provoke c = perform provoke c := by
  cases c with
  | play card id => exact absurd rfl (h card id)
  | _ => rfl

theorem coupled_performNoted {E : Halt → Game M → Prop}
    {provoke : Program → Engine (Noted M) Bool} {provoke' : Program → Engine M Bool}
    (h : ∀ p, Coupled Unnoted E (provoke p) (provoke' p)) (c : Call) :
    Coupled Unnoted E (performNoted provoke c) (perform provoke' c) := by
  by_cases hplay : ∃ card id, c = .play card id
  · obtain ⟨card, id, rfl⟩ := hplay
    exact .notePlay card id (.play coupling_unnoted h card id)
  · rw [performNoted_eq provoke fun card id hc => hplay ⟨card, id, hc⟩]
    exact Coupled.perform coupling_unnoted h c

theorem coupled_runNoted {E : Halt → Game M → Prop} (depth : Nat) (p : Program) :
    Coupled Unnoted E (runNoted depth p) (runWithin depth p) := by
  induction depth generalizing p with
  | zero => exact .throw _
  | succ depth ih =>
    have hcouples : Coupling (Unnoted (M := M)) := coupling_unnoted
    change Coupled Unnoted E (interpretNoted _ p) (interpret _ p)
    induction p with
    | finish keep => exact .pure keep
    | fail e => exact .fail e
    | look next ih' => exact .reads hcouples fun s _ => ih' _
    | call c next ih' => exact .bind (coupled_performNoted ih c) fun a => ih' a
    | addDuration card callback next _ ih' =>
      rw [interpretNoted, addDurationNoted, bind_assoc]
      exact .bind (.addDuration hcouples _ _) fun _ => .note _ ih'
    | addGainTrigger id callback next _ ih' =>
      exact .bind (.modifyPlayer hcouples _ _) fun _ => ih'
    | addPlayTrigger id callback next _ ih' =>
      rw [interpretNoted, addPlayTriggerNoted, bind_assoc]
      exact .bind (.modifyPlayer hcouples _ _) fun _ => .note _ ih'

end Engine

/-! ### The notes account for all that waits -/

/-- What waits has grown by the marks: by what was hung on each card, and by what was installed for each
player who played no card. -/
structure Grown (marks : List Mark) (s s' : GameState) : Prop where
  plays : ∀ id, Mark.plays id marks = [] →
    s'.plays? id = (s.plays? id).map (· ++ Mark.triggers id marks)
  hung : ∀ card, s'.hung? card = (s.hung? card).map (· ++ Mark.callbacks card marks)

namespace Grown

variable {marks more : List Mark} {s s' s'' : GameState}

theorem refl (s : GameState) : Grown [] s s where
  plays id _ := by simp [Mark.triggers]
  hung card := by simp [Mark.callbacks]

theorem trans (h : Grown marks s s') (h' : Grown more s' s'') : Grown (marks ++ more) s s'' where
  plays id hnone := by
    rw [Mark.plays_append, List.append_eq_nil_iff] at hnone
    rw [h'.plays id hnone.2, h.plays id hnone.1, Option.map_map, Mark.triggers_append]
    simp only [Function.comp_def, List.append_assoc]
  hung card := by
    rw [h'.hung card, h.hung card, Option.map_map, Mark.callbacks_append]
    simp only [Function.comp_def, List.append_assoc]

theorem played (s : GameState) (id : PlayerId) (card : CardId) : Grown [.played id card] s s where
  plays other _ := by simp [Mark.triggers]
  hung holder := by simp [Mark.callbacks]

theorem installed {id : PlayerId} {p : Player} (hp : s.player? id = some p)
    (trigger : PlayerId → CardId → Program) :
    Grown [.installed id trigger] s
      (s.setPlayer id { p with playTriggers := p.playTriggers ++ [trigger] }) where
  plays other _ := by
    rw [GameState.plays?_setPlayer hp]
    by_cases hother : id = other
    · rw [if_pos hother, ← hother, GameState.plays?, hp]
      simp [Mark.triggers]
    · rw [if_neg hother]
      simp [Mark.triggers, hother]
  hung holder := by
    simp only [Mark.callbacks, List.filterMap_cons, List.filterMap_nil, List.append_nil]
    exact Option.map_id'.symm

theorem hanging (s : GameState) (card : CardId) (callback : EffectContext → Program) :
    Grown [.hung card callback] s
      { s with
        cards := s.cards.modify card fun c =>
          { c with durations := c.durations ++ [callback] } } where
  plays other _ := by
    simp only [Mark.triggers, List.filterMap_cons, List.filterMap_nil, List.append_nil]
    exact Option.map_id'.symm
  hung holder := by
    have hget := s.cards.get?_modify card holder fun c =>
      { c with durations := c.durations ++ [callback] }
    rw [GameState.hung?, GameState.card?, hget, GameState.hung?, GameState.card?, Option.map_map]
    by_cases hholder : card = holder
    · rw [if_pos hholder, Option.map_map]
      simp [Mark.callbacks, hholder, Function.comp_def]
    · rw [if_neg hholder]
      simp [Mark.callbacks, hholder, Function.comp_def]

/-- A change that leaves what waits alone makes no difference. -/
theorem congr (h : Grown marks s s') (hplays : s''.plays? = s'.plays?) (hhung : s''.hung? = s'.hung?) :
    Grown marks s s'' where
  plays id hnone := by rw [hplays, h.plays id hnone]
  hung card := by rw [hhung, h.hung card]

end Grown

/-- The notes that were made since a moment account for all that waits more than then, and `P` holds of
them. -/
def Accounted (P : List Mark → Prop) (n₀ n : Game (Noted M)) : Prop :=
  ∃ marks, n.memory.marks = n₀.memory.marks ++ marks ∧ P marks ∧ Grown marks n₀.state n.state

/-- The same, with nothing more to say of the notes. -/
abbrev AllNoted (n₀ n : Game (Noted M)) : Prop := Accounted (fun _ => True) n₀ n

namespace Accounted

variable {P : List Mark → Prop} {n₀ n n' : Game (Noted M)}

theorem refl (n : Game (Noted M)) : AllNoted n n :=
  ⟨[], (List.append_nil _).symm, trivial, .refl _⟩

theorem trans {Q R : List Mark → Prop} (h : Accounted P n₀ n) (h' : Accounted Q n n')
    (hR : ∀ marks more, P marks → Q more → R (marks ++ more)) : Accounted R n₀ n' := by
  obtain ⟨marks, hmarks, hP, hgrown⟩ := h
  obtain ⟨more, hmore, hQ, hgrown'⟩ := h'
  exact ⟨marks ++ more, by rw [hmore, hmarks, List.append_assoc], hR _ _ hP hQ, hgrown.trans hgrown'⟩

/-- Something is done, and its mark is noted. -/
theorem noting (h : AllNoted n₀ n) {s : GameState} {mark : Mark}
    (hgrown : Grown [mark] n.state s) :
    AllNoted n₀ ({ n with state := s }.noting mark) :=
  have hnoted : AllNoted n ({ n with state := s }.noting mark) :=
    ⟨[mark], rfl, trivial, hgrown⟩
  h.trans hnoted fun _ _ _ _ => trivial

variable [Controllers M]

theorem abiding (P : List Mark → Prop) (n₀ : Game (Noted M)) :
    Engine.Abiding (Accounted P n₀) where
  touch := by
    rintro n s ⟨marks, hmarks, hP, hgrown⟩ hgentle
    exact ⟨marks, hmarks, hP, hgrown.congr hgentle.plays hgentle.hung⟩
  asked := by
    rintro n id q ⟨marks, hmarks, hP, hgrown⟩ -
    obtain ⟨logger, hstate⟩ := Engine.asked_state n id q
    refine ⟨marks, hmarks, hP, ?_⟩
    rw [hstate]
    exact hgrown.congr rfl rfl

end Accounted

namespace Engine.Upholds

open Accounted

/-- While a player's triggers are run there is a play of his to account for. -/
theorem firePlayTriggers_accounted {P : List Mark → Prop} {n₀ : Game (Noted M)}
    {provoke : Program → Engine (Noted M) Bool} {id : PlayerId}
    (hP : ∀ marks, P marks → Mark.plays id marks ≠ [])
    (hprovoke : ∀ p, Upholds (Accounted P n₀) (provoke p)) (card : CardId) :
    Upholds (Accounted P n₀) (Engine.firePlayTriggers provoke id card) := by
  have hwrite : ∀ f : Player → Player, Upholds (Accounted P n₀) (Engine.modifyPlayer id f) := by
    refine fun f => withPlayer fun n p hn hp => ?_
    obtain ⟨marks, hmarks, hdone, hgrown⟩ := hn
    refine ⟨marks, hmarks, hdone, ⟨fun other hnone => ?_, hgrown.hung⟩⟩
    have hne : id ≠ other := by
      rintro rfl
      exact hP marks hdone hnone
    rw [GameState.plays?_setPlayer hp, if_neg hne]
    exact hgrown.plays other hnone
  refine bind (player id) fun p => bind (hwrite _) fun _ => ?_
  exact bind (keepers (fun _ => hprovoke _) _) fun _ => hwrite _

theorem addDurationNoted (card : CardId) (callback : EffectContext → Program)
    (n₀ : Game (Noted M)) :
    Upholds (AllNoted n₀) (Engine.addDurationNoted card callback) := by
  rw [Engine.addDurationNoted, Engine.addDuration, bind_assoc]
  exact bind (Upholds.card card) fun _ n hn => hn.noting (.hanging n.state card callback)

theorem addGainTrigger (id : PlayerId) (callback : GainInfo → Program) (n₀ : Game (Noted M)) :
    Upholds (AllNoted n₀) (Engine.addGainTrigger id callback) := by
  refine withPlayer fun n p hn hp => ?_
  obtain ⟨marks, hmarks, hdone, hgrown⟩ := hn
  exact ⟨marks, hmarks, hdone, hgrown.congr (GameState.plays?_setPlayer_of_same hp rfl) rfl⟩

theorem addPlayTriggerNoted (id : PlayerId) (callback : PlayerId → CardId → Program)
    (n₀ : Game (Noted M)) :
    Upholds (AllNoted n₀) (Engine.addPlayTriggerNoted id callback) := by
  rw [Engine.addPlayTriggerNoted, addPlayTrigger, Engine.modifyPlayer, bind_assoc]
  exact withPlayer fun n p hn hp => hn.noting (.installed hp callback)

/-- What accounts for all since every moment does so however much was done before. -/
theorem accounted {α : Type} {e : Engine (Noted M) α} {P : List Mark → Prop}
    (h : ∀ n, Upholds (AllNoted n) e)
    (hP : ∀ marks more, P marks → P (marks ++ more)) (n₀ : Game (Noted M)) :
    Upholds (Accounted P n₀) e := by
  intro n hn
  refine (h n n (.refl n)).mono (fun _ n' hn' => ?_) fun _ n' hn' => ?_
  all_goals exact hn.trans hn' fun marks more hdone _ => hP marks more hdone

variable [Controllers M]

/-- A play that is refused leaves no mark, and there is none to account for. -/
theorem play_of_not_holds {I : Game M → Prop} (hI : Abiding I)
    {provoke : Program → Engine M Bool} {card : CardId} {id : PlayerId} {g : Game M} (hg : I g)
    (h : g.state.holds id card = false) :
    Ensures (Engine.play provoke card id) g (fun _ => I) fun _ => I := by
  rw [Engine.play, ensures_bind, ensures_definition]
  cases g.state.card? card with
  | none => exact hg
  | some found =>
    refine ensures_bind.mpr (ensures_player.mpr ?_)
    cases hp : g.state.player? id with
    | none => exact hg
    | some p =>
      have hnone : p.zones.locate card = none := by simpa [GameState.holds, hp] using h
      dsimp only
      rw [Tableau.remove?_eq_none_iff.mpr hnone]
      exact warn hI _ g hg

section

variable {provoke : Program → Engine (Noted M) Bool}
  (hprovoke : ∀ p n, Upholds (AllNoted n) (provoke p))
include hprovoke

theorem performNoted_play (card : CardId) (id : PlayerId) (n₀ : Game (Noted M)) :
    Upholds (AllNoted n₀) (performNoted provoke (.play card id)) := by
  intro n hn
  change Ensures (notePlay card id >>= fun _ => Engine.play provoke card id) n _ _
  rw [ensures_bind, Ensures, runOn_notePlay]
  cases hholds : n.state.holds id card with
  | false => exact play_of_not_holds (abiding _ n₀) hn hholds
  | true =>
    have hnoted : Accounted (fun marks => Mark.plays id marks ≠ []) n (n.noting (.played id card)) :=
      ⟨[.played id card], rfl, by simp [Mark.plays], .played n.state id card⟩
    have hplayed : Upholds (Accounted (fun marks => Mark.plays id marks ≠ []) n)
        (Engine.play provoke card id) := by
      refine play_of_fire (abiding _ n) (firePlayTriggers_accounted (fun _ h => h) (fun p => ?_) card)
      exact accounted (hprovoke p) (fun marks more hdone => by simp [hdone]) n
    exact (hplayed _ hnoted).mono (fun _ _ h => hn.trans h fun _ _ _ _ => trivial) fun _ _ h =>
      hn.trans h fun _ _ _ _ => trivial

theorem performNoted (c : Call) (n₀ : Game (Noted M)) :
    Upholds (AllNoted n₀) (Engine.performNoted provoke c) := by
  by_cases hplay : ∃ card id, c = .play card id
  · obtain ⟨card, id, rfl⟩ := hplay
    exact performNoted_play hprovoke card id n₀
  · have hother : ∀ card id, c ≠ .play card id := fun card id hc => hplay ⟨card, id, hc⟩
    rw [performNoted_eq provoke hother]
    exact perform_of_play (abiding _ n₀) (fun p => hprovoke p n₀) c fun card id hc =>
      absurd hc (hother card id)

end

theorem runNoted (depth : Nat) (p : Program) (n₀ : Game (Noted M)) :
    Upholds (AllNoted n₀) (Engine.runNoted depth p) := by
  induction depth generalizing p n₀ with
  | zero => exact throw _
  | succ depth ih =>
    change Upholds _ (interpretNoted _ p)
    induction p with
    | finish keep => exact pure keep
    | fail e => exact fail e
    | look next ih' => exact bind state fun s => ih' _
    | call c next ih' => exact bind (performNoted ih c n₀) fun a => ih' a
    | addDuration card callback next _ ih' =>
      exact bind (addDurationNoted card callback n₀) fun _ => ih'
    | addGainTrigger id callback next _ ih' =>
      exact bind (addGainTrigger id callback n₀) fun _ => ih'
    | addPlayTrigger id callback next _ ih' =>
      exact bind (addPlayTriggerNoted id callback n₀) fun _ => ih'

end Engine.Upholds

/-- A computation that notes the marks it leaves, and is the same without the notes: what hangs on cards
has grown by what it hung there, and what waits on the plays of a player who played nothing has grown by
what it installed. -/
theorem Engine.grown {α : Type} {e : Engine (Noted M) α} {e' : Engine M α}
    (hsame : Coupled Unnoted (fun _ _ => False) e e')
    (h : ∀ n₀, Upholds (AllNoted n₀) e) (g : Game M) :
    Grown (marks e g) g.state (e'.runOn g).2.state := by
  obtain ⟨new, hnew, -, hgrown⟩ := (h g.noted).after (.refl g.noted)
  have hrun : e'.runOn g = _ := Agrees.of_coupled hsame g.noted
  rw [hrun, marks, hnew]
  exact hgrown

end DeckBuilder
