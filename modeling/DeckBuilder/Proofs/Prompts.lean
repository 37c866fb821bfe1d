import DeckBuilder.Engine.Choices
import DeckBuilder.Proofs.CatalogGame
import DeckBuilder.Proofs.Stamina

/-!
Asking players. An answer is acceptable or not; a question is put until an acceptable answer comes or
until sixteen have been refused. What is supposed of the controllers is a contract: it says what they
keep to while fair questions are put to them, and what is known when the game is given up. Whatever
the contract, asking moves nothing, and what comes of it was offered.
-/
namespace DeckBuilder

namespace Question

/-- What the question is called when an answer to it is refused. -/
def title : Question → String
  | .action _ => "action to play"
  | .treasures _ => "treasures to play"
  | .purchase _ => "card to buy"
  | .cards choice => choice.prompt
  | .pile choice => choice.prompt
  | .boolean choice => choice.prompt
  | .options choice => choice.prompt
  | .integer choice => choice.prompt

/-- Whether the answer is acceptable. Any truth value is, and any integer, which is brought into its
bounds. -/
def accepts : (q : Question) → q.Answer → Bool
  | .action playable, answer => (Engine.offered playable answer).isSome
  | .treasures _, none => true
  | .treasures playable, some chosen => (selectFrom chosen playable playable.length).isSome
  | .purchase buyable, answer => (Engine.offered buyable answer).isSome
  | .cards choice, answer => (Engine.selection choice.cards choice.min choice.max answer).isSome
  | .pile choice, answer => (Engine.offered choice.piles answer).isSome
  | .boolean _, _ => true
  | .options choice, answer =>
    (Engine.selection (List.range choice.options.length) choice.min choice.max answer).isSome
  | .integer _, _ => true

/-- Nothing is offered twice where more than one thing may be chosen, and what must be chosen can be
chosen. -/
def Fair : Question → Prop
  | .treasures playable => playable.Nodup
  | .cards choice =>
    choice.cards.Nodup ∧ choice.min ≤ choice.max ∧ choice.min ≤ choice.cards.length
  | .options choice => choice.min ≤ choice.max ∧ choice.min ≤ choice.options.length
  | _ => True

end Question

section

variable {α : Type} [BEq α] [LawfulBEq α] {pool : List α}

theorem mem_of_selectFrom_go {max : Nat} {xs selected chosen : List α}
    (h : selectFrom.go pool max selected xs = some chosen) (hs : ∀ x ∈ selected, x ∈ pool) :
    ∀ x ∈ chosen, x ∈ pool := by
  induction xs generalizing selected with
  | nil =>
    obtain rfl := Option.some.inj h
    intro x hx
    exact hs x (List.mem_reverse.mp hx)
  | cons y ys ih =>
    unfold selectFrom.go at h
    by_cases hy : (pool.contains y && !selected.contains y) = true
    · rw [if_pos hy] at h
      have hmem : y ∈ pool := by
        rw [Bool.and_eq_true, List.contains_iff_mem] at hy
        exact hy.1
      refine ih h ?_
      intro x hx
      by_cases hlen : selected.length < max
      · rw [if_pos hlen] at hx
        rcases List.mem_cons.mp hx with rfl | hx
        · exact hmem
        · exact hs x hx
      · rw [if_neg hlen] at hx
        exact hs x hx
    · rw [if_neg hy] at h
      simp at h

/-- What is selected was in the pool. -/
theorem mem_of_selectFrom {answer chosen : List α} {max : Nat}
    (h : selectFrom answer pool max = some chosen) : ∀ x ∈ chosen, x ∈ pool :=
  mem_of_selectFrom_go h (by simp)

theorem Engine.mem_of_selection {answer chosen : List α} {min max : Nat}
    (h : Engine.selection pool min max answer = some chosen) : ∀ x ∈ chosen, x ∈ pool := by
  rw [Engine.selection, Option.filter_eq_some_iff] at h
  exact mem_of_selectFrom h.1

theorem Engine.mem_of_offered {answer chosen : Option α}
    (h : Engine.offered pool answer = some chosen) : ∀ x ∈ chosen, x ∈ pool := by
  intro x hx
  cases answer with
  | none =>
    obtain rfl := Option.some.inj h
    simp at hx
  | some a =>
    change (if pool.contains a then some (some a) else none) = some chosen at h
    by_cases ha : pool.contains a = true
    · rw [if_pos ha] at h
      obtain rfl := Option.some.inj h
      obtain rfl := Option.mem_some_iff.mp hx
      exact List.contains_iff_mem.mp ha
    · rw [if_neg ha] at h
      simp at h

end

namespace Engine

variable {M : Type} [Controllers M]

/-- The question has been put a number of times, and each answer was refused. -/
inductive Refused (id : PlayerId) (q : Question) : Nat → Game M → Game M → Prop
  | none (g : Game M) : Refused id q 0 g g
  | again {n : Nat} {g g' : Game M} (before : Refused id q n g g')
      (h : q.accepts (asked g' id q).1 = false) :
      Refused id q (n + 1) g (refuse id q.title (asked g' id q).2)

/-- Why the game is given up after too many refusals. -/
def keptAnswering (id : PlayerId) (q : Question) : Halt :=
  .error (.invalidChoice (s!"{id} kept answering " ++ Text.quote q.title ++ " out of range"))

end Engine

/-! ### Contracts -/

/-- What is supposed of controllers: that in games with the catalog they keep to something as long as
questions are fair; and what is then known if sixteen of their answers in a row are refused. -/
structure Contract (M : Type) [Controllers M] where
  keeps : M → Prop
  halts : Halt → Game M → Prop
  asked : ∀ (g : Game M) id (q : Question), keeps g.memory → q.Fair →
    keeps (Engine.asked g id q).2.memory
  told : ∀ (g : Game M) id won, keeps g.memory → keeps (Engine.told g id won).memory
  exhausted : ∀ (g g' : Game M) id (q : Question), keeps g.memory → q.Fair →
    g'.state.OfCatalog → keeps g'.memory → Engine.Refused id q Engine.attempts g g' →
    halts (Engine.keptAnswering id q) g'

namespace Contract

variable {M : Type} [Controllers M] (C : Contract M)

/-- A game with the catalog whose controllers keep to the contract. -/
structure Fit (g : Game M) : Prop where
  state : g.state.OfCatalog
  memory : C.keeps g.memory

/-- The game has gone on from one moment to another. -/
structure Onward (g g' : Game M) : Prop where
  state : Changes Hooks.catalog g.state g'.state
  memory : C.keeps g'.memory

structure Calmly (g g' : Game M) : Prop where
  state : Calm Hooks.catalog g.state g'.state
  memory : C.keeps g'.memory

structure Quietly (g g' : Game M) : Prop where
  state : Quiet Hooks.catalog g.state g'.state
  memory : C.keeps g'.memory

variable {C} {g g' g'' : Game M}

theorem Calmly.onward (h : C.Calmly g g') : C.Onward g g' := ⟨h.state.changes, h.memory⟩

theorem Quietly.calmly (h : C.Quietly g g') : C.Calmly g g' := ⟨h.state.toCalm, h.memory⟩

theorem Onward.kept (h : C.Onward g g') : Kept g.state g'.state := h.state.kept

theorem Calmly.kept (h : C.Calmly g g') : Kept g.state g'.state := h.state.changes.kept

theorem Quietly.kept (h : C.Quietly g g') : Kept g.state g'.state := h.state.changes.kept

theorem Onward.trans (h : C.Onward g g') (h' : C.Onward g' g'') : C.Onward g g'' :=
  ⟨h.state.trans h'.state, h'.memory⟩

theorem Calmly.trans (h : C.Calmly g g') (h' : C.Calmly g' g'') : C.Calmly g g'' :=
  ⟨h.state.trans h'.state, h'.memory⟩

theorem Quietly.trans (h : C.Quietly g g') (h' : C.Quietly g' g'') : C.Quietly g g'' :=
  ⟨h.state.trans h'.state, h'.memory⟩

theorem Fit.onward (h : C.Fit g) (h' : C.Onward g g') : C.Fit g' :=
  ⟨h'.state.ofCatalog h.state, h'.memory⟩

theorem Fit.calmly (h : C.Fit g) (h' : C.Calmly g g') : C.Fit g' := h.onward h'.onward

theorem Fit.quietly (h : C.Fit g) (h' : C.Quietly g g') : C.Fit g' := h.calmly h'.calmly

theorem Fit.quietly_refl (h : C.Fit g) : C.Quietly g g := ⟨Quiet.refl g.state, h.memory⟩

theorem Fit.calmly_refl (h : C.Fit g) : C.Calmly g g := h.quietly_refl.calmly

theorem Fit.onward_refl (h : C.Fit g) : C.Onward g g := h.calmly_refl.onward

/-- What goes on holding after whatever is quiet is steady. -/
theorem Fit.steady {P : Game M → Prop} (h : C.Fit g)
    (hchanges : ∀ g', P g' → Changes Hooks.catalog g.state g'.state)
    (hquiet : ∀ g' s', P g' → Quiet Hooks.catalog g'.state s' → P ⟨s', g'.memory⟩) :
    Steady Hooks.catalog g.state P :=
  steady_of_quiet h.state.sound h.state.hooks hchanges hquiet

theorem Fit.steady_quietly (h : C.Fit g) : Steady Hooks.catalog g.state (C.Quietly g) :=
  h.steady (fun _ h' => h'.state.changes) fun _ _ h' hq => ⟨h'.state.trans hq, h'.memory⟩

theorem Fit.steady_calmly (h : C.Fit g) : Steady Hooks.catalog g.state (C.Calmly g) :=
  h.steady (fun _ h' => h'.state.changes) fun _ _ h' hq => ⟨h'.state.trans hq.toCalm, h'.memory⟩

theorem Fit.steady_onward (h : C.Fit g) : Steady Hooks.catalog g.state (C.Onward g) :=
  h.steady (fun _ h' => h'.state) fun _ _ h' hq => ⟨h'.state.trans hq.changes, h'.memory⟩

/-! ### Putting a question -/

/-- The game has gone on, and nothing lies elsewhere than before. -/
structure Stilly (g g' : Game M) : Prop extends C.Quietly g g' where
  still : Still g.state g'.state

theorem Fit.stilly_refl (h : C.Fit g) : C.Stilly g g := ⟨h.quietly_refl, Still.refl g.state⟩

theorem Fit.asked (h : C.Fit g) (id : PlayerId) {q : Question} (hq : q.Fair) :
    C.Stilly g (Engine.asked g id q).2 where
  state := Still.quiet (.think g.state id _ _) (.think g.state id _ _)
  memory := C.asked g id q h.memory hq
  still := .think g.state id _ _

theorem Fit.refused (h : C.Fit g) (id : PlayerId) (what : String) :
    C.Stilly g (Engine.refuse id what g) where
  toQuietly := h.steady_quietly.warn h.quietly_refl _
  still := ⟨rfl, rfl, rfl⟩

theorem Stilly.trans (h : C.Stilly g g') (h' : C.Stilly g' g'') : C.Stilly g g'' :=
  ⟨h.toQuietly.trans h'.toQuietly, h.still.trans h'.still⟩

end Contract

namespace Engine

variable {M : Type} [Controllers M] {C : Contract M} {g : Game M} {id : PlayerId}

/-- Whatever comes of a question was an acceptable answer to it. -/
theorem ensures_askUntil {β : Type} {q : Question} {accept : q.Answer → Option β} (h : C.Fit g)
    (hid : id.seat < g.state.players.length) (hq : q.Fair)
    (haccept : ∀ a, (accept a).isSome = q.accepts a) :
    Ensures (askUntil id q q.title accept) g
      (fun b g' => C.Stilly g g' ∧ ∃ a, accept a = some b) C.halts := by
  -- The invariant: all answers but the `k` still allowed have been refused.
  refine ensures_askTimes
    (I := fun k g' => C.Stilly g g' ∧ ∃ n, n + k = attempts ∧ Refused id q n g g')
    ⟨h.stilly_refl, 0, Nat.zero_add _, .none g⟩ ?_ ?_
  · rintro k g₁ ⟨hg₁, n, hn, hrefused⟩
    have hfit := h.quietly hg₁.toQuietly
    rw [ensures_ask (hg₁.kept.seated hid)]
    have hasked := hfit.asked id hq
    have hacc := haccept (asked g₁ id q).1
    cases ha : accept (asked g₁ id q).1 with
    | some b => exact ⟨hg₁.trans hasked, _, ha⟩
    | none =>
      rw [ha] at hacc
      have hwarned := (hfit.quietly hasked.toQuietly).refused id q.title
      exact ⟨(hg₁.trans hasked).trans hwarned, n + 1, by omega, .again hrefused hacc.symm⟩
  · rintro g' ⟨hg', n, hn, hrefused⟩
    obtain rfl : n = attempts := hn
    have hfit := h.quietly hg'.toQuietly
    exact C.exhausted g g' id q h.memory hq hfit.state hfit.memory hrefused

theorem ensures_chooseAction {playable : List CardId} (h : C.Fit g)
    (hid : id.seat < g.state.players.length) :
    Ensures (chooseAction id playable) g
      (fun a g' => C.Stilly g g' ∧ ∀ card ∈ a, card ∈ playable) C.halts := by
  refine (ensures_askUntil (q := .action playable) h hid trivial fun _ => rfl).imp ?_
  rintro a g' ⟨hg', answer, ha⟩
  exact ⟨hg', mem_of_offered ha⟩

theorem ensures_chooseTreasures {playable : List CardId} (h : C.Fit g)
    (hid : id.seat < g.state.players.length) (hp : playable.Nodup) :
    Ensures (chooseTreasures id playable) g
      (fun a g' => C.Stilly g g' ∧ ∀ cards ∈ a, ∀ card ∈ cards, card ∈ playable) C.halts := by
  refine (ensures_askUntil (q := .treasures playable) h hid hp ?_).imp ?_
  · intro a
    cases a with
    | none => rfl
    | some cards => simp [Question.accepts]
  · rintro a g' ⟨hg', answer, ha⟩
    refine ⟨hg', ?_⟩
    intro cards hcards card hcard
    cases answer with
    | none =>
      obtain rfl := Option.some.inj ha
      simp at hcards
    | some chosen =>
      obtain ⟨selected, hselected, rfl⟩ := Option.map_eq_some_iff.mp ha
      obtain rfl := Option.mem_some_iff.mp hcards
      exact mem_of_selectFrom hselected card hcard

theorem ensures_choosePurchase {buyable : List String} (h : C.Fit g)
    (hid : id.seat < g.state.players.length) :
    Ensures (choosePurchase id buyable) g
      (fun a g' => C.Stilly g g' ∧ ∀ pile ∈ a, pile ∈ buyable) C.halts := by
  refine (ensures_askUntil (q := .purchase buyable) h hid trivial fun _ => rfl).imp ?_
  rintro a g' ⟨hg', answer, ha⟩
  exact ⟨hg', mem_of_offered ha⟩

/-- The cards are asked for only if enough of them are there. -/
theorem ensures_chooseCards {choice : CardChoice} (h : C.Fit g)
    (hid : id.seat < g.state.players.length) (hcards : choice.cards.Nodup)
    (hbounds : choice.min ≤ choice.max) :
    Ensures (chooseCards id choice) g
      (fun a g' => C.Stilly g g' ∧ ∀ card ∈ a, card ∈ choice.cards) C.halts := by
  rw [chooseCards, ensures_ite]
  constructor
  · intro _
    exact ⟨h.stilly_refl, by simp⟩
  · intro _
    rw [ensures_ite]
    constructor
    · intro _
      exact ⟨h.stilly_refl, fun _ hcard => hcard⟩
    · intro hmin
      have hfair : (Question.cards choice).Fair := ⟨hcards, hbounds, Nat.not_lt.mp hmin⟩
      refine (ensures_askUntil (q := .cards choice) h hid hfair fun _ => rfl).imp ?_
      rintro a g' ⟨hg', answer, ha⟩
      exact ⟨hg', mem_of_selection ha⟩

/-- A pile that is chosen from those with cards left has cards left. -/
theorem ensures_choosePile {prompt : String} {source : Option CardId}
    {eligible : PileOffer → Bool} (h : C.Fit g) (hid : id.seat < g.state.players.length)
    (heligible : ∀ offer, eligible offer = true → 0 < offer.count) :
    Ensures (choosePile id prompt source eligible) g
      (fun a g' => C.Stilly g g' ∧ ∀ pile ∈ a, 0 < g'.state.supply.count pile) C.halts := by
  simp only [choosePile, ensures_bind, ensures_state]
  rw [ensures_ite]
  constructor
  · intro _
    exact ⟨h.stilly_refl, by simp⟩
  · intro _
    refine (ensures_askUntil (q := .pile _) h hid trivial fun _ => rfl).imp ?_
    rintro a g' ⟨hg', answer, ha⟩
    refine ⟨hg', ?_⟩
    intro pile hpile
    obtain ⟨p, hp, rfl⟩ := List.mem_map.mp (mem_of_offered ha pile hpile)
    obtain ⟨hmem, hoffer⟩ := List.mem_filter.mp hp
    have hcount : g.state.supply.count p.name = p.size := by
      rw [Supply.count, h.state.pile?_of_mem hmem]
      rfl
    rw [hg'.still.supply, hcount]
    exact heligible _ hoffer

theorem ensures_chooseBoolean {choice : BooleanChoice} (h : C.Fit g)
    (hid : id.seat < g.state.players.length) :
    Ensures (chooseBoolean id choice) g (fun _ => C.Stilly g) C.halts := by
  rw [chooseBoolean, ensures_ask hid]
  exact h.asked id (q := .boolean choice) trivial

theorem ensures_chooseOptions {choice : OptionChoice} (h : C.Fit g)
    (hid : id.seat < g.state.players.length) (hbounds : choice.min ≤ choice.max) :
    Ensures (chooseOptions id choice) g (fun _ => C.Stilly g) C.halts := by
  simp only [chooseOptions]
  rw [ensures_ite]
  constructor
  · intro _
    exact h.stilly_refl
  · intro _
    rw [ensures_ite]
    constructor
    · intro _
      exact h.stilly_refl
    · intro hmin
      have hfair : (Question.options choice).Fair := ⟨hbounds, Nat.not_lt.mp hmin⟩
      refine (ensures_askUntil (q := .options choice) h hid hfair fun _ => rfl).imp ?_
      rintro a g' ⟨hg', -⟩
      exact hg'

end Engine

end DeckBuilder
