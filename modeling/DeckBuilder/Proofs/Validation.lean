import DeckBuilder.Proofs.Retries

/-!
What is made of an answer. An answer is read to its end, but only what has been selected is remembered:
past the cut an item must still be offered and repeat none of the items selected, yet may repeat another
one past the cut. So the answers that are allowed are those in which everything is offered and nothing
occurs twice, and besides them only answers that repeat something past the cut. Any other answer is
refused with a warning, and the question is put again.
-/
namespace DeckBuilder

section

variable {α : Type} {pool answer : List α} {max : Nat}

/-- If nothing past the cut repeats another item past the cut, an answer is allowed if and only if
everything in it is offered and nothing in it occurs twice. -/
theorem selectable_iff_of_nodup_drop (h : (answer.drop max).Nodup) :
    Selectable pool max answer ↔ (∀ x ∈ answer, x ∈ pool) ∧ answer.Nodup := by
  have hparts : answer.Nodup ↔
      (answer.take max).Nodup ∧ (answer.drop max).Nodup ∧
        ∀ x ∈ answer.take max, ∀ y ∈ answer.drop max, x ≠ y := by
    rw [← List.nodup_append, List.take_append_drop]
  rw [hparts]
  constructor
  · intro hs
    exact ⟨hs.offered, hs.distinct, h, fun x hx y hy heq => hs.later y hy (heq ▸ hx)⟩
  · rintro ⟨hoffered, hdistinct, -, hlater⟩
    exact ⟨hoffered, hdistinct, fun x hx hmem => hlater x hmem x hx rfl⟩

/-- An answer in which everything is offered and nothing occurs twice is allowed, whatever the cut. -/
theorem Selectable.of_nodup (hoffered : ∀ x ∈ answer, x ∈ pool) (hdistinct : answer.Nodup) :
    Selectable pool max answer :=
  (selectable_iff_of_nodup_drop (hdistinct.sublist (List.drop_sublist max answer))).mpr
    ⟨hoffered, hdistinct⟩

/-- There is a selection if and only if the first items can be selected. -/
theorem isSome_selectFrom_iff [BEq α] [LawfulBEq α] :
    (selectFrom answer pool max).isSome ↔ Selectable pool max answer := by
  rw [Option.isSome_iff_exists]
  constructor
  · rintro ⟨chosen, hchosen⟩
    exact (selectFrom_eq_some_iff.mp hchosen).1
  · intro h
    exact ⟨answer.take max, selectFrom_eq_some_iff.mpr ⟨h, rfl⟩⟩

end

namespace Engine

variable {M : Type} [Controllers M] {β : Type}

/-! ### The rounds of a prompt -/

/-- A prompt that goes on in rounds. An answer that is allowed ends it; one that is not is refused with a
warning, and the question is put again. -/
structure Rounds (e : Engine M β) (id : PlayerId) (q : Question) (accept : q.Answer → Option β)
    (value : q.Answer → β) : Prop where
  first : e = askUntil id q q.title accept
  taken : ∀ (g : Game M) (n : Nat), id.seat < g.state.players.length → q.Allows (asked g id q).1 →
    (askTimes id q q.title accept (n + 1)).runOn g = (.ok (value (asked g id q).1), (asked g id q).2)
  again : ∀ (g : Game M) (n : Nat), id.seat < g.state.players.length → ¬ q.Allows (asked g id q).1 →
    (askTimes id q q.title accept (n + 1)).runOn g =
      (askTimes id q q.title accept n).runOn (refuse id q.title (asked g id q).2)

theorem runOn_ask_of_lt {id : PlayerId} {g : Game M} (hid : id.seat < g.state.players.length)
    (q : Question) : (ask id q).runOn g = (.ok (asked g id q).1, (asked g id q).2) := by
  rw [runOn_ask, if_pos hid]

theorem Takes.rounds {e : Engine M β} {id : PlayerId} {q : Question} {accept : q.Answer → Option β}
    {value : q.Answer → β} (htakes : Takes q accept value) (hfirst : e = askUntil id q q.title accept) :
    Rounds e id q accept value where
  first := hfirst
  taken g n hid hallowed := by
    have haccept : accept (asked g id q).1 = some (value (asked g id q).1) :=
      (htakes _ _).mpr ⟨hallowed, rfl⟩
    rw [askTimes, runOn_bind_of_ok (runOn_ask_of_lt hid q), haccept]
    rfl
  again g n hid hnot := by
    have haccept : accept (asked g id q).1 = none := by
      rw [← Option.not_isSome_iff_eq_none, htakes.isSome_iff]
      exact hnot
    rw [askTimes, runOn_bind_of_ok (runOn_ask_of_lt hid q), haccept]
    rfl

theorem chooseCards_rounds (id : PlayerId) {choice : CardChoice} (hsome : choice.cards ≠ [])
    (hmax : choice.max ≠ 0) (hmin : choice.min ≤ choice.cards.length) :
    Rounds (chooseCards id choice : Engine M _) id (.cards choice)
      (selection choice.cards choice.min choice.max) (·.take choice.max) := by
  refine (Takes.cards choice).rounds ?_
  have hasks : ¬ (choice.cards.isEmpty || decide (choice.max = 0)) = true := by simp [hsome, hmax]
  rw [chooseCards, if_neg hasks, if_neg (Nat.not_lt.mpr hmin)]
  rfl

theorem chooseOptions_rounds (id : PlayerId) {choice : OptionChoice} (hsome : choice.options ≠ [])
    (hmax : choice.max ≠ 0) (hmin : choice.min ≤ choice.options.length) :
    Rounds (chooseOptions id choice : Engine M _) id (.options choice)
      (selection (List.range choice.options.length) choice.min choice.max) (·.take choice.max) := by
  refine (Takes.options choice).rounds ?_
  have hasks : ¬ (choice.options.isEmpty || decide (choice.max = 0)) = true := by simp [hsome, hmax]
  simp only [chooseOptions]
  rw [if_neg hasks, if_neg (Nat.not_lt.mpr hmin)]
  rfl

end Engine

open Engine

/-- What is made of an answer. What is selected are its first items, if these are offered and distinct
and if what follows is offered and repeats none of them. So an answer in which everything is offered and
nothing occurs twice is always taken, and no other is unless it repeats something past the cut. In the
prompts for cards, for options and for treasures the answers taken are those, and after any other one the
question is put again. -/
theorem answers_validated {α : Type} [BEq α] [LawfulBEq α] (answer pool : List α) (max : Nat)
    {M : Type} [Controllers M] (id : PlayerId) :
    (∀ chosen, selectFrom answer pool max = some chosen ↔
      Selectable pool max answer ∧ chosen = answer.take max) ∧
    ((∀ x ∈ answer, x ∈ pool) → answer.Nodup → selectFrom answer pool max = some (answer.take max)) ∧
    ((answer.drop max).Nodup →
      ((selectFrom answer pool max).isSome ↔ (∀ x ∈ answer, x ∈ pool) ∧ answer.Nodup)) ∧
    (∀ choice : CardChoice,
      choice.cards ≠ [] → choice.max ≠ 0 → choice.min ≤ choice.cards.length →
      Rounds (chooseCards id choice : Engine M _) id (.cards choice)
        (selection choice.cards choice.min choice.max) (·.take choice.max)) ∧
    (∀ choice : OptionChoice,
      choice.options ≠ [] → choice.max ≠ 0 → choice.min ≤ choice.options.length →
      Rounds (chooseOptions id choice : Engine M _) id (.options choice)
        (selection (List.range choice.options.length) choice.min choice.max) (·.take choice.max)) ∧
    ∀ playable : List CardId,
      Rounds (chooseTreasures id playable : Engine M _) id (.treasures playable)
        (treasuresOf playable) fun a => a := by
  refine ⟨fun chosen => selectFrom_eq_some_iff, ?valid, ?unrepeated, ?cards, ?options, ?treasures⟩
  case valid =>
    intro hoffered hdistinct
    exact selectFrom_eq_some_iff.mpr ⟨.of_nodup hoffered hdistinct, rfl⟩
  case unrepeated =>
    intro hrest
    rw [isSome_selectFrom_iff, selectable_iff_of_nodup_drop hrest]
  case cards => exact fun choice => chooseCards_rounds id
  case options => exact fun choice => chooseOptions_rounds id
  case treasures => exact fun playable => (Takes.treasures playable).rounds (chooseTreasures_eq id playable)

/-- A player who first answers with one card twice and then with that card: the question is put twice. -/
theorem answers_validated_in_two_rounds :
    selectFrom [3, 1, 2] [1, 2, 3, 4] 2 = some [3, 1] ∧
      ∃ s₀, initGame Registry.catalog { players := ["Player 1", "Player 2"] } = .ok s₀ ∧
        let answers : QueuePlayer := { values := [.arr [.int 3, .int 3], .arr [.int 3]] }
        let g : Game Table := ⟨s₀, Table.ofMinds [.queue answers, .random]⟩
        let choice : CardChoice := { prompt := "Discard", cards := [⟨3⟩, ⟨4⟩], min := 1, max := 2 }
        ((chooseCards ⟨0⟩ choice).runOn g).1 = .ok [⟨3⟩] := by
  obtain ⟨-, hvalid, -, hcards, -⟩ := answers_validated [3, 1, 2] [1, 2, 3, 4] 2 (M := Table) ⟨0⟩
  refine ⟨hvalid (by decide) (by decide), ?_⟩
  obtain ⟨s₀, h⟩ := initGame_catalog
  have hseats : s₀.players.length = 2 := (initGame_opened h).seats
  refine ⟨s₀, h, ?_⟩
  intro answers g choice
  have hrounds := hcards choice (by decide) (by decide) (by decide)
  -- The first answer repeats a card that is selected, the second one does not.
  let again : Game Table := refuse ⟨0⟩ "Discard" (asked g ⟨0⟩ (.cards choice)).2
  have hfirst : (asked g ⟨0⟩ (.cards choice)).1 = [⟨3⟩, ⟨3⟩] := rfl
  have hsecond : (asked again ⟨0⟩ (.cards choice)).1 = [⟨3⟩] := rfl
  have hrefused : ¬ (Question.cards choice).Allows (asked g ⟨0⟩ (.cards choice)).1 := by
    rw [hfirst]
    exact fun hallows => absurd hallows.1.distinct (by decide)
  have hallowed : (Question.cards choice).Allows (asked again ⟨0⟩ (.cards choice)).1 := by
    rw [hsecond]
    exact ⟨Selectable.of_nodup (by decide) (by decide), by decide⟩
  have hseat : (⟨0⟩ : PlayerId).seat < g.state.players.length := by
    change 0 < s₀.players.length
    omega
  have hagain : (⟨0⟩ : PlayerId).seat < again.state.players.length := by
    change 0 < (asked g ⟨0⟩ (.cards choice)).2.state.players.length
    rw [players_asked]
    exact hseat
  have htaken := hrounds.taken again 14 hagain hallowed
  rw [hrounds.first, askUntil, attempts, hrounds.again g 15 hseat hrefused]
  exact congrArg Prod.fst htaken

/-- An item that occurs twice past the cut is not found: of three items the first is selected. -/
theorem repeated_past_cut :
    ¬ ∀ (answer pool : List Nat) (max : Nat),
      (selectFrom answer pool max).isSome ↔ (∀ x ∈ answer, x ∈ pool) ∧ answer.Nodup := by
  intro h
  have hdistinct := ((h [1, 2, 2] [1, 2] 1).mp (by decide)).2
  exact absurd hdistinct (by decide)

end DeckBuilder
