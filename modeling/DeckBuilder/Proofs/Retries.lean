import DeckBuilder.Controller.Table
import DeckBuilder.Proofs.Answers
import DeckBuilder.Proofs.Opening
import DeckBuilder.Proofs.Recording

/-!
A prompt takes the first answer that is allowed. It puts its question at most sixteen times, and it
fails if and only if sixteen answers were given and none of them was allowed. What was asked and
answered is read from the record of the run.
-/
namespace DeckBuilder

/-! ### Selections -/

/-- Different items of a pool, in any order, and as many as they must be: at least `least`, unless
the pool has fewer, and at most `most`. -/
structure Selection {α : Type} (pool : List α) (least most : Nat) (chosen : List α) : Prop where
  distinct : chosen.Nodup
  offered : ∀ x ∈ chosen, x ∈ pool
  enough : min least pool.length ≤ chosen.length
  few : chosen.length ≤ most

theorem Selectable.selection {α : Type} {pool answer : List α} {least most : Nat}
    (h : Selectable pool most answer) (hleast : least ≤ (answer.take most).length) :
    Selection pool least most (answer.take most) where
  distinct := h.distinct
  offered := by
    intro x hx
    exact h.offered x (List.mem_of_mem_take hx)
  enough := Nat.le_trans (Nat.min_le_left _ _) hleast
  few := List.length_take_le _ _

theorem GameState.players_enterAll (s : GameState) (id : PlayerId) (notes : Array Note) :
    (s.enterAll id notes).players = s.players := by
  obtain ⟨logger, heq⟩ := s.enterAll_eq id notes
  rw [heq]

namespace Engine

variable {M : Type} [Controllers M] {α β : Type}

/-! ### Putting a question until an answer is allowed -/

/-- What comes of a question, and the record of putting it: some answers that were not allowed and
then one that was, or as many as may be refused and no other. -/
inductive Prompted (id : PlayerId) (q : Question) (value : q.Answer → β) :
    Except Halt β → List Exchange → Prop
  | accepted (refused : List q.Answer) (answer : q.Answer) (hlen : refused.length < attempts)
      (hrefused : ∀ a ∈ refused, ¬ q.Allows a) (hallowed : q.Allows answer) :
      Prompted id q value (.ok (value answer)) ((refused ++ [answer]).map (Exchange.mk id q))
  | exhausted (refused : List q.Answer) (hlen : refused.length = attempts)
      (hrefused : ∀ a ∈ refused, ¬ q.Allows a) :
      Prompted id q value (.error (keptAnswering id q)) (refused.map (Exchange.mk id q))

namespace Prompted

variable {id : PlayerId} {q : Question} {value : q.Answer → β} {result : Except Halt β}
  {record : List Exchange}

theorem length_le (h : Prompted id q value result record) : record.length ≤ attempts := by
  cases h with
  | accepted refused answer hlen _ _ =>
    rw [List.length_map, List.length_append, List.length_singleton]
    exact hlen
  | exhausted refused hlen _ =>
    rw [List.length_map]
    exact Nat.le_of_eq hlen

/-- The prompt fails if and only if as many answers as may be given were given and none of them was
allowed. -/
theorem failed_iff (h : Prompted id q value result record) :
    result = .error (keptAnswering id q) ↔
      record.length = attempts ∧ ∀ x ∈ record, ¬ x.question.Allows x.answer := by
  cases h with
  | accepted refused answer _ _ hallowed =>
    constructor
    · intro h
      exact absurd h (by simp)
    · intro h
      exact absurd hallowed (h.2 ⟨id, q, answer⟩ (by simp))
  | exhausted refused hlen hrefused =>
    refine iff_of_true rfl ⟨by rw [List.length_map, hlen], ?_⟩
    intro x hx
    obtain ⟨a, ha, heq⟩ := List.mem_map.mp hx
    rw [← heq]
    exact hrefused a ha

/-- What a prompt gives is made of an allowed answer. -/
theorem of_ok {b : β} (h : Prompted id q value (.ok b) record) :
    ∃ answer, q.Allows answer ∧ b = value answer := by
  generalize hresult : Except.ok b = result at h
  cases h with
  | accepted refused answer _ _ hallowed => exact ⟨answer, hallowed, Except.ok.inj hresult⟩
  | exhausted refused _ _ => exact absurd hresult (by simp)

end Prompted

omit [Controllers M] in
/-- What is shown of a recorded run holds of the run itself and its record. -/
theorem of_recorded {e : Engine (Recorded M) α} {e' : Engine M α} {g : Game M}
    (hagrees : Agrees Recorded.memory e e') {P : Except Halt α → List Exchange → Prop}
    (h : Ensures e g.recorded (fun a g' => P (.ok a) g'.memory.exchanges)
      fun r g' => P (.error r) g'.memory.exchanges) :
    P (e'.runOn g).1 (exchanges e g) := by
  rw [hagrees.recorded g]
  unfold Ensures at h
  unfold exchanges
  split at h <;> rename_i heq <;> rw [heq] <;> exact h

theorem players_asked (g : Game M) (id : PlayerId) (q : Question) :
    (asked g id q).2.state.players = g.state.players :=
  GameState.players_enterAll _ _ _

theorem ensures_prompted {q : Question} {accept : q.Answer → Option β} {value : q.Answer → β}
    (htakes : Takes q accept value) {g : Game (Recorded M)} {id : PlayerId}
    (hid : id.seat < g.state.players.length) (hnew : g.memory.exchanges = []) :
    Ensures (askUntil id q q.title accept) g
      (fun b g' => Prompted id q value (.ok b) g'.memory.exchanges)
      fun r g' => Prompted id q value (.error r) g'.memory.exchanges := by
  -- The invariant: all answers but the `k` still allowed have been refused.
  refine ensures_askTimes
    (I := fun k g' => id.seat < g'.state.players.length ∧
      ∃ n, n + k = attempts ∧ Refused id q n g g')
    ⟨hid, 0, Nat.zero_add _, .none g⟩ ?_ ?_
  · intro k g₁ h
    obtain ⟨hid₁, n, hn, hrefused⟩ := h
    rw [ensures_ask hid₁]
    cases haccept : accept (asked g₁ id q).1 with
    | some b =>
      obtain ⟨hallowed, hvalue⟩ := (htakes _ _).mp haccept
      obtain ⟨refused, hrecord, hlen, hall⟩ := hrefused.exchanges
      rw [hnew, List.nil_append] at hrecord
      have hafter : (asked g₁ id q).2.memory.exchanges =
          (refused ++ [(asked g₁ id q).1]).map (Exchange.mk id q) := by
        rw [List.map_append, ← hrecord]
        rfl
      show Prompted id q value (.ok b) (asked g₁ id q).2.memory.exchanges
      rw [hafter, hvalue]
      refine .accepted refused _ (by omega) ?_ hallowed
      intro a ha
      rw [← Question.accepts_iff, hall a ha]
      exact Bool.false_ne_true
    | none =>
      have hnot : q.accepts (asked g₁ id q).1 = false := by
        rw [Bool.eq_false_iff, ne_eq, Question.accepts_iff, ← htakes.isSome_iff, haccept]
        exact Bool.false_ne_true
      refine ⟨?_, n + 1, by omega, .again hrefused hnot⟩
      show id.seat < (asked g₁ id q).2.state.players.length
      rw [players_asked]
      exact hid₁
  · intro g' h
    obtain ⟨-, n, hn, hrefused⟩ := h
    obtain ⟨refused, hrecord, hlen, hall⟩ := hrefused.exchanges
    rw [hnew, List.nil_append] at hrecord
    rw [hrecord]
    refine .exhausted refused (by omega) ?_
    intro a ha
    rw [← Question.accepts_iff, hall a ha]
    exact Bool.false_ne_true

/-! ### The prompts -/

theorem chooseTreasures_eq (id : PlayerId) (playable : List CardId) :
    (chooseTreasures id playable : Engine M _) =
      askUntil id (.treasures playable) (Question.treasures playable).title
        (treasuresOf playable) := by
  unfold chooseTreasures
  congr 1
  funext answer
  cases answer <;> rfl

/-- What comes of asking for a selection: nothing is asked if nothing can be selected, nor if there is
less than must be selected; then everything is. -/
inductive Selecting (id : PlayerId) (q : Question) (pool : List α) (least most : Nat)
    (value : q.Answer → List α) : Except Halt (List α) → List Exchange → Prop
  | nothing (h : pool = [] ∨ most = 0) : Selecting id q pool least most value (.ok []) []
  | everything (hsome : ¬(pool = [] ∨ most = 0)) (h : pool.length < least) :
      Selecting id q pool least most value (.ok pool) []
  | asked {result : Except Halt (List α)} {record : List Exchange}
      (hsome : ¬(pool = [] ∨ most = 0)) (h : least ≤ pool.length)
      (hprompted : Prompted id q value result record) :
      Selecting id q pool least most value result record

omit [Controllers M] in
/-- Whichever way a selection is made, it is one of different items and of the right size. -/
theorem Selecting.selection {id : PlayerId} {q : Question} {pool : List α} {least most : Nat}
    {value : q.Answer → List α} {chosen : List α} {record : List Exchange}
    (h : Selecting id q pool least most value (.ok chosen) record) (hpool : pool.Nodup)
    (hbounds : least ≤ most)
    (hvalue : ∀ a, q.Allows a → Selection pool least most (value a)) :
    Selection pool least most chosen := by
  generalize hresult : Except.ok chosen = result at h
  cases h with
  | nothing h =>
    rw [Except.ok.inj hresult]
    refine ⟨List.nodup_nil, by simp, ?_, Nat.zero_le _⟩
    rcases h with hnone | hzero
    · rw [hnone]
      exact Nat.min_le_right _ _
    · have hleast : least = 0 := by omega
      rw [hleast]
      exact Nat.min_le_left _ _
  | everything _ h =>
    rw [Except.ok.inj hresult]
    exact ⟨hpool, fun _ hx => hx, Nat.min_le_right _ _, by omega⟩
  | asked _ _ hprompted =>
    rw [← hresult] at hprompted
    obtain ⟨answer, hallowed, heq⟩ := hprompted.of_ok
    rw [heq]
    exact hvalue answer hallowed

section

variable {g : Game M} {id : PlayerId} (hid : id.seat < g.state.players.length)

include hid

theorem chooseAction_prompted (playable : List CardId) :
    Prompted id (.action playable) (fun a => a) ((chooseAction id playable).runOn g).1
      (exchanges (chooseAction id playable) g) :=
  of_recorded (Agrees.chooseAction Recorded.alike id playable)
    (ensures_prompted (Takes.action playable) hid rfl)

theorem chooseTreasures_prompted (playable : List CardId) :
    Prompted id (.treasures playable) (fun a => a) ((chooseTreasures id playable).runOn g).1
      (exchanges (chooseTreasures id playable) g) := by
  apply of_recorded (Agrees.chooseTreasures Recorded.alike id playable)
  rw [chooseTreasures_eq]
  exact ensures_prompted (Takes.treasures playable) hid rfl

theorem choosePurchase_prompted (buyable : List String) :
    Prompted id (.purchase buyable) (fun a => a) ((choosePurchase id buyable).runOn g).1
      (exchanges (choosePurchase id buyable) g) :=
  of_recorded (Agrees.choosePurchase Recorded.alike id buyable)
    (ensures_prompted (Takes.purchase buyable) hid rfl)

/-- The piles that are eligible are asked for, if there is any. -/
theorem choosePile_prompted (prompt : String) (source : Option CardId)
    (eligible : PileOffer → Bool) :
    let piles := (g.state.supply.piles.filter fun p => eligible (g.state.offer p)).map Pile.name
    let result := ((choosePile id prompt source eligible).runOn g).1
    let record := exchanges (choosePile id prompt source eligible) g
    (piles = [] → result = .ok none ∧ record = []) ∧
      (piles ≠ [] → Prompted id (.pile { prompt, piles, source }) (fun a => a) result record) := by
  intro piles
  refine of_recorded (Agrees.choosePile Recorded.alike id prompt source eligible)
    (P := fun result record => (piles = [] → result = .ok none ∧ record = []) ∧
      (piles ≠ [] → Prompted id (.pile { prompt, piles, source }) (fun a => a) result record)) ?_
  simp only [choosePile, ensures_bind, ensures_state]
  rw [ensures_ite]
  constructor
  · intro hempty
    have hnone : piles = [] := List.isEmpty_iff.mp hempty
    exact ⟨fun _ => ⟨rfl, rfl⟩, fun hne => absurd hnone hne⟩
  · intro hsome
    have hne : piles ≠ [] := fun hnone => hsome (List.isEmpty_iff.mpr hnone)
    exact (ensures_prompted (Takes.pile { prompt, piles, source }) hid rfl).mono
      (fun _ _ h => ⟨fun hnone => absurd hnone hne, fun _ => h⟩)
      (fun _ _ h => ⟨fun hnone => absurd hnone hne, fun _ => h⟩)

theorem chooseCards_selecting (choice : CardChoice) :
    Selecting id (.cards choice) choice.cards choice.min choice.max (·.take choice.max)
      ((chooseCards id choice).runOn g).1 (exchanges (chooseCards id choice) g) := by
  apply of_recorded (Agrees.chooseCards Recorded.alike id choice)
  have hiff : (choice.cards.isEmpty || decide (choice.max = 0)) = true ↔
      choice.cards = [] ∨ choice.max = 0 := by simp
  rw [chooseCards, ensures_ite, hiff]
  constructor
  · intro h
    exact .nothing h
  · intro hsome
    rw [ensures_ite]
    constructor
    · intro h
      exact .everything hsome h
    · intro h
      have hleast : choice.min ≤ choice.cards.length := Nat.not_lt.mp h
      exact (ensures_prompted (Takes.cards choice) hid rfl).mono
        (fun _ _ h => .asked hsome hleast h) (fun _ _ h => .asked hsome hleast h)

theorem chooseOptions_selecting (choice : OptionChoice) :
    Selecting id (.options choice) (List.range choice.options.length) choice.min choice.max
      (·.take choice.max) ((chooseOptions id choice).runOn g).1
      (exchanges (chooseOptions id choice) g) := by
  apply of_recorded (Agrees.chooseOptions Recorded.alike id choice)
  have hiff : (choice.options.isEmpty || decide (choice.max = 0)) = true ↔
      List.range choice.options.length = [] ∨ choice.max = 0 := by simp
  simp only [chooseOptions]
  rw [ensures_ite, hiff]
  constructor
  · intro h
    exact .nothing h
  · intro hsome
    rw [ensures_ite]
    constructor
    · intro h
      exact .everything hsome (by rwa [List.length_range])
    · intro h
      have hleast : choice.min ≤ (List.range choice.options.length).length := by
        rw [List.length_range]
        exact Nat.not_lt.mp h
      exact (ensures_prompted (Takes.options choice) hid rfl).mono
        (fun _ _ h => .asked hsome hleast h) (fun _ _ h => .asked hsome hleast h)

/-- An integer is asked for once, and whatever the answer is it is brought into the bounds. -/
theorem chooseInteger_within {choice : IntegerChoice} (hbounds : choice.min ≤ choice.max) :
    ∃ answer n, ((chooseInteger id choice).runOn g).1 = .ok n ∧
      exchanges (chooseInteger id choice) g = [⟨id, .integer choice, answer⟩] ∧
      choice.min ≤ n ∧ n ≤ choice.max := by
  apply of_recorded (Agrees.chooseInteger Recorded.alike id choice)
    (P := fun result record => ∃ answer n, result = .ok n ∧
      record = [⟨id, .integer choice, answer⟩] ∧ choice.min ≤ n ∧ n ≤ choice.max)
  simp only [chooseInteger, ensures_bind]
  rw [ensures_ask (g := g.recorded) hid]
  refine ⟨_, _, rfl, rfl, ?_, ?_⟩ <;> omega

end

/-! ### The loop of a prompt -/

/-- Asking as a loop of so many rounds that counts the answers refused before: the one that must be
the last is refused with an error, and after all its rounds the loop would fall through to a value. -/
def askCounting (id : PlayerId) (q : Question) (what : String) (accept : q.Answer → Option β)
    (fallthrough : β) : (rounds refused : Nat) → Engine M β
  | 0, _ => pure fallthrough
  | n + 1, refused => do
    match accept (← ask id q) with
    | some b => return b
    | none =>
      warn (s!"{id} gave an invalid answer to " ++ Text.quote what ++ "; asking again")
      if attempts ≤ refused + 1 then
        fail (.invalidChoice (s!"{id} kept answering " ++ Text.quote what ++ " out of range"))
      askCounting id q what accept fallthrough n (refused + 1)

theorem askCounting_eq_askTimes (id : PlayerId) (q : Question) (what : String)
    (accept : q.Answer → Option β) (fallthrough : β) {n refused : Nat} (hn : 0 < n)
    (hsum : refused + n = attempts) :
    (askCounting id q what accept fallthrough n refused : Engine M β) =
      askTimes id q what accept n := by
  induction n generalizing refused with
  | zero => exact absurd hn (Nat.lt_irrefl 0)
  | succ n ih =>
    unfold askCounting askTimes
    apply bind_congr
    intro answer
    cases accept answer with
    | some b => rfl
    | none =>
      apply bind_congr
      intro _
      by_cases hlast : n = 0
      · have hle : attempts ≤ refused + 1 := by omega
        rw [if_pos hle, hlast]
        rfl
      · have hgt : ¬ attempts ≤ refused + 1 := by omega
        rw [if_neg hgt, ← ih (by omega) (by omega : refused + 1 + n = attempts)]

/-- Whatever a player answers, and in every state. A prompt for an action, for treasures, for a
purchase or for a pile gives nothing or what was offered, and no treasure twice; a prompt for cards or
for options gives a selection in the order of the answer. Each of these takes the first answer that is
allowed, and stops with an error only after as many refusals as there are attempts; its loop never
falls through. An integer is within its bounds. -/
theorem prompts_validated (g : Game M) {id : PlayerId} (hid : id.seat < g.state.players.length) :
    (∀ playable,
      Prompted id (.action playable) (fun a => a) ((chooseAction id playable).runOn g).1
        (exchanges (chooseAction id playable) g) ∧
      ∀ card, ((chooseAction id playable).runOn g).1 = .ok (some card) → card ∈ playable) ∧
    (∀ playable,
      Prompted id (.treasures playable) (fun a => a) ((chooseTreasures id playable).runOn g).1
        (exchanges (chooseTreasures id playable) g) ∧
      ∀ cards, ((chooseTreasures id playable).runOn g).1 = .ok (some cards) →
        cards.Nodup ∧ ∀ card ∈ cards, card ∈ playable) ∧
    (∀ buyable,
      Prompted id (.purchase buyable) (fun a => a) ((choosePurchase id buyable).runOn g).1
        (exchanges (choosePurchase id buyable) g) ∧
      ∀ pile, ((choosePurchase id buyable).runOn g).1 = .ok (some pile) → pile ∈ buyable) ∧
    (∀ prompt source eligible,
      let piles := (g.state.supply.piles.filter fun p => eligible (g.state.offer p)).map Pile.name
      let result := ((choosePile id prompt source eligible).runOn g).1
      let record := exchanges (choosePile id prompt source eligible) g
      (piles = [] → result = .ok none ∧ record = []) ∧
      (piles ≠ [] →
        Prompted id (.pile { prompt, piles, source }) (fun a => a) result record) ∧
      ∀ pile, result = .ok (some pile) → pile ∈ piles) ∧
    (∀ choice : CardChoice,
      Selecting id (.cards choice) choice.cards choice.min choice.max (·.take choice.max)
        ((chooseCards id choice).runOn g).1 (exchanges (chooseCards id choice) g) ∧
      (choice.min ≤ choice.max → choice.cards.Nodup →
        ∀ chosen, ((chooseCards id choice).runOn g).1 = .ok chosen →
          Selection choice.cards choice.min choice.max chosen)) ∧
    (∀ choice : OptionChoice,
      Selecting id (.options choice) (List.range choice.options.length) choice.min choice.max
        (·.take choice.max) ((chooseOptions id choice).runOn g).1
        (exchanges (chooseOptions id choice) g) ∧
      (choice.min ≤ choice.max →
        ∀ chosen, ((chooseOptions id choice).runOn g).1 = .ok chosen →
          Selection (List.range choice.options.length) choice.min choice.max chosen)) ∧
    (∀ choice : IntegerChoice, choice.min ≤ choice.max →
      ∃ answer n, ((chooseInteger id choice).runOn g).1 = .ok n ∧
        exchanges (chooseInteger id choice) g = [⟨id, .integer choice, answer⟩] ∧
        choice.min ≤ n ∧ n ≤ choice.max) ∧
    ∀ (β : Type) (q : Question) (what : String) (accept : q.Answer → Option β) (fallthrough : β),
      (askCounting id q what accept fallthrough attempts 0 : Engine M β) =
        askUntil id q what accept := by
  refine ⟨?action, ?treasures, ?purchase, ?pile, ?cards, ?options, ?integer, ?loop⟩
  case action =>
    intro playable
    have hprompted := chooseAction_prompted hid playable
    refine ⟨hprompted, ?_⟩
    intro card hcard
    rw [hcard] at hprompted
    obtain ⟨answer, hallowed, heq⟩ := hprompted.of_ok
    exact hallowed card heq.symm
  case treasures =>
    intro playable
    have hprompted := chooseTreasures_prompted hid playable
    refine ⟨hprompted, ?_⟩
    intro cards hcards
    rw [hcards] at hprompted
    obtain ⟨answer, hallowed, heq⟩ := hprompted.of_ok
    exact hallowed cards heq.symm
  case purchase =>
    intro buyable
    have hprompted := choosePurchase_prompted hid buyable
    refine ⟨hprompted, ?_⟩
    intro pile hpile
    rw [hpile] at hprompted
    obtain ⟨answer, hallowed, heq⟩ := hprompted.of_ok
    exact hallowed pile heq.symm
  case pile =>
    intro prompt source eligible piles _ _
    obtain ⟨hnone, hsome⟩ := choosePile_prompted hid prompt source eligible
    refine ⟨hnone, hsome, ?_⟩
    intro pile (hpile : ((choosePile id prompt source eligible).runOn g).1 = .ok (some pile))
    have hne : piles ≠ [] := by
      intro hempty
      rw [(hnone hempty).1] at hpile
      exact absurd hpile (by simp)
    have hprompted := hsome hne
    rw [hpile] at hprompted
    obtain ⟨answer, hallowed, heq⟩ := hprompted.of_ok
    exact hallowed pile heq.symm
  case cards =>
    intro choice
    have hselecting := chooseCards_selecting hid choice
    refine ⟨hselecting, ?_⟩
    intro hbounds hnodup chosen hchosen
    rw [hchosen] at hselecting
    exact hselecting.selection hnodup hbounds fun _ h => h.1.selection h.2
  case options =>
    intro choice
    have hselecting := chooseOptions_selecting hid choice
    refine ⟨hselecting, ?_⟩
    intro hbounds chosen hchosen
    rw [hchosen] at hselecting
    exact hselecting.selection List.nodup_range hbounds fun _ h => h.1.selection h.2
  case integer =>
    intro choice hbounds
    exact chooseInteger_within hid hbounds
  case loop =>
    intro β q what accept fallthrough
    exact askCounting_eq_askTimes id q what accept fallthrough (by decide) (Nat.zero_add _)

/-- Two of three cards, chosen by the first of two players at random. -/
theorem prompts_validated_at_random :
    ∃ s₀, initGame Registry.catalog { players := ["Player 1", "Player 2"] } = .ok s₀ ∧
      let g : Game Table := ⟨s₀, Table.ofMinds [.random, .random]⟩
      let choice : CardChoice :=
        { prompt := "Discard two", cards := [⟨3⟩, ⟨4⟩, ⟨5⟩], min := 2, max := 2 }
      0 < g.state.players.length ∧ choice.min ≤ choice.max ∧ choice.cards.Nodup ∧
        ∀ chosen, ((chooseCards ⟨0⟩ choice).runOn g).1 = .ok chosen →
          Selection choice.cards choice.min choice.max chosen := by
  obtain ⟨s₀, h⟩ := initGame_catalog
  have hopened := initGame_opened h
  have hseat : (⟨0⟩ : PlayerId).seat < s₀.players.length := by
    rw [hopened.seats]
    exact Nat.zero_lt_two
  obtain ⟨-, -, -, -, hcards, -⟩ :=
    prompts_validated ⟨s₀, Table.ofMinds [.random, .random]⟩ hseat
  refine ⟨s₀, h, hseat, by decide, by decide, ?_⟩
  exact (hcards _).2 (by decide) (by decide)

end Engine

end DeckBuilder
