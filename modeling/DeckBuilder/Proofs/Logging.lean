import DeckBuilder.Proofs.Change
import DeckBuilder.Proofs.Coupled
import DeckBuilder.Setup
import DeckBuilder.Controller.Table

/-!
Logging never influences a game. The players that are part of the program do not look at the log book
when they answer: what they write there differs with it, but not what they answer, draw from the
generator or remember. So two games that differ in how they log are coupled, from their set-up to
their end.
-/
namespace DeckBuilder

open DeckBuilder.Random

variable {M N : Type}

/-! ### Thinking without a look at the log book -/

/-- Desks that differ in their notes at most, up to a relation between the memories. -/
structure Desk.Paired (S : M → M → Prop) (d d' : Desk M) : Prop where
  memory : S d.memory d'.memory
  rng : d'.rng = d.rng

/-- Thinking at paired desks gives the same answer and leaves paired desks. -/
def Think.Paired {α : Type} (S : M → M → Prop) (t t' : Think M α) : Prop :=
  ∀ d d', d.Paired S d' → (t' d').1 = (t d).1 ∧ (t d).2.Paired S (t' d').2

namespace Think.Paired

variable {α β : Type} {S : M → M → Prop}

theorem pure (a : α) : Paired S (Pure.pure a) (Pure.pure a) := fun _ _ hd => ⟨rfl, hd⟩

theorem bind {t t' : Think M α} {k k' : α → Think M β} (h : Paired S t t')
    (hk : ∀ a, Paired S (k a) (k' a)) : Paired S (t >>= k) (t' >>= k') := by
  intro d d' hd
  obtain ⟨hvalue, hdesks⟩ := h d d' hd
  change (k' (t' d').1 (t' d').2).1 = _ ∧ Desk.Paired S _ (k' (t' d').1 (t' d').2).2
  rw [hvalue]
  exact hk _ _ _ hdesks

theorem ite {c : Prop} [Decidable c] {t₁ t₂ t₁' t₂' : Think M α} (h₁ : Paired S t₁ t₁')
    (h₂ : Paired S t₂ t₂') : Paired S (if c then t₁ else t₂) (if c then t₁' else t₂') := by
  by_cases hc : c
  · rw [if_pos hc, if_pos hc]
    exact h₁
  · rw [if_neg hc, if_neg hc]
    exact h₂

/-- What is noted does not matter. -/
theorem note (n n' : Note) : Paired S (Think.note n) (Think.note n') :=
  fun _ _ hd => ⟨rfl, hd.memory, hd.rng⟩

theorem random (f : Generator → α × Generator) : Paired S (Think.random f) (Think.random f) := by
  intro d d' hd
  refine ⟨congrArg (fun g => (f g).1) hd.rng, hd.memory, ?_⟩
  exact congrArg (fun g => (f g).2) hd.rng

theorem remember {k k' : M → Think M α} (h : ∀ m m', S m m' → Paired S (k m) (k' m')) :
    Paired S (Think.memory >>= k) (Think.memory >>= k') :=
  fun d d' hd => h d.memory d'.memory hd.memory d d' hd

theorem setMemory {m m' : M} (h : S m m') : Paired S (Think.setMemory m) (Think.setMemory m') :=
  fun _ _ hd => ⟨rfl, h, hd.rng⟩

theorem within {T : N → N → Prop} {part part' : N} {put put' : M → N → M} {t t' : Think N α}
    (hpart : T part part') (h : Paired T t t')
    (hput : ∀ m m' n n', S m m' → T n n' → S (put m n) (put' m' n')) :
    Paired S (Think.within part put t) (Think.within part' put' t') := by
  intro d d' hd
  obtain ⟨hvalue, hdesks⟩ :=
    h { memory := part, rng := d.rng, notes := d.notes }
      { memory := part', rng := d'.rng, notes := d'.notes } ⟨hpart, hd.rng⟩
  exact ⟨hvalue, hput _ _ _ _ hd.memory hdesks.memory, hdesks.rng⟩

end Think.Paired

open Think (Paired)

namespace RandomPlayer

variable {α : Type} {S : M → M → Prop}

theorem subset_paired (pool : List α) (min max : Nat) :
    Paired S (subset pool min max) (subset pool min max) :=
  .bind (.random _) fun _ => .bind (.random _) fun _ => .pure _

theorem oneOf_paired (items : List α) : Paired S (oneOf items) (oneOf items) :=
  .ite (.pure _) (.bind (.random _) fun _ => .pure _)

theorem answer_paired (s : GameState) (l : Logger) (q : Question) :
    Paired S (answer s q) (answer (s.withLogger l) q) := by
  cases q with
  | action playable =>
    refine .bind (oneOf_paired _) fun card => ?_
    cases card with
    | none => exact .pure _
    | some c => exact .bind (.note _ _) fun _ => .pure _
  | treasures playable => exact .pure _
  | purchase buyable => exact .bind (.random _) fun _ => .bind (.note _ _) fun _ => .pure _
  | cards choice => exact .bind (subset_paired _ _ _) fun _ => .bind (.note _ _) fun _ => .pure _
  | pile choice =>
    refine .bind (oneOf_paired _) fun pile => ?_
    cases pile with
    | none => exact .pure _
    | some p => exact .bind (.note _ _) fun _ => .pure _
  | boolean choice => exact .bind (.random _) fun _ => .bind (.note _ _) fun _ => .pure _
  | options choice => exact subset_paired _ _ _
  | integer choice => exact .ite (.pure _) (.random _)

end RandomPlayer

namespace HeuristicPlayer

variable {S : M → M → Prop}

theorem bestCards_withLogger (s : GameState) (l : Logger) (n : Nat) (pool : List CardId) :
    bestCards (s.withLogger l) n pool = bestCards s n pool := by
  induction n generalizing pool with
  | zero => rfl
  | succ n ih =>
    simp only [bestCards, ih]
    rfl

theorem answer_paired (density : Nat) (s : GameState) (l : Logger) (player : PlayerId)
    (q : Question) :
    Paired S (answer density s player q) (answer density (s.withLogger l) player q) := by
  cases q with
  | action playable =>
    change Paired S (answer density s player (.action playable))
      (answer density s player (.action playable))
    simp only [answer]
    split
    · exact .bind (.note _ _) fun _ => .pure _
    · exact .pure _
  | treasures playable => exact .pure _
  | purchase buyable => exact .bind (.note _ _) fun _ => .pure _
  | cards choice =>
    simp only [answer, bestCards_withLogger]
    exact .bind (.note _ _) fun _ => .pure _
  | pile choice => exact .bind (.note _ _) fun _ => .pure _
  | boolean choice => exact .bind (.note _ _) fun _ => .pure _
  | options choice => exact .pure _
  | integer choice => exact .pure _

theorem gameOver_paired (s s' : GameState) (player : PlayerId) (won : Bool) :
    Paired S (gameOver s player won) (gameOver s' player won) := .note _ _

end HeuristicPlayer

namespace ScriptedPlayer

theorem takeAnswer_paired : Paired Eq takeAnswer takeAnswer :=
  .remember fun _ _ h => h ▸ .bind (.setMemory rfl) fun _ => .pure _

theorem answer_paired (s : GameState) (l : Logger) (q : Question) :
    Paired Eq (answer s q) (answer (s.withLogger l) q) := by
  cases q with
  | treasures playable =>
    refine .remember fun m m' h => ?_
    subst h
    split
    · exact .bind takeAnswer_paired fun _ => .bind (.note _ _) fun _ => .pure _
    · exact .bind takeAnswer_paired fun _ => .pure _
    · exact .pure _
  | action | purchase | cards | pile | boolean | options | integer =>
    exact .bind takeAnswer_paired fun _ => .bind (.note _ _) fun _ => .pure _

end ScriptedPlayer

theorem QueuePlayer.answer_paired (q : Question) : Paired Eq (answer q) (answer q) :=
  .remember fun _ _ h => h ▸ .bind (.setMemory rfl) fun _ => .pure _

/-! ### Players at a table -/

/-- Players at a terminal have read the same of the same input. -/
def Input.SameText (i i' : Input) : Prop := i'.blocks = i.blocks

theorem Input.SameText.markDry {i i' : Input} (h : i.SameText i') (c : Prop) [Decidable c]
    (n n' : Nat) : Input.SameText (if c then i.markDry n else i) (if c then i'.markDry n' else i') := by
  have hdry : ∀ (i : Input) n, (i.markDry n).blocks = i.blocks := by
    intro i n
    unfold Input.markDry
    split <;> rfl
  unfold Input.SameText
  split
  · rw [hdry, hdry]
    exact h
  · exact h

/-- The same players remember the same things, and as much of the input is left. -/
structure Table.Same (t t' : Table) : Prop where
  seats : t'.seats = t.seats
  input : t.input.SameText t'.input

namespace Mind

/-- The same mind over the same input. -/
def Same (m m' : Mind × Input) : Prop := m'.1 = m.1 ∧ m.2.SameText m'.2

theorem answer_paired (s : GameState) (l : Logger) (player : PlayerId) (q : Question) :
    Paired Same (answer s player q) (answer (s.withLogger l) player q) := by
  refine .remember ?_
  rintro ⟨mind, input⟩ ⟨mind', input'⟩ ⟨hmind, hinput⟩
  obtain rfl : mind' = mind := hmind
  cases mind' with
  | random => exact RandomPlayer.answer_paired s l q
  | heuristic density => exact HeuristicPlayer.answer_paired density s l player q
  | scripted p =>
    refine .within rfl (ScriptedPlayer.answer_paired s l q) ?_
    rintro _ _ _ _ - rfl
    exact ⟨rfl, hinput⟩
  | queue p =>
    refine .within rfl (QueuePlayer.answer_paired q) ?_
    rintro _ _ _ _ - rfl
    exact ⟨rfl, hinput⟩
  | terminal own =>
    -- The number of things printed gets into the memory, but into no answer.
    obtain ⟨blocks, dry⟩ := input
    obtain ⟨blocks', dry'⟩ := input'
    obtain rfl : blocks' = blocks := hinput
    refine .bind (.setMemory ⟨rfl, ?_⟩) fun _ => .bind (.note _ _) fun _ => .pure _
    apply Input.SameText.markDry
    rfl

theorem gameOver_paired (s : GameState) (l : Logger) (player : PlayerId) (won : Bool) :
    Paired Same (gameOver s player won) (gameOver (s.withLogger l) player won) := by
  refine .remember ?_
  rintro ⟨mind, input⟩ ⟨mind', input'⟩ ⟨hmind, hinput⟩
  obtain rfl : mind' = mind := hmind
  cases mind' with
  | heuristic => exact HeuristicPlayer.gameOver_paired _ _ _ _
  | terminal => exact .note _ _
  | random | scripted | queue => exact .pure _

end Mind

/-- Games that differ in their log books at most, with the same players. -/
def Game.Alongside (g g' : Game Table) : Prop :=
  (∃ l, g'.state = g.state.withLogger l) ∧ g.memory.Same g'.memory

namespace Table

open Game (Alongside)

theorem within_paired {α : Type} {t t' : Think (Mind × Input) α} {input input' : Input}
    (h : Paired Mind.Same t t') (hinput : input.SameText input') (seat : Seat) (place : Nat) :
    Paired Same
      (Think.within (seat.mind, input) (fun table (mind, input) =>
        { seats := table.seats.set place { seat with mind }, input }) t)
      (Think.within (seat.mind, input') (fun table (mind, input) =>
        { seats := table.seats.set place { seat with mind }, input }) t') := by
  refine .within ⟨rfl, hinput⟩ h ?_
  rintro table table' ⟨mind, input⟩ ⟨mind', input'⟩ htable ⟨hmind, hinput⟩
  obtain rfl : mind' = mind := hmind
  exact ⟨congrArg (List.set · _ _) htable.seats, hinput⟩

theorem atSeat_paired {α : Type} {t t' : Think (Mind × Input) α} (player : PlayerId) (put : Json)
    (h : Paired Mind.Same t t') : Paired Same (atSeat player put t) (atSeat player put t') := by
  refine .remember fun table table' htable => ?_
  rw [htable.seats]
  have hthink := within_paired h htable.input ((table.seats[player.seat]?).getD { mind := .random })
    player.seat
  exact .ite (.bind (.note _ _) fun _ => hthink) hthink

/-- Only the log book can tell what the players noted. -/
theorem alongside_of_desks {d d' : Desk Table} (h : d.Paired Same d') (s : GameState) (l : Logger)
    (id : PlayerId) :
    Alongside ⟨{ s with rng := d.rng }.enterAll id d.notes, d.memory⟩
      ⟨{ s.withLogger l with rng := d'.rng }.enterAll id d'.notes, d'.memory⟩ := by
  obtain ⟨l₁, h₁⟩ := GameState.enterAll_eq { s with rng := d.rng } id d.notes
  obtain ⟨l₂, h₂⟩ := GameState.enterAll_eq { s.withLogger l with rng := d'.rng } id d'.notes
  refine ⟨⟨l₂, ?_⟩, h.memory⟩
  rw [h₁, h₂, h.rng]
  rfl

theorem alongside_coupling : Coupling Alongside where
  unlogged h := h.1
  change := by
    rintro ⟨s, t⟩ ⟨_, t'⟩ change hchange ⟨⟨l, rfl⟩, ht⟩
    exact ⟨hchange s l, ht⟩
  asked := by
    rintro ⟨s, t⟩ ⟨_, t'⟩ ⟨⟨l, rfl⟩, ht⟩ id q
    obtain ⟨hanswer, hdesks⟩ := atSeat_paired id q.toJson (Mind.answer_paired s l id q)
      { memory := t, rng := s.rng } { memory := t', rng := s.rng } ⟨ht, rfl⟩
    exact ⟨hanswer, alongside_of_desks hdesks s l id⟩
  told := by
    rintro ⟨s, t⟩ ⟨_, t'⟩ ⟨⟨l, rfl⟩, ht⟩ id won
    have hdesks := (atSeat_paired id (.arr [.str "end", .bool won])
      (Mind.gameOver_paired s l id won)
      { memory := t, rng := s.rng } { memory := t', rng := s.rng } ⟨ht, rfl⟩).2
    exact alongside_of_desks hdesks s l id

end Table

/-! ### Games from their set-up on -/

namespace Setup

/-- The second computation gives the states that the first gives, with another log book. -/
def Relogged (x x' : Except GameError GameState) : Prop := ∃ l, x' = x.map (·.withLogger l)

theorem Relogged.bind {α : Type} {k k' : α → Except GameError GameState}
    (h : ∀ a, Relogged (k a) (k' a)) (x : Except GameError α) :
    Relogged (x >>= k) (x >>= k') := by
  cases x with
  | error e => exact ⟨{}, rfl⟩
  | ok a => exact h a

theorem drawHands_relogged (ids : List PlayerId) (s : GameState) (l : Logger) :
    Relogged (drawHands ids s) (drawHands ids (s.withLogger l)) := by
  induction ids generalizing s l with
  | nil => exact ⟨l, rfl⟩
  | cons id ids ih =>
    obtain ⟨l₁, h₁⟩ := GameState.draw_blind id handSize s l
    dsimp only at h₁
    simp only [drawHands, h₁]
    cases s.draw id handSize with
    | error e => exact ⟨l, rfl⟩
    | ok drawn => exact ih drawn.2 l₁

end Setup

open Setup in
/-- How a game logs has no part in its set-up. -/
theorem initGame_relogged (r : Registry) (c : GameConfig) (verbosity : Verbosity)
    (format : LogFormat) (output : LogOutput) :
    Relogged (initGame r c) (initGame r { c with verbosity, format, output }) := by
  simp only [initGame]
  split
  · exact ⟨{}, rfl⟩
  · refine Relogged.bind (fun _ => ?_) _
    refine Relogged.bind (fun _ => ?_) _
    refine Relogged.bind (fun _ => ?_) _
    exact drawHands_relogged _ _ _

/-- What comes of a computation from a state: its value or why it stopped, and the state after it with
an empty log book in place of its own. -/
def Engine.upshot {α : Type} (e : Engine M α) (memory : M) (s : GameState) :
    Except Halt α × GameState :=
  ((e.runOn ⟨s, memory⟩).1, (e.runOn ⟨s, memory⟩).2.state.withLogger {})

/-- Whatever is in the log book, and however things are logged, the same comes of a game. -/
theorem Engine.Coupled.upshot_eq {α : Type} {e : Engine Table α}
    (h : Engine.Coupled Game.Alongside (fun _ _ => False) e e) (s : GameState) (l : Logger)
    (t : Table) : e.upshot t (s.withLogger l) = e.upshot t s := by
  have hgames : Game.Alongside ⟨s, t⟩ ⟨s.withLogger l, t⟩ := ⟨⟨l, rfl⟩, rfl, rfl⟩
  obtain ⟨hvalue, ⟨l', hstate⟩, -⟩ := h.alike hgames
  unfold Engine.upshot
  rw [hvalue, hstate]
  rfl

/-- The same comes of a game if it is set up to log in another way. -/
theorem Setup.Relogged.upshot_eq {α : Type} {x x' : Except GameError GameState}
    (hx : Relogged x x') {e : Engine Table α}
    (h : Engine.Coupled Game.Alongside (fun _ _ => False) e e) (t : Table) :
    x'.map (e.upshot t) = x.map (e.upshot t) := by
  obtain ⟨l, rfl⟩ := hx
  cases x with
  | error e => rfl
  | ok s => exact congrArg Except.ok (h.upshot_eq s l t)

/-- Logging never influences a game. Let the players, the kingdom, the other cards of the supply and
the seed be what they are: whether everything or nothing is logged, in which format and where to, the
set-up fails or succeeds in the same way, and then the same comes of a turn, of any number of turns and
of the whole game. -/
theorem logging_never_influences (r : Registry) (c : GameConfig) (verbosity : Verbosity)
    (format : LogFormat) (output : LogOutput) (t : Table) (maxTurns n elapsed : Nat) :
    let s := initGame r c
    let s' := initGame r { c with verbosity, format, output }
    s'.map ((Engine.playTurn maxTurns elapsed).upshot t) =
        s.map ((Engine.playTurn maxTurns elapsed).upshot t) ∧
      s'.map ((Engine.playTurns maxTurns n elapsed).upshot t) =
        s.map ((Engine.playTurns maxTurns n elapsed).upshot t) ∧
      s'.map ((Engine.playGame maxTurns).upshot t) =
        s.map ((Engine.playGame maxTurns).upshot t) := by
  have hs := initGame_relogged r c verbosity format output
  refine ⟨hs.upshot_eq ?_ t, hs.upshot_eq ?_ t, hs.upshot_eq ?_ t⟩
  · exact Engine.Coupled.playTurn Table.alongside_coupling _ _
  · exact Engine.Coupled.playTurns Table.alongside_coupling _ _ _
  · exact Engine.Coupled.playGame Table.alongside_coupling _

end DeckBuilder
