import DeckBuilder.Controller.Table
import DeckBuilder.Proofs.LogWindows
import DeckBuilder.Proofs.Logging

/-!
The log book mirrors the log. An event is added to the log and entered in the log book in one step, and
nothing that a game does enters an event otherwise. So if entries are kept, those about events are the
events of the log, in order, each shown in the one format of the log book; whatever else is entered
stands in between. Only a controller could enter an event that never happened, since it may leave any
note; none of the players that are part of the program does.
-/
namespace DeckBuilder

/-- How an event is entered in the log book. -/
def GameEvent.entry : LogFormat → GameEvent → LogEntry
  | .text, e => ⟨Logger.eventLevel e.kind, e.text, some .event⟩
  | .json, e => ⟨.normal, e.toJson.render, some .event⟩

theorem GameEvent.category_entry (format : LogFormat) (e : GameEvent) :
    (e.entry format).category = some .event := by
  cases format <;> rfl

/-- Entries that mirror events: each of them shows the next event, or it is some other one. Both grow at
their ends. -/
inductive Mirrored (entry : GameEvent → LogEntry) (other : LogEntry → Prop) :
    List GameEvent → List LogEntry → Prop
  | nil : Mirrored entry other [] []
  | event {events : List GameEvent} {entries : List LogEntry} (h : Mirrored entry other events entries)
      (e : GameEvent) : Mirrored entry other (events ++ [e]) (entries ++ [entry e])
  | other {events : List GameEvent} {entries : List LogEntry} (h : Mirrored entry other events entries)
      {x : LogEntry} (hx : other x) : Mirrored entry other events (entries ++ [x])

namespace Mirrored

variable {entry : GameEvent → LogEntry} {other : LogEntry → Prop} {events : List GameEvent}
  {entries : List LogEntry}

/-- No event is left out, and they keep their order. -/
theorem sublist (h : Mirrored entry other events entries) : (events.map entry).Sublist entries := by
  induction h with
  | nil => exact .slnil
  | event _ e ih =>
    rw [List.map_append]
    exact ih.append (.refl _)
  | other _ _ ih => exact ih.trans (List.sublist_append_left _ _)

/-- Where there is nothing else, the entries show the events one by one. -/
theorem eq_map (h : Mirrored entry other events entries) (hnone : ∀ x, ¬ other x) :
    entries = events.map entry := by
  induction h with
  | nil => rfl
  | event _ e ih => rw [ih, List.map_append, List.map_singleton]
  | other _ hx _ => exact absurd hx (hnone _)

end Mirrored

/-! ### The log book -/

namespace Logger

/-- The entries about events. -/
def eventEntries (l : Logger) : List LogEntry := l.entries.toList.filter (·.category = some .event)

/-- An entry is kept, and maybe something is printed. -/
theorem log_eq (l : Logger) (entry : LogEntry) :
    ∃ printed, l.log entry = { l.keep entry with printed } := by
  unfold log print
  dsimp only
  split
  · split <;> exact ⟨_, rfl⟩
  · exact ⟨_, rfl⟩

/-- In both formats an event is entered in the same way. -/
theorem event_eq (l : Logger) (e : GameEvent) :
    ∃ printed, l.event e = { l.keep (e.entry l.format) with printed } := by
  unfold event
  cases l.format with
  | text => exact l.log_eq _
  | json =>
    dsimp only [print]
    split
    · exact ⟨_, rfl⟩
    · split <;> exact ⟨_, rfl⟩

theorem eventEntries_keep {l : Logger} (h : l.output.keeps = true) (entry : LogEntry) :
    (l.keep entry).eventEntries =
      if entry.category = some .event then l.eventEntries ++ [entry] else l.eventEntries := by
  rw [keep, if_pos h, eventEntries, Array.toList_push, List.filter_append]
  by_cases hevent : entry.category = some .event
  · rw [if_pos hevent, List.filter_singleton, decide_eq_true hevent]
    rfl
  · rw [if_neg hevent, List.filter_singleton, decide_eq_false hevent]
    exact List.append_nil _

/-- A log book that keeps its entries, in one format, and mirrors the events. -/
structure Mirrors (other : LogEntry → Prop) (format : LogFormat) (events : List GameEvent)
    (l : Logger) : Prop where
  keeps : l.output.keeps = true
  formatted : l.format = format
  mirrored : Mirrored (GameEvent.entry format) other events l.eventEntries

namespace Mirrors

variable {other : LogEntry → Prop} {format : LogFormat} {events events' : List GameEvent} {l : Logger}

/-- Keeping an entry is all that matters of logging it. -/
theorem kept (h : l.Mirrors other format events) {l' : Logger} {entry : LogEntry}
    (hl : ∃ printed, l' = { l.keep entry with printed })
    (hmirrored : Mirrored (GameEvent.entry format) other events' (l.keep entry).eventEntries) :
    l'.Mirrors other format events' := by
  obtain ⟨printed, rfl⟩ := hl
  have hkeep : l.keep entry = { l with entries := l.entries.push entry } := if_pos h.keeps
  refine ⟨?_, ?_, hmirrored⟩
  · rw [hkeep]
    exact h.keeps
  · rw [hkeep]
    exact h.formatted

theorem event (h : l.Mirrors other format events) (e : GameEvent) :
    (l.event e).Mirrors other format (events ++ [e]) := by
  refine h.kept (l.event_eq e) ?_
  rw [eventEntries_keep h.keeps, if_pos (e.category_entry _), h.formatted]
  exact h.mirrored.event e

theorem log (h : l.Mirrors other format events) {entry : LogEntry}
    (hentry : entry.category = some .event → other entry) :
    (l.log entry).Mirrors other format events := by
  refine h.kept (l.log_eq entry) ?_
  rw [eventEntries_keep h.keeps]
  by_cases hevent : entry.category = some .event
  · rw [if_pos hevent]
    exact h.mirrored.other (hentry hevent)
  · rw [if_neg hevent]
    exact h.mirrored

theorem display (h : l.Mirrors other format events) (id : PlayerId) (text : String) :
    (l.display id text).Mirrors other format events := ⟨h.keeps, h.formatted, h.mirrored⟩

end Mirrors

end Logger

/-! ### What a game enters -/

namespace GameState

/-- The log book mirrors the log, which begins with the start of the game. -/
structure Mirrors (other : LogEntry → Prop) (format : LogFormat) (s : GameState) : Prop where
  logger : s.logger.Mirrors other format s.log
  started : ∃ kingdom, s.log.head?.map (·.kind) = some (.gameStart kingdom)

namespace Mirrors

variable {other : LogEntry → Prop} {format : LogFormat} {s s' : GameState}

theorem aside (h : s.Mirrors other format) (hlog : s'.log = s.log) (hlogger : s'.logger = s.logger) :
    s'.Mirrors other format := by
  obtain ⟨hmirrors, hstarted⟩ := h
  rw [← hlog] at hmirrors hstarted
  rw [← hlogger] at hmirrors
  exact ⟨hmirrors, hstarted⟩

/-- An event is added to the log and entered in the log book in one step. -/
theorem publish (h : s.Mirrors other format) (id : PlayerId) (kind : EventKind) :
    (s.publish id kind).Mirrors other format := by
  obtain ⟨kingdom, hstarted⟩ := h.started
  obtain ⟨e, hhead, hkind⟩ := Option.map_eq_some_iff.mp hstarted
  refine ⟨?_, kingdom, ?_⟩
  · rw [log_publish]
    exact h.logger.event _
  · rw [log_publish, List.head?_append, hhead, Option.some_or, Option.map_some, hkind]

/-- A shuffle is told of if there are cards to shuffle. -/
theorem shuffled (h : s.Mirrors other format) (id : PlayerId) (cards : Nat) :
    (if 0 < cards then s.publish id (.shuffle cards) else s).Mirrors other format := by
  split
  · exact h.publish id _
  · exact h

theorem touch (h : s.Mirrors other format) (ht : Touch s s') : s'.Mirrors other format := by
  cases ht with
  | remark entry hentry => exact ⟨h.logger.log fun hevent => absurd hevent hentry, h.started⟩
  | publish id kind _ => exact h.publish id kind
  | hang | arrange | take | throwAway | reprice | enter => exact h.aside rfl rfl
  -- To draw and to look tell of nothing but the shuffle that they may need.
  | draw id p _ =>
    refine shuffled ?_ id _
    exact h.aside rfl rfl
  | peek _ id n cards ht =>
    unfold topCards at ht
    cases hp : s.player? id with
    | none => simp [hp] at ht
    | some p =>
      rw [hp] at ht
      cases ht
      refine shuffled ?_ id _
      exact h.aside rfl rfl

theorem touches (h : s.Mirrors other format) (ht : Touches s s') : s'.Mirrors other format := by
  induction ht with
  | refl => exact h
  | tail _ htouch ih => exact ih.touch htouch

theorem passage (h : s.Mirrors other format) (hp : Passage s s') : s'.Mirrors other format := by
  cases hp with
  | begin | count | pass => exact h.aside rfl rfl
  | start id => exact h.publish id _
  | finish id winners scores => exact h.publish id _

/-- A controller draws from the generator, and its notes are entered one after another. -/
theorem thought (h : s.Mirrors other format) (rng : Generator) (id : PlayerId) {notes : Array Note}
    (hnotes : ∀ entry, Note.log entry ∈ notes → entry.category = some .event → other entry) :
    ({ s with rng }.enterAll id notes).Mirrors other format := by
  have hdrawn : Mirrors other format { s with rng } := h.aside rfl rfl
  unfold enterAll
  refine Array.foldl_induction (fun _ (t : GameState) => t.Mirrors other format) hdrawn ?_
  intro i t ht
  cases hnote : notes[i] with
  | log entry =>
    have hmem : Note.log entry ∈ notes := hnote ▸ Array.getElem_mem _
    exact ⟨ht.logger.log (hnotes entry hmem), ht.started⟩
  | screen text => exact ⟨ht.logger.display id text, ht.started⟩

end Mirrors

end GameState

/-! ### What controllers enter -/

/-- An entry about an event that a controller makes when it is asked or told something. -/
structure Controllers.Enters (M : Type) [Controllers M] (entry : LogEntry) : Prop where
  event : entry.category = some .event
  noted : ∃ (s : GameState) (id : PlayerId) (desk : Desk M), desk.notes = #[] ∧
    ((∃ q, Note.log entry ∈ (Controllers.answer s id q desk).2.notes) ∨
      ∃ won, Note.log entry ∈ (Controllers.gameOver s id won desk).2.notes)

/-- Thinking that adds only notes of a kind. -/
def Think.Notes {M α : Type} (P : Note → Prop) (t : Think M α) : Prop :=
  ∀ d, (∀ n ∈ d.notes, P n) → ∀ n ∈ (t d).2.notes, P n

namespace Think.Notes

variable {M N α β : Type} {P : Note → Prop}

theorem pure (a : α) : Notes P (Pure.pure a : Think M α) := fun _ hd => hd

theorem bind {t : Think M α} {k : α → Think M β} (h : Notes P t) (hk : ∀ a, Notes P (k a)) :
    Notes P (t >>= k) :=
  fun d hd => hk (t d).1 (t d).2 (h d hd)

theorem ite {c : Prop} [Decidable c] {t t' : Think M α} (h : Notes P t) (h' : Notes P t') :
    Notes P (if c then t else t') := by
  by_cases hc : c
  · rw [if_pos hc]
    exact h
  · rw [if_neg hc]
    exact h'

theorem note {n : Note} (hn : P n) : Notes P (Think.note n : Think M Unit) := by
  intro d hd n' hn'
  rcases Array.mem_push.mp hn' with hold | rfl
  · exact hd n' hold
  · exact hn

theorem random (f : Generator → α × Generator) : Notes P (Think.random f : Think M α) := fun _ hd => hd

theorem remember {k : M → Think M α} (h : ∀ m, Notes P (k m)) : Notes P (Think.memory >>= k) :=
  fun d hd => h d.memory d hd

theorem setMemory (m : M) : Notes P (Think.setMemory m) := fun _ hd => hd

theorem within {part : N} {put : M → N → M} {t : Think N α} (h : Notes P t) :
    Notes P (Think.within part put t) :=
  fun d hd => h { memory := part, rng := d.rng, notes := d.notes } hd

end Think.Notes

open Think (Notes)

/-- A note that enters no event. -/
def Note.Modest (n : Note) : Prop := ∀ entry, n = .log entry → entry.category ≠ some .event

theorem Note.Modest.choice (message : String) : (Note.choice message).Modest := by
  rintro _ ⟨⟩
  nofun

theorem Note.Modest.verbose (message : String) : (Note.verbose message).Modest := by
  rintro _ ⟨⟩
  nofun

theorem Note.Modest.screen (text : String) : (Note.screen text).Modest := nofun

theorem Think.Notes.log {M : Type} (message : String) :
    Notes Note.Modest (Think.log message : Think M Unit) := .note (.choice message)

theorem RandomPlayer.answer_modest {M : Type} (s : GameState) (q : Question) :
    Notes Note.Modest (answer s q : Think M q.Answer) := by
  have hsubset : ∀ {α : Type} (pool : List α) min max,
      Notes Note.Modest (subset pool min max : Think M (List α)) :=
    fun pool min max => .bind (.random _) fun _ => .bind (.random _) fun _ => .pure _
  have hone : ∀ {α : Type} (items : List α), Notes Note.Modest (oneOf items : Think M (Option α)) :=
    fun items => .ite (.pure _) (.bind (.random _) fun _ => .pure _)
  cases q with
  | action playable =>
    refine .bind (hone _) fun card => ?_
    cases card with
    | none => exact .pure _
    | some c => exact .bind (.log _) fun _ => .pure _
  | treasures playable => exact .pure _
  | purchase buyable => exact .bind (.random _) fun _ => .bind (.log _) fun _ => .pure _
  | cards choice => exact .bind (hsubset _ _ _) fun _ => .bind (.log _) fun _ => .pure _
  | pile choice =>
    refine .bind (hone _) fun pile => ?_
    cases pile with
    | none => exact .pure _
    | some p => exact .bind (.log _) fun _ => .pure _
  | boolean choice => exact .bind (.random _) fun _ => .bind (.log _) fun _ => .pure _
  | options choice => exact hsubset _ _ _
  | integer choice => exact .ite (.pure _) (.random _)

theorem HeuristicPlayer.answer_modest {M : Type} (density : Nat) (s : GameState) (player : PlayerId)
    (q : Question) : Notes Note.Modest (answer density s player q : Think M q.Answer) := by
  cases q with
  | action playable =>
    simp only [answer]
    split
    · exact .bind (.log _) fun _ => .pure _
    · exact .pure _
  | purchase | cards | pile | boolean => exact .bind (.log _) fun _ => .pure _
  | treasures | options | integer => exact .pure _

theorem ScriptedPlayer.answer_modest (s : GameState) (q : Question) :
    Notes Note.Modest (answer s q) := by
  have htake : Notes Note.Modest takeAnswer := .remember fun _ => .bind (.setMemory _) fun _ => .pure _
  cases q with
  | treasures playable =>
    refine .remember fun m => ?_
    split
    · exact .bind htake fun _ => .bind (.log _) fun _ => .pure _
    · exact .bind htake fun _ => .pure _
    · exact .pure _
  | action | purchase | cards | pile | boolean | options | integer =>
    exact .bind htake fun _ => .bind (.log _) fun _ => .pure _

theorem QueuePlayer.answer_modest (q : Question) : Notes Note.Modest (answer q) :=
  .remember fun _ => .bind (.setMemory _) fun _ => .pure _

namespace Mind

theorem answer_modest (s : GameState) (player : PlayerId) (q : Question) :
    Notes Note.Modest (answer s player q) := by
  refine .remember ?_
  rintro ⟨mind, input⟩
  cases mind with
  | random => exact RandomPlayer.answer_modest s q
  | heuristic density => exact HeuristicPlayer.answer_modest density s player q
  | scripted p => exact .within (ScriptedPlayer.answer_modest s q)
  | queue p => exact .within (QueuePlayer.answer_modest q)
  | terminal own =>
    exact .bind (.setMemory _) fun _ => .bind (.note (.screen _)) fun _ => .pure _

theorem gameOver_modest (s : GameState) (player : PlayerId) (won : Bool) :
    Notes Note.Modest (gameOver s player won) := by
  refine .remember ?_
  rintro ⟨mind, input⟩
  cases mind with
  | heuristic => exact .log _
  | terminal => exact .note (.screen _)
  | random | scripted | queue => exact .pure _

end Mind

namespace Table

theorem atSeat_modest {α : Type} (player : PlayerId) (put : Json) {t : Think (Mind × Input) α}
    (h : Notes Note.Modest t) : Notes Note.Modest (atSeat player put t) := by
  refine .remember fun table => ?_
  exact .ite (.bind (.note (.verbose _)) fun _ => .within h) (.within h)

/-- The players that are part of the program enter no events. -/
theorem enters_nothing (entry : LogEntry) : ¬ Controllers.Enters Table entry := by
  rintro ⟨hevent, s, id, desk, hblank, hnoted⟩
  have hdesk : ∀ n ∈ desk.notes, n.Modest := by simp [hblank]
  rcases hnoted with ⟨q, hq⟩ | ⟨won, hwon⟩
  · exact atSeat_modest id _ (Mind.answer_modest s id q) desk hdesk _ hq entry rfl hevent
  · exact atSeat_modest id _ (Mind.gameOver_modest s id won) desk hdesk _ hwon entry rfl hevent

end Table

/-! ### From the set-up on -/

/-- The log book is set up before the start of the game is told of, so that this is entered already. -/
theorem initGame_mirrors {r : Registry} {config : GameConfig} {s : GameState}
    (h : initGame r config = .ok s) (houtput : config.output ≠ .stdout) (other : LogEntry → Prop) :
    s.Mirrors other config.format := by
  obtain ⟨blank, id, kingdom, hlog, -, hlogger, htouches⟩ := initGame_touches h
  have hkeeps : config.output.keeps = true := by
    cases hout : config.output with
    | stdout => exact absurd hout houtput
    | memory | both => rfl
  have hblank : blank.logger.Mirrors other config.format [] := by
    rw [hlogger]
    exact ⟨hkeeps, rfl, .nil⟩
  refine GameState.Mirrors.touches ⟨?_, kingdom, ?_⟩ htouches
  · rw [GameState.log_publish, hlog]
    exact hblank.event _
  · rw [GameState.log_publish, hlog]
    rfl

namespace Engine

theorem lasting_mirrors {M : Type} [Controllers M] (format : LogFormat) :
    Lasting fun g : Game M => g.state.Mirrors (Controllers.Enters M) format where
  touch h htouch := h.touch htouch
  passage h hpassage := h.passage hpassage
  asked {g id} q h _ := by
    refine h.thought _ id ?_
    intro entry hentry hevent
    exact ⟨hevent, g.state, id, _, rfl, .inl ⟨q, hentry⟩⟩
  told {g id} won h _ := by
    refine h.thought _ id ?_
    intro entry hentry hevent
    exact ⟨hevent, g.state, id, _, rfl, .inr ⟨won, hentry⟩⟩

end Engine

open Engine

end DeckBuilder
