import DeckBuilder.Controller.TerminalPlayer
import DeckBuilder.Proofs.Answers

/-!
Conversations at a terminal. Lines that are not understood are passed over, so a conversation ends with
the first line that is understood or with the input. What is understood fits the question: the places are
different places of the menu and so many as are asked for, a number lies within its bounds. The places
are what is different, so the cards at them are if the menu lists no card twice.
-/
namespace DeckBuilder.TerminalPlayer

/-! ### How conversations end -/

/-- The end of a conversation that may read the lines: the input ended and the answer is the one for that,
or a line was read whose answer is good. -/
structure Settled {α : Type} (Good : α → Prop) (atEnd : α) (lines : List (List Char))
    (o : Outcome α) : Prop where
  unread : o.unread <:+ lines
  ended : o.ended = true → o.unread = [] ∧ o.answer = atEnd
  answered : o.ended = false → o.unread.length < lines.length ∧ Good o.answer

section

variable {α β : Type} {Good : α → Prop} {atEnd : α} {lines : List (List Char)} {o : Outcome α}

theorem Settled.after (h : Settled Good atEnd lines o) (opening : String) :
    Settled Good atEnd lines (o.after opening) :=
  ⟨h.unread, h.ended, h.answered⟩

theorem Settled.map {Good' : β → Prop} {atEnd' : β} {f : α → β} (h : Settled Good atEnd lines o)
    (hend : f atEnd = atEnd') (hf : ∀ a, Good a → Good' (f a)) :
    Settled Good' atEnd' lines (o.map f) := by
  refine ⟨h.unread, fun hended => ?_, fun hended => ?_⟩
  · obtain ⟨hunread, hanswer⟩ := h.ended hended
    exact ⟨hunread, (congrArg f hanswer).trans hend⟩
  · obtain ⟨hless, hgood⟩ := h.answered hended
    exact ⟨hless, hf o.answer hgood⟩

/-- By induction on the lines that can still be read. -/
theorem converse_settled {understand : List Char → α ⊕ String} (prompt : String)
    (h : ∀ line a, understand line = .inl a → Good a) (lines : List (List Char)) :
    Settled Good atEnd lines (converse prompt atEnd understand lines) := by
  induction lines with
  | nil => exact ⟨List.suffix_rfl, fun _ => ⟨rfl, rfl⟩, nofun⟩
  | cons line lines ih =>
    rw [converse]
    cases hline : understand line with
    | inl a => exact ⟨List.suffix_cons line lines, nofun, fun _ => ⟨Nat.lt_succ_self _, h line a hline⟩⟩
    | inr reply =>
      refine ⟨ih.unread.trans (List.suffix_cons line lines), ih.ended, fun hended => ?_⟩
      obtain ⟨hless, hgood⟩ := ih.answered hended
      exact ⟨Nat.lt_succ_of_lt hless, hgood⟩

end

/-! ### Places in a menu -/

/-- From `min` to `max` different places in a menu of `count`. To decline is to name no place. -/
structure Places (count min max : Nat) (ns : List Nat) : Prop where
  distinct : ns.Nodup
  inMenu : ∀ n ∈ ns, n < count
  least : min ≤ ns.length
  most : ns.length ≤ max

theorem askNumbers_settled (s : GameState) (player : PlayerId) (prompt : String)
    (count min max : Nat) (lines : List (List Char)) :
    Settled (fun places => Places count min max (places.getD [])) none lines
      (askNumbers s player prompt count min max lines) := by
  apply converse_settled
  intro line places hplaces
  cases hreply : readReply line with
  | pass =>
    simp only [hreply] at hplaces
    split at hplaces
    · next hmin =>
      cases hplaces
      exact ⟨List.nodup_nil, by simp, Nat.le_of_eq hmin, Nat.zero_le max⟩
    · cases hplaces
  | numbers ns =>
    simp only [hreply] at hplaces
    split at hplaces
    · next hns =>
      cases hplaces
      obtain ⟨hdistinct, hmenu, hleast, hmost⟩ := hns
      exact ⟨hdistinct, hmenu, hleast, hmost⟩
    · cases hplaces
  | all => simp [hreply] at hplaces
  | help => simp [hreply] at hplaces
  | status => simp [hreply] at hplaces
  | invalid => simp [hreply] at hplaces

section

variable {α : Type} {items : List α} {ns : List Nat} {min max : Nat}

theorem picked_getD (items : List α) (places : Option (List Nat)) :
    picked items places = picked items (some (places.getD [])) := rfl

theorem mem_of_mem_picked {places : Option (List Nat)} {x : α} (h : x ∈ picked items places) :
    x ∈ items := by
  obtain ⟨n, -, hn⟩ := List.mem_filterMap.mp h
  exact List.mem_of_getElem? hn

/-- The one item that is picked is on the menu. -/
theorem askOne_settled {β : Type} {Good : Option β → Prop} (items : List β) (s : GameState)
    (player : PlayerId) (prompt : String) (lines : List (List Char))
    (h : ∀ answer : Option β, (∀ x ∈ answer, x ∈ items) → Good answer) :
    Settled Good none lines ((askNumbers s player prompt items.length 0 1 lines).map
      fun places => (picked items places).head?) := by
  apply (askNumbers_settled s player prompt items.length 0 1 lines).map
  · rfl
  · intro places _
    apply h
    exact fun _ hx => mem_of_mem_picked (List.mem_of_mem_head? hx)

theorem length_picked (h : ∀ n ∈ ns, n < items.length) :
    (picked items (some ns)).length = ns.length := by
  induction ns with
  | nil => rfl
  | cons n rest ih =>
    obtain ⟨hn, hrest⟩ := List.forall_mem_cons.mp h
    have hpicked : picked items (some (n :: rest)) = items[n] :: picked items (some rest) :=
      List.filterMap_cons_some (List.getElem?_eq_getElem hn)
    rw [hpicked, List.length_cons, List.length_cons, ih hrest]

theorem nodup_picked (hitems : items.Nodup) (h : ns.Nodup) : (picked items (some ns)).Nodup := by
  apply h.filterMap
  intro n m x hn hm
  have hlt : n < items.length := (List.getElem?_eq_some_iff.mp hn).1
  have heq : items[n]? = items[m]? := hn.trans hm.symm
  exact (List.getElem?_inj hlt hitems).mp heq

/-- A selection of at least `min` that leaves nothing to cut off. -/
theorem selectable_of_nodup {pool answer : List α} (h : answer.Nodup)
    (hpool : ∀ x ∈ answer, x ∈ pool) (hmin : min ≤ answer.length) (hmax : answer.length ≤ max) :
    Selectable pool max answer ∧ min ≤ (answer.take max).length := by
  have hall : answer.take max = answer := List.take_of_length_le hmax
  have hnone : answer.drop max = [] := List.drop_eq_nil_of_le hmax
  rw [hall]
  refine ⟨⟨hpool, ?_, ?_⟩, hmin⟩
  · rw [hall]
    exact h
  · rw [hnone]
    exact nofun

end

/-! ### Answers that fit -/

/-- What is answered when the input has ended: nothing, or the default. -/
def declined : (q : Question) → q.Answer
  | .action _ => none
  | .treasures _ => none
  | .purchase _ => none
  | .cards _ => []
  | .pile _ => none
  | .boolean choice => choice.default
  | .options _ => []
  | .integer choice => choice.default

/-- An answer that fits the question. It is one that is accepted, but that a treasure may be named twice
and a menu may list a card twice. -/
def Fits : (q : Question) → q.Answer → Prop
  | .action playable, answer => (Question.action playable).accepts answer = true
  | .treasures playable, answer => ∀ cards ∈ answer, ∀ card ∈ cards, card ∈ playable
  | .purchase buyable, answer => (Question.purchase buyable).accepts answer = true
  | .cards choice, answer =>
    (∃ ns, Places choice.cards.length choice.min choice.max ns ∧
      answer = picked choice.cards (some ns)) ∧
    (choice.cards.Nodup → (Question.cards choice).accepts answer = true)
  | .pile choice, answer => (Question.pile choice).accepts answer = true
  | .boolean _, _ => True
  | .options choice, answer =>
    Places choice.options.length choice.min choice.max answer ∧
      (Question.options choice).accepts answer = true
  | .integer choice, answer =>
    answer = choice.default ∨ choice.min ≤ answer ∧ answer ≤ choice.max

theorem fits_cards {choice : CardChoice} {ns : List Nat}
    (h : Places choice.cards.length choice.min choice.max ns) :
    Fits (.cards choice) (picked choice.cards (some ns)) := by
  refine ⟨⟨ns, h, rfl⟩, fun hcards => ?_⟩
  have hlength := length_picked h.inMenu
  rw [Question.accepts_iff]
  apply selectable_of_nodup (nodup_picked hcards h.distinct) fun _ hx => mem_of_mem_picked hx
  · rw [hlength]
    exact h.least
  · rw [hlength]
    exact h.most

theorem fits_options {choice : OptionChoice} {ns : List Nat}
    (h : Places choice.options.length choice.min choice.max ns) : Fits (.options choice) ns := by
  refine ⟨h, ?_⟩
  rw [Question.accepts_iff]
  apply selectable_of_nodup h.distinct _ h.least h.most
  intro n hn
  exact List.mem_range.mpr (h.inMenu n hn)

theorem askTreasures_settled (s : GameState) (player : PlayerId) (playable : List CardId)
    (lines : List (List Char)) :
    Settled (Fits (.treasures playable)) none lines (askTreasures s player playable lines) := by
  apply converse_settled
  intro line answer hanswer cards hcards
  cases hreply : readReply line with
  | pass =>
    simp only [hreply] at hanswer
    cases hanswer
    cases hcards
  | all =>
    simp only [hreply] at hanswer
    cases hanswer
    cases hcards
    exact fun _ hcard => hcard
  | numbers ns =>
    simp only [hreply] at hanswer
    split at hanswer
    · cases hanswer
      cases hcards
      exact fun _ hcard => mem_of_mem_picked hcard
    · cases hanswer
  | help => simp [hreply] at hanswer
  | status => simp [hreply] at hanswer
  | invalid => simp [hreply] at hanswer

theorem askBoolean_settled (choice : BooleanChoice) (lines : List (List Char)) :
    Settled (Fits (.boolean choice)) choice.default lines (askBoolean choice lines) :=
  converse_settled _ (fun _ _ _ => trivial) lines

theorem askInteger_settled (choice : IntegerChoice) (lines : List (List Char)) :
    Settled (Fits (.integer choice)) choice.default lines (askInteger choice lines) := by
  apply converse_settled
  intro line answer hanswer
  dsimp only at hanswer
  split at hanswer
  · cases hanswer
    exact .inl rfl
  · split at hanswer
    · next n hn =>
      cases hanswer
      have hbounds := (Option.filter_eq_some_iff.mp hn).2
      rw [Bool.and_eq_true, decide_eq_true_eq, decide_eq_true_eq] at hbounds
      exact .inr hbounds
    · cases hanswer

/-- A conversation about a question reads no more than there is to read; it ends with an answer that fits
or, when the input has ended, with nothing or the default. -/
theorem terminal_answers_fit (s : GameState) (player : PlayerId) (lines : List (List Char))
    (q : Question) : Settled (Fits q) (declined q) lines (talk s player lines q) := by
  cases q with
  | action playable =>
    apply Settled.after
    exact askOne_settled playable s player _ lines fun _ h => Question.accepts_iff.mpr h
  | treasures playable => exact (askTreasures_settled s player playable lines).after _
  | purchase buyable =>
    apply Settled.after
    exact askOne_settled buyable s player _ lines fun _ h => Question.accepts_iff.mpr h
  | cards choice =>
    apply Settled.after
    apply (askNumbers_settled s player _ _ choice.min choice.max lines).map
    · rfl
    · intro places hplaces
      rw [picked_getD]
      exact fits_cards hplaces
  | pile choice =>
    apply Settled.after
    exact askOne_settled choice.piles s player _ lines fun _ h => Question.accepts_iff.mpr h
  | boolean choice => exact askBoolean_settled choice lines
  | options choice =>
    apply Settled.after
    apply (askNumbers_settled s player _ _ choice.min choice.max lines).map
    · rfl
    · intro places hplaces
      exact fits_options hplaces
  | integer choice => exact askInteger_settled choice lines

/-- A table with nobody at it and nothing in the supply. -/
def emptyTable : GameState where
  cards := {}
  players := []
  supply := ⟨[], 0⟩
  rng := .ofSeed 1

/-- Two of three cards are discarded, after a place that is not on the menu, a place too few and a place
named twice. -/
theorem terminal_answers_fit_after_reprompts :
    let choice : CardChoice := ⟨"Discard 2", [⟨0⟩, ⟨1⟩, ⟨2⟩], 2, 2, none⟩
    let o := talk emptyTable ⟨0⟩ (Text.linesOf "7\n1\n1 1\n2 0\n".toList) (.cards choice)
    o.ended = false ∧ o.answer = [⟨2⟩, ⟨0⟩] ∧ (Question.cards choice).accepts o.answer = true := by
  intro choice o
  have hended : o.ended = false := by decide
  have hanswer : o.answer = [⟨2⟩, ⟨0⟩] := by decide
  have hfits := ((terminal_answers_fit emptyTable ⟨0⟩ _ (.cards choice)).answered hended).2
  exact ⟨hended, hanswer, hfits.2 (by decide)⟩

/-- The places picked are different, and yet the cards are not if the menu lists a card twice. -/
theorem card_listed_twice_is_answered_twice :
    ¬ ∀ (s : GameState) (player : PlayerId) (lines : List (List Char)) (choice : CardChoice),
      choice.min ≤ choice.max → choice.min ≤ choice.cards.length →
      (talk s player lines (.cards choice)).ended = false →
      (Question.cards choice).accepts (talk s player lines (.cards choice)).answer = true := by
  intro h
  have htwice := h emptyTable ⟨0⟩ (Text.linesOf "0 1\n".toList)
    ⟨"Discard 2", [⟨1⟩, ⟨1⟩], 2, 2, none⟩ (by decide) (by decide) (by decide)
  revert htwice
  decide

end DeckBuilder.TerminalPlayer
