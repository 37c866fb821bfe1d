import DeckBuilder.Controllers
import DeckBuilder.Text.Ascii
import DeckBuilder.Text.Blank
import DeckBuilder.Text.Lines
import DeckBuilder.Text.Numeral

/-!
A player at a terminal.  Each question is shown as a numbered menu, and lines are read until one of
them is an answer; the end of the input declines or takes the default.  The whole conversation about
one question is a function of the lines that can still be read.
-/
namespace DeckBuilder.TerminalPlayer

/-- What a line that picks from a menu says. -/
inductive Reply
  | pass
  | all
  | numbers (ns : List Nat)
  | help
  | status
  | invalid
deriving DecidableEq, Repr, Inhabited

def isGap (c : Char) : Bool := c = ',' || Text.isBlank c

def readReply (line : List Char) : Reply :=
  let cs := Text.trim line
  let word := String.ofList cs
  if word = "" || word = "p" || word = "pass" then .pass
  else if word = "a" || word = "all" then .all
  else if word = "?" || word = "h" then .help
  else if word = "s" then .status
  else match ((Text.fieldsBy isGap cs).filter (!·.isEmpty)).mapM Text.word? with
    | some ns => .numbers ns
    | none => .invalid

/-- The end of a conversation: the answer, the lines not read, all that was shown, and whether the
input ended before a line was understood. -/
structure Outcome (α : Type) where
  answer : α
  unread : List (List Char)
  shown : String
  ended : Bool

/-- Shows the prompt and reads a line, again and again, until a line is understood.  A line that is
not gives the text to show before the prompt comes back. -/
def converse {α : Type} (prompt : String) (atEnd : α) (understand : List Char → α ⊕ String) :
    List (List Char) → Outcome α
  | [] => ⟨atEnd, [], prompt, true⟩
  | line :: lines =>
    match understand line with
    | .inl answer => ⟨answer, lines, prompt, false⟩
    | .inr reply =>
      let o := converse prompt atEnd understand lines
      { o with shown := prompt ++ reply ++ o.shown }

/-- The same conversation after an opening text. -/
def Outcome.after {α : Type} (o : Outcome α) (opening : String) : Outcome α :=
  { o with shown := opening ++ o.shown }

def Outcome.map {α β : Type} (o : Outcome α) (f : α → β) : Outcome β :=
  { o with answer := f o.answer }

/-- A text with its line end. -/
def say (text : String) : String := text ++ "\n"

def helpText : String :=
  say "Enter the number of an option, several separated by spaces," ++
    say "'p' or an empty line to pass, 's' to show your status."

/-- The turn, the player's counters and the hand. -/
def statusText (s : GameState) (player : PlayerId) : String :=
  let p := s.player? player
  let number (f : Player → Nat) : Nat := (p.map f).getD 0
  let hand := ((p.map fun p => p.hand).getD []).map s.cardName
  say (s!"Turn {s.turn} ({s.phase.text}): {number (·.actions)} action(s), " ++
    s!"{number (·.buys)} buy(s), ${number (·.money)}; deck {number (·.zones.deck.length)}; hand: " ++
    ", ".intercalate hand)

/-- Lines with their numbers in front. -/
def menu (items : List String) : String :=
  String.join (items.mapIdx fun i item => say s!"  [{i}] {item}")

/-- Cards with their names and costs. -/
def cardMenu (s : GameState) (cards : List CardId) : String :=
  menu (cards.map fun id =>
    let cost := ((s.card? id).map fun c => s.cost c.definition).getD 0
    s.cardName id ++ s!" (${cost})")

/-- Asks for `min` to `max` distinct numbers below `count`; declining is allowed if `min` is zero. -/
def askNumbers (s : GameState) (player : PlayerId) (prompt : String) (count min max : Nat)
    (lines : List (List Char)) : Outcome (Option (List Nat)) :=
  converse (prompt ++ " ") none
    (fun line => match readReply line with
      | .pass => if min = 0 then .inl none else .inr (say s!"Choose at least {min}.")
      | .help => .inr helpText
      | .status => .inr (statusText s player)
      | .numbers ns =>
        if ns.Nodup ∧ (∀ n ∈ ns, n < count) ∧ min ≤ ns.length ∧ ns.length ≤ max then .inl (some ns)
        else
          .inr (say (s!"Invalid choice. Enter {min} to {max} distinct numbers from 0-" ++
            s!"{count - 1}."))
      | .all => .inr (say "Invalid input; '?' for help.")
      | .invalid => .inr (say "Invalid input; '?' for help."))
    lines

/-- The items at the places. -/
def picked {α : Type} (items : List α) (places : Option (List Nat)) : List α :=
  (places.getD []).filterMap fun i => items[i]?

def askTreasures (s : GameState) (player : PlayerId) (playable : List CardId)
    (lines : List (List Char)) : Outcome (Option (List CardId)) :=
  converse "Play which treasures ('a' for all, 'p' for none)? " none
    (fun line => match readReply line with
      | .pass => .inl none
      | .all => .inl (some playable)
      | .help => .inr (statusText s player)
      | .status => .inr (statusText s player)
      | .numbers ns =>
        if ∀ n ∈ ns, n < playable.length then .inl (some (picked playable (some ns)))
        else .inr (say "Invalid choice.")
      | .invalid => .inr (say "Invalid choice."))
    lines

def askBoolean (choice : BooleanChoice) (lines : List (List Char)) : Outcome Bool :=
  let hint := if choice.default then "Y/n" else "y/N"
  converse (choice.prompt ++ s!" [{hint}] ") choice.default
    (fun line =>
      let word := Text.asciiLower (String.ofList (Text.trim line))
      if word = "" then .inl choice.default
      else if word = "y" || word = "yes" then .inl true
      else if word = "n" || word = "no" then .inl false
      else .inr (say "Answer y or n."))
    lines

def askInteger (choice : IntegerChoice) (lines : List (List Char)) : Outcome Int :=
  converse
    (choice.prompt ++ s!" ({choice.min}-{choice.max}, default {choice.default}) ") choice.default
    (fun line =>
      let cs := Text.trim line
      if cs.isEmpty then .inl choice.default
      else match (Text.signedWord? cs).filter fun n => choice.min ≤ n && n ≤ choice.max with
        | some n => .inl n
        | none => .inr (say "Out of range."))
    lines

/-- A pile with its cost. -/
def pileCost (s : GameState) (pile : String) : Nat := (s.pileCost? pile).getD 0

/-- The conversation about a question. -/
def talk (s : GameState) (player : PlayerId) (lines : List (List Char)) :
    (q : Question) → Outcome q.Answer
  | .action playable =>
    ((askNumbers s player "Play which action ('p' to stop)?" playable.length 0 1 lines).map
      fun places => (picked playable places).head?).after
      (statusText s player ++ say "Actions you can play:" ++ cardMenu s playable)
  | .treasures playable =>
    (askTreasures s player playable lines).after
      (say "Treasures in hand:" ++ cardMenu s playable)
  | .purchase buyable =>
    let number (f : Player → Nat) : Nat := ((s.player? player).map f).getD 0
    ((askNumbers s player "Buy which card ('p' to stop)?" buyable.length 0 1 lines).map
      fun places => (picked buyable places).head?).after
      (say s!"You have ${number (·.money)} and {number (·.buys)} buy(s). Supply:" ++
        menu (buyable.map fun pile =>
          s!"{pile} (${pileCost s pile}, {s.supply.count pile} left)"))
  | .cards choice =>
    ((askNumbers s player s!"Choose {choice.min} to {choice.max}:" choice.cards.length choice.min
      choice.max lines).map (picked choice.cards)).after
      (say choice.prompt ++ cardMenu s choice.cards)
  | .pile choice =>
    ((askNumbers s player "Which pile?" choice.piles.length 0 1 lines).map
      fun places => (picked choice.piles places).head?).after
      (say choice.prompt ++ menu (choice.piles.map fun pile => s!"{pile} (${pileCost s pile})"))
  | .boolean choice => askBoolean choice lines
  | .options choice =>
    ((askNumbers s player s!"Choose {choice.min} to {choice.max}, in order:" choice.options.length
      choice.min choice.max lines).map (·.getD [])).after
      (say choice.prompt ++ menu choice.options)
  | .integer choice => askInteger choice lines

/-- What the player is told when the game is over. -/
def farewell (s : GameState) (player : PlayerId) (won : Bool) : String :=
  let points := (s.points player).toOption.getD 0
  say ((if won then "You win" else "You lose") ++ s!" with {points} VP.")

end DeckBuilder.TerminalPlayer
