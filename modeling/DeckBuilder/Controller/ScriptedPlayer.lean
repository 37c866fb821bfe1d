import DeckBuilder.Controller.Script
import DeckBuilder.Controllers

/-!
A player who answers from a script, one answer for each question.  When the script is over, or an
answer does not fit the question, the player is passive: all treasures are played, nothing is bought,
and as little as possible is chosen.
-/
namespace DeckBuilder

structure ScriptedPlayer where
  player : PlayerId
  answers : List ScriptedAnswer
  /-- The number of answers given so far. -/
  consumed : Nat := 0
deriving DecidableEq, Repr, Inhabited

namespace ScriptedPlayer

def ofScript (player : PlayerId) (text : String) : Except GameError ScriptedPlayer := do
  return { player, answers := ← Script.parse text }

def toJson (p : ScriptedPlayer) : Json :=
  .obj [
    ("player_id", .int p.player.seat),
    ("answers", .arr (p.answers.map ScriptedAnswer.toJson)),
    ("consumed", .int p.consumed)]

def ofJson? (j : Json) : Option ScriptedPlayer := do
  let [some player, some answers, some consumed] ← j.record? ["player_id", "answers", "consumed"]
    | none
  return {
    player := ⟨← player.word?⟩
    answers := ← (← answers.arr?).mapM ScriptedAnswer.ofJson?
    consumed := ← consumed.word? }

/-- The next answer of the script, and the script after it. -/
def next (p : ScriptedPlayer) : Option ScriptedAnswer × ScriptedPlayer :=
  match p.answers with
  | [] => (none, p)
  | a :: rest => (some a, { p with answers := rest, consumed := p.consumed + 1 })

/-- For each name in turn the first offered card of that name which has not been picked. -/
def pickByName (nameOf : CardId → String) (offered : List CardId) : List String → List CardId :=
  go []
where
  /-- Goes on with the cards in `picked`. -/
  go (picked : List CardId) : List String → List CardId
    | [] => picked
    | name :: names =>
      match offered.find? fun id => !picked.contains id && Text.sameAscii (nameOf id) name with
      | some id => go (picked ++ [id]) names
      | none => go picked names

/-- The pile that an answer names, if it is one of those. -/
def pileNamed (piles : List String) : Option ScriptedAnswer → Option String
  | some (.pile name) | some (.card name) => piles.find? (Text.sameAscii · name)
  | _ => none

abbrev Thinking := Think ScriptedPlayer

/-- Takes the next answer of the script. -/
def takeAnswer : Thinking (Option ScriptedAnswer) := do
  let (a, p) := (← Think.memory).next
  Think.setMemory p
  return a

def answer (s : GameState) : (q : Question) → Thinking q.Answer
  | .action playable => do
    let chosen := match ← takeAnswer with
      | some (.card name) => (pickByName s.cardName playable [name]).head?
      | _ => none
    Think.log (match chosen with
      | some c => "plays " ++ s.cardName c
      | none => "ends action phase")
    return chosen
  | .treasures playable => do
    match (← Think.memory).answers.head? with
    | some (.cards names) =>
      let _ ← takeAnswer
      let cards := pickByName s.cardName playable names
      Think.log s!"plays {cards.length} treasure(s)"
      return some cards
    | some .pass =>
      let _ ← takeAnswer
      return none
    | _ => return some playable
  | .purchase buyable => do
    let choice := pileNamed buyable (← takeAnswer)
    Think.log (match choice with
      | some pile => "buys " ++ pile
      | none => "buys nothing")
    return choice
  | .cards choice => do
    let cards := match ← takeAnswer with
      | some (.cards names) => pickByName s.cardName choice.cards names
      | some (.card name) => pickByName s.cardName choice.cards [name]
      | some .pass => []
      | _ => choice.cards.take choice.min
    Think.log s!"{choice.prompt}: chose {cards.length} card(s)"
    return cards
  | .pile choice => do
    let pile := pileNamed choice.piles (← takeAnswer)
    Think.log (choice.prompt ++ ": " ++ Text.quoteOption pile)
    return pile
  | .boolean choice => do
    let yes := match ← takeAnswer with
      | some (.bool b) => b
      | some .pass => false
      | _ => choice.default
    Think.log s!"{choice.prompt}: {yes}"
    return yes
  | .options choice => do
    let picked := match ← takeAnswer with
      | some (.options places) => places
      | some .pass => []
      | _ => List.range choice.min
    Think.log (choice.prompt ++ ": options " ++ Text.bracketed picked)
    return picked
  | .integer choice => do
    let n := match ← takeAnswer with
      | some (.integer n) => n
      | _ => choice.default
    Think.log s!"{choice.prompt}: {n}"
    return n

end ScriptedPlayer

end DeckBuilder
