import DeckBuilder.Json.Printer
import DeckBuilder.Text.Quoted
import DeckBuilder.Zone

/-!
What happened in a game, as a list that only grows.  An event carries its number, counted from one,
and the number of the turn in which it happened; it can be shown as a sentence or as JSON.
-/
namespace DeckBuilder

/-- Where a gained card goes. -/
inductive GainDestination
  | discard
  | deckTop
  | hand
deriving DecidableEq, Repr, Inhabited

namespace GainDestination

def text : GainDestination → String
  | .discard => "Discard"
  | .deckTop => "DeckTop"
  | .hand => "Hand"

def zone : GainDestination → Zone
  | .discard => .discard
  | .deckTop => .deck
  | .hand => .hand

/-- A gained card is always put on top. -/
def position (_ : GainDestination) : Position := .top

end GainDestination

inductive EventKind
  | gameStart (kingdom : List String)
  | startTurn
  | playCard (card : CardId) (name : String)
  | drawCards (count : Nat)
  | shuffle (cards : Nat)
  | gainCard (card : CardId) (name : String) (bought : Bool) (destination : GainDestination)
  | discardCard (card : CardId) (name : String)
  | trashCard (card : CardId) (name : String)
  | revealCards (cards : List CardId) (names : List String)
  | moveCard (card : CardId) (name : String) (source target : Zone)
  | attackBlocked (attack : String)
  | cleanUp
  | gameEnd (winners : List PlayerId) (scores : List Int)
deriving DecidableEq, Repr, Inhabited

structure GameEvent where
  seq : Nat
  turn : Nat
  player : PlayerId
  kind : EventKind
deriving DecidableEq, Repr, Inhabited

namespace GameEvent

/-- The event as a sentence. -/
def text (e : GameEvent) : String :=
  let p := e.player
  match e.kind with
  | .gameStart kingdom => s!"Game start, {p} goes first. Kingdom: " ++ ", ".intercalate kingdom
  | .startTurn => s!"Turn {e.turn}: {p}"
  | .playCard _ name => s!"{p} plays {name}"
  | .drawCards count => s!"{p} draws {count} card(s)"
  | .shuffle cards => s!"{p} shuffles {cards} card(s)"
  | .gainCard _ name bought destination =>
    let verb := if bought then "buys" else "gains"
    match destination with
    | .discard => s!"{p} {verb} {name}"
    | other => s!"{p} {verb} {name} to {other.zone}"
  | .discardCard _ name => s!"{p} discards {name}"
  | .trashCard _ name => s!"{p} trashes {name}"
  | .revealCards _ names => s!"{p} reveals " ++ ", ".intercalate names
  | .moveCard _ name source target => s!"{p} moves {name} from {source} to {target}"
  | .attackBlocked attack => s!"{p} is unaffected by {attack}"
  | .cleanUp => s!"{p} cleans up"
  | .gameEnd winners scores =>
    "Game over. Winner(s): " ++ ", ".intercalate (winners.map toString) ++
      " (scores " ++ Text.bracketed scores ++ ")"

/-- The name of the kind of event and the fields that only this kind has. -/
def kindFields : EventKind → String × List (String × Json)
  | .gameStart kingdom => ("GameStart", [("kingdom", .arr (kingdom.map .str))])
  | .startTurn => ("StartTurn", [])
  | .playCard card name => ("PlayCard", [("card", .int card.number), ("name", .str name)])
  | .drawCards count => ("DrawCards", [("count", .int count)])
  | .shuffle cards => ("Shuffle", [("cards", .int cards)])
  | .gainCard card name bought destination =>
    ("GainCard", [("card", .int card.number), ("name", .str name), ("was_bought", .bool bought),
      ("destination", .str destination.text)])
  | .discardCard card name => ("DiscardCard", [("card", .int card.number), ("name", .str name)])
  | .trashCard card name => ("TrashCard", [("card", .int card.number), ("name", .str name)])
  | .revealCards cards names =>
    ("RevealCards", [("cards", .arr (cards.map fun c => .int c.number)),
      ("names", .arr (names.map .str))])
  | .moveCard card name source target =>
    ("MoveCard", [("card", .int card.number), ("name", .str name), ("from", source.toJson),
      ("to", target.toJson)])
  | .attackBlocked attack => ("AttackBlocked", [("attack", .str attack)])
  | .cleanUp => ("CleanUp", [])
  | .gameEnd winners scores =>
    ("GameEnd", [("winners", .arr (winners.map fun w => .int w.seat)),
      ("scores", .arr (scores.map .int))])

def toJson (e : GameEvent) : Json :=
  let (type, fields) := kindFields e.kind
  .obj ([("seq", .int e.seq), ("turn", .int e.turn), ("player", .int e.player.seat),
    ("type", .str type)] ++ fields)

end GameEvent

/-- The events of a game, the oldest first. -/
structure EventLog where
  events : Array GameEvent := #[]
deriving DecidableEq, Repr, Inhabited

namespace EventLog

def lastSeq (log : EventLog) : Nat := log.events.size

/-- The event that would be added next. -/
def next (log : EventLog) (player : PlayerId) (turn : Nat) (kind : EventKind) : GameEvent :=
  { seq := log.events.size + 1, turn, player, kind }

def publish (log : EventLog) (player : PlayerId) (turn : Nat) (kind : EventKind) : EventLog :=
  ⟨log.events.push (log.next player turn kind)⟩

/-- The events whose number is above `seq`. -/
def after (log : EventLog) (seq : Nat) : List GameEvent := log.events.toList.drop seq

@[simp] theorem lastSeq_publish (log : EventLog) (player : PlayerId) (turn : Nat)
    (kind : EventKind) : (log.publish player turn kind).lastSeq = log.lastSeq + 1 := by
  simp [publish, lastSeq]

end EventLog

end DeckBuilder
