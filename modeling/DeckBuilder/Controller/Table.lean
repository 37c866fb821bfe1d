import DeckBuilder.Controller.HeuristicPlayer
import DeckBuilder.Controller.QueuePlayer
import DeckBuilder.Controller.RandomPlayer
import DeckBuilder.Controller.ScriptedPlayer
import DeckBuilder.Controller.TerminalPlayer
import DeckBuilder.Engine.Turn
import DeckBuilder.Json.Printer

/-!
A table with a player of some kind at every seat.  The players at terminals may share one input: a
player who runs out of lines takes the next block of it, and what is in that block beyond the lines
read stays with this player.  What a traced seat is asked is noted in the log book.
-/
namespace DeckBuilder

/-- The input that players at terminals share: the blocks of it that nobody has taken yet, and how
many things had been printed when a player first waited for more input than there was, with what that
player was shown. -/
structure Input where
  blocks : List (List Char) := []
  dryAt : Option Nat := none
deriving Inhabited

namespace Input

/-- The bytes in a block when the whole input is there from the start. -/
def blockSize : Nat := 8192

def ofText (cs : List Char) : Input := { blocks := Text.blocksOf blockSize cs }

def text (i : Input) : List Char := i.blocks.flatten

/-- Takes blocks until at least `needed` characters are at hand. -/
def take (needed : Nat) (own : List Char) : List (List Char) → List Char × List (List Char)
  | [] => (own, [])
  | block :: blocks =>
    if needed ≤ own.length then (own, block :: blocks) else take needed (own ++ block) blocks

/-- What a player and the shared input hold after all but the `unread` lines have been read. -/
def afterReading (i : Input) (own : List Char) (unread : List (List Char)) : List Char × Input :=
  let read := own.length + i.text.length - unread.flatten.length
  let (own, blocks) := take read own i.blocks
  (own.drop read, { i with blocks })

/-- Notes the first time that the input ran out: what is shown then is printed next. -/
def markDry (i : Input) (printed : Nat) : Input :=
  if i.dryAt.isSome then i else { i with dryAt := some (printed + 1) }

end Input

/-- A player of some kind with what that player remembers. -/
inductive Mind
  | random
  | heuristic (density : Nat)
  | scripted (script : ScriptedPlayer)
  | queue (values : QueuePlayer)
  /-- A player at a terminal, with the input taken but not yet read. -/
  | terminal (unread : List Char)
deriving Inhabited

namespace Mind

/-- A heuristic player who has at least one terminal action in ten cards. -/
def ofDensity (density : Nat) : Mind := .heuristic (max density 1)

/-- A mind thinks with itself and the shared input for memory. -/
def answer (s : GameState) (player : PlayerId) (q : Question) : Think (Mind × Input) q.Answer := do
  match ← Think.memory with
  | (.random, _) => RandomPlayer.answer s q
  | (.heuristic density, _) => HeuristicPlayer.answer density s player q
  | (.scripted p, input) =>
    Think.within p (fun _ p => (.scripted p, input)) (ScriptedPlayer.answer s q)
  | (.queue p, input) => Think.within p (fun _ p => (.queue p, input)) (QueuePlayer.answer q)
  | (.terminal own, input) =>
    let o := TerminalPlayer.talk s player (Text.linesOf (own ++ input.text)) q
    let (own, input) := input.afterReading own o.unread
    Think.setMemory (.terminal own, if o.ended then input.markDry s.logger.printed.size else input)
    Think.note (.screen o.shown)
    return o.answer

def gameOver (s : GameState) (player : PlayerId) (won : Bool) : Think (Mind × Input) Unit := do
  match ← Think.memory with
  | (.heuristic _, _) => HeuristicPlayer.gameOver s player won
  | (.terminal _, _) => Think.note (.screen (TerminalPlayer.farewell s player won))
  | _ => return

end Mind

/-- A mind at the table. -/
structure Seat where
  mind : Mind
  /-- Whether every question is noted in the log book before it is put. -/
  traced : Bool := false
deriving Inhabited

/-- The seats, and the input that the players at terminals share. -/
structure Table where
  seats : List Seat
  input : Input := {}
deriving Inhabited

/-- A question as it is noted in the log book. -/
def Question.toJson : Question → Json
  | .action playable => .arr [.str "action", ids playable]
  | .treasures playable => .arr [.str "treasures", ids playable]
  | .purchase buyable => .arr [.str "buy", names buyable]
  | .cards c => .arr [.str "cards", .str c.prompt, ids c.cards, .int c.min, .int c.max, source c.source]
  | .pile c => .arr [.str "pile", .str c.prompt, names c.piles, source c.source]
  | .boolean c => .arr [.str "bool", .str c.prompt, .bool c.default, source c.source]
  | .options c =>
    .arr [.str "effects", .str c.prompt, names c.options, .int c.min, .int c.max, source c.source]
  | .integer c => .arr [.str "int", .str c.prompt, .int c.default, .int c.min, .int c.max]
where
  ids (cards : List CardId) : Json := .arr (cards.map fun c => .int c.number)
  names (texts : List String) : Json := .arr (texts.map .str)
  source : Option CardId → Json
    | some c => .int c.number
    | none => .null

namespace Table

def ofMinds (minds : List Mind) : Table := { seats := minds.map fun mind => { mind } }

/-- Lets the mind at a seat think, after what is put to it has been noted at a traced seat.  An empty
seat thinks at random. -/
def atSeat {α : Type} (player : PlayerId) (put : Json) (t : Think (Mind × Input) α) :
    Think Table α := do
  let table ← Think.memory
  let seat := (table.seats[player.seat]?).getD { mind := .random }
  if seat.traced then Think.note (.verbose (s!"ask {player} " ++ put.render))
  Think.within (seat.mind, table.input)
    (fun table (mind, input) =>
      { seats := table.seats.set player.seat { seat with mind }, input }) t

instance : Controllers Table where
  answer s player q := atSeat player q.toJson (Mind.answer s player q)
  gameOver s player won :=
    atSeat player (.arr [.str "end", .bool won]) (Mind.gameOver s player won)

end Table

/-- Sits down controllers, who say which players they are for, in seat order. -/
def Game.start {M : Type} (state : GameState) (controllers : List PlayerId) (memory : M) :
    Except GameError (Game M) :=
  if controllers.length ≠ state.players.length then
    .error (.invalidSetup
      s!"{controllers.length} controllers for {state.players.length} players")
  else
    match controllers.zipIdx.find? fun (id, seat) => id.seat != seat with
    | some (id, seat) =>
      .error (.invalidSetup s!"controller in seat {seat + 1} is for {id}")
    | none => .ok { state, memory }

end DeckBuilder
