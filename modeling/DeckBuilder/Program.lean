import DeckBuilder.Error
import DeckBuilder.Outlook
import DeckBuilder.Question

/-!
Programs: what a card does, as a tree of calls on the game.  A program can look at the table, call one
of the operations of `Call` and go on with its answer, hang a further program on a card or a player
for later, or stop.  It has no other way to reach the game, so whatever every call keeps, every
program keeps.
-/
namespace DeckBuilder

/-- The card that an effect belongs to and the player it acts for. -/
structure EffectContext where
  card : CardId
  player : PlayerId
deriving DecidableEq, Repr, Inhabited

/-- The same card acting for another player. -/
def EffectContext.forPlayer (ctx : EffectContext) (player : PlayerId) : EffectContext :=
  { ctx with player }

structure GainInfo where
  player : PlayerId
  card : CardId
  bought : Bool
  destination : GainDestination
deriving DecidableEq, Repr, Inhabited

/-- A supply pile as it is offered: the card, how many are left and what one costs now. -/
structure PileOffer where
  face : CardFace
  count : Nat
  cost : Nat
deriving DecidableEq, Repr, Inhabited

/-- The operations of the game that a card can call. -/
inductive Call
  /-- Draws up to `count` cards into the hand. -/
  | draw (player : PlayerId) (count : Nat)
  /-- Looks at the top cards of the deck, the top one first. -/
  | topCards (player : PlayerId) (count : Nat)
  /-- Moves a card of the player to another of the player's zones; the answer is where it was. -/
  | move (card : CardId) (player : PlayerId) (target : Zone) (position : Position)
  | discard (card : CardId) (player : PlayerId)
  | trash (card : CardId) (player : PlayerId)
  /-- Takes a card out of the trash into the player's hand. -/
  | recover (card : CardId) (player : PlayerId)
  | reveal (cards : List CardId) (player : PlayerId)
  /-- Puts a card into play. -/
  | play (card : CardId) (player : PlayerId)
  /-- Carries out what a card does when it is played. -/
  | resolve (card : CardId) (player : PlayerId)
  | gain (pile : String) (player : PlayerId) (bought : Bool) (destination : GainDestination)
  /-- Gains a card unless the pile is empty. -/
  | gainIfAvailable (pile : String) (player : PlayerId) (destination : GainDestination)
  | buy (pile : String) (player : PlayerId)
  | credit (player : PlayerId) (counter : Counter) (n : Nat)
  /-- Changes the cost of cards for the rest of the turn. -/
  | addCostModifier (modifier : CardFace → Int)
  /-- What a card costs now. -/
  | costOf (card : CardId)
  /-- The other players, beginning to the left of the given one. -/
  | opponents (player : PlayerId)
  /-- Whether the target is kept from an attack by one of its cards. -/
  | blocksAttack (target : PlayerId) (attack : CardId)
  | chooseCards (player : PlayerId) (choice : CardChoice)
  | choosePile (player : PlayerId) (prompt : String) (source : Option CardId)
      (eligible : PileOffer → Bool)
  | chooseBoolean (player : PlayerId) (choice : BooleanChoice)
  | chooseOptions (player : PlayerId) (choice : OptionChoice)
  | chooseInteger (player : PlayerId) (choice : IntegerChoice)
  /-- Writes a line into the log book. -/
  | note (message : String)

@[reducible] def Call.Answer : Call → Type
  | .draw .. => List CardId
  | .topCards .. => List CardId
  | .move .. => Option Zone
  | .discard .. => Bool
  | .trash .. => Bool
  | .recover .. => Unit
  | .reveal .. => Unit
  | .play .. => Unit
  | .resolve .. => Unit
  | .gain .. => CardId
  | .gainIfAvailable .. => Option CardId
  | .buy .. => CardId
  | .credit .. => Unit
  | .addCostModifier .. => Unit
  | .costOf .. => Nat
  | .opponents .. => List PlayerId
  | .blocksAttack .. => Bool
  | .chooseCards .. => List CardId
  | .choosePile .. => Option String
  | .chooseBoolean .. => Bool
  | .chooseOptions .. => List Nat
  | .chooseInteger .. => Int
  | .note .. => Unit

inductive Program
  /-- The end.  For a program that waits on a card or a player, `keep` says whether it stays there
  to be run again; otherwise it means nothing. -/
  | finish (keep : Bool)
  | fail (error : GameError)
  | look (next : Outlook → Program)
  | call (c : Call) (next : c.Answer → Program)
  /-- Hangs a program on a card, to be run when its owner's next turn starts. -/
  | addDuration (card : CardId) (callback : EffectContext → Program) (next : Program)
  /-- Has a program run whenever the player gains a card this turn. -/
  | addGainTrigger (player : PlayerId) (callback : GainInfo → Program) (next : Program)
  /-- Has a program run whenever the player plays a card this turn, until it is not kept. -/
  | addPlayTrigger (player : PlayerId) (callback : PlayerId → CardId → Program) (next : Program)

/-- One program after another; what the first says about being kept is dropped. -/
def Program.andThen : Program → Program → Program
  | .finish _, k => k
  | .fail e, _ => .fail e
  | .look next, k => .look fun o => (next o).andThen k
  | .call c next, k => .call c fun a => (next a).andThen k
  | .addDuration card callback next, k => .addDuration card callback (next.andThen k)
  | .addGainTrigger player callback next, k => .addGainTrigger player callback (next.andThen k)
  | .addPlayTrigger player callback next, k => .addPlayTrigger player callback (next.andThen k)

/-- A step that gives a value: given what follows for each value, it is a program. -/
def Script (α : Type) : Type := (α → Program) → Program

namespace Script

instance : Monad Script where
  pure a := fun k => k a
  bind m f := fun k => m fun a => f a k

instance : LawfulMonad Script :=
  LawfulMonad.mk' Script (fun _ => rfl) (fun _ _ => rfl) (fun _ _ _ => rfl)

def call (c : Call) : Script c.Answer := fun k => .call c k

def look : Script Outlook := fun k => .look k

def fail {α : Type} (error : GameError) : Script α := fun _ => .fail error

/-- Runs a whole program as one step. -/
def run (p : Program) : Script Unit := fun k => p.andThen (k ())

def addDuration (card : CardId) (callback : EffectContext → Program) : Script Unit :=
  fun k => .addDuration card callback (k ())

def addGainTrigger (player : PlayerId) (callback : GainInfo → Program) : Script Unit :=
  fun k => .addGainTrigger player callback (k ())

def addPlayTrigger (player : PlayerId) (callback : PlayerId → CardId → Program) : Script Unit :=
  fun k => .addPlayTrigger player callback (k ())

/-- A script that decides whether it is kept. -/
def keeping (s : Script Bool) : Program := s .finish

/-- A script that is done once it has run. -/
def once (s : Script Unit) : Program := s fun _ => .finish false

/-- A script that is to be run every time. -/
def always (s : Script Unit) : Program := s fun _ => .finish true

/-- A player's tableau, or the error that there is no such player. -/
def tableau (player : PlayerId) : Script Tableau := do
  match (← look).tableau? player with
  | some t => pure t
  | none => fail (.playerNotFound player)

/-- The face of a card, or the error that there is no such card. -/
def face (card : CardId) : Script CardFace := do
  match (← look).face? card with
  | some face => pure face
  | none => fail (.cardNotFound card)

def hand (player : PlayerId) : Script (List CardId) := do return (← tableau player).hand

/-- The cards in hand that have the property. -/
def handWhere (player : PlayerId) (p : CardFace → Bool) : Script (List CardId) := do
  (← hand player).filterM fun card => do return p (← face card)

def draw (player : PlayerId) (count : Nat) : Script (List CardId) := call (.draw player count)

def topCards (player : PlayerId) (count : Nat) : Script (List CardId) :=
  call (.topCards player count)

def move (card : CardId) (player : PlayerId) (target : Zone) : Script (Option Zone) :=
  call (.move card player target .top)

def discard (card : CardId) (player : PlayerId) : Script Bool := call (.discard card player)

def trash (card : CardId) (player : PlayerId) : Script Bool := call (.trash card player)

def reveal (cards : List CardId) (player : PlayerId) : Script Unit := call (.reveal cards player)

def play (card : CardId) (player : PlayerId) : Script Unit := call (.play card player)

def resolve (card : CardId) (player : PlayerId) : Script Unit := call (.resolve card player)

/-- Gains a card to the discard pile without buying it. -/
def gain (pile : String) (player : PlayerId) : Script CardId :=
  call (.gain pile player false .discard)

def credit (player : PlayerId) (counter : Counter) (n : Nat) : Script Unit :=
  call (.credit player counter n)

def chooseCards (player : PlayerId) (choice : CardChoice) : Script (List CardId) :=
  call (.chooseCards player choice)

/-- One of the cards, if there is any. -/
def chooseCard (player : PlayerId) (prompt : String) (cards : List CardId)
    (source : Option CardId) : Script (Option CardId) := do
  return (← chooseCards player { prompt, cards, min := 1, max := 1, source }).head?

def choosePile (player : PlayerId) (prompt : String) (source : Option CardId)
    (eligible : PileOffer → Bool) : Script (Option String) :=
  call (.choosePile player prompt source eligible)

def chooseBoolean (player : PlayerId) (prompt : String) (default : Bool)
    (source : Option CardId) : Script Bool :=
  call (.chooseBoolean player { prompt, default, source })

end Script

end DeckBuilder
