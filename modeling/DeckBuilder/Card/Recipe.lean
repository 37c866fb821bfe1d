import DeckBuilder.Card.Definition
import DeckBuilder.Json.Fields

/-!
Cards made to order.  A recipe is a JSON value: an effect is an array of its kind and what the kind
needs, a card is an object, and whatever a recipe leaves out has its default.  Besides the effects
that are printed on cards there are steps that act on the card itself, on the cards in play or on the
hand, and effects that wait for a gain, for a play or for the next turn.  A card can also be described
as JSON, with its effects in words.
-/
namespace DeckBuilder

/-- The zone of a word; the hand, if it is no such word. -/
def Zone.ofWord (word : String) : Zone :=
  if word = "deck" then .deck
  else if word = "discard" then .discard
  else if word = "in_play" then .inPlay
  else if word = "set_aside" then .setAside
  else if word = "trash" then .trash
  else match word.toList with
    | 'm' :: 'a' :: 't' :: ':' :: name => .mat (String.ofList name)
    | _ => .hand

def Position.ofWord (word : String) : Position := if word = "bottom" then .bottom else .top

def GainDestination.ofWord (word : String) : GainDestination :=
  if word = "deck" then .deckTop else if word = "hand" then .hand else .discard

/-- A program that first writes a line into the log book. -/
def Program.noting (message : String) (next : Program) : Program := .call (.note message) fun _ => next

namespace Effect

/-- The most money that an answer to a question can give. -/
def askedLimit : Int := 1000

/-- The player names a number and gets that much money. -/
def askMoney (choice : IntegerChoice) : Effect :=
  .scripted "ask_int" fun ctx => do
    let n ← Script.call (.chooseInteger ctx.player choice)
    Script.credit ctx.player .money (min (max n 0) askedLimit).toNat
    Script.call (.note ("int " ++ toString n))

def discardSelf : Effect :=
  .scripted "discard_self" fun ctx => do
    let _ ← Script.discard ctx.card ctx.player

def trashSelf : Effect :=
  .scripted "trash_self" fun ctx => do
    let _ ← Script.trash ctx.card ctx.player

def revealSelf : Effect :=
  .scripted "reveal_self" fun ctx => Script.reveal [ctx.card] ctx.player

def revealHand : Effect :=
  .scripted "reveal_hand" fun ctx => do
    Script.reveal (← Script.hand ctx.player) ctx.player

def moveSelf (zone : Zone) (position : Position) : Effect :=
  .scripted "move_self" fun ctx => do
    let _ ← Script.call (.move ctx.card ctx.player zone position)

/-- All cards that the player has in play go to a zone. -/
def sweep (zone : Zone) : Effect :=
  .scripted "sweep" fun ctx => do
    (← Script.tableau ctx.player).inPlay.forM fun card => do
      let _ ← Script.move card ctx.player zone

/-- The player discards from `min` to `max` cards of the hand. -/
def discardFromHand (prompt : String) (min max : Nat) : Effect :=
  .scripted "discard_n" fun ctx => do
    let cards ← Script.hand ctx.player
    let chosen ← Script.chooseCards ctx.player { prompt, cards, min, max, source := some ctx.card }
    chosen.forM fun card => do
      let _ ← Script.discard card ctx.player

/-- The effects happen when the player's next turn starts, and if they are kept at every turn. -/
def onNextTurn (effects : List Effect) (keep : Bool) : Effect :=
  .scripted "duration" fun ctx =>
    Script.addDuration ctx.card fun ctx => programAll ctx effects (.finish keep)

/-- Cards of a type, or all cards, cost more by `n` for the rest of the turn. -/
def modifyCosts (n : Int) (type : Option CardType) : Effect :=
  .scripted "cost_mod" fun _ =>
    Script.call (.addCostModifier fun face => if type.all face.is then n else 0)

/-- The effects happen whenever the player gains a card this turn. -/
def onEachGain (effects : List Effect) : Effect :=
  .scripted "gain_trigger" fun ctx =>
    Script.addGainTrigger ctx.player fun info =>
      .noting (s!"trigger {info.player} {info.card} {info.bought} " ++ info.destination.text)
        (programAll ⟨ctx.card, info.player⟩ effects (.finish true))

/-- The effects happen for the next card that the player plays this turn, and if they are kept for
every further one. -/
def onEachPlay (effects : List Effect) (keep : Bool) : Effect :=
  .scripted "play_trigger" fun ctx =>
    Script.addPlayTrigger ctx.player fun player card =>
      programAll ⟨card, player⟩ effects (.finish keep)

def failure (reason : String) : Effect :=
  .scripted "fail" fun _ => Script.fail (.invalidChoice reason)

/-- A description, or null for the effect's own, with an effect. -/
def optionOfRecipe (part : Json → Effect) (j : Json) : EffectOption :=
  let effect := part (j.item 1)
  if (j.item 0).isNull then effect.asOption else ⟨(j.item 0).text, effect⟩

/-- The effect of a recipe whose parts are read by `part`; what is no recipe does nothing. -/
def ofRecipe (part : Json → Effect) (j : Json) : Effect :=
  let a := j.item 1
  let b := j.item 2
  let c := j.item 3
  match (j.item 0).text with
  | "draw" => .drawCards a.nat
  | "actions" => .gainActions a.nat
  | "buys" => .gainBuys a.nat
  | "money" => .gainMoney a.nat
  | "tokens" => .gainVictoryTokens a.nat
  | "gain" => .gainCard a.text (.ofWord b.text)
  | "seq" => .sequence (a.items.map part)
  | "choose" => .choose a.text (b.items.map (optionOfRecipe part)) c.nat (j.item 4).nat
  | "may" => .mayDo a.text (part b)
  | "attack" => .attack (part a)
  | "each" => .eachOtherPlayer (part a)
  | "ask_int" =>
    askMoney { prompt := a.text, default := b.integer, min := c.integer, max := (j.item 4).integer }
  | "discard_self" => discardSelf
  | "trash_self" => trashSelf
  | "reveal_self" => revealSelf
  | "reveal_hand" => revealHand
  | "move_self" => moveSelf (.ofWord a.text) (.ofWord b.text)
  | "sweep" => sweep (.ofWord a.text)
  | "discard_n" => discardFromHand a.text b.nat c.nat
  | "duration" => onNextTurn (a.items.map part) b.flag
  | "cost_mod" => modifyCosts a.integer (CardType.ofText? b.text)
  | "gain_trigger" => onEachGain (a.items.map part)
  | "play_trigger" => onEachPlay (a.items.map part) b.flag
  | "fail" => failure a.text
  | _ => .sequence []

/-- Reads a recipe that nests at most `depth` deep. -/
def ofJsonWithin : (depth : Nat) → Json → Effect
  | 0 => fun _ => .sequence []
  | depth + 1 => ofRecipe (ofJsonWithin depth)

def ofJson (j : Json) : Effect := ofJsonWithin j.depth j

def listOfJson (j : Json) : List Effect := j.items.map ofJson

/-- The options of a choice. -/
def optionsOfJson (j : Json) : List EffectOption := j.items.map (optionOfRecipe ofJson)

end Effect

/-- A reaction that notes what it answers to and then carries out effects for its card. -/
def Reaction.ofJson? (kind : ReactionKind) (j : Json) : Option Reaction :=
  if j.isNull then none
  else
    let effects := Effect.listOfJson (j.get "effects")
    some {
      zone := .ofWord (j.textAt "zone")
      effect := fun ctx =>
        .noting (s!"reaction {ctx.card} {ctx.owner} " ++ kind.text ++ " " ++
            toString ctx.trigger.player)
          (Effect.programAll ctx.effectContext effects (.finish false)) }

def AttackImmunity.ofText? (s : String) : Option AttackImmunity :=
  [revealFromHand, whileSetAside].find? (·.text == s)

def CardDefinition.ofJson (j : Json) : CardDefinition where
  name := j.textAt "name"
  types := (j.textsAt "types").filterMap CardType.ofText?
  set := if j.flagAt "base" then .base else .kingdom
  cost := j.integerAt "cost"
  worth := j.natAt "worth"
  points := j.integerAt "vp"
  immunity := AttackImmunity.ofText? (j.textAt "immunity")
  text := j.textAt "text"
  costRule := (j.get "cost_mod").signedWord?.map fun n => fun _ _ => n
  pointsRule := (j.get "vp_per").str?.map fun name => fun o player =>
    (o.countOwned player fun face => face.name == name : Nat)
  buyRule := (j.get "can_buy").bool?.map fun allowed => fun _ _ => allowed
  onPlay := Effect.listOfJson (j.get "play")
  onGain := Effect.listOfJson (j.get "on_gain")
  onTrash := Effect.listOfJson (j.get "on_trash")
  onCleanUp := Effect.listOfJson (j.get "on_cleanup")
  reactions :=
    let reactions := j.get "reactions"
    { onGain := Reaction.ofJson? .gain (reactions.get "gain")
      onDiscard := Reaction.ofJson? .discard (reactions.get "discard")
      onStartTurn := Reaction.ofJson? .startTurn (reactions.get "start_turn") }

/-- A card described as JSON: what is printed on it, its effects in words, the zones that it reacts
from, and which rules of its own it has. -/
def CardDefinition.toJson (d : CardDefinition) : Json :=
  let texts (xs : List String) : Json := .arr (xs.map .str)
  let effects (es : List Effect) : Json := texts (es.map Effect.describe)
  let flags (bs : List Bool) : Json := .arr (bs.map .bool)
  let reacts (r : Option Reaction) : Json := r.elim .null fun r => .str r.zone.text
  .obj [
    ("name", .str d.name),
    ("types", texts (d.types.map CardType.text)),
    ("type_line", .str d.typeLine),
    ("is", flags [d.isAction, d.isTreasure, d.isVictory]),
    ("set", .str d.set.text),
    ("cost", .int d.cost),
    ("worth", .int d.worth),
    ("vp", .int d.points),
    ("play", effects d.onPlay),
    ("on_gain", effects d.onGain),
    ("on_trash", effects d.onTrash),
    ("on_cleanup", effects d.onCleanUp),
    ("reactions", .arr [reacts d.reactions.onGain, reacts d.reactions.onDiscard,
      reacts d.reactions.onStartTurn]),
    ("reactions_empty", .bool d.reactions.isEmpty),
    ("has", flags [d.costRule.isSome, d.pointsRule.isSome, d.buyRule.isSome]),
    ("immunity", d.immunity.elim .null fun i => .str i.text),
    ("text", .str d.text)]

end DeckBuilder
