import DeckBuilder.Controllers
import DeckBuilder.Text.Ascii

/-!
A player who buys money first and victory cards late, with a few actions mixed in, and who values
cards by what is printed on them.  Nothing is left to chance: equal situations get equal answers.
-/
namespace DeckBuilder

/-- What the effects of playing a card add up to; what cannot be counted counts as one custom step. -/
structure EffectTally where
  cards : Nat := 0
  actions : Nat := 0
  buys : Nat := 0
  money : Nat := 0
  custom : Nat := 0
deriving DecidableEq, Repr, Inhabited

namespace EffectTally

mutual
def add (t : EffectTally) : Effect → EffectTally
  | .drawCards n => { t with cards := t.cards + n }
  | .gainActions n => { t with actions := t.actions + n }
  | .gainBuys n => { t with buys := t.buys + n }
  | .gainMoney n => { t with money := t.money + n }
  | .sequence steps => addAll t steps
  | _ => { t with custom := t.custom + 1 }
def addAll (t : EffectTally) : List Effect → EffectTally
  | [] => t
  | e :: es => addAll (t.add e) es
end

def ofDefinition (d : CardDefinition) : EffectTally := addAll {} d.onPlay

end EffectTally

/-- The last of the items that no other item exceeds. -/
def lastBest? {α : Type} (le : α → α → Bool) : List α → Option α
  | [] => none
  | x :: xs => some (xs.foldl (fun best y => if le best y then y else best) x)

namespace HeuristicPlayer

/-- How good it is to play the card now. -/
def evaluateAction (d : CardDefinition) (actionsLeft : Nat) : Int :=
  let t := EffectTally.ofDefinition d
  let turn : Int :=
    if 0 < t.actions then 100 + t.actions * 10
    else if actionsLeft ≤ 1 then 10
    else 0
  let attack : Int := if d.is .attack then 5 else 0
  d.cost * 5 + turn + t.cards * 12 + t.money * 8 + t.buys * 3 + t.custom * 6 + attack

/-- How good it is to have the card; the cards one would rather be rid of are not above zero. -/
def evaluateCard (d : CardDefinition) : Int :=
  if d.is .curse then -20
  else if d.isVictory && !d.isAction && !d.isTreasure then -10 + d.cost
  else if d.isTreasure && d.worth ≤ 1 && d.onPlay.isEmpty then 0
  else 10 + d.cost * 3

/-- The value of something that is no card of the game: below all others. -/
def lowest : Int := -0x80000000

def definition? (s : GameState) (id : CardId) : Option CardDefinition :=
  (s.card? id).map (·.definition)

def actionValue (s : GameState) (actionsLeft : Nat) (id : CardId) : Int :=
  match definition? s id with
  | some d => evaluateAction d actionsLeft
  | none => lowest

def cardValue (s : GameState) (id : CardId) : Int :=
  match definition? s id with
  | some d => evaluateCard d
  | none => 0

def isJunk (s : GameState) (id : CardId) : Bool :=
  match definition? s id with
  | some d => evaluateCard d ≤ 0
  | none => false

def countOwned (s : GameState) (player : PlayerId) (p : CardFace → Bool) : Nat :=
  s.outlook.countOwned player p

/-- The dearest action to buy, if the deck has room for one more: about `density` for ten cards. -/
def chooseAction (s : GameState) (player : PlayerId) (density : Nat) (buyable : List String) :
    Option String :=
  let owned := ((s.player? player).map fun p => p.allCards.length).getD 0
  let actions := countOwned s player CardFace.isAction
  if max owned 10 * density + 10 ≤ actions * 10 then none
  else
    let piles := (buyable.filterMap s.supply.pile?).filter fun p =>
      p.definition.isAction && 2 ≤ p.definition.cost
    let key (p : Pile) : Nat × Int := (s.cost p.definition, evaluateAction p.definition 1)
    let le (p q : Pile) : Bool :=
      (key p).1 < (key q).1 || ((key p).1 == (key q).1 && (key p).2 ≤ (key q).2)
    (lastBest? le piles).map Pile.name

/-- What to buy: a Colony, a Province once there is a Gold or the Provinces run low, smaller victory
cards towards the end, else an action or the dearest treasure. -/
def choosePurchase (s : GameState) (player : PlayerId) (density : Nat) (buyable : List String) :
    Option String :=
  let money := ((s.player? player).map fun p => p.money).getD 0
  let left := s.supply.count "Province"
  let golds := countOwned s player fun face => face.name == "Gold"
  if buyable.contains "Colony" && 11 ≤ money then some "Colony"
  else if buyable.contains "Province" && 8 ≤ money && (0 < golds || left ≤ 6) then some "Province"
  else if buyable.contains "Duchy" && left ≤ 4 && 5 ≤ money then some "Duchy"
  else if buyable.contains "Estate" && left ≤ 2 && 2 ≤ money then some "Estate"
  else match chooseAction s player density buyable with
    | some action => some action
    | none => ["Platinum", "Gold", "Silver"].find? buyable.contains

/-- Prompts about what to play, gain or keep are answered with the best cards, all others with the
worst. -/
def wantsBest (prompt : String) : Bool :=
  ["play", "gain", "keep"].any (Text.contains (Text.asciiLower prompt))

/-- The best `n` of the cards, the best one first. -/
def bestCards (s : GameState) : Nat → List CardId → List CardId
  | 0, _ => []
  | n + 1, pool =>
    match lastBest? (fun a b => cardValue s a ≤ cardValue s b) pool with
    | none => []
    | some best => best :: bestCards s n (pool.filter (· != best))

/-- The worst cards: as many as must be chosen, and any junk beyond. -/
def worstCards (s : GameState) (choice : CardChoice) : List CardId :=
  let sorted := choice.cards.mergeSort fun a b => cardValue s a ≤ cardValue s b
  let first := sorted.take choice.min
  let more := (sorted.drop choice.min).takeWhile (isJunk s)
  (first ++ more).take choice.max

/-- The dearest pile worth having; victory cards only when the Provinces run low. -/
def bestPile (s : GameState) (piles : List String) : Option String :=
  let late := s.supply.count "Province" ≤ 4
  let useful := (piles.filterMap s.supply.pile?).filter fun p =>
    !p.definition.is .curse && (late || !p.definition.isVictory || p.definition.isAction)
  (lastBest? (fun p q => s.cost p.definition ≤ s.cost q.definition) useful).map Pile.name

/-- Trashing is agreed to when the prompt names a card of no use. -/
def agrees (choice : BooleanChoice) : Bool :=
  let prompt := Text.asciiLower choice.prompt
  if Text.contains prompt "trash" then
    ["curse", "estate", "copper"].any (Text.contains prompt)
  else choice.default

variable {M : Type}

def answer (density : Nat) (s : GameState) (player : PlayerId) : (q : Question) → Think M q.Answer
  | .action playable => do
    let actionsLeft := ((s.player? player).map fun p => p.actions).getD 0
    let value := actionValue s actionsLeft
    let best := lastBest? (fun a b => value a ≤ value b) playable
    if let some c := best then Think.log ("plays " ++ s.cardName c)
    return best
  | .treasures playable => return some playable
  | .purchase buyable => do
    let choice := choosePurchase s player density buyable
    let money := ((s.player? player).map fun p => p.money).getD 0
    Think.log (s!"with ${money} buys " ++ choice.getD "nothing")
    return choice
  | .cards choice => do
    let picked :=
      if wantsBest choice.prompt then bestCards s (min (max choice.min 1) choice.max) choice.cards
      else worstCards s choice
    Think.log (choice.prompt ++ ": " ++ ", ".intercalate (picked.map s.cardName))
    return picked
  | .pile choice => do
    let pile := bestPile s choice.piles
    Think.log (choice.prompt ++ ": " ++ Text.quoteOption pile)
    return pile
  | .boolean choice => do
    let yes := agrees choice
    Think.log s!"{choice.prompt}: {yes}"
    return yes
  | .options choice =>
    return (List.range choice.options.length).take (min (max choice.min 1) choice.max)
  | .integer choice => return choice.default

def gameOver (s : GameState) (player : PlayerId) (won : Bool) : Think M Unit := do
  let points := (s.points player).toOption.getD 0
  Think.log ((if won then "won" else "lost") ++ s!" with {points} VP")

end HeuristicPlayer

end DeckBuilder
