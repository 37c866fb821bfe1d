import DeckBuilder.Program

/-!
Effects: the steps printed on cards, as data.  An effect can be described in words without being
carried out, and its meaning is a program; a step that the other kinds cannot express is a labelled
program of its own.
-/
namespace DeckBuilder

mutual
inductive Effect
  | drawCards (n : Nat)
  | gainActions (n : Nat)
  | gainBuys (n : Nat)
  | gainMoney (n : Nat)
  | gainVictoryTokens (n : Nat)
  | gainCard (pile : String) (destination : GainDestination)
  | sequence (steps : List Effect)
  /-- The player picks from `min` to `max` of the options, carried out in the order picked. -/
  | choose (prompt : String) (options : List EffectOption) (min max : Nat)
  | mayDo (prompt : String) (step : Effect)
  /-- The step acts for every other player who is not kept from it. -/
  | attack (step : Effect)
  | eachOtherPlayer (step : Effect)
  | custom (label : String) (run : EffectContext → Program)
structure EffectOption where
  description : String
  effect : Effect
end

instance : Inhabited Effect := ⟨.sequence []⟩

instance : Inhabited EffectOption := ⟨⟨"", default⟩⟩

namespace Effect

def plural (n : Nat) : String := if n = 1 then "" else "s"

mutual
/-- The effect in a few words. -/
def describe : Effect → String
  | .drawCards n => s!"+{n} Card{plural n}"
  | .gainActions n => s!"+{n} Action{plural n}"
  | .gainBuys n => s!"+{n} Buy{plural n}"
  | .gainMoney n => s!"+${n}"
  | .gainVictoryTokens n => s!"+{n} VP"
  | .gainCard pile _ => s!"gain a {pile}"
  | .sequence steps => ", ".intercalate (describeAll steps)
  | .choose prompt _ _ _ => prompt
  | .mayDo prompt _ => prompt
  | .attack step => "attack: " ++ step.describe
  | .eachOtherPlayer step => "each other player: " ++ step.describe
  | .custom label _ => label
def describeAll : List Effect → List String
  | [] => []
  | e :: es => e.describe :: describeAll es
end

/-- An option described by its own effect. -/
def asOption (effect : Effect) : EffectOption := ⟨effect.describe, effect⟩

/-- A step given by a script. -/
def scripted (label : String) (s : EffectContext → Script Unit) : Effect :=
  .custom label fun ctx => (s ctx).once

mutual
/-- What the effect does for the player of the context, and then `k`. -/
def program (ctx : EffectContext) : Effect → Program → Program
  | .drawCards n, k => .call (.draw ctx.player n) fun _ => k
  | .gainActions n, k => .call (.credit ctx.player .actions n) fun _ => k
  | .gainBuys n, k => .call (.credit ctx.player .buys n) fun _ => k
  | .gainMoney n, k => .call (.credit ctx.player .money n) fun _ => k
  | .gainVictoryTokens n, k => .call (.credit ctx.player .victoryTokens n) fun _ => k
  | .gainCard pile destination, k =>
    .call (.gainIfAvailable pile ctx.player destination) fun _ => k
  | .sequence steps, k => programAll ctx steps k
  | .choose prompt options min max, k =>
    let question : OptionChoice :=
      { prompt, options := options.map (·.description), min, max, source := some ctx.card }
    let steps := optionPrograms ctx options
    .call (.chooseOptions ctx.player question) fun picked =>
      (picked.filterMap fun i => steps[i]?).foldr (fun step rest => step rest) k
  | .mayDo prompt step, k =>
    .call (.chooseBoolean ctx.player { prompt, default := false, source := some ctx.card })
      fun answer => if answer then program ctx step k else k
  | .attack step, k =>
    .call (.opponents ctx.player) fun targets =>
      targets.foldr
        (fun target rest => .call (.blocksAttack target ctx.card) fun blocked =>
          if blocked then rest else program (ctx.forPlayer target) step rest) k
  | .eachOtherPlayer step, k =>
    .call (.opponents ctx.player) fun targets =>
      targets.foldr (fun target rest => program (ctx.forPlayer target) step rest) k
  | .custom _ run, k => (run ctx).andThen k
/-- What the effects do one after the other, and then `k`. -/
def programAll (ctx : EffectContext) : List Effect → Program → Program
  | [], k => k
  | e :: es, k => program ctx e (programAll ctx es k)
/-- What each of the options does. -/
def optionPrograms (ctx : EffectContext) : List EffectOption → List (Program → Program)
  | [] => []
  | o :: os => optionProgram ctx o :: optionPrograms ctx os
def optionProgram (ctx : EffectContext) : EffectOption → Program → Program
  | ⟨_, effect⟩, k => program ctx effect k
end

/-- The effect as one step of a script. -/
def step (effect : Effect) (ctx : EffectContext) : Script Unit := fun k => program ctx effect (k ())

/-- A list of effects as one step of a script. -/
def steps (effects : List Effect) (ctx : EffectContext) : Script Unit :=
  fun k => programAll ctx effects (k ())

end Effect

end DeckBuilder
