import DeckBuilder.Proofs.Drawing
import DeckBuilder.Proofs.Leads
import DeckBuilder.Proofs.TurnTriggers
import DeckBuilder.Proofs.Upholding
import Mathlib.Data.Nat.ModEq

/-!
How an attack goes round the table. An effect is made into a program with what comes after it built in,
so an attack is one long program; it does what a loop over the other players does, in which each of them
either is kept from the attack by a card or suffers the step. Whether a card keeps a player from it is
looked up when it is this player's turn, in the game as the players before have left it.
-/
namespace DeckBuilder

/-! ### One program after another -/

theorem Program.andThen_assoc (p q k : Program) :
    (p.andThen q).andThen k = p.andThen (q.andThen k) := by
  induction p with
  | finish keep => rfl
  | fail e => rfl
  | look next ih => simp only [andThen, ih]
  | call c next ih => simp only [andThen, ih]
  | addDuration card callback next _ ih => simp only [andThen, ih]
  | addGainTrigger id callback next _ ih => simp only [andThen, ih]
  | addPlayTrigger id callback next _ ih => simp only [andThen, ih]

/-- A step that puts what it does before what follows. -/
def Program.Prepends (step : Program → Program) : Prop :=
  ∀ q k : Program, step (q.andThen k) = (step q).andThen k

theorem Program.prepends_foldr {α : Type} {f : α → Program → Program} {xs : List α}
    (h : ∀ x ∈ xs, Program.Prepends (f x)) : Program.Prepends fun k => xs.foldr f k := by
  intro q k
  induction xs with
  | nil => rfl
  | cons x rest ih =>
    have hrest := ih fun y hy => h y (List.mem_cons_of_mem _ hy)
    exact (congrArg (f x) hrest).trans (h x List.mem_cons_self _ _)

namespace Effect

open Program

mutual
theorem prepends_program (ctx : EffectContext) : ∀ e : Effect, Prepends (e.program ctx)
  | .drawCards _, _, _ | .gainActions _, _, _ | .gainBuys _, _, _ | .gainMoney _, _, _
  | .gainVictoryTokens _, _, _ | .gainCard _ _, _, _ => rfl
  | .sequence steps, q, k => prepends_programAll ctx steps q k
  | .choose _ options _ _, q, k => by
    refine congrArg (Program.call _) (funext fun picked => prepends_foldr ?_ q k)
    intro step hstep
    obtain ⟨i, -, hi⟩ := List.mem_filterMap.mp hstep
    exact prepends_options ctx options (List.mem_of_getElem? hi)
  | .mayDo _ step, q, k => by
    refine congrArg (Program.call _) (funext fun answer => ?_)
    cases answer with
    | true => exact prepends_program ctx step q k
    | false => rfl
  | .attack step, q, k => by
    refine congrArg (Program.call _) (funext fun targets => prepends_foldr ?_ q k)
    intro target _ q k
    refine congrArg (Program.call _) (funext fun blocked => ?_)
    cases blocked with
    | true => rfl
    | false => exact prepends_program (ctx.forPlayer target) step q k
  | .eachOtherPlayer step, q, k => by
    refine congrArg (Program.call _) (funext fun targets => prepends_foldr ?_ q k)
    exact fun target _ => prepends_program (ctx.forPlayer target) step
  | .custom _ run, q, k => (andThen_assoc (run ctx) q k).symm
theorem prepends_programAll (ctx : EffectContext) :
    ∀ es : List Effect, Prepends (programAll ctx es)
  | [], _, _ => rfl
  | e :: es, q, k =>
    (congrArg (e.program ctx) (prepends_programAll ctx es q k)).trans
      (prepends_program ctx e _ k)
theorem prepends_options (ctx : EffectContext) :
    ∀ (os : List EffectOption) {step : Program → Program}, step ∈ optionPrograms ctx os →
      Prepends step
  | [], step, hstep => by simp [optionPrograms] at hstep
  | ⟨_, effect⟩ :: os, step, hstep => by
    rcases List.mem_cons.mp hstep with rfl | hstep
    · exact prepends_program ctx effect
    · exact prepends_options ctx os hstep
end

/-- An effect with something after it is the effect alone, and then that. -/
theorem program_eq_andThen (ctx : EffectContext) (e : Effect) (k : Program) :
    e.program ctx k = (e.program ctx (.finish false)).andThen k :=
  prepends_program ctx e (.finish false) k

end Effect

namespace GameState

/-! ### The other players -/

section

variable {s : GameState} {id : PlayerId}

theorem opponentsOf_eq (s : GameState) (id : PlayerId) :
    s.opponentsOf id = (List.range' 1 (s.players.length - 1)).map fun k =>
      ⟨(id.seat + k) % s.players.length⟩ := by
  rw [opponentsOf, List.range'_eq_map_range, List.map_map]
  refine List.map_congr_left fun i _ => ?_
  rw [Function.comp_apply, Nat.add_comm 1 i]

theorem nodup_opponentsOf (s : GameState) (id : PlayerId) : (s.opponentsOf id).Nodup := by
  refine List.Nodup.map_on ?_ List.nodup_range
  intro i hi j hj heq
  have hi' := List.mem_range.mp hi
  have hj' := List.mem_range.mp hj
  have hmod : i + 1 ≡ j + 1 [MOD s.players.length] :=
    Nat.ModEq.add_left_cancel' id.seat (congrArg PlayerId.seat heq)
  have hsucc := hmod.eq_of_lt_of_lt (by omega) (by omega)
  omega

/-- The opponents are all the players at the table but one. -/
theorem mem_opponentsOf (h : id.seat < s.players.length) {other : PlayerId} :
    other ∈ s.opponentsOf id ↔ other.seat < s.players.length ∧ other ≠ id := by
  constructor
  · intro hmem
    obtain ⟨i, hi, rfl⟩ := List.mem_map.mp hmem
    have hi' := List.mem_range.mp hi
    refine ⟨Nat.mod_lt _ (Nat.zero_lt_of_lt h), fun heq => ?_⟩
    have hseat : (id.seat + (i + 1)) % s.players.length = id.seat % s.players.length :=
      (congrArg PlayerId.seat heq).trans (Nat.mod_eq_of_lt h).symm
    have hmod : i + 1 ≡ 0 [MOD s.players.length] := Nat.ModEq.add_left_cancel' id.seat hseat
    exact absurd (hmod.eq_of_lt_of_lt (by omega) (by omega)) (Nat.succ_ne_zero i)
  · rintro ⟨hseat, hne⟩
    have hne' : other.seat ≠ id.seat := fun heq => hne (congrArg PlayerId.mk heq)
    refine List.mem_map.mpr ?_
    by_cases hafter : id.seat < other.seat
    · refine ⟨other.seat - id.seat - 1, List.mem_range.mpr (by omega), congrArg PlayerId.mk ?_⟩
      have hsum : id.seat + (other.seat - id.seat - 1 + 1) = other.seat := by omega
      rw [hsum, Nat.mod_eq_of_lt hseat]
    · refine ⟨other.seat + s.players.length - id.seat - 1, List.mem_range.mpr (by omega),
        congrArg PlayerId.mk ?_⟩
      have hsum : id.seat + (other.seat + s.players.length - id.seat - 1 + 1) =
          other.seat + s.players.length := by omega
      rw [hsum, Nat.add_mod_right, Nat.mod_eq_of_lt hseat]

end

/-! ### Who is kept from an attack -/

/-- A card keeps the player from attacks: one of the hand that may be shown, or one that is set aside. -/
def Immune (s : GameState) (target : PlayerId) : Prop :=
  ∃ p, s.player? target = some p ∧
    (p.hand.any (s.grants .revealFromHand) ∨ p.zones.setAside.any (s.grants .whileSetAside))

instance (s : GameState) (target : PlayerId) : Decidable (s.Immune target) :=
  decidable_of_iff ((s.player? target).any fun p =>
    p.hand.any (s.grants .revealFromHand) || p.zones.setAside.any (s.grants .whileSetAside)) (by
      rw [Option.any_eq_true]
      simp only [Bool.or_eq_true]
      exact Iff.rfl)

theorem immune_iff_aside {s : GameState} {target : PlayerId} {p : Player}
    (hp : s.player? target = some p) (hhand : p.hand.find? (s.grants .revealFromHand) = none) :
    s.Immune target ↔ p.zones.setAside.any (s.grants .whileSetAside) := by
  have hnone : ¬ p.hand.any (s.grants .revealFromHand) := by simpa using hhand
  constructor
  · rintro ⟨q, hq, himmune⟩
    rw [hp] at hq
    obtain rfl := Option.some.inj hq
    exact himmune.resolve_left hnone
  · exact fun haside => ⟨p, hp, .inr haside⟩

/-- The player has shown the card, and it is told that this has blocked the attack. -/
def fendedOff (s : GameState) (target : PlayerId) (card attack : CardId) : GameState :=
  (s.publish target (.revealCards [card] [s.cardName card])).publish target
    (.attackBlocked (s.cardName attack))

/-- A line of the log book says that the player is protected. -/
def sheltered (s : GameState) (target : PlayerId) (attack : CardId) : GameState :=
  s.onLogger (·.verbose (s!"{target} is protected from " ++ s.cardName attack))

end GameState

namespace Engine

variable {M : Type}

/-- Programs put one before the other are run as a loop. -/
theorem interpret_foldr {α : Type} {handler : (c : Call) → Engine M c.Answer}
    {f : α → Program → Program} {body : α → Engine M Unit}
    (h : ∀ a k, interpret handler (f a k) = body a >>= fun _ => interpret handler k) (xs : List α)
    (k : Program) :
    interpret handler (xs.foldr f k) = xs.forM body >>= fun _ => interpret handler k := by
  induction xs with
  | nil => exact (pure_bind _ _).symm
  | cons a rest ih =>
    change interpret handler (f a (rest.foldr f k)) = (body a >>= fun _ => rest.forM body) >>= _
    rw [h, ih, bind_assoc]

/-- What an attack is to one of the players. A card in the hand comes before one that is set aside;
only who is not immune suffers the strike. -/
inductive Attacked (attack : CardId) (strike : PlayerId → Engine M Unit) (target : PlayerId) :
    Game M → Game M → Prop
  | shown {g : Game M} {p : Player} {card : CardId} (hp : g.state.player? target = some p)
      (hcard : p.hand.find? (g.state.grants .revealFromHand) = some card) :
      Attacked attack strike target g ⟨g.state.fendedOff target card attack, g.memory⟩
  | shielded {g : Game M} {p : Player} (hp : g.state.player? target = some p)
      (hhand : p.hand.find? (g.state.grants .revealFromHand) = none)
      (haside : p.zones.setAside.any (g.state.grants .whileSetAside)) :
      Attacked attack strike target g ⟨g.state.sheltered target attack, g.memory⟩
  | struck {g g' : Game M} {p : Player} (hp : g.state.player? target = some p)
      (hopen : ¬ g.state.Immune target) (h : (strike target).runOn g = (.ok (), g')) :
      Attacked attack strike target g g'

section

variable {attack : CardId} {strike strike' : PlayerId → Engine M Unit} {target : PlayerId}
variable {g g' : Game M}

theorem Attacked.congr (h : Attacked attack strike target g g')
    (hsame : (strike target).runOn g = (strike' target).runOn g) :
    Attacked attack strike' target g g' := by
  cases h with
  | shown hp hcard => exact .shown hp hcard
  | shielded hp hhand haside => exact .shielded hp hhand haside
  | struck hp hopen h => exact .struck hp hopen (hsame ▸ h)

theorem Attacked.player (h : Attacked attack strike target g g') :
    ∃ p, g.state.player? target = some p := by
  cases h with
  | shown hp | shielded hp | struck hp => exact ⟨_, hp⟩

theorem Attacked.patience {depth : Nat} (h : Attacked attack strike target g g')
    (hstrike : Upholds (fun g => g.state.patience = depth) (strike target))
    (hg : g.state.patience = depth) : g'.state.patience = depth := by
  cases h with
  | shown | shielded => exact hg
  | struck _ _ h => exact (hstrike g hg).ended h

end

/-- The attack on one player. -/
def attackOne (attack : CardId) (strike : PlayerId → Engine M Unit) (target : PlayerId) :
    Engine M Unit := do
  if ← blocksAttack target attack then return
  else strike target

section

variable {g g' : Game M} {p : Player} {target : PlayerId} {attack card : CardId}
variable {strike : PlayerId → Engine M Unit}

theorem runOn_blocksAttack_of_hand (hp : g.state.player? target = some p)
    (hcard : p.hand.find? (g.state.grants .revealFromHand) = some card) :
    (blocksAttack target attack).runOn g =
      (.ok true, ⟨g.state.fendedOff target card attack, g.memory⟩) := by
  refine Ensures.runOn_eq ?_
  simp only [blocksAttack, ensures_bind, ensures_player, hp, ensures_state, hcard, reveal]
  exact ⟨rfl, rfl⟩

theorem runOn_blocksAttack_of_aside (hp : g.state.player? target = some p)
    (hhand : p.hand.find? (g.state.grants .revealFromHand) = none)
    (haside : p.zones.setAside.any (g.state.grants .whileSetAside)) :
    (blocksAttack target attack).runOn g =
      (.ok true, ⟨g.state.sheltered target attack, g.memory⟩) := by
  refine Ensures.runOn_eq ?_
  simp only [blocksAttack, ensures_bind, ensures_player, hp, ensures_state, hhand, haside, if_true]
  exact ⟨rfl, rfl⟩

theorem runOn_blocksAttack_of_open (hp : g.state.player? target = some p)
    (hopen : ¬ g.state.Immune target) : (blocksAttack target attack).runOn g = (.ok false, g) := by
  have hhand : p.hand.find? (g.state.grants .revealFromHand) = none := by
    rw [List.find?_eq_none]
    exact fun card hcard hgrants => hopen ⟨p, hp, .inl (List.any_eq_true.mpr ⟨card, hcard, hgrants⟩)⟩
  have haside := (GameState.immune_iff_aside hp hhand).not.mp hopen
  refine Ensures.runOn_eq ?_
  simp only [blocksAttack, ensures_bind, ensures_player, hp, ensures_state, hhand, if_neg haside]
  exact ⟨rfl, rfl⟩

theorem runOn_attackOne_of_blocked {g₁ : Game M}
    (h : (blocksAttack target attack).runOn g = (.ok true, g₁)) :
    (attackOne attack strike target).runOn g = (.ok (), g₁) := by
  rw [attackOne, runOn_bind, h]
  rfl

theorem runOn_attackOne_of_open (h : (blocksAttack target attack).runOn g = (.ok false, g)) :
    (attackOne attack strike target).runOn g = (strike target).runOn g := by
  rw [attackOne, runOn_bind, h]
  rfl

/-- The attack on one player, when it comes to its end. -/
theorem runOn_attackOne :
    (attackOne attack strike target).runOn g = (.ok (), g') ↔
      Attacked attack strike target g g' := by
  constructor
  · intro h
    cases hp : g.state.player? target with
    | none =>
      have hstops : Ensures (attackOne attack strike target) g (fun _ _ => False)
          fun _ _ => True := by
        simp only [attackOne, blocksAttack, ensures_bind, ensures_player, hp]
      exact (hstops.ended h).elim
    | some p =>
    cases hcard : p.hand.find? (g.state.grants .revealFromHand) with
    | some card =>
      rw [runOn_attackOne_of_blocked (runOn_blocksAttack_of_hand hp hcard)] at h
      cases h
      exact .shown hp hcard
    | none =>
      by_cases haside : p.zones.setAside.any (g.state.grants .whileSetAside)
      · rw [runOn_attackOne_of_blocked (runOn_blocksAttack_of_aside hp hcard haside)] at h
        cases h
        exact .shielded hp hcard haside
      · have hopen := (GameState.immune_iff_aside hp hcard).not.mpr haside
        rw [runOn_attackOne_of_open (runOn_blocksAttack_of_open hp hopen)] at h
        exact .struck hp hopen h
  · rintro (⟨hp, hcard⟩ | ⟨hp, hhand, haside⟩ | ⟨hp, hopen, h⟩)
    · exact runOn_attackOne_of_blocked (runOn_blocksAttack_of_hand hp hcard)
    · exact runOn_attackOne_of_blocked (runOn_blocksAttack_of_aside hp hhand haside)
    · rw [runOn_attackOne_of_open (runOn_blocksAttack_of_open hp hopen)]
      exact h

end

variable [Controllers M]

/-- Carries out an effect in which no chain of provoked programs is longer than the depth. -/
def executeWithin (depth : Nat) (effect : Effect) (ctx : EffectContext) : Engine M Unit := do
  let _ ← runWithin depth (effect.program ctx (.finish false))

theorem interpret_attackOne (depth : Nat) (step : Effect) (ctx : EffectContext)
    (target : PlayerId) (k : Program) :
    (interpret (perform (runWithin depth)) (.call (.blocksAttack target ctx.card) fun blocked =>
      if blocked then k else step.program (ctx.forPlayer target) k) : Engine M Bool) =
    (do
      attackOne ctx.card (fun target => executeWithin (depth + 1) step (ctx.forPlayer target)) target
      interpret (perform (runWithin depth)) k) := by
  rw [interpret, attackOne, bind_assoc]
  refine bind_congr fun blocked => ?_
  cases blocked with
  | true => rfl
  | false =>
    rw [if_neg Bool.false_ne_true, if_neg Bool.false_ne_true, Effect.program_eq_andThen,
      interpret_andThen, executeWithin, bind_assoc]
    rfl

/-- An attack goes round the other players. -/
theorem executeWithin_attack (depth : Nat) (step : Effect) (ctx : EffectContext) :
    (executeWithin (depth + 1) (.attack step) ctx : Engine M Unit) = (do
      let s ← state
      (s.opponentsOf ctx.player).forM
        (attackOne ctx.card fun target => executeWithin (depth + 1) step (ctx.forPlayer target))) := by
  simp only [executeWithin, runWithin, Effect.program, interpret, perform, bind_assoc, pure_bind,
    interpret_foldr (interpret_attackOne depth step ctx)]
  exact bind_congr fun s => bind_pure_unit

/-- How deep programs may provoke one another is the same all through the game. -/
theorem lasting_patience (depth : Nat) : Lasting fun g : Game M => g.state.patience = depth := by
  refine .ofState (J := fun s => s.patience = depth) ?_ ?_ fun _ _ hs => hs
  · intro s s' hs htouch
    refine Eq.trans ?_ hs
    cases htouch with
    | remark | publish | arrange | take | throwAway | reprice | enter => rfl
    | hang card f _ =>
      exact congrArg (16 * · + 256) (size_modify s.cards card f)
    | draw id p _ =>
      obtain ⟨rng, events, logger, heq⟩ := GameState.drawOne_eq s id p
      rw [heq]
      rfl
    | peek _ id n cards h =>
      obtain ⟨p, rng, events, logger, -, -, rfl⟩ := GameState.topCards_eq h
      rfl
  · intro s s' hs hpassage
    refine Eq.trans ?_ hs
    cases hpassage <;> rfl

/-- Effects are carried out one after the other. -/
theorem interpret_programAll (depth : Nat) (ctx : EffectContext) (effects : List Effect)
    (k : Program) :
    (interpret (perform (runWithin depth)) (Effect.programAll ctx effects k) : Engine M Bool) =
    (do
      effects.forM fun e => executeWithin (depth + 1) e ctx
      interpret (perform (runWithin depth)) k) := by
  induction effects with
  | nil => exact (pure_bind _ _).symm
  | cons e rest ih =>
    change interpret _ (e.program ctx (Effect.programAll ctx rest k)) =
      (executeWithin (depth + 1) e ctx >>= fun _ => rest.forM _) >>= _
    rw [Effect.program_eq_andThen, interpret_andThen, ih, executeWithin, bind_assoc, bind_assoc]
    rfl

theorem executeAll_runWithin (depth : Nat) (effects : List Effect) (ctx : EffectContext) :
    (executeAll (runWithin depth) effects ctx : Engine M Unit) =
      effects.forM fun e => executeWithin depth e ctx := by
  cases effects with
  | nil => rfl
  | cons e rest =>
  cases depth with
  | zero => rfl
  | succ depth =>
    change (runWithin (depth + 1) (Effect.programAll ctx (e :: rest) (.finish false)) >>= fun _ =>
      Pure.pure ()) = _
    rw [runWithin, interpret_programAll, bind_assoc]
    exact bind_pure_unit

theorem executeWithin_patience (effect : Effect) (ctx : EffectContext) (g : Game M) :
    (executeWithin g.state.patience effect ctx).runOn g = (execute effect ctx).runOn g := by
  rw [executeWithin, execute, runOn_bind, runOn_bind, runOn_run]

theorem runOn_attackWithin {depth : Nat} {step : Effect} {ctx : EffectContext} {g g' : Game M} :
    (executeWithin (depth + 1) (.attack step) ctx).runOn g = (.ok (), g') ↔
      Round (Attacked ctx.card fun target => executeWithin (depth + 1) step (ctx.forPlayer target))
        (g.state.opponentsOf ctx.player) g g' := by
  rw [executeWithin_attack, runOn_bind, runOn_state]
  dsimp only
  rw [runOn_forM]
  simp only [runOn_attackOne]

/-- An attack that comes to its end is a round of attacks on the other players. -/
theorem runOn_attack {step : Effect} {ctx : EffectContext} {g g' : Game M} :
    (execute (.attack step) ctx).runOn g = (.ok (), g') ↔
      Round (Attacked ctx.card fun target => execute step (ctx.forPlayer target))
        (g.state.opponentsOf ctx.player) g g' := by
  obtain ⟨depth, hdepth⟩ : ∃ depth, g.state.patience = depth + 1 :=
    ⟨16 * g.state.cards.size + 255, rfl⟩
  -- the depth of the whole attack is that of each step, as it does not change
  have hsame (target : PlayerId) (g : Game M) (hg : g.state.patience = depth + 1) :
      (executeWithin (depth + 1) step (ctx.forPlayer target)).runOn g =
        (execute step (ctx.forPlayer target)).runOn g :=
    hg ▸ executeWithin_patience step (ctx.forPlayer target) g
  have hexecute (target : PlayerId) : Upholds (fun g : Game M => g.state.patience = depth + 1)
      (execute step (ctx.forPlayer target)) :=
    .execute (lasting_patience (depth + 1)).toEnduring step (ctx.forPlayer target)
  rw [← executeWithin_patience, hdepth, runOn_attackWithin]
  constructor
  · intro h
    refine (h.keeps (I := fun g => g.state.patience = depth + 1) hdepth ?_).1
    intro target _ g g' hg hwithin
    have hattacked : Attacked ctx.card (fun target => execute step (ctx.forPlayer target))
        target g g' := hwithin.congr (hsame target g hg)
    exact ⟨hattacked, hattacked.patience (hexecute target) hg⟩
  · intro h
    refine (h.keeps (I := fun g => g.state.patience = depth + 1) hdepth ?_).1
    intro target _ g g' hg hattacked
    exact ⟨hattacked.congr (hsame target g hg).symm, hattacked.patience (hexecute target) hg⟩

omit [Controllers M] in
/-- Who is immune is passed by, and only the log tells of it. -/
theorem attacked_of_immune (attack : CardId) (strike : PlayerId → Engine M Unit)
    {target : PlayerId} {g : Game M} (h : g.state.Immune target) :
    ∃ events logger, Attacked attack strike target g
      ⟨{ g.state with events, logger }, g.memory⟩ := by
  have ⟨p, hp, _⟩ := h
  cases hcard : p.hand.find? (g.state.grants .revealFromHand) with
  | some card => exact ⟨_, _, .shown hp hcard⟩
  | none => exact ⟨_, _, .shielded hp hcard ((GameState.immune_iff_aside hp hcard).mp h)⟩

omit [Controllers M] in
/-- If all of them are immune, an attack on them changes the log and nothing else. -/
theorem round_of_immune {attack : CardId} {strike : PlayerId → Engine M Unit}
    {targets : List PlayerId} {g : Game M} (h : ∀ target ∈ targets, g.state.Immune target) :
    ∃ events logger, Round (Attacked attack strike) targets g
      ⟨{ g.state with events, logger }, g.memory⟩ := by
  induction targets generalizing g with
  | nil => exact ⟨_, _, .done g⟩
  | cons target rest ih =>
    obtain ⟨events, logger, hfirst⟩ :=
      attacked_of_immune attack strike (h target List.mem_cons_self)
    have hrest : ∀ other ∈ rest, ({ g.state with events, logger } : GameState).Immune other :=
      fun other hother => h other (List.mem_cons_of_mem _ hother)
    obtain ⟨events', logger', hothers⟩ :=
      ih (g := ⟨{ g.state with events, logger }, g.memory⟩) hrest
    exact ⟨events', logger', .next hfirst hothers⟩

/-- Whatever the step is and whoever answers: the other players are attacked one after the other, from
the left of the attacker on, and each is passed by who is immune when it is this player's turn. It is the
same with an attack that other cards have provoked. -/
theorem attack_goes_round (step : Effect) (ctx : EffectContext) {g : Game M}
    (hseat : ctx.player.seat < g.state.players.length) :
    let n := g.state.players.length
    let targets : List PlayerId :=
      (List.range' 1 (n - 1)).map fun k => ⟨(ctx.player.seat + k) % n⟩
    targets.Nodup ∧ (∀ id, id ∈ targets ↔ id.seat < n ∧ id ≠ ctx.player) ∧
      (∀ g', (execute (.attack step) ctx).runOn g = (.ok (), g') ↔
        Round (Attacked ctx.card fun target => execute step (ctx.forPlayer target)) targets g g') ∧
      (∀ depth g', (executeWithin (depth + 1) (.attack step) ctx).runOn g = (.ok (), g') ↔
        Round (Attacked ctx.card fun target => executeWithin (depth + 1) step (ctx.forPlayer target))
          targets g g') ∧
      ((∀ target ∈ targets, g.state.Immune target) →
        ∃ events logger, (execute (.attack step) ctx).runOn g =
          (.ok (), ⟨{ g.state with events, logger }, g.memory⟩)) := by
  intro n targets
  have htargets : targets = g.state.opponentsOf ctx.player :=
    (g.state.opponentsOf_eq ctx.player).symm
  rw [htargets]
  refine ⟨g.state.nodup_opponentsOf _, fun id => GameState.mem_opponentsOf hseat,
    fun g' => runOn_attack, fun depth g' => runOn_attackWithin, fun himmune => ?_⟩
  obtain ⟨events, logger, hround⟩ := round_of_immune himmune
  exact ⟨events, logger, runOn_attack.mpr hround⟩

/-- Three players: the first has a Moat in hand, and the second plays an attack. -/
def moatTable : Game Table where
  state :=
    { cards := ((({} : Store Card).add { definition := Catalog.moat }).2.add
        { definition := Catalog.witch }).2
      players :=
        [{ id := ⟨0⟩, name := "Ann", zones := { hand := [⟨0⟩] } },
          { id := ⟨1⟩, name := "Ben", zones := { inPlay := [⟨1⟩] } },
          { id := ⟨2⟩, name := "Cid" }]
      supply := { piles := [], baseCount := 0 }
      active := 1
      rng := default }
  memory := Table.ofMinds [.random, .random, .random]

/-- First the third player is struck, then the first one shows the Moat. -/
theorem attack_goes_round_from_second :
    ∃ g', (execute (.attack (.gainMoney 1)) ⟨⟨1⟩, ⟨1⟩⟩).runOn moatTable = (.ok (), g') ∧
      Round (Attacked ⟨1⟩ fun target => execute (.gainMoney 1) ⟨⟨1⟩, target⟩) [⟨2⟩, ⟨0⟩]
        moatTable g' ∧
      g'.state.told.map Prod.snd = [.revealCards [⟨0⟩] ["Moat"], .attackBlocked "Witch"] := by
  have hends : ((execute (.attack (.gainMoney 1)) ⟨⟨1⟩, ⟨1⟩⟩).runOn moatTable).1 = .ok () := by
    decide +kernel
  have htold : ((execute (.attack (.gainMoney 1)) ⟨⟨1⟩, ⟨1⟩⟩).runOn moatTable).2.state.told.map
      Prod.snd = [.revealCards [⟨0⟩] ["Moat"], .attackBlocked "Witch"] := by
    decide +kernel
  have hran := runOn_eq_of_ok hends
  have hseat : 1 < moatTable.state.players.length := by decide
  obtain ⟨-, -, hround, -, -⟩ := attack_goes_round (.gainMoney 1) ⟨⟨1⟩, ⟨1⟩⟩ hseat
  exact ⟨_, hran, (hround _).mp hran, htold⟩

end Engine

end DeckBuilder
