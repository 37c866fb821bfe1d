import DeckBuilder.Proofs.ReckonedTurns
import DeckBuilder.Proofs.SetUp

/-!
The bonus for a Silver. Between plays, as many bonuses wait on the player whose turn it is as Merchants
have hung on the player since the player's last Silver of the turn; the next Silver pays them all and
leaves none, and other cards leave them waiting.
-/
namespace DeckBuilder

open Catalog Happening

namespace Registry

/-- A base treasure is known by its name. -/
theorem eq_baseTreasure {d : CardDefinition} {name : String} {cost : Int} {worth : Nat}
    (hd : d ∈ allCards) (hbase : baseTreasure name cost worth ∈ baseCards) (h : d.name = name) :
    d = baseTreasure name cost worth :=
  eq_of_name hd (List.mem_append_left _ hbase) h

end Registry

/-- The money that a card gives of itself when it is played. -/
def CardFace.income (face : CardFace) : Nat := if face.isTreasure then face.worth else 0

namespace Engine

theorem afterPlay_money {t t' : Tableau} {d : CardDefinition} {card : CardId} {zone : Zone}
    (hremove : t.remove? card = some (zone, t')) :
    (afterPlay d card t').money = t.money + d.income := by
  obtain ⟨zones, -, rfl⟩ := Tableau.remove?_eq_some hremove
  unfold afterPlay CardFace.income
  by_cases htreasure : d.isTreasure = true
  · simp only [if_pos htreasure]
    rfl
  · simp only [if_neg htreasure]
    rfl

variable {N : Type} [Controllers N] {id : PlayerId} {card : CardId} {g : Game N}

variable {provoke : Program → Engine N Bool} (hruns : Runs provoke)
include hruns

/-- What a Merchant has hung on its player pays for a Silver and goes, and stays for another card. -/
theorem runOn_payForSilver {p : Player} (hp : g.state.player? id = some p) (card : CardId) :
    (provoke (payForSilver id card)).runOn g =
      if g.state.cardName card = "Silver" then
        (.ok false, { g with state := g.state.setPlayer id (p.onTableau (·.credit 1 .money)) })
      else (.ok true, g) := by
  obtain ⟨depth, heq⟩ := hruns (payForSilver id card) g
  rw [heq, runWithin, interpret_payForSilver, runOn_bind_of_ok runOn_state]
  by_cases hsilver : g.state.cardName card = "Silver"
  · rw [if_pos hsilver, if_pos hsilver]
    refine Ensures.runOn_eq (ensures_bind.mpr (ensures_modifyPlayer.mpr ?_))
    rw [hp]
    exact ⟨rfl, rfl⟩
  · rw [if_neg hsilver, if_neg hsilver]
    rfl

/-- All the bonuses are paid for a Silver, and all stay for another card. -/
theorem runOn_bonuses {s : GameState} {p : Player} (hp : s.player? id = some p) (memory : N)
    (card : CardId) (q : Player) (k : Nat) :
    (keepers (fun trigger => provoke (trigger id card)) (List.replicate k payForSilver)).runOn
        ⟨s.setPlayer id q, memory⟩ =
      if s.cardName card = "Silver" then
        (.ok [], ⟨s.setPlayer id (q.onTableau (·.credit k .money)), memory⟩)
      else (.ok (List.replicate k payForSilver), ⟨s.setPlayer id q, memory⟩) := by
  induction k generalizing q with
  | zero => by_cases hsilver : s.cardName card = "Silver" <;> simp only [hsilver] <;> rfl
  | succ k ih =>
    have hq : (s.setPlayer id q).player? id = some q := GameState.player?_setPlayer_self q hp
    have hpaid := runOn_payForSilver (g := ⟨s.setPlayer id q, memory⟩) hruns hq card
    rw [show (s.setPlayer id q).cardName card = s.cardName card from rfl] at hpaid
    rw [List.replicate_succ, keepers]
    by_cases hsilver : s.cardName card = "Silver"
    · rw [if_pos hsilver] at hpaid ⊢
      have hrest := ih (q.onTableau (·.credit 1 .money))
      rw [if_pos hsilver] at hrest
      dsimp only at hpaid
      rw [GameState.setPlayer_setPlayer] at hpaid
      rw [runOn_bind_of_ok hpaid, runOn_bind_of_ok hrest]
      have hsum : (q.onTableau (·.credit 1 .money)).onTableau (·.credit k .money) =
          q.onTableau (·.credit (k + 1) .money) := by
        simp only [Player.onTableau, Tableau.credit, Nat.add_assoc, Nat.add_comm 1 k]
      rw [hsum]
      rfl
    · rw [if_neg hsilver] at hpaid ⊢
      have hrest := ih q
      rw [if_neg hsilver] at hrest
      rw [runOn_bind_of_ok hpaid, runOn_bind_of_ok hrest]
      rfl

omit [Controllers N] hruns in
/-- What is kept of the triggers comes before those that the player has in the end. -/
theorem runOn_firePlayTriggers {p q : Player} (hp : g.state.player? id = some p)
    {kept : List (PlayerId → CardId → Program)}
    (hkept : (keepers (fun trigger => provoke (trigger id card)) p.playTriggers).runOn
        ⟨g.state.setPlayer id { p with playTriggers := [] }, g.memory⟩ =
      (.ok kept, ⟨g.state.setPlayer id q, g.memory⟩)) :
    (firePlayTriggers provoke id card).runOn g =
      (.ok (), ⟨g.state.setPlayer id { q with playTriggers := kept ++ q.playTriggers }, g.memory⟩) := by
  refine Ensures.runOn_eq ?_
  simp only [firePlayTriggers, ensures_bind, ensures_player, ensures_modifyPlayer, hp]
  rw [Ensures, hkept]
  dsimp only
  rw [GameState.player?_setPlayer_self _ hp]
  dsimp only
  rw [GameState.setPlayer_setPlayer]
  exact ⟨trivial, rfl⟩

/-- Firing the bonuses pays them for a Silver, and is as if nothing had happened for another card. -/
theorem runOn_fireBonuses {p : Player} (hp : g.state.player? id = some p) {k : Nat}
    (hplays : p.playTriggers = List.replicate k payForSilver) (card : CardId) :
    (firePlayTriggers provoke id card).runOn g =
      if g.state.cardName card = "Silver" then
        (.ok (), ⟨g.state.setPlayer id { p.onTableau (·.credit k .money) with playTriggers := [] },
          g.memory⟩)
      else (.ok (), g) := by
  have hbonuses := runOn_bonuses hruns hp g.memory card { p with playTriggers := [] } k
  rw [← hplays] at hbonuses
  by_cases hsilver : g.state.cardName card = "Silver"
  · rw [if_pos hsilver] at hbonuses ⊢
    exact runOn_firePlayTriggers hp hbonuses
  · rw [if_neg hsilver] at hbonuses ⊢
    rw [runOn_firePlayTriggers hp hbonuses, List.append_nil, GameState.setPlayer_self hp]

/-- A card that the player holds is played while so many bonuses wait. -/
theorem play_pays {c : Card} {p : Player} {k : Nat} (hc : g.state.card? card = some c)
    (hp : g.state.player? id = some p) (hheld : g.state.canPlay id card = true)
    (hplays : p.playTriggers = List.replicate k payForSilver) :
    ∃ g' p', (play provoke card id).runOn g = (.ok (), g') ∧ g'.state.player? id = some p' ∧
      p'.money = p.money + c.definition.income + (if c.definition.name = "Silver" then k else 0) ∧
      p'.playTriggers = if c.definition.name = "Silver" then [] else p.playTriggers := by
  obtain ⟨_, _, ⟨zone, tableau⟩, hc', hp', hremove⟩ := GameState.canPlay_iff.mp hheld
  obtain rfl := Option.some.inj (hc.symm.trans hc')
  obtain rfl := Option.some.inj (hp.symm.trans hp')
  generalize hq : ({ p with toTableau := afterPlay c.definition card tableau } : Player) = q
  generalize hs : (g.state.setPlayer id q).publish id (.playCard card c.definition.name) = s
  have hmoney : q.money = p.money + c.definition.income := by
    rw [← hq]
    exact afterPlay_money hremove
  have hwaiting : q.playTriggers = p.playTriggers := by rw [← hq]
  have hqs : s.player? id = some q := by
    rw [← hs]
    exact GameState.player?_setPlayer_self q hp
  have hname : s.cardName card = c.definition.name := by
    rw [← hs]
    exact GameState.cardName_of_card? hc
  have hfire := runOn_fireBonuses (g := ⟨s, g.memory⟩) hruns hqs (hwaiting.trans hplays) card
  rw [hname] at hfire
  have hplay : Ensures (play provoke card id) g (fun _ g' => ∃ p', g'.state.player? id = some p' ∧
      p'.money = p.money + c.definition.income + (if c.definition.name = "Silver" then k else 0) ∧
      p'.playTriggers = if c.definition.name = "Silver" then [] else p.playTriggers)
      fun _ _ => False := by
    rw [ensures_play_iff hc hp hremove, hq, hs, Ensures, hfire]
    by_cases hsilver : c.definition.name = "Silver"
    · simp only [if_pos hsilver]
      exact ⟨_, GameState.player?_setPlayer_self _ hqs, congrArg (· + k) hmoney, rfl⟩
    · simp only [if_neg hsilver]
      exact ⟨q, hqs, hmoney, hwaiting⟩
  obtain ⟨_, g', hran, p', hafter⟩ := hplay.total
  exact ⟨g', p', hran, hafter⟩

end Engine

open Engine

end DeckBuilder
