import DeckBuilder.Proofs.GainFrame
import DeckBuilder.Proofs.Replenishing

/-!
Handing out a pile that may run out. An attack by which everybody gains a card gives one to each of the
others who is not immune, from the left of the attacker on, until the pile is empty, and nobody gains
anything else. What becomes of the cards that were gained changes nothing of this, since no Watchtower
moves a card of a hand or one that is set aside.
-/
namespace DeckBuilder

/-! ### A pile from its top -/

/-- The cards of a pile, the top one first; none if there is no such pile. -/
def Supply.fromTop (s : Supply) (pile : String) : List CardId :=
  ((s.pile? pile).map (·.cards.reverse)).getD []

namespace Supply

theorem count_eq_length_fromTop (s : Supply) (pile : String) :
    s.count pile = (s.fromTop pile).length := by
  rw [count, fromTop]
  cases s.pile? pile with
  | none => rfl
  | some q => exact (List.length_reverse).symm

theorem fromTop_of_top {s : Supply} {pile : String} {q : Pile} {card : CardId}
    (hpile : s.pile? pile = some q) (htop : q.top? = some card) :
    s.fromTop pile = card :: q.cards.dropLast.reverse := by
  have hcards : q.cards = q.cards.dropLast ++ [card] := by
    rw [List.dropLast_append_getLast? _ htop]
  rw [fromTop, hpile, Option.map_some, Option.getD_some]
  conv_lhs => rw [hcards]
  rw [List.reverse_append]
  rfl

theorem find?_modify_pop (piles : List Pile) (pile name : String) :
    (piles.modify (piles.findIdx (·.name == pile)) Pile.pop).find? (·.name == name) =
      if name = pile then (piles.find? (·.name == name)).map Pile.pop
      else piles.find? (·.name == name) := by
  induction piles with
  | nil => simp
  | cons q rest ih =>
    have hpop : q.pop.name = q.name := rfl
    by_cases hq : q.name = pile
    · rw [List.findIdx_cons, beq_iff_eq.mpr hq, cond_true, List.modify_zero_cons, List.find?_cons,
        List.find?_cons, hpop]
      by_cases hname : name = pile
      · rw [if_pos hname, beq_iff_eq.mpr (hq.trans hname.symm)]
        rfl
      · have hother : q.name ≠ name := fun heq => hname (heq.symm.trans hq)
        rw [if_neg hname, beq_eq_false_iff_ne.mpr hother]
    · rw [List.findIdx_cons, beq_eq_false_iff_ne.mpr hq, cond_false, List.modify_succ_cons,
        List.find?_cons, List.find?_cons, ih]
      cases hfound : q.name == name with
      | false => rfl
      | true =>
        exact (if_neg fun heq => hq ((beq_iff_eq.mp hfound).trans heq)).symm

/-- Taking the top card leaves the others of the pile, and the other piles. -/
theorem fromTop_pop (s : Supply) (pile name : String) :
    (s.updatePile pile Pile.pop).fromTop name =
      if name = pile then (s.fromTop name).drop 1 else s.fromTop name := by
  rw [fromTop, pile?, updatePile, find?_modify_pop]
  by_cases hname : name = pile
  · rw [if_pos hname, if_pos hname, fromTop, pile?]
    cases s.piles.find? (·.name == name) with
    | none => rfl
    | some q => simp [Pile.pop]
  · rw [if_neg hname, if_neg hname]
    rfl

end Supply

/-- The cards of a pile have its name. -/
theorem GameState.Filed.named {s : GameState} (hs : s.Filed) {pile : String} {card : CardId}
    (hcard : card ∈ s.supply.fromTop pile) :
    ∃ c, s.card? card = some c ∧ c.definition.name = pile := by
  rw [Supply.fromTop] at hcard
  cases hpile : s.supply.pile? pile with
  | none => simp [hpile] at hcard
  | some q =>
    rw [hpile, Option.map_some, Option.getD_some, List.mem_reverse] at hcard
    obtain ⟨c, hc, hdefinition⟩ := hs.piles q (List.mem_of_find?_eq_some hpile) card hcard
    have hname := List.find?_some hpile
    rw [Pile.name, ← hdefinition] at hname
    exact ⟨c, hc, beq_iff_eq.mp hname⟩

/-! ### Handing out -/

theorem zipWith_append_drop {α β γ : Type} (f : α → β → γ) (xs ys : List α) (zs : List β) :
    List.zipWith f (xs ++ ys) zs =
      List.zipWith f xs zs ++ List.zipWith f ys (zs.drop xs.length) := by
  induction xs generalizing zs with
  | nil => rfl
  | cons x xs ih =>
    cases zs with
    | nil => simp
    | cons z zs => exact congrArg (f x z :: ·) (ih zs)

/-- The gain of a card that was not bought. -/
def gainOf (pile : String) (id : PlayerId) (card : CardId) : PlayerId × EventKind :=
  (id, .gainCard card pile false .discard)

/-- The first cards of the pile have gone to these players, one each and in their order, as far as the
pile went; and nothing else was gained. -/
structure HandedOut (pile : String) (ids : List PlayerId) (s s' : GameState) : Prop
    extends Beside s s' where
  gains : s'.gains = s.gains ++ List.zipWith (gainOf pile) ids (s.supply.fromTop pile)
  supply : ∀ name, s'.supply.fromTop name =
    if name = pile then (s.supply.fromTop name).drop ids.length else s.supply.fromTop name

namespace HandedOut

variable {pile : String} {ids ids' : List PlayerId} {s s' s'' : GameState}

theorem of_ungained (h : Ungained s s') : HandedOut pile [] s s' where
  toBeside := h.toBeside
  gains := by rw [h.gains, List.zipWith_nil_left, List.append_nil]
  supply name := by rw [h.supply, List.length_nil, List.drop_zero, ite_self]

theorem trans (h : HandedOut pile ids s s') (h' : HandedOut pile ids' s' s'') :
    HandedOut pile (ids ++ ids') s s'' where
  toBeside := h.toBeside.trans h'.toBeside
  gains := by
    rw [h'.gains, h.gains, h.supply, if_pos rfl, List.append_assoc, ← zipWith_append_drop]
  supply name := by
    rw [h'.supply, h.supply]
    by_cases hname : name = pile
    · rw [if_pos hname, if_pos hname, if_pos hname, List.drop_drop, List.length_append]
    · rw [if_neg hname, if_neg hname, if_neg hname]

/-- There was no card left to be gained. -/
theorem of_empty {id : PlayerId} (hempty : s.supply.count pile = 0) (h : Ungained s s') :
    HandedOut pile [id] s s' := by
  have hnone : s.supply.fromTop pile = [] := by
    rw [← List.length_eq_zero_iff, ← Supply.count_eq_length_fromTop, hempty]
  refine ⟨h.toBeside, ?_, fun name => ?_⟩
  · rw [h.gains, hnone, List.zipWith_nil_right, List.append_nil]
  · rw [h.supply]
    by_cases hname : name = pile
    · rw [if_pos hname, hname, hnone, List.drop_nil]
    · rw [if_neg hname]

/-- The top card was gained. -/
theorem of_gained {id : PlayerId} {p : Player} {q : Pile} {card : CardId}
    (hpile : s.supply.pile? pile = some q) (htop : q.top? = some card)
    (hp : s.player? id = some p) (h : Ungained (s.gained pile id p card false .discard) s') :
    HandedOut pile [id] s s' := by
  refine ⟨(GameState.beside_gained hpile htop hp false).trans h.toBeside, ?_, fun name => ?_⟩
  · rw [h.gains, GameState.gains_gained, Supply.fromTop_of_top hpile htop]
    rfl
  · rw [h.supply]
    exact Supply.fromTop_pop s.supply pile name

end HandedOut

namespace Catalog

open Engine

variable {M : Type} [Controllers M] {g : Game M} {depth : Nat} {pile : String} {attack : CardId}
variable {E : Halt → Game M → Prop}

/-- By the attack everybody gains a card of the pile. -/
abbrev handOut (depth : Nat) (pile : String) (attack : CardId) (target : PlayerId) : Engine M Unit :=
  executeWithin (depth + 2) (.gainCard pile .discard) ⟨attack, target⟩

/-- Who is not immune gains a card, if one is left. -/
theorem attackOne_hands (hs : g.state.Filed)
    (hinert : ∀ d ∈ Registry.allCards, d.name = pile → Inert d) {target : PlayerId}
    (htarget : target.seat < g.state.players.length) :
    Ensures (attackOne attack (handOut depth pile attack) target) g
      (fun _ g' => HandedOut pile (if g.state.Immune target then [] else [target]) g.state g'.state)
      E := by
  by_cases himmune : g.state.Immune target
  · rw [if_pos himmune]
    obtain ⟨events, logger, hattacked⟩ :=
      attacked_of_immune attack (handOut depth pile attack) himmune
    rw [Ensures, runOn_attackOne.mpr hattacked]
    exact .of_ungained (hattacked.ungained himmune)
  · rw [if_neg himmune]
    obtain ⟨p, hp⟩ := GameState.player?_of_lt htarget
    refine .of_runOn (runOn_attackOne_of_open (runOn_blocksAttack_of_open hp himmune)).symm ?_
    simp only [handOut, executeWithin, runWithin, Effect.program, interpret, perform, ensures_bind]
    refine (gainIfAvailable_ungained hs hp hinert fun h => absurd h (Nat.succ_ne_zero depth)).imp ?_
    rintro _ g' (⟨hempty, hg'⟩ | ⟨q, card, hpile, htop, hg'⟩)
    · exact .of_empty hempty hg'
    · exact .of_gained hpile htop hp hg'

/-- One after the other they are attacked; it is seen from the beginning who will be immune. -/
theorem attack_hands {targets : List PlayerId} (hs : g.state.Filed)
    (hinert : ∀ d ∈ Registry.allCards, d.name = pile → Inert d)
    (htargets : ∀ target ∈ targets, target.seat < g.state.players.length) :
    Ensures (targets.forM (attackOne attack (handOut depth pile attack))) g
      (fun _ g' => HandedOut pile (targets.filter fun t => ¬ g.state.Immune t) g.state g'.state)
      E := by
  induction targets generalizing g with
  | nil => exact .of_ungained (.refl g.state)
  | cons target rest ih =>
    change Ensures (attackOne attack (handOut depth pile attack) target >>= fun _ => rest.forM _) _ _ _
    rw [ensures_bind]
    refine (attackOne_hands hs hinert (htargets target List.mem_cons_self)).imp ?_
    intro _ g₁ hg₁
    have hlater : ∀ other ∈ rest, other.seat < g₁.state.players.length :=
      fun other hother => hg₁.kept.seated (htargets other (List.mem_cons_of_mem _ hother))
    have hsame : ∀ other, g₁.state.Immune other ↔ g.state.Immune other :=
      fun other => GameState.immune_congr hg₁.kept (congrFun hg₁.aside other)
    refine (ih (hs.beside hg₁.toBeside) hlater).imp ?_
    intro _ g₂ hg₂
    have hexposed : (target :: rest).filter (fun t => ¬ g.state.Immune t) =
        (if g.state.Immune target then [] else [target]) ++
          rest.filter fun t => ¬ g₁.state.Immune t := by
      have hrest : rest.filter (fun t => ¬ g₁.state.Immune t) =
          rest.filter fun t => ¬ g.state.Immune t :=
        List.filter_congr fun other _ => decide_eq_decide.mpr (not_congr (hsame other))
      rw [hrest, List.filter_cons]
      by_cases himmune : g.state.Immune target
      · simp [himmune]
      · simp [himmune]
    rw [hexposed]
    exact hg₁.trans hg₂

/-! ### The Witch -/

theorem curse_inert {d : CardDefinition} (hd : d ∈ Registry.allCards) (hname : d.name = "Curse") :
    Inert d := by
  have honly : Registry.allCards.filter (fun d => d.name == "Curse") =
      [{ name := "Curse", cost := 0, points := -1, types := [.curse], set := .base }] := rfl
  rw [Registry.eq_of_filter honly hd (by rw [hname]; rfl)]
  exact ⟨rfl, rfl⟩

/-- Whoever draws gains nothing, and leaves the others and the supply alone. -/
structure DrewFor (id : PlayerId) (s s' : GameState) : Prop where
  changes : Changes Hooks.catalog s s'
  others : ∀ other, other ≠ id → s'.aside? other = s.aside? other
  supply : s'.supply = s.supply
  gains : s'.gains = s.gains

theorem draw_gains_nothing (hs : g.state.OfCatalog) {id : PlayerId} {p : Player}
    (hp : g.state.player? id = some p) (n : Nat) :
    Ensures (draw id n) g (fun _ g' => DrewFor id g.state g'.state) E := by
  have hfit := Contract.fit_any (M := M) hs
  have honward := ensures_draw (E := E) hfit.steady_onward (n := n) ⟨.refl, trivial⟩
    (GameState.seat_lt_of_player? hp)
  obtain ⟨cards, s', hdraw, hdrew⟩ := GameState.exists_drew hp n
  simp only [draw, ensures_step, hdraw] at honward ⊢
  have hsupply := congrArg GameState.supply hdrew.state
  refine ⟨honward.state, fun other hother => ?_, hsupply, ?_⟩
  · rw [GameState.aside?, hdrew.player?_of_ne hother, GameState.aside?]
  · rw [GameState.gains, hdrew.told, List.filter_append, List.filter_append]
    split_ifs <;> simp [EventKind.isGain, GameState.gains]

/-- The Witch: first two cards are drawn, then the Curses are handed out. -/
theorem witch_ends (hs : g.state.Filed) {id : PlayerId} {p : Player}
    (hp : g.state.player? id = some p) (card : CardId) :
    Ensures (witch.onPlay.forM fun e => executeWithin (depth + 2) e ⟨card, id⟩) g
      (fun _ g' => ∃ s, DrewFor id g.state s ∧
        HandedOut "Curse" ((s.opponentsOf id).filter fun t => ¬ s.Immune t) s g'.state) E := by
  change Ensures (executeWithin (depth + 2) (.drawCards 2) ⟨card, id⟩ >>= fun _ =>
    executeWithin (depth + 2) (.attack (.gainCard "Curse" .discard)) ⟨card, id⟩ >>= fun _ =>
      Pure.pure ()) g _ _
  have hdraws : Ensures (executeWithin (depth + 2) (.drawCards 2) ⟨card, id⟩) g
      (fun _ g' => DrewFor id g.state g'.state) E := by
    simp only [executeWithin, runWithin, Effect.program, interpret, perform, ensures_bind]
    exact draw_gains_nothing hs.toOfCatalog hp 2
  rw [ensures_bind, bind_pure_unit]
  refine hdraws.imp ?_
  intro _ g₁ hg₁
  have hs₁ := hs.changes hg₁.changes (hg₁.changes.ofCatalog hs.toOfCatalog)
  rw [executeWithin_attack, ensures_bind, ensures_state]
  refine (attack_hands hs₁ (fun _ => curse_inert) (Settles.opponents_seated hs₁.sound id)).imp ?_
  exact fun _ g' hg' => ⟨g₁.state, hg₁, hg'⟩

/-- The Witch, whatever the gains provoke and whoever answers. -/
theorem witch_hands_out {config : GameConfig} {s₀ : GameState} {g : Game M}
    (hinit : initGame Registry.catalog config = .ok s₀) (hg : g.Reachable s₀)
    {provoke : Program → Engine M Bool} (hprovoke : ProvokesAt (depth + 2) g provoke)
    {card : CardId} {c : Card} (hc : g.state.card? card = some c) (hwitch : c.definition = witch)
    {id : PlayerId} {p : Player} (hp : g.state.player? id = some p) :
    let n := g.state.players.length
    let others : List PlayerId := (List.range' 1 (n - 1)).map fun k => ⟨(id.seat + k) % n⟩
    let exposed := others.filter fun t => ¬ g.state.Immune t
    let curses := g.state.supply.fromTop "Curse"
    (∀ curse ∈ curses, ∃ c, g.state.card? curse = some c ∧ c.definition.name = "Curse") ∧
    ∃ g', (resolve provoke card id).runOn g = (.ok (), g') ∧
      g'.state.gains = g.state.gains ++ List.zipWith
        (fun t curse => (t, .gainCard curse "Curse" false .discard)) exposed curses ∧
      g'.state.supply.count "Curse" = curses.length - min curses.length exposed.length ∧
      ∀ pile, pile ≠ "Curse" → g'.state.supply.fromTop pile = g.state.supply.fromTop pile := by
  intro n others exposed curses
  have hfiled := hg.filed hinit
  refine ⟨fun curse hcurse => hfiled.named hcurse, ?_⟩
  obtain ⟨_, g', hran, s, hdrew, hhanded⟩ :=
    (Ensures.of_runOn (hprovoke.resolve hc id).symm
      (hwitch ▸ witch_ends (E := fun _ _ => False) hfiled hp card)).total
  have hothers : s.opponentsOf id = others := by
    rw [GameState.opponentsOf_eq, hdrew.changes.kept.seats]
  have hexposed : others.filter (fun t => ¬ s.Immune t) = exposed := by
    refine List.filter_congr fun other hother => decide_eq_decide.mpr (not_congr ?_)
    have hmem : other ∈ g.state.opponentsOf id := by
      rw [GameState.opponentsOf_eq]
      exact hother
    have hne := ((GameState.mem_opponentsOf (GameState.seat_lt_of_player? hp)).mp hmem).2
    exact GameState.immune_congr hdrew.changes.kept (hdrew.others other hne)
  rw [hothers, hexposed] at hhanded
  refine ⟨g', hran, ?_, ?_, fun pile hpile => ?_⟩
  · rw [hhanded.gains, hdrew.gains, hdrew.supply]
    rfl
  · have hcurses : g.state.supply.fromTop "Curse" = curses := rfl
    rw [Supply.count_eq_length_fromTop, hhanded.supply, if_pos rfl, hdrew.supply, List.length_drop,
      hcurses]
    omega
  · rw [hhanded.supply, if_neg hpile, hdrew.supply]

set_option maxRecDepth 100000 in
/-- The first of two players has a Witch from the supply carried out at once. -/
theorem witch_hands_out_at_opening :
    ∃ s₀ g', initGame Registry.catalog
        { players := ["Player 1", "Player 2"], kingdom := .preset "interaction" } = .ok s₀ ∧
      (resolve run ⟨170⟩ ⟨0⟩).runOn ⟨s₀, Table.ofMinds [.random, .random]⟩ = (.ok (), g') ∧
      let exposed := [⟨1⟩].filter fun t => ¬ s₀.Immune t
      g'.state.gains = s₀.gains ++ List.zipWith
        (fun t curse => (t, .gainCard curse "Curse" false .discard)) exposed
          (s₀.supply.fromTop "Curse") ∧
      g'.state.supply.count "Curse" = s₀.supply.count "Curse" -
        min (s₀.supply.count "Curse") exposed.length := by
  have hsets : (initGame Registry.catalog
      { players := ["Player 1", "Player 2"], kingdom := .preset "interaction" }).toOption.any
      fun s => (s.card? ⟨170⟩).any (·.definition.name == "Witch") := by
    decide +kernel
  obtain ⟨s₀, hinit, hcard⟩ := exists_ok_of_any hsets
  obtain ⟨c, hc, hname⟩ := (Option.any_eq_true _ _).mp hcard
  have hopened := initGame_opened hinit
  have hwitch : c.definition = witch :=
    Registry.eq_of_filter (p := fun d => d.name == "Witch") rfl
      (hopened.ofCatalog.registered _ c hc) hname
  have hseats : s₀.players.length = 2 := hopened.seats
  obtain ⟨p, hp⟩ : ∃ p, s₀.player? ⟨0⟩ = some p :=
    GameState.player?_of_lt (by rw [hseats]; decide)
  have hprovoke : ProvokesAt (16 * s₀.cards.size + 254 + 2)
      (⟨s₀, Table.ofMinds [.random, .random]⟩ : Game Table) run := run_provokesAt _
  obtain ⟨-, g', hran, hgains, hcount, -⟩ :=
    witch_hands_out hinit (.opening _) hprovoke hc hwitch hp
  simp only [hseats] at hgains hcount
  rw [← Supply.count_eq_length_fromTop] at hcount
  exact ⟨s₀, g', hinit, hran, hgains, hcount⟩

end Catalog

end DeckBuilder
