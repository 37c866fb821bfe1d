import DeckBuilder.Proofs.Effects

/-!
What the cards of the catalog lead to when they are played. Cards in hand can be discarded and trashed
quietly, and a card that is played from the hand is spent. Only a Throne Room has another card carried
out, and it has spent that card before. So a depth above the stamina of the state is enough for any
card, by induction on it.
-/
namespace DeckBuilder.Catalog

open Engine Script.Leads

/-! ### Cards at hand -/

section

variable {s s' : GameState} {id : PlayerId} {p : Player}

/-- Cards of the game that are not spent. -/
def AtHand (s : GameState) (id : PlayerId) (cards : List CardId) : Prop :=
  ∀ card ∈ cards, s.Unspent id card ∧ ∃ c, s.card? card = some c

theorem AtHand.quiet {H : Hooks} {cards : List CardId} (h : AtHand s id cards)
    (h' : Quiet H s s') : AtHand s' id cards := by
  intro card hcard
  obtain ⟨hu, c, hc⟩ := h card hcard
  obtain ⟨c', hc', -⟩ := h'.changes.kept.carded hc
  exact ⟨h'.unspent _ _ hu, c', hc'⟩

theorem AtHand.mono {cards cards' : List CardId} (h : AtHand s id cards)
    (hsub : ∀ card ∈ cards', card ∈ cards) : AtHand s id cards' :=
  fun card hcard => h card (hsub card hcard)

theorem atHand_row (hs : s.OfCatalog) (hp : s.player? id = some p) {zone : Zone}
    (hz : zone.Loose = true) : AtHand s id (p.zones.row zone) :=
  fun _ hcard => ⟨hs.sound.unspent_of_mem hp hz hcard, hs.card_of_mem_row hp hcard⟩

theorem atHand_hand (hs : s.OfCatalog) (hp : s.player? id = some p) : AtHand s id p.hand :=
  atHand_row hs hp (show Zone.Loose .hand = true from rfl)

theorem nodup_hand (hs : s.Sound) (hp : s.player? id = some p) : p.hand.Nodup := by
  have hnodup := hs.nodup_allCards hp
  rw [PlayerZones.allCards, PlayerZones.inOrder, List.cons_append, List.flatMap_cons] at hnodup
  exact (List.nodup_append.mp hnodup).1

end

variable {M : Type} [Controllers M] {C : Contract M} {g g' : Game M} {depth : Nat}
variable {d : CardDefinition} {ctx : EffectContext} {id : PlayerId} {card : CardId}

/-! ### Playing -/

/-- What the Merchant has hung on its player. -/
theorem payForSilver_ends (h : C.Fit g) (hid : id.seat < g.state.players.length) :
    Ensures (runWithin (depth + 1) (payForSilver id card)) g (fun _ => C.Quietly g) C.halts := by
  refine keeping (bind (look (ite (fun _ => ?_) fun _ => pure h.quietly_refl)))
  refine callBind ((ensures_credit h.steady_quietly.toFirm h.quietly_refl hid).imp ?_)
  intro _ g' hg'
  exact pure hg'

theorem calmly_play {provoke : Program → Engine M Bool} {c : Card}
    (hprovoke : ProvokesAt (depth + 1) g provoke) (h : C.Fit g)
    (hid : id.seat < g.state.players.length) (hc : g.state.card? card = some c) :
    Ensures (play provoke card id) g (fun _ => C.Calmly g) C.halts := by
  obtain ⟨p, hp⟩ := GameState.player?_of_lt hid
  refine ensures_play h.steady_calmly.toFirm hc hp (fun _ => h.calmly_refl) ?_ ?_
  · intro zone tableau hremove
    exact ⟨(calm_play h.state.sound hp c.definition hremove).1, h.memory⟩
  · rintro t rfl g' hg'
    refine hprovoke.ensures hg'.kept ?_
    refine (payForSilver_ends (h.calmly hg') (hg'.kept.seated hid)).imp ?_
    intro _ g'' hg''
    exact hg'.trans hg''.calmly

theorem remove?_of_mem_hand {p : Player} (hcard : card ∈ p.hand) :
    ∃ tableau, p.toTableau.remove? card = some (.hand, tableau) := by
  have hloc : p.zones.locate card = some .hand := by
    have hmem : card ∈ p.zones.hand := hcard
    simp [PlayerZones.locate, PlayerZones.inOrder, hmem]
  simp only [Tableau.remove?, PlayerZones.remove?, hloc, Option.map_some]
  exact ⟨_, rfl⟩

/-- A card that is played from the hand costs stamina. -/
theorem play_spends {provoke : Program → Engine M Bool} {p : Player}
    (hprovoke : ProvokesAt (depth + 1) g provoke) (h : C.Fit g)
    (hp : g.state.player? id = some p) (hcard : card ∈ p.hand) :
    Ensures (play provoke card id) g
      (fun _ g' => C.Calmly g g' ∧ g'.state.stamina < g.state.stamina) C.halts := by
  have hid := GameState.seat_lt_of_player? hp
  obtain ⟨-, c, hc⟩ := atHand_hand h.state hp card hcard
  obtain ⟨taken, htaken⟩ := remove?_of_mem_hand hcard
  have hsteady : Steady Hooks.catalog g.state
      fun g' : Game M => C.Calmly g g' ∧ g'.state.stamina < g.state.stamina := by
    refine h.steady (fun _ h' => h'.1.state.changes) ?_
    rintro g' s' ⟨hg', hless⟩ hq
    exact ⟨⟨hg'.state.trans hq.toCalm, hg'.memory⟩, Nat.lt_of_le_of_lt hq.stamina hless⟩
  refine ensures_play hsteady.toFirm hc hp ?_ ?_ ?_
  · intro hnone
    rw [htaken] at hnone
    simp at hnone
  · intro zone tableau hremove
    obtain ⟨hcalm, hstamina⟩ :=
      calm_play (H := Hooks.catalog) h.state.sound hp c.definition hremove
    obtain ⟨rfl, rfl⟩ := Prod.mk.inj (Option.some.inj (htaken.symm.trans hremove))
    exact ⟨⟨hcalm, h.memory⟩, Nat.lt_of_succ_le (Nat.le_of_eq hstamina)⟩
  · rintro t rfl g' ⟨hg', hless⟩
    refine hprovoke.ensures hg'.kept ?_
    refine (payForSilver_ends (h.calmly hg') (hg'.kept.seated hid)).imp ?_
    intro _ g'' hg''
    exact ⟨hg'.trans hg''.calmly, Nat.lt_of_le_of_lt hg''.state.stamina hless⟩

/-- Cards can be carried out at a state with less stamina than the depth. -/
def ResolvesEnd (C : Contract M) (depth : Nat) : Prop :=
  ∀ (g : Game M) (card : CardId) (id : PlayerId) (c : Card), C.Fit g →
    id.seat < g.state.players.length → g.state.card? card = some c → g.state.stamina < depth →
      Ensures (resolve (runWithin (depth + 2)) card id) g (fun _ => C.Calmly g) C.halts

/-! ### What the cards do -/

theorem discardAndRedraw_settles : Settles C depth d discardAndRedraw := by
  refine Settles.quietly fun ctx g hready => ?_
  obtain ⟨p, hp⟩ := GameState.player?_of_lt hready.seat
  have hhand := atHand_hand hready.fit.state hp
  refine bind (hand hp (callBind ((ensures_chooseCards hready.fit hready.seat
    (nodup_hand hready.fit.state.sound hp) (Nat.zero_le _)).imp ?_)))
  rintro chosen g₁ ⟨⟨hg₁, -⟩, hchosen⟩
  have hheld := hhand.mono hchosen
  refine bind ((filterM hg₁ ?_).imp ?_)
  · intro card hcard g₂ hg₂
    have hready₂ := hready.calmly hg₂.calmly
    refine (call (quietly_discard hready₂.fit hready₂.seat
      (hheld.quiet hg₂.state card hcard).1 hready₂.depth)).imp ?_
    intro _ g₃ hg₃
    exact hg₂.trans hg₃
  · rintro discarded g₂ ⟨hg₂, -⟩
    have hready₂ := hready.calmly hg₂.calmly
    refine callBind ((ensures_draw hready₂.fit.steady_quietly hready₂.fit.quietly_refl
      hready₂.seat).imp ?_)
    intro _ g₃ hg₃
    exact pure (hg₂.trans hg₃)

theorem trashUpToFour_settles : Settles C depth d trashUpToFour := by
  refine Settles.quietly fun ctx g hready => ?_
  obtain ⟨p, hp⟩ := GameState.player?_of_lt hready.seat
  have hhand := atHand_hand hready.fit.state hp
  refine bind (hand hp (callBind ((ensures_chooseCards hready.fit hready.seat
    (nodup_hand hready.fit.state.sound hp) (Nat.zero_le _)).imp ?_)))
  rintro chosen g₁ ⟨⟨hg₁, -⟩, hchosen⟩
  have hheld := hhand.mono hchosen
  refine forM hg₁ fun card hcard g₂ hg₂ => ?_
  have hready₂ := hready.calmly hg₂.calmly
  obtain ⟨hu, c, hc⟩ := hheld.quiet hg₂.state card hcard
  refine callBind ((quietly_trash hready₂.fit hready₂.seat hc (Or.inl hu)).imp ?_)
  intro _ g₃ hg₃
  exact pure (hg₂.trans hg₃)

theorem toNativeVillage_settles : Settles C depth d toNativeVillage := by
  refine Settles.quietly fun ctx g hready => ?_
  refine callBind ((quietly_topCards hready.fit hready.seat).imp ?_)
  rintro cards g₁ ⟨hg₁, hcards⟩
  cases hhead : cards.head? with
  | none => exact pure hg₁
  | some card =>
    have hready₁ := hready.calmly hg₁.calmly
    refine callBind ((quietly_move hready₁.fit hready₁.seat
      (hcards card (List.mem_of_mem_head? hhead)) rfl).imp ?_)
    intro _ g₂ hg₂
    exact pure (hg₁.trans hg₂)

theorem fromNativeVillage_settles : Settles C depth d fromNativeVillage := by
  refine Settles.quietly fun ctx g hready => ?_
  obtain ⟨p, hp⟩ := GameState.player?_of_lt hready.seat
  have hmat := atHand_row hready.fit.state hp (show nativeVillageMat.Loose = true from rfl)
  refine bind (tableau hp ?_)
  refine forM hready.fit.quietly_refl fun card hcard g₁ hg₁ => ?_
  have hready₁ := hready.calmly hg₁.calmly
  refine callBind ((quietly_move hready₁.fit hready₁.seat
    (hmat.quiet hg₁.state card hcard).1 rfl).imp ?_)
  intro _ g₂ hg₂
  exact pure (hg₁.trans hg₂)

/-- A card hangs a program of the catalog on itself. -/
theorem addDuration_leads {callback : EffectContext → Program} (hready : Ready C depth d ctx g)
    (hcallback : Hooks.catalog.duration callback) :
    (Script.addDuration ctx.card callback).Leads (perform (runWithin (depth + 1))) g
      (fun _ => C.Quietly g) C.halts := by
  obtain ⟨c, hc, -⟩ := hready.card
  exact Script.Leads.addDuration
    (ensures_addDuration hready.fit.steady_quietly.toFirm hready.fit.quietly_refl hc hcallback)

theorem standWatch_settles : Settles C depth d standWatch := by
  intro ctx g hready
  refine callBind ((calmly_move hready.fit hready.seat rfl rfl).imp ?_)
  intro _ g₁ hg₁
  refine (addDuration_leads (hready.calmly hg₁) (Or.inl rfl)).imp ?_
  intro _ g₂ hg₂
  exact hg₁.trans hg₂.calmly

theorem nextTurn_settles (label : String) {effects : List Effect}
    (h : ∀ effect ∈ effects, effect.Plain) : Settles C depth d (nextTurn label effects).step :=
  Settles.scripted (Settles.quietly fun _ _ hready =>
    addDuration_leads hready (Or.inr ⟨effects, h, rfl⟩))

theorem silverBonus_settles : Settles C depth d silverBonus := by
  refine Settles.quietly fun ctx g hready => ?_
  exact addPlayTrigger (ensures_addPlayTrigger hready.fit.steady_quietly.toFirm
    hready.fit.quietly_refl hready.seat rfl)

theorem sealGains_settles : Settles C depth d sealGains := by
  refine Settles.quietly fun ctx g hready => ?_
  exact addGainTrigger (ensures_addGainTrigger hready.fit.steady_quietly.toFirm
    hready.fit.quietly_refl hready.seat ⟨ctx.card, rfl⟩)

theorem gainCostingUpTo_settles (maxCost : Nat) :
    Settles C depth d fun ctx => gainCostingUpTo ctx maxCost :=
  Settles.quietly fun _ _ hready => gainCostingUpTo_leads (gainsEnd C (depth + 1)) maxCost
    hready.fit hready.seat (Nat.lt_succ_of_lt hready.depth)

theorem drawToSix_settles (n : Nat) : Settles C depth d fun ctx => drawToSix ctx n := by
  induction n with
  | zero => exact fun _ _ hready => pure hready.fit.calmly_refl
  | succ n ih =>
    intro ctx g hready
    obtain ⟨p, hp⟩ := GameState.player?_of_lt hready.seat
    refine bind (hand hp (ite (fun _ => ?_) fun _ => pure hready.fit.calmly_refl))
    refine callBind ((ensures_draw hready.fit.steady_quietly hready.fit.quietly_refl
      hready.seat).imp ?_)
    intro cards g₁ hg₁
    refine ite (fun _ => pure hg₁.calmly) fun _ => ?_
    exact (ih ctx g₁ (hready.calmly hg₁.calmly)).imp fun _ _ hg₂ => hg₁.calmly.trans hg₂

theorem discardToThree_settles : Settles C depth d discardToThree := by
  refine Settles.quietly fun ctx g hready => ?_
  obtain ⟨p, hp⟩ := GameState.player?_of_lt hready.seat
  have hhand := atHand_hand hready.fit.state hp
  refine bind (hand hp (ite (fun _ => ?_) fun _ => pure hready.fit.quietly_refl))
  refine callBind ((ensures_chooseCards hready.fit hready.seat
    (nodup_hand hready.fit.state.sound hp) (Nat.le_refl _)).imp ?_)
  rintro chosen g₁ ⟨⟨hg₁, -⟩, hchosen⟩
  have hheld := hhand.mono hchosen
  refine forM hg₁ fun card hcard g₂ hg₂ => ?_
  have hready₂ := hready.calmly hg₂.calmly
  refine callBind ((quietly_discard hready₂.fit hready₂.seat
    (hheld.quiet hg₂.state card hcard).1 hready₂.depth).imp ?_)
  intro _ g₃ hg₃
  exact pure (hg₂.trans hg₃)

/-- Cards are picked out of the hand. -/
theorem handWhere_leads {pred : CardFace → Bool} {Q : List CardId → Game M → Prop}
    {handler : (c : Call) → Engine M c.Answer} {p : Player} (h : C.Fit g)
    (hp : g.state.player? id = some p) (hQ : ∀ cards, cards.Sublist p.hand → Q cards g) :
    (Script.handWhere id pred).Leads handler g Q C.halts :=
  handWhere hp (fun card hcard => (atHand_hand h.state hp card hcard).2) hQ

/-- One card is chosen out of some of those in hand. -/
theorem chooseCard_leads {prompt : String} {cards : List CardId} {source : Option CardId}
    {provoke : Program → Engine M Bool} {p : Player} (h : C.Fit g)
    (hp : g.state.player? id = some p) (hcards : cards.Sublist p.hand) :
    (Script.chooseCard id prompt cards source).Leads (perform provoke) g
      (fun chosen g' => C.Quietly g g' ∧ ∀ card ∈ chosen, AtHand g'.state id [card]) C.halts := by
  refine callBind ((ensures_chooseCards h (GameState.seat_lt_of_player? hp)
    (hcards.nodup (nodup_hand h.state.sound hp)) (Nat.le_refl _)).imp ?_)
  rintro chosen g₁ ⟨⟨hg₁, -⟩, hchosen⟩
  refine pure ⟨hg₁, fun card hcard => AtHand.quiet ?_ hg₁.state⟩
  refine (atHand_hand h.state hp).mono fun c hc => ?_
  obtain rfl := List.mem_singleton.mp hc
  exact hcards.mem (hchosen c (List.mem_of_mem_head? hcard))

theorem lend_settles : Settles C depth d lend := by
  refine Settles.quietly fun ctx g hready => ?_
  obtain ⟨p, hp⟩ := GameState.player?_of_lt hready.seat
  refine bind (handWhere_leads hready.fit hp fun coppers hcoppers => ?_)
  cases hhead : coppers.head? with
  | none => exact pure hready.fit.quietly_refl
  | some copper =>
    have hcopper := (atHand_hand hready.fit.state hp).mono fun _ hc => hcoppers.mem hc
    refine callBind ((ensures_chooseBoolean hready.fit hready.seat).imp ?_)
    rintro answer g₁ ⟨hg₁, -⟩
    refine ite (fun _ => ?_) fun _ => pure hg₁
    have hready₁ := hready.calmly hg₁.calmly
    obtain ⟨hu, c, hc⟩ := hcopper.quiet hg₁.state copper (List.mem_of_mem_head? hhead)
    refine callBind ((quietly_trash hready₁.fit hready₁.seat hc (Or.inl hu)).imp ?_)
    intro trashed g₂ hg₂
    refine ite (fun _ => ?_) fun _ => pure (hg₁.trans hg₂)
    have hready₂ := hready₁.calmly hg₂.calmly
    refine (call (ensures_credit hready₂.fit.steady_quietly.toFirm hready₂.fit.quietly_refl
      hready₂.seat)).imp ?_
    intro _ g₃ hg₃
    exact (hg₁.trans hg₂).trans hg₃

theorem exchange_settles : Settles C depth d exchange := by
  refine Settles.quietly fun ctx g hready => ?_
  obtain ⟨p, hp⟩ := GameState.player?_of_lt hready.seat
  refine bind (hand hp (bind ((chooseCard_leads hready.fit hp (List.Sublist.refl _)).imp ?_)))
  rintro chosen g₁ ⟨hg₁, hchosen⟩
  cases chosen with
  | none => exact pure hg₁
  | some card =>
    obtain ⟨hu, c, hc⟩ := hchosen card rfl card List.mem_cons_self
    have hready₁ := hready.calmly hg₁.calmly
    refine callBind (ensures_costOf hc (callBind ((quietly_trash hready₁.fit hready₁.seat hc
      (Or.inl hu)).imp ?_)))
    intro _ g₂ hg₂
    have hready₂ := hready₁.calmly hg₂.calmly
    refine (gainCostingUpTo_leads (gainsEnd C (depth + 1)) _ hready₂.fit hready₂.seat
      (Nat.lt_succ_of_lt hready₂.depth)).imp ?_
    intro _ g₃ hg₃
    exact (hg₁.trans hg₂).trans hg₃

theorem cheaper_settles (modifier : CardFace → Int) :
    Settles C depth d fun _ => Script.call (.addCostModifier modifier) :=
  Settles.quietly fun _ _ hready =>
    call (ensures_addCostModifier hready.fit.steady_quietly.toFirm hready.fit.quietly_refl)

theorem conspire_settles : Settles C depth d conspire := by
  intro ctx g hready
  refine bind (look (ite (fun _ => ?_) fun _ => pure hready.fit.calmly_refl))
  refine Settles.plainAll ?_ ctx g hready
  intro effect heffect
  rcases List.mem_cons.mp heffect with rfl | heffect
  · trivial
  · obtain rfl := List.mem_singleton.mp heffect
    trivial

/-- The Feast goes to the trash for good. -/
theorem consume_settles (hd : d.onTrash = []) : Settles C depth d consume := by
  refine Settles.quietly fun ctx g hready => ?_
  obtain ⟨c, hc, hdef⟩ := hready.card
  have hreturns : g.state.returns ctx.card = false := by
    rw [GameState.returns_eq hc, hdef, hd]
    rfl
  refine callBind ((quietly_trash hready.fit hready.seat hc (Or.inr hreturns)).imp ?_)
  intro _ g₁ hg₁
  have hready₁ := hready.calmly hg₁.calmly
  refine (gainCostingUpTo_leads (gainsEnd C (depth + 1)) 5 hready₁.fit hready₁.seat
    (Nat.lt_succ_of_lt hready₁.depth)).imp ?_
  intro _ g₂ hg₂
  exact hg₁.trans hg₂

theorem toIsland_settles : Settles C depth d toIsland := by
  intro ctx g hready
  obtain ⟨p, hp⟩ := GameState.player?_of_lt hready.seat
  refine bind (hand hp (bind ((chooseCard_leads hready.fit hp (List.Sublist.refl _)).imp ?_)))
  rintro chosen g₁ ⟨hg₁, -⟩
  have hready₁ := hready.calmly hg₁.calmly
  refine callBind ((calmly_move hready₁.fit hready₁.seat rfl rfl).imp ?_)
  intro _ g₂ hg₂
  cases chosen with
  | none => exact pure (hg₁.calmly.trans hg₂)
  | some card =>
    have hready₂ := hready₁.calmly hg₂
    refine callBind ((calmly_move hready₂.fit hready₂.seat rfl rfl).imp ?_)
    intro _ g₃ hg₃
    exact pure ((hg₁.calmly.trans hg₂).trans hg₃)

theorem topdeckVictory_settles : Settles C depth d topdeckVictory := by
  refine Settles.quietly fun ctx g hready => ?_
  obtain ⟨p, hp⟩ := GameState.player?_of_lt hready.seat
  refine bind (handWhere_leads hready.fit hp fun victories hvictories => ite (fun _ => ?_) fun _ => ?_)
  · exact bind (hand hp (call (ensures_reveal hready.fit.steady_quietly.toFirm
      hready.fit.quietly_refl)))
  · refine bind ((chooseCard_leads hready.fit hp hvictories).imp ?_)
    rintro chosen g₁ ⟨hg₁, hchosen⟩
    cases chosen with
    | none => exact pure hg₁
    | some card =>
      have hcard := hchosen card rfl
      have hready₁ := hready.calmly hg₁.calmly
      refine callBind ((ensures_reveal hready₁.fit.steady_quietly.toFirm
        hready₁.fit.quietly_refl).imp ?_)
      intro _ g₂ hg₂
      have hready₂ := hready₁.calmly hg₂.calmly
      refine callBind ((quietly_move hready₂.fit hready₂.seat
        (hcard.quiet hg₂.state card List.mem_cons_self).1 rfl).imp ?_)
      intro _ g₃ hg₃
      exact pure ((hg₁.trans hg₂).trans hg₃)

/-! ### Carrying out a card -/

/-- The Throne Room spends the card that it has carried out twice. -/
theorem playTwice_settles (hresolves : ResolvesEnd C depth) :
    Settles C (depth + 1) d playTwice := by
  intro ctx g hready
  obtain ⟨p, hp⟩ := GameState.player?_of_lt hready.seat
  refine bind (handWhere_leads hready.fit hp fun actions hactions => ?_)
  refine callBind ((ensures_chooseCards hready.fit hready.seat
    (hactions.nodup (nodup_hand hready.fit.state.sound hp)) (Nat.zero_le 1)).imp ?_)
  rintro chosen g₁ ⟨⟨hg₁, hstill⟩, hchosen⟩
  cases hhead : chosen.head? with
  | none => exact pure hg₁.calmly
  | some card =>
    have hready₁ := hready.calmly hg₁.calmly
    obtain ⟨p₁, hp₁, hzones⟩ := hstill.player? hp
    have hcard : card ∈ p₁.hand := by
      rw [Tableau.hand, hzones]
      exact hactions.mem (hchosen card (List.mem_of_mem_head? hhead))
    obtain ⟨-, c, hc⟩ := atHand_hand hready₁.fit.state hp₁ card hcard
    refine callBind ((play_spends (runWithin_provokesAt _ _) hready₁.fit hp₁ hcard).imp ?_)
    rintro _ g₂ ⟨hg₂, hless⟩
    have hready₂ := hready₁.calmly hg₂
    have hdepth₂ : g₂.state.stamina < depth :=
      Nat.lt_of_lt_of_le hless (Nat.le_of_lt_succ hready₁.depth)
    obtain ⟨c₂, hc₂, -⟩ := hg₂.kept.carded hc
    refine callBind ((hresolves g₂ card _ c₂ hready₂.fit hready₂.seat hc₂ hdepth₂).imp ?_)
    intro _ g₃ hg₃
    have hready₃ := hready₂.calmly hg₃
    obtain ⟨c₃, hc₃, -⟩ := hg₃.kept.carded hc₂
    refine (call (hresolves g₃ card _ c₃ hready₃.fit hready₃.seat hc₃
      (Nat.lt_of_le_of_lt hg₃.state.stamina hdepth₂))).imp ?_
    intro _ g₄ hg₄
    exact ((hg₁.calmly.trans hg₂).trans hg₃).trans hg₄

open Settles in
/-- What the kingdom cards do when they are played is settled. -/
theorem kingdomCards_settle (hresolves : ResolvesEnd C depth) :
    ∀ d ∈ kingdomCards, Settles C (depth + 1) d (Effect.steps d.onPlay) := by
  simp only [kingdomCards, List.forall_mem_cons, List.not_mem_nil, false_implies, implies_true,
    and_true]
  refine ⟨?cellar, ?chapel, ?moat, ?pawn, ?nativeVillage, ?lighthouse, ?village, ?workshop,
    ?merchant, ?fishingVillage, ?watchtower, ?tunnel, ?smithy, ?militia, ?moneylender, ?remodel,
    ?throneRoom, ?bridge, ?conspirator, ?feast, ?gardens, ?island, ?caravan, ?fortress,
    ?bureaucrat, ?market, ?laboratory, ?festival, ?councilRoom, ?witch, ?treasury, ?royalSeal,
    ?borderVillage, ?grandMarket, ?peddler⟩
  case cellar => exact cons (plain trivial) (cons (scripted discardAndRedraw_settles) nil)
  case chapel => exact cons (scripted trashUpToFour_settles) nil
  case moat => exact plainAll (by simp [moat, Effect.Plain])
  case pawn =>
    refine cons (choose (Nat.le_refl _) ?_) nil
    simp only [List.map_cons, List.map_nil, List.forall_mem_cons, List.not_mem_nil, false_implies,
      implies_true, and_true]
    exact ⟨plain trivial, plain trivial, plain trivial, plain trivial⟩
  case nativeVillage =>
    refine cons (plain trivial) (cons (choose (Nat.le_refl _) ?_) nil)
    simp only [List.forall_mem_cons, List.not_mem_nil, false_implies, implies_true, and_true]
    exact ⟨scripted toNativeVillage_settles, scripted fromNativeVillage_settles⟩
  case lighthouse =>
    exact cons (plain trivial) (cons (plain trivial) (cons (scripted standWatch_settles) nil))
  case village => exact plainAll (by simp [village, Effect.Plain])
  case workshop => exact cons (scripted (gainCostingUpTo_settles 4)) nil
  case merchant =>
    exact cons (plain trivial) (cons (plain trivial) (cons (scripted silverBonus_settles) nil))
  case fishingVillage =>
    exact cons (plain trivial) (cons (plain trivial)
      (cons (nextTurn_settles _ (by simp [Effect.Plain])) nil))
  case watchtower => exact cons (scripted (drawToSix_settles 6)) nil
  case tunnel => exact nil
  case smithy => exact plainAll (by simp [smithy, Effect.Plain])
  case militia => exact cons (plain trivial) (cons (attack (scripted discardToThree_settles)) nil)
  case moneylender => exact cons (scripted lend_settles) nil
  case remodel => exact cons (scripted exchange_settles) nil
  case throneRoom => exact cons (scripted (playTwice_settles hresolves)) nil
  case bridge =>
    exact cons (plain trivial) (cons (plain trivial) (cons (scripted (cheaper_settles _)) nil))
  case conspirator => exact cons (plain trivial) (cons (scripted conspire_settles) nil)
  case feast => exact cons (scripted (consume_settles rfl)) nil
  case gardens => exact nil
  case island => exact cons (scripted toIsland_settles) nil
  case caravan =>
    exact cons (plain trivial) (cons (plain trivial)
      (cons (nextTurn_settles _ (by simp [Effect.Plain])) nil))
  case fortress => exact plainAll (by simp [fortress, Effect.Plain])
  case bureaucrat => exact cons (gainCard _ _) (cons (attack (scripted topdeckVictory_settles)) nil)
  case market => exact plainAll (by simp [market, Effect.Plain])
  case laboratory => exact plainAll (by simp [laboratory, Effect.Plain])
  case festival => exact plainAll (by simp [festival, Effect.Plain])
  case councilRoom =>
    exact cons (plain trivial) (cons (plain trivial) (cons (eachOtherPlayer (plain trivial)) nil))
  case witch => exact cons (plain trivial) (cons (attack (gainCard _ _)) nil)
  case treasury => exact plainAll (by simp [treasury, Effect.Plain])
  case royalSeal => exact cons (scripted sealGains_settles) nil
  case borderVillage => exact plainAll (by simp [borderVillage, Effect.Plain])
  case grandMarket => exact plainAll (by simp [grandMarket, Effect.Plain])
  case peddler => exact plainAll (by simp [peddler, Effect.Plain])

/-- The base cards do nothing then. -/
theorem baseCards_settle : ∀ d ∈ baseCards, Settles C depth d (Effect.steps d.onPlay) := by
  simp only [baseCards, List.forall_mem_cons, List.not_mem_nil, false_implies, implies_true,
    and_true]
  refine ⟨?_, ?_, ?_, ?_, ?_, ?_, ?_, ?_, ?_⟩ <;> exact Settles.nil

theorem resolve_ends (hresolves : ResolvesEnd C depth) {provoke : Program → Engine M Bool}
    (hprovoke : ProvokesAt (depth + 3) g provoke) {c : Card} (h : C.Fit g)
    (hid : id.seat < g.state.players.length) (hc : g.state.card? card = some c)
    (hdepth : g.state.stamina < depth + 1) :
    Ensures (resolve provoke card id) g (fun _ => C.Calmly g) C.halts := by
  have hsettles : Settles C (depth + 1) c.definition (Effect.steps c.definition.onPlay) := by
    rcases List.mem_append.mp (h.state.registered card c hc) with hd | hd
    · exact baseCards_settle _ hd
    · exact kingdomCards_settle hresolves _ hd
  simp only [resolve, ensures_bind, ensures_definition, hc]
  refine ensures_executeAll h.calmly_refl fun _ => hprovoke.ensures (Kept.refl g.state) ?_
  exact programAll (hsettles ⟨card, id⟩ g ⟨h, hid, ⟨c, hc, rfl⟩, hdepth⟩)

/-- Any depth above the stamina is enough to carry out a card. -/
theorem resolvesEnd (C : Contract M) (depth : Nat) : ResolvesEnd C depth := by
  induction depth with
  | zero =>
    intro g card id c _ _ _ hdepth
    exact absurd hdepth (Nat.not_lt_zero _)
  | succ depth ih =>
    intro g card id c h hid hc hdepth
    exact resolve_ends ih (runWithin_provokesAt _ g) h hid hc hdepth

end DeckBuilder.Catalog
