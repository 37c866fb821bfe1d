import DeckBuilder.Proofs.Redirects

/-!
A gain lands once. First the gained card does what it does itself, which for a Border Village is to bring
another card; then the triggers of the player and the Watchtowers ask what should become of it, for as long
as they find it in the discard pile. When all this is over the card lies where the answers have put it.
-/
namespace DeckBuilder

open Engine

namespace Engine

variable {M : Type} {provoke : Program → Engine M Bool}

/-- What follows a gain when the hooks of the card are done: the triggers of the player, and then the
reactions. -/
def attend (provoke : Program → Engine M Bool) (info : GainInfo) : Engine M Unit := do
  (← player info.player).gainTriggers.forM fun trigger => do
    let _ ← provoke (trigger info)
  fireReactions provoke (.gain info)

theorem welcome_eq (provoke : Program → Engine M Bool) (info : GainInfo) :
    welcome provoke info = (do
      executeAll provoke (← definition info.card).onGain ⟨info.card, info.player⟩
      attend provoke info) :=
  rfl

theorem ProvokesAt.later [Controllers M] {depth : Nat} {g g' : Game M} (h : ProvokesAt depth g provoke)
    (hkept : Kept g.state g'.state) : ProvokesAt depth g' provoke :=
  fun p g'' hkept' => h p g'' (hkept.trans hkept')

end Engine

/-! ### Asking about a gained card -/

namespace Inquiry

variable {x : Inquiry} {id : PlayerId} {prompt prompt' : String}

theorem asks_iff : x.asks id prompt = true ↔
    x.player = id ∧ ∃ choice, x.question = .boolean choice ∧ choice.prompt = prompt := by
  obtain ⟨⟨player, question, answer⟩, state⟩ := x
  cases question <;> simp [asks]

theorem asks_unique (h : x.asks id prompt = true) (h' : x.asks id prompt' = true) :
    prompt = prompt' := by
  obtain ⟨-, choice, hchoice, rfl⟩ := asks_iff.mp h
  obtain ⟨-, choice', hchoice', rfl⟩ := asks_iff.mp h'
  rw [Question.boolean.inj (hchoice.symm.trans hchoice')]

/-- The player is asked something else than what should become of a gained card of the name. -/
structure Off (x : Inquiry) (id : PlayerId) (name : String) : Prop where
  player : x.player = id
  topdeck : ¬ x.asks id (Catalog.topdeckPrompt name) = true
  trash : ¬ x.asks id (Catalog.trashPrompt name) = true

end Inquiry

namespace Catalog

variable {id : PlayerId} {card : CardId} {name name' : String} {x : Inquiry}

theorem Prompts.player (h : Prompts id card name x) : x.player = id := by
  rcases h with ⟨h, -⟩ | h
  · exact (Inquiry.asks_iff.mp h).1
  · exact (Inquiry.asks_iff.mp h).1

/-- Who is asked about a card is not asked about one of another name. -/
theorem Prompts.off (h : Prompts id card name x) (hname : name ≠ name') : x.Off id name' where
  player := h.player
  topdeck hasks := by
    rcases h with ⟨h, -⟩ | h
    · exact hname (topdeckPrompt_injective (Inquiry.asks_unique h hasks))
    · exact topdeckPrompt_ne_trashPrompt _ _ (Inquiry.asks_unique hasks h)
  trash hasks := by
    rcases h with ⟨h, -⟩ | h
    · exact topdeckPrompt_ne_trashPrompt _ _ (Inquiry.asks_unique h hasks)
    · exact hname (trashPrompt_injective (Inquiry.asks_unique h hasks))

/-- What else the player was asked does not count. -/
theorem fate_append_off {early late : List Inquiry} (h : ∀ x ∈ early, x.Off id name) :
    fate id name (early ++ late) = fate id name late := by
  have hnone : ∀ prompt, (∀ x ∈ early, ¬ x.asks id prompt = true) →
      (early ++ late).any (·.agrees id prompt) = late.any (·.agrees id prompt) := by
    intro prompt hoff
    rw [List.any_append, List.any_eq_false.mpr fun x hx hagrees =>
      hoff x hx (Inquiry.asks_of_agrees hagrees), Bool.false_or]
  rw [fate, fate, hnone _ fun x hx => (h x hx).topdeck, hnone _ fun x hx => (h x hx).trash]

open Script.Leads

variable {M : Type} [Controllers M] {n : Game (Minuted M)} {c₀ : Card} {p₀ : Player} {depth : Nat}
variable {provoke : Program → Engine (Minuted M) Bool}

/-- The triggers and the reactions to the gain of a card that lies in the discard pile. -/
theorem attend_redirects (hs₀ : n.state.OfCatalog) (hp₀ : n.state.player? id = some p₀)
    (hcard : card ∈ p₀.zones.discard) (hc₀ : n.state.card? card = some c₀)
    (hprovoke : ProvokesAt depth n provoke) (bought : Bool) :
    Ensures (attend provoke ⟨id, card, bought, .discard⟩) n
      (fun _ n' => Redirecting id card c₀.definition.name n n') fun _ _ => True := by
  have hP := Redirecting.firm hs₀ id card c₀.definition.name
  have hallow := hs₀.hooks.players p₀ (GameState.player?_mem hp₀)
  simp only [attend, ensures_bind, ensures_player, hp₀]
  refine (ensures_forM (I := Redirecting id card c₀.definition.name n) (.refl id card _ n) ?_).imp ?_
  · intro t ht n' h
    obtain ⟨source, rfl⟩ := hallow.gain t ht
    rw [ensures_bind]
    refine hprovoke.ensures h.kept ?_
    cases depth with
    | zero => exact trivial
    | succ depth => exact once (offerTopdeck_redirects hs₀ hp₀ hcard hc₀ h)
  · intro _ n' h
    refine ensures_fireReactions hP _ h fun k hk n'' r h' _ _ => ?_
    rw [reaction_gain ((hP.changes n' h).ofCatalog hs₀) hk]
    refine hprovoke.ensures h'.kept ?_
    cases depth with
    | zero => exact trivial
    | succ depth =>
      have hwatch : (watch ⟨k.card, k.owner, .gain ⟨id, card, bought, .discard⟩⟩).Leads
          (perform (runWithin depth)) n'' (fun _ => Redirecting id card c₀.definition.name n)
          fun _ _ => True := watch_redirects hs₀ hp₀ hcard hc₀ rfl rfl rfl h'
      exact once hwatch

/-! ### Gaining -/

omit [Controllers M] in
/-- The state just after a gain to the discard pile. -/
theorem gained_discarded {s : GameState} {pile : String} {q : Pile} {p : Player} {c : Card}
    (hpile : s.supply.pile? pile = some q) (htop : q.top? = some card) (hp : s.player? id = some p)
    (hc : s.card? card = some c) (bought : Bool) :
    Changes Hooks.catalog s (s.gained pile id p card bought .discard) ∧
      (s.gained pile id p card bought .discard).card? card = some c ∧
      ∃ p₁, (s.gained pile id p card bought .discard).player? id = some p₁ ∧
        p₁.zones.discard = p.zones.discard ++ [card] :=
  ⟨.single (.gain s pile q card id p bought .discard hpile htop hp), hc, _,
    GameState.player?_setPlayer_self (s := { s with supply := s.supply.updatePile pile Pile.pop }) _ hp, rfl⟩

/-- A card that does nothing itself when it is gained. -/
theorem plain_gain_redirects {pile : String} {q : Pile} {p : Player} {c : Card} (hs : n.state.OfCatalog)
    (hpile : n.state.supply.pile? pile = some q) (htop : q.top? = some card)
    (hp : n.state.player? id = some p) (hc : n.state.card? card = some c)
    (hplain : c.definition.onGain = []) (hprovoke : ProvokesAt depth n provoke) (bought : Bool) :
    Ensures (gain provoke pile id bought .discard) n
      (fun a n' => a = card ∧ Redirecting id card c.definition.name
        ⟨n.state.gained pile id p card bought .discard, n.memory⟩ n') fun _ _ => True := by
  obtain ⟨hchanges, hc₁, p₁, hp₁, hdiscard⟩ := gained_discarded hpile htop hp hc bought
  have hcard : card ∈ p₁.zones.discard := hdiscard ▸ List.mem_append_right _ (List.mem_singleton_self _)
  rw [ensures_gain_iff hpile htop hp, welcome_eq, ensures_bind, ensures_definition]
  simp only [hc₁, hplain, executeAll, List.isEmpty_nil, if_true, ensures_bind, ensures_pure, true_and]
  exact attend_redirects (n := ⟨_, n.memory⟩) (hchanges.ofCatalog hs) hp₁ hcard hc₁
    (hprovoke.later hchanges.kept) bought

/-! ### A gain that brings another -/

/-- Meanwhile the card has stayed in the discard pile, and the player was asked about other things. -/
structure Awaiting (id : PlayerId) (card : CardId) (name : String) (n n' : Game (Minuted M)) : Prop where
  changes : Changes Hooks.catalog n.state n'.state
  discarded : n'.state.Discarded id card
  said : Said (·.Off id name) n n'

/-- While a pile is chosen nothing moves; the pile that is chosen is one of those that were eligible. -/
theorem choosePile_off {prompt : String} {source : Option CardId} {eligible : PileOffer → Bool}
    (hid : id.seat < n.state.players.length) (name : String) :
    Ensures (choosePile id prompt source eligible) n
      (fun a n' => (Changes Hooks.catalog n.state n'.state ∧ Still n.state n'.state ∧
          Said (·.Off id name) n n') ∧
        ∀ pile ∈ a, ∃ q ∈ n.state.supply.piles, q.name = pile ∧ eligible (n.state.offer q) = true)
      fun _ _ => True := by
  simp only [choosePile, ensures_bind, ensures_state]
  rw [ensures_ite]
  refine ⟨fun _ => ⟨⟨.refl, .refl _, .refl _ _⟩, by simp⟩, fun _ => ?_⟩
  refine ensures_askTimes (I := fun _ n' => Changes Hooks.catalog n.state n'.state ∧
    Still n.state n'.state ∧ Said (·.Off id name) n n') ⟨.refl, .refl _, .refl _ _⟩ ?_ fun _ _ => trivial
  rintro - n' ⟨hchanges, hstill, hsaid⟩
  have hasked : ∀ choice, Changes Hooks.catalog n.state (asked n' id (.pile choice)).2.state ∧
      Still n.state (asked n' id (.pile choice)).2.state ∧
      Said (·.Off id name) n (asked n' id (.pile choice)).2 := fun choice =>
    ⟨hchanges.tail (.think n'.state id _ _), hstill.trans (.think n'.state id _ _),
      hsaid.trans (said_asked n' id (.pile choice) ⟨rfl, Bool.false_ne_true, Bool.false_ne_true⟩)⟩
  rw [ensures_ask (by rw [hchanges.kept.seats]; exact hid)]
  split
  case h_1 a ha =>
    refine ⟨hasked _, fun pile hpile => ?_⟩
    obtain ⟨q, hq, rfl⟩ := List.mem_map.mp (mem_of_offered ha pile hpile)
    obtain ⟨hmem, hoffer⟩ := List.mem_filter.mp hq
    exact ⟨q, hmem, rfl, hoffer⟩
  case h_2 =>
    obtain ⟨hchanges₁, hstill₁, hsaid₁⟩ := hasked
      ⟨prompt, (n.state.supply.piles.filter fun q => eligible (n.state.offer q)).map Pile.name, source⟩
    exact ⟨hchanges₁.tail (.remark _ ⟨.minimal, _, some .warning⟩ (by simp)),
      hstill₁.trans ⟨rfl, rfl, rfl⟩, hsaid₁⟩

/-- A card that is redirected takes no other card from the discard pile. -/
theorem discarded_of_redirected {other : CardId} {fate : Fate} {s s' : GameState}
    (h : Redirected id other fate s s') (hcard : s.Discarded id card) (hne : card ≠ other) :
    s'.Discarded id card := by
  obtain ⟨p, hp, hmem⟩ := hcard
  obtain ⟨p', hp', hzones⟩ := h.player? hp
  refine ⟨p', hp', ?_⟩
  have herased : card ∈ p.zones.discard.erase other := (List.mem_erase_of_ne hne).mpr hmem
  rw [hzones]
  cases fate with
  | left => exact hmem
  | topdecked => exact herased
  | trashed =>
    cases hreturns : s.returns other with
    | false => exact herased
    | true => exact herased

omit [Controllers M] in
/-- A pile of other cards than Border Villages: its top card does nothing when it is gained. -/
theorem plain_top {s : GameState} {q : Pile} (hs : s.Filed) (hq : q ∈ s.supply.piles) (hcount : 0 < q.size)
    (hne : q.definition ≠ borderVillage) :
    ∃ card c, s.supply.pile? q.name = some q ∧ q.top? = some card ∧ s.card? card = some c ∧
      c.definition.onGain = [] ∧ c.definition.name ≠ borderVillage.name := by
  have hpile := hs.pile?_of_mem hq
  have hcounted : 0 < s.supply.count q.name := by
    rw [Supply.count, hpile]
    exact hcount
  obtain ⟨_, card, c, hpile', htop, hc⟩ := hs.top_of_count hcounted
  obtain rfl := Option.some.inj (hpile.symm.trans hpile')
  obtain ⟨_, hsame, hdef⟩ := hs.piles q hq card (List.mem_of_getLast? htop)
  obtain rfl := Option.some.inj (hc.symm.trans hsame)
  have hregistered := hs.registered card c hc
  refine ⟨card, c, hpile, htop, hc, ?_, fun hname => ?_⟩
  · by_contra hhooks
    exact hne (hdef ▸ Registry.eq_borderVillage hregistered hhooks)
  · exact hne (hdef ▸ Registry.eq_of_name hregistered (by simp [Registry.allCards, kingdomCards]) hname)

omit [Controllers M] in
/-- What a player holds is not in the supply. -/
theorem ne_of_held {s : GameState} {p : Player} {q : Pile} {other : CardId} (hs : s.Sound)
    (hp : s.player? id = some p) (hcard : card ∈ p.zones.allCards) (hq : q ∈ s.supply.piles)
    (hother : other ∈ q.cards) : card ≠ other := by
  rintro rfl
  exact hs.notMem_pile hp hcard hq hother

/-- Another card is gained, which is not a Border Village. -/
theorem gain_awaits {q : Pile} (hs : n.state.Filed) (hcard : n.state.Discarded id card)
    (hq : q ∈ n.state.supply.piles) (hcount : 0 < q.size) (hne : q.definition ≠ borderVillage) :
    Ensures (gain (runWithin depth) q.name id false .discard) n
      (fun _ n' => Awaiting id card borderVillage.name n n') fun _ _ => True := by
  obtain ⟨other, c, hpile, htop, hc, hplain, hname⟩ := plain_top hs hq hcount hne
  obtain ⟨p, hp, hmem⟩ := hcard
  have hheld := PlayerZones.mem_allCards_of_discard hmem
  have hother := ne_of_held hs.sound hp hheld hq (List.mem_of_getLast? htop)
  obtain ⟨hgained, -, p₁, hp₁, hdiscard⟩ := gained_discarded hpile htop hp hc false
  refine (plain_gain_redirects hs.toOfCatalog hpile htop hp hc hplain (runWithin_provokesAt depth n)
    false).imp ?_
  rintro _ n' ⟨-, record, hrecord, hprompts, hredirected⟩
  refine ⟨hgained.trans hredirected.changes, ?_, record, hrecord, fun x hx => (hprompts x hx).off hname⟩
  exact discarded_of_redirected hredirected ⟨p₁, hp₁, hdiscard ▸ List.mem_append_left _ hmem⟩ hother

theorem gainChosen_awaits {prompt : String} {source : Option CardId} {eligible : PileOffer → Bool}
    (hs : n.state.Filed) (hcard : n.state.Discarded id card)
    (heligible : ∀ q, eligible (n.state.offer q) = true → 0 < q.size ∧ q.definition ≠ borderVillage) :
    Script.Leads (perform (runWithin depth)) (do
      if let some pile := ← Script.choosePile id prompt source eligible then
        let _ ← Script.gain pile id) n
      (fun _ n' => Awaiting id card borderVillage.name n n') fun _ _ => True := by
  have hseat : id.seat < n.state.players.length := by
    obtain ⟨p, hp, -⟩ := hcard
    exact GameState.seat_lt_of_player? hp
  refine callBind ((choosePile_off hseat borderVillage.name).imp ?_)
  rintro answer n₁ ⟨⟨hchanges, hstill, hsaid⟩, hanswer⟩
  have hcard₁ := hstill.discarded hcard
  cases answer with
  | none => exact pure ⟨hchanges, hcard₁, hsaid⟩
  | some pile =>
    obtain ⟨q, hq, rfl, hoffer⟩ := hanswer pile rfl
    obtain ⟨hcount, hne⟩ := heligible q hoffer
    have hs₁ := hs.changes hchanges (hchanges.ofCatalog hs.toOfCatalog)
    refine callBind ((gain_awaits hs₁ hcard₁ (hstill.supply ▸ hq) hcount hne).imp ?_)
    intro _ n₂ h₂
    exact pure ⟨hchanges.trans h₂.changes, h₂.discarded, hsaid.trans h₂.said⟩

/-- The Border Village brings a card that costs less than itself, so it brings no other Border Village. -/
theorem gainCheaper_awaits {ctx : EffectContext} {c : Card} (hs : n.state.Filed)
    (hcard : n.state.Discarded ctx.player ctx.card) (hc : n.state.card? ctx.card = some c)
    (hvillage : c.definition = borderVillage) :
    (gainCheaper ctx).Leads (perform (runWithin depth)) n
      (fun _ n' => Awaiting ctx.player ctx.card borderVillage.name n n') fun _ _ => True := by
  refine callBind (ensures_costOf hc (gainChosen_awaits hs hcard fun q hoffer => ?_))
  obtain ⟨hcount, hcheaper⟩ := Bool.and_eq_true_iff.mp hoffer
  refine ⟨of_decide_eq_true hcount, fun heq => ?_⟩
  have hcheaper : n.state.cost q.definition < n.state.cost c.definition := of_decide_eq_true hcheaper
  rw [heq, hvillage] at hcheaper
  exact Nat.lt_irrefl _ hcheaper

/-- Whatever the card does itself when it is gained, it lies in the discard pile when this is over. -/
theorem onGain_awaits {c : Card} (hs : n.state.Filed) (hcard : n.state.Discarded id card)
    (hc : n.state.card? card = some c) (hprovoke : ProvokesAt depth n provoke) :
    Ensures (executeAll provoke c.definition.onGain ⟨card, id⟩) n
      (fun _ n' => Awaiting id card c.definition.name n n') fun _ _ => True := by
  by_cases hplain : c.definition.onGain = []
  · rw [hplain]
    exact ⟨.refl, hcard, .refl _ _⟩
  · have hvillage := Registry.eq_borderVillage (hs.registered card c hc) hplain
    rw [hvillage]
    refine ensures_ite.mpr ⟨fun hempty => absurd hempty (by decide), fun _ => ensures_bind.mpr ?_⟩
    refine hprovoke.ensures (.refl n.state) ?_
    cases depth with
    | zero => exact trivial
    | succ depth => exact programAll (steps_scripted (gainCheaper_awaits hs hcard hc hvillage))

/-- A gain: the card comes to the discard pile, waits there for what it does itself, and is redirected. -/
theorem gain_redirects {pile : String} {q : Pile} {p : Player} {c : Card} (hs : n.state.Filed)
    (hpile : n.state.supply.pile? pile = some q) (htop : q.top? = some card)
    (hp : n.state.player? id = some p) (hc : n.state.card? card = some c)
    (hprovoke : ProvokesAt depth n provoke) (bought : Bool) :
    Ensures (gain provoke pile id bought .discard) n
      (fun a n' => a = card ∧ ∃ n₁, Awaiting id card c.definition.name n n₁ ∧
        Redirecting id card c.definition.name n₁ n') fun _ _ => True := by
  obtain ⟨hgained, hc₁, p₁, hp₁, hdiscard⟩ := gained_discarded hpile htop hp hc bought
  have hcard : (n.state.gained pile id p card bought .discard).Discarded id card :=
    ⟨p₁, hp₁, hdiscard ▸ List.mem_append_right _ (List.mem_singleton_self _)⟩
  have hs₁ := hs.changes hgained (hgained.ofCatalog hs.toOfCatalog)
  rw [ensures_gain_iff hpile htop hp, welcome_eq, ensures_bind, ensures_definition]
  simp only [hc₁, ensures_bind]
  refine (onGain_awaits (n := ⟨_, n.memory⟩) hs₁ hcard hc₁ (hprovoke.later hgained.kept)).imp ?_
  rintro _ n₂ ⟨hchanges, ⟨p₂, hp₂, hcard₂⟩, hsaid⟩
  obtain ⟨c₂, hc₂, hdef⟩ := hchanges.kept.carded hc₁
  have hall : Changes Hooks.catalog n.state n₂.state := hgained.trans hchanges
  refine (attend_redirects (hchanges.ofCatalog hs₁.toOfCatalog) hp₂ hcard₂ hc₂ (hprovoke.later hall.kept)
    bought).imp ?_
  intro _ n₃ h₃
  rw [hdef] at h₃
  exact ⟨trivial, n₂, ⟨hall, ⟨p₂, hp₂, hcard₂⟩, hsaid⟩, h₃⟩

end Catalog

/-! ### Where the card is -/

namespace PlayerZones

variable {z : PlayerZones} {card : CardId} {returns : Bool} {fate : Fate}

section

variable (hm : z.MatsSorted) (hn : z.allCards.Nodup) (hcard : card ∈ z.discard)
include hm hn hcard

theorem notMem_row_erased (zone : Zone) : card ∉ (z.update .discard (·.erase card)).row zone :=
  fun hmem => notMem_erased hm hn hcard (mem_allCards_of_mem_row hmem)

theorem mem_discard_redirected : card ∈ (z.redirected card returns fate).discard ↔ fate = .left := by
  have hgone := notMem_row_erased hm hn hcard .discard
  cases fate with
  | left => exact iff_of_true hcard rfl
  | topdecked => exact iff_of_false hgone nofun
  | trashed => cases returns <;> exact iff_of_false hgone nofun

theorem top_redirected :
    (z.redirected card returns fate).deck.getLast? = some card ↔ fate = .topdecked := by
  have hgone : z.deck.getLast? ≠ some card := fun htop =>
    notMem_row_erased hm hn hcard .deck (List.mem_of_getLast? htop)
  cases fate with
  | left => exact iff_of_false hgone nofun
  | topdecked => exact iff_of_true List.getLast?_concat rfl
  | trashed => cases returns <;> exact iff_of_false hgone nofun

theorem mem_hand_redirected :
    card ∈ (z.redirected card returns fate).hand ↔ fate = .trashed ∧ returns = true := by
  have hgone := notMem_row_erased hm hn hcard .hand
  cases fate with
  | left => exact iff_of_false hgone nofun
  | topdecked => exact iff_of_false hgone nofun
  | trashed =>
    cases returns with
    | false => exact iff_of_false hgone nofun
    | true => exact iff_of_true (List.mem_append_right _ (List.mem_singleton_self card)) ⟨rfl, rfl⟩

end

end PlayerZones

theorem Redirected.mem_trash {id : PlayerId} {card : CardId} {fate : Fate} {s s' : GameState}
    (h : Redirected id card fate s s') (hcard : card ∉ s.trash) :
    card ∈ s'.trash ↔ fate = .trashed ∧ s.returns card = false := by
  rw [h.trash]
  split
  case isTrue htrashed =>
    exact iff_of_true (List.mem_append_right _ (List.mem_singleton_self card)) htrashed
  case isFalse hkept => exact iff_of_false hcard hkept

namespace Catalog

/-- The player said yes when asked. -/
def Agreed (record : List Inquiry) (id : PlayerId) (prompt : String) : Prop :=
  ∃ x ∈ record, x.agrees id prompt = true

/-- Where a card of the name is that the player has gained to the discard pile, if these were the questions
and answers. -/
structure Landed (id : PlayerId) (card : CardId) (name : String) (record : List Inquiry) (s : GameState)
    (p : Player) : Prop where
  once : s.whereabouts.count card = 1
  discard : card ∈ p.zones.discard ↔
    ¬ Agreed record id (topdeckPrompt name) ∧ ¬ Agreed record id (trashPrompt name)
  deck : p.zones.deck.getLast? = some card ↔
    Agreed record id (topdeckPrompt name) ∧ ¬ Agreed record id (trashPrompt name)
  trash : card ∈ s.trash ↔ Agreed record id (trashPrompt name) ∧ name ≠ "Fortress"
  hand : card ∈ p.hand ↔ Agreed record id (trashPrompt name) ∧ name = "Fortress"
  /-- Nobody else is asked anything. -/
  asked : ∀ x ∈ record, x.player = id
  /-- The card was in the discard pile whenever the player could put it onto the deck. -/
  inTime : ∀ x ∈ record, x.asks id (topdeckPrompt name) = true → x.state.Discarded id card

theorem returns_iff {s : GameState} {card : CardId} {c : Card} (hs : s.OfCatalog)
    (hc : s.card? card = some c) : s.returns card = true ↔ c.definition.name = "Fortress" := by
  rw [GameState.returns_eq hc]
  have hregistered := hs.registered card c hc
  constructor
  · intro hhooks
    rw [Registry.eq_fortress hregistered (by simpa using hhooks)]
    rfl
  · intro hname
    have hfortress : c.definition = fortress :=
      Registry.eq_of_name hregistered (by simp [Registry.allCards, kingdomCards]) hname
    rw [hfortress]
    rfl

/-- What was said before the card was redirected does not count, and what was said then decides. -/
theorem landed_of_redirecting {M : Type} {n n₁ n' : Game (Minuted M)} {id : PlayerId} {card : CardId}
    {c : Card} (hs : n.state.OfCatalog) (hc : n.state.card? card = some c) (hempty : n.memory.inquiries = [])
    (hwait : Awaiting id card c.definition.name n n₁) (h : Redirecting id card c.definition.name n₁ n') :
    ∃ c' p, n'.state.card? card = some c' ∧ n'.state.player? id = some p ∧
      Landed id card c'.definition.name n'.memory.inquiries n'.state p := by
  obtain ⟨hchanges, ⟨p₁, hp₁, hcard⟩, early, hearly, hoff⟩ := hwait
  obtain ⟨late, hlate, hprompts, hredirected⟩ := h
  have hs₁ := hchanges.ofCatalog hs
  have hs' := hredirected.ofCatalog hs₁
  obtain ⟨c₁, hc₁, hdef₁⟩ := hchanges.kept.carded hc
  obtain ⟨c', hc', hdef'⟩ := hredirected.kept.carded hc₁
  obtain ⟨p', hp', hzones⟩ := hredirected.player? hp₁
  have hm := hs₁.sound.mats p₁ (GameState.player?_mem hp₁)
  have hn := hs₁.sound.nodup_allCards hp₁
  have htrash : card ∉ n₁.state.trash :=
    hs₁.sound.notMem_trash hp₁ (PlayerZones.mem_allCards_of_discard hcard)
  have hname : c'.definition.name = c.definition.name := by rw [hdef', hdef₁]
  have hreturns := returns_iff hs₁ hc₁
  rw [hdef₁] at hreturns
  have hrecord : n'.memory.inquiries = early ++ late := by rw [hlate, hearly, hempty, List.nil_append]
  have hagreed : ∀ prompt, Agreed (early ++ late) id prompt ↔
      (early ++ late).any (·.agrees id prompt) = true := fun prompt => List.any_eq_true.symm
  rw [← fate_append_off hoff] at hredirected hzones
  refine ⟨c', p', hc', hp', ?_⟩
  rw [hname, hrecord]
  refine ⟨?_, ?_, ?_, ?_, ?_, ?_, ?_⟩
  · rw [hs'.sound.census, if_pos (GameState.contains_iff_card?.mpr ⟨c', hc'⟩)]
  · rw [hzones, PlayerZones.mem_discard_redirected hm hn hcard, fate_eq_left_iff, hagreed, hagreed]
  · rw [hzones, PlayerZones.top_redirected hm hn hcard, fate_eq_topdecked_iff, hagreed, hagreed]
  · rw [hredirected.mem_trash htrash, fate_eq_trashed_iff, hagreed, ne_eq, ← hreturns,
      Bool.not_eq_true]
  · change card ∈ p'.zones.hand ↔ _
    rw [hzones, PlayerZones.mem_hand_redirected hm hn hcard, fate_eq_trashed_iff, hagreed, ← hreturns]
  · exact List.forall_mem_append.mpr ⟨fun x hx => (hoff x hx).player, fun x hx => (hprompts x hx).player⟩
  · refine List.forall_mem_append.mpr ⟨fun x hx hasks => absurd hasks (hoff x hx).topdeck, ?_⟩
    intro x hx hasks
    rcases hprompts x hx with ⟨-, hdiscarded⟩ | htrashes
    · exact hdiscarded
    · exact absurd (Inquiry.asks_unique hasks htrashes) (topdeckPrompt_ne_trashPrompt _ _)

/-- Nothing is gained unless there is a card, and a player to gain it. -/
theorem exists_of_gain {M : Type} {provoke : Program → Engine M Bool} {pile : String} {id : PlayerId}
    {bought : Bool} {destination : GainDestination} {g g' : Game M} {card : CardId}
    (h : (gain provoke pile id bought destination).runOn g = (.ok card, g')) :
    ∃ q top p, g.state.supply.pile? pile = some q ∧ q.top? = some top ∧ g.state.player? id = some p := by
  refine Ensures.ended (E := fun _ _ => True) (Q := fun _ _ => _) ?_ h
  cases hpile : g.state.supply.pile? pile with
  | none =>
    simp only [gain, ensures_bind, ensures_state, hpile]
    exact trivial
  | some q =>
  cases htop : q.top? with
  | none =>
    simp only [gain, ensures_bind, ensures_state, hpile, htop]
    exact trivial
  | some top =>
  cases hp : g.state.player? id with
  | none =>
    have hp' : GameState.player? { g.state with
        supply := g.state.supply.updatePile pile Pile.pop } id = none := hp
    simp only [gain, ensures_bind, ensures_state, hpile, htop, ensures_modifyState, ensures_modifyPlayer, hp']
  | some p => exact Ensures.trivial.imp fun _ _ _ => ⟨q, top, p, rfl, htop, rfl⟩

/-- A card that is gained to the discard pile is in one place in the end, and it depends on the answers
of the player which: it is in the trash if once a Watchtower was to trash it, and the Fortress in the hand;
else it is on top of the deck if it once was to go there, and otherwise it is still in the discard pile. -/
theorem gain_lands_once {M : Type} [Controllers M] {config : GameConfig} {s₀ : GameState} {g g' : Game M}
    (hinit : initGame Registry.catalog config = .ok s₀) (hg : g.Reachable s₀) {pile : String}
    {id : PlayerId} {bought : Bool} {card : CardId}
    (h : (gain run pile id bought .discard).runOn g = (.ok card, g')) :
    ∃ c p, g'.state.card? card = some c ∧ g'.state.player? id = some p ∧
      Landed id card c.definition.name (inquiries (gain run pile id bought .discard) g) g'.state p := by
  have hcoupling := Agrees.coupling (Minuted.alike (M := M))
  have hagrees : Agrees Minuted.memory (gain run pile id bought .discard)
      (gain run pile id bought .discard) :=
    Agrees.of_coupled (.gain hcoupling (.run hcoupling) pile id bought .discard)
  have hran := hagrees.minuted g
  rw [h] at hran
  obtain ⟨hok, hstate⟩ := Prod.mk.inj hran
  obtain ⟨q, top, p, hpile, htop, hp⟩ := exists_of_gain h
  have hfiled : g.state.Filed := hg.filed hinit
  obtain ⟨c, hc, -⟩ := hfiled.top hpile htop
  have hends := gain_redirects (n := g.minuted) hfiled hpile htop hp hc (run_provokesAt _) bought
  obtain ⟨rfl, n₁, hwait, hredirecting⟩ := hends.ended (runOn_eq_of_ok hok.symm)
  rw [hstate]
  exact landed_of_redirecting (n := g.minuted) hfiled.toOfCatalog hc rfl hwait hredirecting

set_option maxRecDepth 100000 in
/-- The first of two players has a Watchtower in hand, gains a Border Village and puts it onto the deck. -/
theorem gain_lands_on_deck :
    ∃ s₀ w p₀ card g' c p, initGame Registry.catalog
        { players := ["Player 1", "Player 2"], kingdom := .preset "interaction" } = .ok s₀ ∧
      let g := ⟨s₀.gained "Watchtower" ⟨0⟩ p₀ w false .hand, Table.ofMinds [.random, .random]⟩
      let record := inquiries (gain run "Border Village" ⟨0⟩ false .discard) g
      g.Reachable s₀ ∧ (gain run "Border Village" ⟨0⟩ false .discard).runOn g = (.ok card, g') ∧
      g'.state.card? card = some c ∧ g'.state.player? ⟨0⟩ = some p ∧
      Landed ⟨0⟩ card c.definition.name record g'.state p ∧ p.zones.deck.getLast? = some card ∧
      Agreed record ⟨0⟩ (topdeckPrompt c.definition.name) := by
  have hruns : (initGame Registry.catalog
      { players := ["Player 1", "Player 2"], kingdom := .preset "interaction" }).toOption.any
      fun s => (s.player? ⟨0⟩).any fun p => (s.supply.pile? "Watchtower").any fun q => q.top?.any fun w =>
        let ran := (gain run "Border Village" ⟨0⟩ false .discard).runOn
          ⟨s.gained "Watchtower" ⟨0⟩ p w false .hand, Table.ofMinds [.random, .random]⟩
        ran.1.toOption.any fun card =>
          (ran.2.state.player? ⟨0⟩).any fun p => p.zones.deck.getLast? == some card := by
    decide +kernel
  obtain ⟨s₀, hinit, hruns⟩ := exists_ok_of_any hruns
  obtain ⟨p₀, hp₀, hruns⟩ := (Option.any_eq_true _ _).mp hruns
  obtain ⟨q, hpile, hruns⟩ := (Option.any_eq_true _ _).mp hruns
  obtain ⟨w, htop, hruns⟩ := (Option.any_eq_true _ _).mp hruns
  obtain ⟨card, hran, htopped⟩ := exists_ok_of_any hruns
  obtain ⟨p, hp, hdeck⟩ := (Option.any_eq_true _ _).mp htopped
  have hreachable : Game.Reachable s₀
      ⟨s₀.gained "Watchtower" ⟨0⟩ p₀ w false .hand, Table.ofMinds [.random, .random]⟩ :=
    .change _ (.opening (Table.ofMinds [.random, .random])) (.gain s₀ _ q w _ p₀ false .hand hpile htop hp₀)
  have hran := runOn_eq_of_ok hran
  obtain ⟨c, p', hc, hp', hlanded⟩ := gain_lands_once hinit hreachable hran
  obtain rfl := Option.some.inj (hp.symm.trans hp')
  have hdeck := beq_iff_eq.mp hdeck
  exact ⟨s₀, w, p₀, card, _, c, p, hinit, hreachable, hran, hc, hp, hlanded, hdeck, (hlanded.deck.mp hdeck).1⟩

end Catalog

end DeckBuilder
