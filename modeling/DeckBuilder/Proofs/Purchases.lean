import DeckBuilder.Controller.Table
import DeckBuilder.Proofs.CatalogWithin
import DeckBuilder.Proofs.Heeded
import DeckBuilder.Proofs.Reachable

/-!
Purchases are legal and exactly paid. What a gain provokes moves cards and touches nobody's money or
buys, so what a purchase costs before the gain can be paid after it. A phase of purchases is a row of
such purchases, each from a pile that can be bought from at that moment, and all that is bought in a
buy phase is bought in this row.
-/
namespace DeckBuilder

open Engine

variable {M : Type} [Controllers M]

/-- A purchase as it is seen from outside: the game right before it, the pile and the card. -/
structure Purchase (M : Type) where
  before : Game M
  pile : String
  card : CardId

namespace Purchase

/-- What a card of the pile cost right before. -/
def cost (x : Purchase M) : Nat := (x.before.state.pileCost? x.pile).getD 0

/-- The purchase as it is read off the log. -/
def entry (id : PlayerId) (x : Purchase M) : PlayerId × String × CardId := (id, x.pile, x.card)

/-- The top card of a pile that the player, whose turn it is, can buy from. -/
structure Legal (id : PlayerId) (x : Purchase M) : Prop where
  active : x.before.state.activePlayer = id
  allowed : x.before.state.canBuy id x.pile = true
  top : (x.before.state.supply.pile? x.pile).bind Pile.top? = some x.card

end Purchase

/-- The player has spent a number of buys and an amount of money, and had both. -/
def GameState.Spent (id : PlayerId) (buys money : Nat) (s s' : GameState) : Prop :=
  ∃ p p', s.player? id = some p ∧ s'.player? id = some p' ∧
    p'.buys + buys = p.buys ∧ p'.money + money = p.money

/-- A player buys one card after the other, and stops buying or is stopped. Between the purchases
nothing happens but that controllers think. -/
inductive Shopping (id : PlayerId) : Game M → List (Purchase M) → Except Halt Unit → Game M → Prop
  | leave {g g' : Game M} (result : Except Halt Unit) (h : g.state.Pondered g'.state) :
      Shopping id g [] result g'
  | buy {g g₁ g₂ g' : Game M} {pile : String} {card : CardId} {rest : List (Purchase M)}
      {result : Except Halt Unit} (h : g.state.Pondered g₁.state)
      (hallowed : g₁.state.canBuy id pile = true)
      (hrun : (Engine.buy run pile id).runOn g₁ = (.ok card, g₂))
      (hrest : Shopping id g₂ rest result g') :
      Shopping id g (⟨g₁, pile, card⟩ :: rest) result g'
  | fail {g g₁ g' : Game M} {pile : String} {card : CardId} {halt : Halt}
      (h : g.state.Pondered g₁.state) (hallowed : g₁.state.canBuy id pile = true)
      (htop : (g₁.state.supply.pile? pile).bind Pile.top? = some card)
      (hrun : (Engine.buy run pile id).runOn g₁ = (.error halt, g')) :
      Shopping id g [⟨g₁, pile, card⟩] (.error halt) g'

/-! ### One purchase -/

/-- Who can buy from a pile has a buy and the money, and the pile has a card. -/
theorem GameState.exists_of_canBuy {s : GameState} {id : PlayerId} {pile : String}
    (h : s.canBuy id pile = true) :
    ∃ p q card, s.player? id = some p ∧ s.supply.pile? pile = some q ∧ q.top? = some card ∧
      0 < p.buys ∧ s.cost q.definition ≤ p.money := by
  unfold canBuy at h
  cases hp : s.player? id with
  | none => simp [hp] at h
  | some p =>
  cases hq : s.supply.pile? pile with
  | none => simp [hp, hq] at h
  | some q =>
    simp only [hp, hq, Bool.and_eq_true, Bool.not_eq_true', decide_eq_true_eq] at h
    obtain ⟨⟨⟨hbuys, hcards⟩, hcost⟩, -⟩ := h
    have hne : q.cards ≠ [] := by simpa [Pile.isEmpty] using hcards
    exact ⟨p, q, q.cards.getLast hne, rfl, rfl, List.getLast?_eq_some_getLast hne, hbuys, hcost⟩

/-- The licence of a player who plays treasures and pays. -/
def Licence.shopper (id : PlayerId) : Licence := ⟨noCard, (· = id), fun _ _ => True, False, True⟩

/-- What a purchase leaves: the log tells of it, it is still the same player's turn, and the state is
as ready as it was. -/
structure GameState.Purchased (id : PlayerId) (pile : String) (card : CardId) (s s' : GameState) :
    Prop where
  log : s'.bought = s.bought ++ [(id, pile, card)]
  active : s'.active = s.active
  ready : s'.Ready noCard

/-- Allowed changes by which nothing else is bought leave it so. -/
theorem GameState.Purchased.allows {id : PlayerId} {pile : String} {card : CardId}
    {s s' s'' : GameState} {L : Licence} (h : s.Purchased id pile card s')
    (hallows : L.Allows s' s'') (hlocked : L.locked = noCard) (hbuys : ¬ L.buys) :
    s.Purchased id pile card s'' where
  log := (hallows.bought hbuys).trans h.log
  active := hallows.active.trans h.active
  ready := by
    have hready := hallows.ready
    rw [hlocked] at hready
    exact hready h.ready

/-- When the card has changed hands, the purchase is made; it is not paid yet. -/
theorem GameState.gained_purchased {s : GameState} (hs : s.Ready noCard) {id : PlayerId}
    {pile : String} {p : Player} {q : Pile} {card : CardId} (hp : s.player? id = some p)
    (hpile : s.supply.pile? pile = some q) (htop : q.top? = some card) :
    s.Purchased id pile card (s.gained pile id p card true .discard) := by
  have htaken := Licence.Allows.take (L := .modest noCard) hs hpile htop hp .discard
  refine ⟨?_, rfl, (htaken.ready hs).congr (fun _ => rfl) rfl rfl rfl⟩
  rw [gained, bought_publish, htaken.bought not_false]
  rfl

theorem buy_purchased {g : Game M} (hg : g.state.Ready noCard) {id : PlayerId} {pile : String}
    {p : Player} {q : Pile} {card : CardId} (hp : g.state.player? id = some p)
    (hpile : g.state.supply.pile? pile = some q) (htop : q.top? = some card)
    (hbuys : 0 < p.buys) (hmoney : g.state.cost q.definition ≤ p.money) :
    Ensures (buy run pile id) g
      (fun a g' => a = card ∧ g.state.Purchased id pile card g'.state ∧
        g.state.Spent id 1 (g.state.cost q.definition) g'.state)
      (fun _ g' => g.state.Purchased id pile card g'.state) := by
  have hcost : g.state.pileCost? pile = some (g.state.cost q.definition) := by
    rw [GameState.pileCost?, hpile]
    rfl
  simp only [buy, ensures_bind, ensures_state, hcost]
  rw [ensures_gain_iff hpile htop hp]
  -- From here on `s₁` is the state in which the card has changed hands.
  obtain ⟨s₁, hs₁⟩ : ∃ s₁, s₁ = g.state.gained pile id p card true .discard := ⟨_, rfl⟩
  have hpurchased : g.state.Purchased id pile card s₁ :=
    hs₁ ▸ GameState.gained_purchased hg hp hpile htop
  obtain ⟨p₁, hp₁, hsame⟩ : ∃ p₁, s₁.player? id = some p₁ ∧
      p₁.buys = p.buys ∧ p₁.money = p.money := by
    rw [hs₁]
    exact ⟨_, GameState.player?_setPlayer_self _ hp, rfl, rfl⟩
  rw [← hs₁]
  have hwelcome : Heeds (.modest noCard)
      (welcome run ⟨id, card, true, .discard⟩ : Engine M Unit) fun _ => True :=
    welcome_heeds (fun _ h => run_heeds h) not_false
  refine (hwelcome ⟨s₁, g.memory⟩ hpurchased.ready).mono ?_ ?_
  · rintro _ g₂ ⟨hallows, -⟩
    obtain ⟨p₂, hp₂, hplayer⟩ := hallows.players id p₁ hp₁
    have heq := hplayer.rest not_false
    have hbuys₂ : p₂.buys = p.buys := by
      rw [heq]
      exact hsame.1
    have hmoney₂ : p₂.money = p.money := by
      rw [heq]
      exact hsame.2
    simp only [ensures_modifyPlayer, hp₂, ensures_pure, true_and]
    have hpaid : (Licence.shopper id).Allows g₂.state
        (g₂.state.setPlayer id (p₂.onTableau fun t => { t with
          buys := t.buys - 1, money := t.money - g.state.cost q.definition })) := by
      refine .setPlayer hp₂ ⟨.refl _, fun h => absurd rfl h, fun _ => rfl, fun h => ?_⟩
      exact ⟨h.clear, h.gain, h.play⟩
    refine ⟨(hpurchased.allows hallows rfl not_false).allows hpaid rfl not_false,
      p, _, hp, GameState.player?_setPlayer_self _ hp₂, ?_, ?_⟩
    · change p₂.buys - 1 + 1 = p.buys
      omega
    · change p₂.money - g.state.cost q.definition + g.state.cost q.definition = p.money
      omega
  · intro _ g₂ hallows
    exact hpurchased.allows hallows rfl not_false

/-! ### A row of purchases -/

namespace Shopping

variable {id : PlayerId} {g g' g'' : Game M} {xs : List (Purchase M)} {result : Except Halt Unit}

/-- Thinking before the first purchase does not matter. -/
theorem after (h : g.state.Pondered g'.state) (hshop : Shopping id g' xs result g'') :
    Shopping id g xs result g'' := by
  cases hshop with
  | leave _ h' => exact .leave result (h.trans h')
  | buy h' hallowed hrun hrest => exact .buy (h.trans h') hallowed hrun hrest
  | fail h' hallowed htop hrun => exact .fail (h.trans h') hallowed htop hrun

end Shopping

theorem canBuy_of_pondered {s s' : GameState} (h : s.Pondered s') (id : PlayerId) (pile : String) :
    s'.canBuy id pile = s.canBuy id pile := by
  obtain ⟨rng, logger, heq⟩ := h
  rw [heq]
  rfl

/-- The loop of purchases is such a row. -/
theorem purchases_shopping (id : PlayerId) (n : Nat) (g : Game M) :
    Ensures (purchases id n) g (fun a g' => ∃ xs, Shopping id g xs (.ok a) g')
      (fun halt g' => ∃ xs, Shopping id g xs (.error halt) g') := by
  induction n generalizing g with
  | zero => exact ⟨[], .leave _ (.refl g.state)⟩
  | succ n ih =>
    simp only [purchases, ensures_bind, ensures_state]
    rw [ensures_ite]
    refine ⟨fun _ => ⟨[], .leave _ (.refl g.state)⟩, fun _ => ?_⟩
    rw [ensures_bind]
    refine (choosePurchase_ponders id _ g).mono ?_ fun _ _ h => ⟨[], .leave _ h⟩
    rintro choice g₁ ⟨hpondered, hchoice⟩
    cases choice with
    | none => exact ⟨[], .leave _ hpondered⟩
    | some pile =>
      have hallowed : g₁.state.canBuy id pile = true := by
        rw [canBuy_of_pondered hpondered]
        exact (List.mem_filter.mp (hchoice pile rfl)).2
      obtain ⟨p, q, card, -, hpile, htop, -⟩ := GameState.exists_of_canBuy hallowed
      rw [ensures_bind]
      cases hrun : (Engine.buy run pile id).runOn g₁ with
      | mk bought g₂ =>
        cases bought with
        | error halt =>
          rw [Ensures, hrun]
          refine ⟨[⟨g₁, pile, card⟩], .fail hpondered hallowed ?_ hrun⟩
          rw [hpile]
          exact htop
        | ok gained =>
          rw [Ensures, hrun]
          have hgo : ∀ {result : Except Halt Unit} {g₃ g' : Game M}, g₂.state.Pondered g₃.state →
              (∃ xs, Shopping id g₃ xs result g') → ∃ xs, Shopping id g xs result g' := by
            rintro result g₃ g' hthought ⟨xs, hshop⟩
            exact ⟨⟨g₁, pile, gained⟩ :: xs, .buy hpondered hallowed hrun (hshop.after hthought)⟩
          simp only [ensures_bind, ensures_player]
          cases g₂.state.player? id with
          | none => exact hgo (.refl g₂.state) ⟨[], .leave _ (.refl g₂.state)⟩
          | some p₂ =>
            simp only [ensures_verbose]
            generalize hg₃ : (⟨g₂.state.onLogger _, g₂.memory⟩ : Game M) = g₃
            have hnoted : g₂.state.Pondered g₃.state := by
              rw [← hg₃]
              exact ⟨_, _, rfl⟩
            exact (ih g₃).mono (fun _ _ h => hgo hnoted h) fun _ _ h => hgo hnoted h

/-! ### What the row comes to -/

/-- If the purchase comes to its end then it is of the top card, and exactly paid. -/
def Purchase.Paid (id : PlayerId) (x : Purchase M) : Prop :=
  ∀ card g', (Engine.buy run x.pile id).runOn x.before = (.ok card, g') →
    card = x.card ∧ x.before.state.Spent id 1 x.cost g'.state

namespace GameState

variable {id : PlayerId} {s s' s'' : GameState}

theorem Spent.trans {buys buys' money money' : Nat} (h : s.Spent id buys money s')
    (h' : s'.Spent id buys' money' s'') : s.Spent id (buys + buys') (money + money') s'' := by
  obtain ⟨p, p', hp, hp', hbuys, hmoney⟩ := h
  obtain ⟨q, q', hq, hq', hbuys', hmoney'⟩ := h'
  rw [hp'] at hq
  obtain rfl := Option.some.inj hq
  refine ⟨p, q', hp, hq', ?_, ?_⟩ <;> omega

theorem Pondered.spent (h : s.Pondered s') (hid : id.seat < s.players.length) :
    s.Spent id 0 0 s' := by
  obtain ⟨rng, logger, heq⟩ := h
  obtain ⟨p, hp⟩ := player?_of_lt hid
  refine ⟨p, p, hp, ?_, rfl, rfl⟩
  rw [heq]
  exact hp

theorem Spent.seated {buys money : Nat} (h : s.Spent id buys money s') :
    id.seat < s'.players.length := by
  obtain ⟨_, p', _, hp', _⟩ := h
  exact seat_lt_of_player? hp'

end GameState

theorem Shopping.accounts {id : PlayerId} {g g' : Game M} {xs : List (Purchase M)}
    {result : Except Halt Unit} (h : Shopping id g xs result g')
    (hg : g.state.Ready noCard) (hactive : g.state.activePlayer = id)
    (hid : id.seat < g.state.players.length) :
    (∀ x ∈ xs, x.Legal id ∧ x.Paid id) ∧
      g'.state.bought = g.state.bought ++ xs.map (Purchase.entry id) ∧
      (result = .ok () → g.state.Spent id xs.length (xs.map Purchase.cost).sum g'.state) := by
  induction h with
  | leave result h =>
    have hallows := Licence.Allows.ponder (L := .modest noCard) h
    refine ⟨List.forall_mem_nil _, ?_, fun _ => h.spent hid⟩
    rw [hallows.bought not_false]
    exact (List.append_nil _).symm
  | @buy g g₁ g₂ g' pile card rest result h hallowed hrun hrest ih =>
    have hallows := Licence.Allows.ponder (L := .modest noCard) h
    obtain ⟨p, q, top, hp, hpile, htop, hbuys, hmoney⟩ := GameState.exists_of_canBuy hallowed
    have hcost : Purchase.cost ⟨g₁, pile, card⟩ = g₁.state.cost q.definition := by
      simp [Purchase.cost, GameState.pileCost?, hpile]
    have hbuy := buy_purchased (M := M) (hallows.ready hg) hp hpile htop hbuys hmoney
    rw [Ensures, hrun] at hbuy
    obtain ⟨rfl, hpurchased, hspent⟩ := hbuy
    rw [← hcost] at hspent
    have hactive₂ : g₂.state.activePlayer = id := by
      rw [← hactive, GameState.activePlayer, hpurchased.active, hallows.active]
      rfl
    obtain ⟨hlegal, hlog, hpaid⟩ := ih hpurchased.ready hactive₂ hspent.seated
    refine ⟨List.forall_mem_cons.mpr ⟨⟨⟨?_, hallowed, ?_⟩, ?_⟩, hlegal⟩, ?_, ?_⟩
    · rw [← hactive, GameState.activePlayer, hallows.active]
      rfl
    · rw [hpile]
      exact htop
    · intro other g₃ hagain
      rw [hrun] at hagain
      obtain ⟨hcard, rfl⟩ := Prod.mk.inj hagain
      exact ⟨(Except.ok.inj hcard).symm, hspent⟩
    · rw [hlog, hpurchased.log, hallows.bought not_false, List.append_assoc]
      rfl
    · intro hok
      have htotal := ((h.spent hid).trans hspent).trans (hpaid hok)
      rw [Nat.zero_add, Nat.zero_add, Nat.add_comm 1] at htotal
      exact htotal
  | @fail g g₁ g' pile card halt h hallowed htop hrun =>
    have hallows := Licence.Allows.ponder (L := .modest noCard) h
    obtain ⟨p, q, top, hp, hpile, htop', hbuys, hmoney⟩ := GameState.exists_of_canBuy hallowed
    obtain rfl : top = card := by
      rw [hpile] at htop
      exact Option.some.inj (htop'.symm.trans htop)
    have hbuy := buy_purchased (M := M) (hallows.ready hg) hp hpile htop' hbuys hmoney
    rw [Ensures, hrun] at hbuy
    refine ⟨List.forall_mem_singleton.mpr ⟨⟨?_, hallowed, htop⟩, ?_⟩, ?_, ?_⟩
    · rw [← hactive, GameState.activePlayer, hallows.active]
      rfl
    · intro other g₃ hagain
      rw [hrun] at hagain
      exact absurd (Prod.mk.inj hagain).1 (by simp)
    · rw [hbuy.log, hallows.bought not_false]
      rfl
    · intro hok
      exact absurd hok (by simp)

/-! ### Treasures -/

/-- While treasures are played, the player is paid, and nothing is bought. -/
structure GameState.Browsing (s s' : GameState) : Prop where
  bought : s'.bought = s.bought
  active : s'.active = s.active
  seats : s'.players.length = s.players.length
  definitions : ∀ card, (s'.card? card).map (·.definition) = (s.card? card).map (·.definition)
  ready : s'.Ready noCard

namespace GameState.Browsing

variable {s s' s'' : GameState} {id : PlayerId}

theorem allows (h : s.Browsing s') (h' : (Licence.shopper id).Allows s' s'') : s.Browsing s'' where
  bought := (h'.bought not_false).trans h.bought
  active := h'.active.trans h.active
  seats := h'.seats.trans h.seats
  definitions card := by
    obtain ⟨hung, -, heq⟩ := h'.cards card
    rw [← h.definitions card, heq, Option.map_map]
    rfl
  ready := h'.ready h.ready

/-- A card comes into play. -/
theorem play (h : s.Browsing s') {p : Player} {tableau : Tableau} {card : CardId} {name : String}
    (hp : s'.player? id = some p) :
    s.Browsing ((s'.setPlayer id { p with toTableau := tableau }).publish id
      (.playCard card name)) where
  bought := by
    rw [bought_publish]
    exact (List.append_nil _).trans h.bought
  active := h.active
  seats := (length_players_setPlayer s' id _).trans h.seats
  definitions := h.definitions
  ready := by
    have hready := h.ready.players p (player?_mem hp)
    have hplayer : Player.Ready noCard { p with toTableau := tableau } :=
      ⟨fun _ _ h => h, hready.gain, hready.play⟩
    exact (h.ready.setPlayer id hplayer).congr (fun _ => rfl) rfl rfl rfl

end GameState.Browsing

/-- What a treasure of the catalog does when it is played. -/
theorem Registry.treasure_licensed {d : CardDefinition} (hd : d ∈ allCards)
    (htreasure : d.isTreasure = true) : Catalog.Licensed d := by
  apply allCards_licensed hd
  · intro hname
    have hall : ∀ d ∈ allCards, d.name = Catalog.lighthouse.name → d.isTreasure = false := by
      decide
    rw [hall d hd hname] at htreasure
    exact absurd htreasure (by simp)
  · intro hname
    have hall : ∀ d ∈ allCards, d.name = Catalog.throneRoom.name → d.isTreasure = false := by
      decide
    rw [hall d hd hname] at htreasure
    exact absurd htreasure (by simp)

namespace Engine

variable {id : PlayerId} {s : GameState} {g : Game M}

omit [Controllers M] in
/-- A computation that is licensed goes on browsing. -/
theorem Heeds.browsing {α : Type} {e : Engine M α} {Q : α → Prop} (id : PlayerId)
    (he : Heeds (.shopper id) e Q) (h : s.Browsing g.state) :
    Ensures e g (fun a g' => s.Browsing g'.state ∧ Q a) (fun _ g' => s.Browsing g'.state) :=
  (he g h.ready).mono (fun _ _ h' => ⟨h.allows h'.1, h'.2⟩) fun _ _ h' => h.allows h'

theorem play_browsing (card : CardId) (h : s.Browsing g.state) :
    Ensures (play run card id) g (fun _ g' => s.Browsing g'.state)
      (fun _ g' => s.Browsing g'.state) := by
  cases hc : g.state.card? card with
  | none =>
    simp only [play, ensures_bind, ensures_definition, hc]
    exact h
  | some c =>
  cases hp : g.state.player? id with
  | none =>
    simp only [play, ensures_bind, ensures_definition, hc, ensures_player, hp]
    exact h
  | some p =>
  cases hremove : p.toTableau.remove? card with
  | none =>
    simp only [play, ensures_bind, ensures_definition, hc, ensures_player, hp, hremove]
    exact (Heeds.browsing id (.warn _) h).imp fun _ _ h' => h'.1
  | some taken =>
    obtain ⟨zone, tableau⟩ := taken
    rw [ensures_play_iff hc hp hremove]
    have htriggers := firePlayTriggers_heeds (M := M) (L := .shopper id)
      (fun _ hwithin => run_heeds hwithin) rfl trivial card
    exact (htriggers.browsing id (g := ⟨_, g.memory⟩) (h.play hp)).imp fun _ _ h' => h'.1

theorem resolve_browsing {card : CardId} {c : Card} (hs : s.OfCatalog)
    (hc : s.card? card = some c) (htreasure : c.definition.isTreasure = true)
    (h : s.Browsing g.state) :
    Ensures (resolve run card id) g (fun _ g' => s.Browsing g'.state)
      (fun _ g' => s.Browsing g'.state) := by
  have hdefinition := h.definitions card
  rw [hc] at hdefinition
  obtain ⟨c', hc', hdef⟩ := Option.map_eq_some_iff.mp hdefinition
  dsimp only at hdef
  simp only [resolve, ensures_bind, ensures_definition, hc']
  have hlicensed := Registry.treasure_licensed (hs.registered card c hc) htreasure
  rw [← hdef] at hlicensed
  have hwithin := hlicensed (.shopper id) ⟨card, id⟩ rfl (fun _ => trivial) (fun _ h => h)
    fun _ _ _ => trivial
  have hheeds : Heeds (.shopper id) (executeAll run c'.definition.onPlay ⟨card, id⟩ : Engine M Unit)
      fun _ => True := executeAll_heeds (fun _ h => run_heeds h) hwithin
  exact (hheeds.browsing id h).imp fun _ _ h' => h'.1

omit [Controllers M] in
/-- What was in hand with the face of a treasure was a treasure from the beginning. -/
theorem treasure_of_browsing {card : CardId} (h : s.Browsing g.state)
    (hface : (g.state.face? card).any CardFace.isTreasure = true) :
    ∃ c, s.card? card = some c ∧ c.definition.isTreasure = true := by
  have hdefinition := h.definitions card
  cases hc' : g.state.card? card with
  | none => simp [GameState.face?, hc'] at hface
  | some c' =>
    rw [hc'] at hdefinition
    obtain ⟨c, hc, hdef⟩ := Option.map_eq_some_iff.mp hdefinition.symm
    simp only [GameState.face?, hc', Option.map_some, Option.any_some, Card.face] at hface
    dsimp only at hdef
    rw [← hdef] at hface
    exact ⟨c, hc, hface⟩

theorem treasurePhase_browsing (hs : s.OfCatalog) (n : Nat) (h : s.Browsing g.state) :
    Ensures (treasurePhase id n) g (fun _ g' => s.Browsing g'.state)
      (fun _ g' => s.Browsing g'.state) := by
  induction n generalizing g with
  | zero => exact h
  | succ n ih =>
    simp only [treasurePhase, ensures_bind]
    refine (ensures_handWhere_eq id _ g).mono ?_ ?_
    · rintro playable _ ⟨rfl, p, -, hplayable⟩
      rw [ensures_ite]
      refine ⟨fun _ => h, fun _ => ?_⟩
      rw [ensures_bind]
      have hthought : ∀ {g' g'' : Game M}, s.Browsing g'.state → g'.state.Pondered g''.state →
          s.Browsing g''.state := by
        intro g' g'' h h'
        have hallows : (Licence.shopper id).Allows g'.state g''.state := .ponder h'
        exact h.allows hallows
      refine (chooseTreasures_ponders id playable _).mono ?_ fun _ _ h' => hthought h h'
      rintro choice g₁ ⟨hpondered, hchoice⟩
      have h₁ := hthought h hpondered
      cases choice with
      | none => exact h₁
      | some cards =>
      cases cards with
      | nil => exact h₁
      | cons first rest =>
        rw [ensures_bind]
        refine (ensures_forM h₁ fun card hcard g₂ h₂ => ?_).imp fun _ _ h₃ => ih h₃
        have hmem := hchoice _ rfl card hcard
        rw [hplayable] at hmem
        obtain ⟨c, hc, htreasure⟩ := treasure_of_browsing h (List.mem_filter.mp hmem).2
        rw [ensures_bind]
        exact (play_browsing card h₂).imp fun _ _ h₃ => resolve_browsing hs hc htreasure h₃
    · rintro _ _ rfl
      exact h

/-- The buy phase up to the purchases. -/
def beforePurchases (id : PlayerId) : Engine M Unit := do
  modifyState fun s => { s with phase := .buy }
  treasurePhase id (← state).patience

theorem buyPhase_eq (id : PlayerId) :
    (buyPhase id : Engine M Unit) = (do
      beforePurchases id
      purchases id ((← state).supply.size + 1) : Engine M Unit) := by
  simp only [buyPhase, beforePurchases, bind_assoc]

theorem beforePurchases_browsing (hs : g.state.OfCatalog) (id : PlayerId) :
    Ensures (beforePurchases id) g (fun _ g' => g.state.Browsing g'.state)
      (fun _ g' => g.state.Browsing g'.state) := by
  simp only [beforePurchases, ensures_bind, ensures_modifyState, ensures_state]
  refine treasurePhase_browsing hs _ ⟨rfl, rfl, rfl, fun _ => rfl, ?_⟩
  have hready : g.state.Ready noCard :=
    hs.ready (fun _ _ _ _ h => h) (fun _ _ _ _ h => h) fun _ _ h => h
  exact hready.congr (fun _ => rfl) rfl rfl rfl

end Engine

/-- Whatever the controllers do: who can buy from a pile pays, with the gain, exactly one buy and what
the pile costs at that moment, and had both. And in a buy phase, once the treasures are played, each
card that is bought is the top card of a pile that the player whose turn it is could buy from right
before; the log has these purchases and no others, also if the phase is given up, and if it comes to
its end then as many buys are spent as cards were bought, and as much money as they cost. -/
theorem purchases_exact {config : GameConfig} {s₀ : GameState}
    (hinit : initGame Registry.catalog config = .ok s₀) {g : Game M} (hg : g.Reachable s₀) :
    (∀ id pile, g.state.canBuy id pile = true → ∀ card g',
      (Engine.buy run pile id).runOn g = (.ok card, g') →
        ∃ cost, g.state.pileCost? pile = some cost ∧ g.state.Spent id 1 cost g'.state) ∧
    ∀ id, id = g.state.activePlayer → ∀ result g', (buyPhase id).runOn g = (result, g') →
      ∃ g₁ xs, g₁.state.bought = g.state.bought ∧
        ((∃ halt, (beforePurchases id).runOn g = (.error halt, g₁) ∧ result = .error halt ∧
            g' = g₁ ∧ xs = []) ∨
          (beforePurchases id).runOn g = (.ok (), g₁) ∧ Shopping id g₁ xs result g') ∧
        (∀ x ∈ xs, x.Legal id ∧ x.Paid id) ∧
        g'.state.bought = g.state.bought ++ xs.map (Purchase.entry id) ∧
        (result = .ok () → g₁.state.Spent id xs.length (xs.map Purchase.cost).sum g'.state) := by
  obtain ⟨hcatalog, -⟩ := hg.ofCatalog (initGame_opened hinit).ofCatalog
  have hready : g.state.Ready noCard :=
    hcatalog.ready (fun _ _ _ _ h => h) (fun _ _ _ _ h => h) fun _ _ h => h
  constructor
  · intro id pile hallowed card g' hrun
    obtain ⟨p, q, top, hp, hpile, htop, hbuys, hmoney⟩ := GameState.exists_of_canBuy hallowed
    have hbuy := buy_purchased hready hp hpile htop hbuys hmoney
    rw [Ensures, hrun] at hbuy
    refine ⟨g.state.cost q.definition, ?_, hbuy.2.2⟩
    rw [GameState.pileCost?, hpile]
    rfl
  · intro id hid result g' hrun
    rw [buyPhase_eq, runOn_bind] at hrun
    have hbefore := beforePurchases_browsing hcatalog id
    unfold Ensures at hbefore
    cases htreasures : (beforePurchases id).runOn g with
    | mk outcome g₁ =>
      rw [htreasures] at hrun hbefore
      cases outcome with
      | error halt =>
        obtain ⟨rfl, rfl⟩ := Prod.mk.inj hrun
        refine ⟨g₁, [], hbefore.bought, Or.inl ⟨halt, rfl, rfl, rfl, rfl⟩, ?_, ?_, ?_⟩
        · exact List.forall_mem_nil _
        · rw [hbefore.bought]
          exact (List.append_nil _).symm
        · exact fun hok => absurd hok (by simp)
      | ok _ =>
        have hrow : ∃ xs, Shopping id g₁ xs result g' := by
          have hshopping := purchases_shopping id (g₁.state.supply.size + 1) g₁
          unfold Ensures at hshopping
          change (purchases id (g₁.state.supply.size + 1)).runOn g₁ = (result, g') at hrun
          rw [hrun] at hshopping
          cases result with
          | ok _ => exact hshopping
          | error _ => exact hshopping
        obtain ⟨xs, hshop⟩ := hrow
        have hactive : g₁.state.activePlayer = id := by
          rw [hid, GameState.activePlayer, hbefore.active]
          rfl
        have hseat : id.seat < g₁.state.players.length := by
          rw [hid, hbefore.seats]
          exact hcatalog.sound.active
        obtain ⟨hlegal, hlog, hspent⟩ := hshop.accounts hbefore.ready hactive hseat
        rw [hbefore.bought] at hlog
        exact ⟨g₁, xs, hbefore.bought, Or.inr ⟨rfl, hshop⟩, hlegal, hlog, hspent⟩

/-- The opening of a game between two players who answer at random. -/
theorem purchases_exact_at_random :
    ∃ s₀, initGame Registry.catalog { players := ["Player 1", "Player 2"] } = .ok s₀ ∧
      let g : Game Table := ⟨s₀, Table.ofMinds [.random, .random]⟩
      ∀ result g', (buyPhase g.state.activePlayer).runOn g = (result, g') →
        ∃ xs : List (Purchase Table),
          (∀ x ∈ xs, x.Legal g.state.activePlayer ∧ x.Paid g.state.activePlayer) ∧
          g'.state.bought = g.state.bought ++ xs.map (Purchase.entry g.state.activePlayer) := by
  obtain ⟨s₀, h⟩ := initGame_catalog
  refine ⟨s₀, h, ?_⟩
  intro g result g' hrun
  have hexact := purchases_exact h (.opening (Table.ofMinds [.random, .random]))
  obtain ⟨-, xs, -, -, hlegal, hlog, -⟩ := hexact.2 _ rfl result g' hrun
  exact ⟨xs, hlegal, hlog⟩

end DeckBuilder
