import DeckBuilder.Proofs.Pending

/-!
A turn from its start to the clean-up. Whatever is played and bought, and whatever the controllers
answer, the other players rest, what waits on cards waits on a table, and what the player has laid
down with a duration stays there. Only two cards are not within the licence of a turn: the Lighthouse,
which lays itself aside, and the Throne Room, which has another card played and carried out. So this
is shown for all cards together, by induction on the depth to which they provoke each other.
-/
namespace DeckBuilder

/-- After changes in the middle of the player's turn it is still in the middle of it. -/
structure GameState.Underway (id : PlayerId) (s s' : GameState) : Prop where
  midway : s'.Midway (· = id) noCard
  keeps : s.Keeps id s'

namespace GameState

variable {s s' s'' : GameState} {id : PlayerId} {card : CardId} {excused : CardId → Prop}

theorem Underway.trans (h : s.Underway id s') (h' : s'.Underway id s'') : s.Underway id s'' :=
  ⟨h'.midway, h.keeps.trans h'.keeps⟩

theorem Midway.underway (h : s.Midway (· = id) noCard) : s.Underway id s := ⟨h, .refl id s⟩

theorem Underway.of_and (h : s'.Midway (· = id) noCard ∧ s.Keeps id s') : s.Underway id s' :=
  ⟨h.1, h.2⟩

theorem Seated.congr {n : Nat} (h : s.Seated n) (hactive : s'.active = s.active)
    (hcards : ∀ card, s'.card? card = s.card? card) (hplayers : s'.players = s.players)
    (hsupply : s'.supply = s.supply) (htrash : s'.trash = s.trash) : s'.Seated n where
  seats := by rw [hplayers, h.seats]
  sound := by
    refine h.sound.congr hplayers hactive hsupply htrash fun card => ?_
    rw [Bool.eq_iff_iff, contains_iff_card?, contains_iff_card?, hcards]
  hooks := by
    refine ⟨?_, ?_⟩
    · rw [hplayers]
      exact h.hooks.players
    · intro card c hc
      rw [hcards] at hc
      exact h.hooks.cards card c hc
  rules := by
    intro card c hc
    rw [hcards] at hc
    exact h.rules card c hc

/-- What else changes does not matter. -/
theorem Midway.aside (h : s.Midway (· = id) excused) (hactive : s'.active = s.active)
    (hcards : ∀ card, s'.card? card = s.card? card) (hplayers : s'.players = s.players)
    (hsupply : s'.supply = s.supply) (htrash : s'.trash = s.trash) :
    s'.Midway (· = id) excused ∧ s.Keeps id s' := by
  have hseated := h.seated.congr hactive hcards hplayers hsupply htrash
  rw [← hplayers] at hseated
  exact ⟨h.congr hseated hcards hplayers hsupply htrash, .congr hactive hcards hplayers⟩

theorem Midway.ponder (h : s.Midway (· = id) noCard) (hpondered : s.Pondered s') :
    s.Underway id s' := by
  obtain ⟨rng, logger, rfl⟩ := hpondered
  exact .of_and (h.aside rfl (fun _ => rfl) rfl rfl rfl)

/-- A change of the counters leaves everything where it was. -/
theorem Midway.recount (h : s.Midway (· = id) excused) {p : Player} (hp : s.player? id = some p)
    {f : Tableau → Tableau} (hid : ∀ t, (f t).id = t.id) (hzones : ∀ t, (f t).zones = t.zones) :
    (s.setPlayer id (p.onTableau f)).Midway (· = id) excused ∧
      s.Keeps id (s.setPlayer id (p.onTableau f)) := by
  have hready := h.ready.players p (player?_mem hp)
  have hmem := player?_mem hp
  have hcards : (p.onTableau f).zones = p.zones := hzones p.toTableau
  have hlength := length_players_setPlayer s id (p.onTableau f)
  have hseated : (s.setPlayer id (p.onTableau f)).Seated s.players.length := by
    refine ⟨hlength, h.seated.sound.setPlayer hp _ (hid p.toTableau) ?_ ?_,
      ⟨?_, h.seated.hooks.cards⟩, h.seated.rules⟩
    · rw [hcards]
      exact h.seated.sound.mats p hmem
    · rw [Tableau.allCards, Tableau.allCards, hcards]
    · intro q hq
      rcases List.mem_or_eq_of_mem_set hq with hq | heq
      · exact h.seated.hooks.players q hq
      · rw [heq]
        exact ⟨(h.seated.hooks.players p hmem).gain, (h.seated.hooks.players p hmem).play⟩
  rw [← hlength] at hseated
  have htable : ∀ c ∈ p.zones.table, c ∈ (p.onTableau f).zones.table := by
    rw [hcards]
    exact fun _ hc => hc
  refine ⟨h.rearrange hp rfl rfl hseated ⟨fun _ _ h => h, hready.gain, hready.play⟩
    (fun c hc _ => htable c hc) (fun _ h => Or.inl h) ?_, ?_⟩
  · rw [hcards]
    exact fun _ hc => Or.inr hc
  · exact .rearrange hp rfl rfl rfl fun c hc _ => htable c hc

/-- A card that is in front of a player or in any other zone is a card of the game. -/
theorem Seated.carded {n : Nat} (h : s.Seated n) {p : Player} (hp : s.player? id = some p)
    (hcard : card ∈ p.allCards) : ∃ c, s.card? card = some c :=
  contains_iff_card?.mp (h.sound.contains_of_mem (mem_whereabouts_of_player hp hcard))

end GameState

namespace Engine

variable {M : Type} {α : Type} {id : PlayerId} {card : CardId} {excused : CardId → Prop} {g : Game M}

/-- Changes leave the table as it was seated. -/
theorem Acts.seated {e : Engine M α} {R : α → Prop} (hacts : Acts g.state.players.length e R)
    (h : g.state.Seated g.state.players.length) :
    Ensures e g (fun _ g' => g'.state.Seated g'.state.players.length)
      (fun _ g' => g'.state.Seated g'.state.players.length) := by
  have hreached : ∀ g', Reached M g.state.players.length g.state g' →
      g'.state.Seated g'.state.players.length := by
    intro g' hr
    have hseated := Changes.seated hr h
    rw [hseated.seats]
    exact hseated
  exact (hacts g.state h g .refl).mono (fun _ g' h' => hreached g' h'.1) fun _ g' h' => hreached g' h'

/-- What heeds the licence of the turn and makes changes only leaves the turn underway. -/
theorem Heeds.midway {e : Engine M α} {Q R : α → Prop} (h : g.state.Midway (· = id) excused)
    (he : Heeds (.turn g.state (· = id)) e Q) (hacts : Acts g.state.players.length e R) :
    Ensures e g (fun a g' => (g'.state.Midway (· = id) excused ∧ g.state.Keeps id g'.state) ∧ Q a)
      (fun _ _ => True) := by
  refine ((he g h.ready_fixed).and (hacts.seated h.seated)).mono ?_ fun _ _ _ => trivial
  rintro a g' ⟨⟨hallows, ha⟩, hseated⟩
  exact ⟨⟨h.allows hallows hseated, .of_allows hallows⟩, ha⟩

theorem Heeds.underway {e : Engine M α} {Q R : α → Prop} (h : g.state.Midway (· = id) noCard)
    (he : Heeds (.turn g.state (· = id)) e Q) (hacts : Acts g.state.players.length e R) :
    Ensures e g (fun a g' => g.state.Underway id g'.state ∧ Q a) (fun _ _ => True) :=
  (he.midway h hacts).imp fun _ _ h' => ⟨⟨h'.1.1, h'.1.2⟩, h'.2⟩

/-! ### Moves on the table -/

/-- A card in front of the player is laid into play or aside. -/
theorem ensures_lay (hs : g.state.Sound) {p : Player} (hp : g.state.player? id = some p)
    (hcard : card ∈ p.zones.table) {target : Zone} (htarget : PlayerZones.OnTable target)
    {Q : Option Zone → Game M → Prop} {E : Halt → Game M → Prop}
    (h : ∀ source, PlayerZones.OnTable source → card ∈ p.zones.row source →
      Q (some source) ⟨(g.state.setPlayer id { p with
        zones := p.zones.lay card source target }).publish id
          (.moveCard card (g.state.cardName card) source target), g.memory⟩) :
    Ensures (move card id target .top) g Q E := by
  obtain ⟨source, hsource, hrow, hloc⟩ := PlayerZones.locate_of_table
    (hs.mats p (GameState.player?_mem hp)) (hs.nodup_allCards hp) hcard
  have htransfer := PlayerZones.transfer_of_table hsource htarget hrow
  rw [move, ensures_step, GameState.move]
  simp only [hp, hloc, Tableau.transfer, htransfer, if_true]
  exact h source hsource hrow

/-- What a card laid on the table leaves. -/
theorem lay_midway (h : g.state.Midway (· = id) excused) (hlies : g.state.Lies id card)
    {target : Zone} (htarget : PlayerZones.OnTable target) {excused' : CardId → Prop}
    (hexcused : ∀ c, excused c → excused' c ∨ c = card ∧ target = .inPlay)
    (haside : target = .setAside → excused' card) {E : Halt → Game M → Prop} :
    Ensures (move card id target .top) g
      (fun _ g' => (g'.state.Midway (· = id) excused' ∧ g.state.Keeps id g'.state) ∧
        (∀ c, g'.state.card? c = g.state.card? c) ∧
        ∀ c, g'.state.Lies id c → g.state.Lies id c) E := by
  obtain ⟨p, hp, hcard⟩ := hlies
  have hs := h.seated.sound
  have hlay : Ensures (move card id target .top) g (fun _ g' => ∃ source,
      PlayerZones.OnTable source ∧ card ∈ p.zones.row source ∧
        g'.state = (g.state.setPlayer id { p with
          zones := p.zones.lay card source target }).publish id
            (.moveCard card (g.state.cardName card) source target)) (fun _ _ => False) :=
    ensures_lay hs hp hcard htarget fun source hsource hrow => ⟨source, hsource, hrow, rfl⟩
  refine (hlay.and ((move_acts card id target .top).seated h.seated)).mono ?_ fun _ _ h => h.1.elim
  rintro _ g' ⟨⟨source, hsource, hrow, heq⟩, hseated⟩
  have hplayers : g'.state.players = (g.state.setPlayer id { p with
      zones := p.zones.lay card source target }).players := by rw [heq]; rfl
  have hcards : g'.state.cards = g.state.cards := by rw [heq]; rfl
  have htable : ∀ c ∈ p.zones.table, c ∈ (p.zones.lay card source target).table :=
    fun c hc => PlayerZones.table_lay source htarget (Or.inl hc)
  refine ⟨⟨h.rearrange hp hplayers hcards hseated ?_ ?_ ?_ ?_, ?_⟩, ?_, ?_⟩
  · have hready := h.ready.players p (GameState.player?_mem hp)
    exact ⟨fun _ _ h => h, hready.gain, hready.play⟩
  · exact fun c hc _ => htable c hc
  · intro c hc
    rcases hexcused c hc with hc' | ⟨rfl, rfl⟩
    · exact Or.inl hc'
    · exact Or.inr (PlayerZones.not_setAside_lay (hs.nodup_allCards hp) hrow)
  · intro c hc
    rcases PlayerZones.setAside_lay hc with hmem | ⟨rfl, htarget⟩
    · exact Or.inr hmem
    · exact Or.inl (haside htarget)
  · refine .rearrange hp hplayers hcards ?_ fun c hc _ => htable c hc
    rw [heq]
    rfl
  · intro c
    rw [GameState.card?, hcards]
    rfl
  · rintro c ⟨q, hq, hmem⟩
    rw [GameState.player?, hplayers, ← GameState.player?, GameState.player?_setPlayer_self _ hp] at hq
    obtain rfl := Option.some.inj hq
    rcases PlayerZones.mem_table_of_lay hmem with hmem | heq
    · exact ⟨p, hp, hmem⟩
    · exact ⟨p, hp, heq ▸ hcard⟩

/-! ### Playing -/

/-- Where a card is, it is found. -/
theorem exists_remove? {p : Player} (hcard : card ∈ p.allCards) :
    ∃ taken, p.toTableau.remove? card = some taken := by
  obtain ⟨⟨zone, cards⟩, hentry, hmem⟩ := List.mem_flatMap.mp hcard
  have hsome : (p.zones.inOrder.find? fun entry => entry.2.contains card).isSome = true := by
    rw [List.find?_isSome]
    exact ⟨(zone, cards), hentry, List.contains_iff_mem.mpr hmem⟩
  obtain ⟨found, hfound⟩ := Option.isSome_iff_exists.mp hsome
  simp only [Tableau.remove?, PlayerZones.remove?, PlayerZones.locate, hfound, Option.map_some]
  exact ⟨_, rfl⟩

variable {provoke : Program → Engine M Bool}

section Provoking

variable (hheeds : ∀ {L : Licence} {p : Program}, p.Within L → Heeds L (provoke p) fun _ => True)
variable (hacts : ∀ {n : Nat} (p : Program), p.Seated n → Acts n (provoke p) fun _ => True)

include hheeds hacts

omit hheeds hacts in
/-- Who plays a card lays it into play. -/
theorem zones_afterPlay {p : Player} {zone : Zone} {tableau : Tableau}
    (hremove : p.toTableau.remove? card = some (zone, tableau)) (d : CardDefinition) :
    (afterPlay d card tableau).zones = p.zones.lay card zone .inPlay := by
  obtain ⟨zones, hzones, htableau⟩ := Tableau.remove?_eq_some hremove
  obtain ⟨-, hzones⟩ := PlayerZones.remove?_eq_some_iff.mp hzones
  rw [afterPlay_zones, htableau, hzones]
  rfl

omit hheeds hacts in
/-- The game right after a card has come into play. -/
theorem played_midway (h : g.state.Midway (· = id) noCard) {p : Player} {zone : Zone}
    {tableau : Tableau} (hp : g.state.player? id = some p)
    (hremove : p.toTableau.remove? card = some (zone, tableau)) (d : CardDefinition) (name : String) :
    let s := (g.state.setPlayer id { p with toTableau := afterPlay d card tableau }).publish id
      (.playCard card name)
    g.state.Underway id s ∧ s.Lies id card := by
  intro s
  have hlay := zones_afterPlay hremove d
  have hseated : s.Seated s.players.length := by
    have hid : (afterPlay d card tableau).id = tableau.id := by
      unfold afterPlay
      by_cases ht : d.isTreasure = true <;> simp only [ht] <;> rfl
    have hturns : (afterPlay d card tableau).turns = tableau.turns := by
      unfold afterPlay
      by_cases ht : d.isTreasure = true <;> simp only [ht] <;> rfl
    have hlaid : Reached M g.state.players.length g.state _ := reached_lay (g := g) .refl hp hremove
      hid hturns (show PlayerZones.holds .inPlay from rfl) (afterPlay_zones d card tableau)
    have hseats : s.players.length = g.state.players.length :=
      GameState.length_players_setPlayer g.state id _
    rw [hseats]
    exact (Changes.seated hlaid h.seated).congr rfl (fun _ => rfl) rfl rfl rfl
  have hmem : ∀ c, c ∈ p.zones.table ∨ c = card → c ∈ (afterPlay d card tableau).zones.table := by
    intro c hc
    rw [hlay]
    exact PlayerZones.table_lay zone trivial hc
  have hready := h.ready.players p (GameState.player?_mem hp)
  refine ⟨⟨h.rearrange hp rfl rfl hseated ⟨fun _ _ h => h, hready.gain, hready.play⟩ ?_ ?_ ?_,
    .rearrange hp rfl rfl rfl fun c hc _ => hmem c (Or.inl hc)⟩, ?_⟩
  · exact fun c hc _ => hmem c (Or.inl hc)
  · exact fun c hc => hc.elim
  · intro c hc
    rcases PlayerZones.setAside_lay (hlay ▸ hc) with haside | ⟨-, hzone⟩
    · exact Or.inr haside
    · exact absurd hzone (by simp)
  · exact ⟨_, GameState.player?_setPlayer_self _ hp, hmem card (Or.inr rfl)⟩

/-- A card is played: it lies in front of the player then, if the player had it. -/
theorem play_underway (h : g.state.Midway (· = id) noCard) (card : CardId) :
    Ensures (play provoke card id) g
      (fun _ g' => g.state.Underway id g'.state ∧
        ∀ p, g.state.player? id = some p → card ∈ p.allCards → g.state.Lasting card →
          g'.state.Lies id card) (fun _ _ => True) := by
  cases hc : g.state.card? card with
  | none =>
    simp only [play, ensures_bind, ensures_definition, hc]
  | some c =>
  cases hp : g.state.player? id with
  | none =>
    simp only [play, ensures_bind, ensures_definition, hc, ensures_player, hp]
  | some p =>
  cases hremove : p.toTableau.remove? card with
  | none =>
    simp only [play, ensures_bind, ensures_definition, hc, ensures_player, hp, hremove, ensures_warn]
    refine ⟨.of_and (h.aside rfl (fun _ => rfl) rfl rfl rfl), ?_⟩
    intro q hq hmem
    obtain rfl := Option.some.inj hq
    obtain ⟨taken, htaken⟩ := exists_remove? hmem
    rw [hremove] at htaken
    exact absurd htaken (by simp)
  | some taken =>
    obtain ⟨zone, tableau⟩ := taken
    have hplayed := played_midway h hp hremove c.definition c.definition.name
    have hplay := (play_acts (n := g.state.players.length) hacts card id).seated h.seated
    rw [ensures_play_iff hc hp hremove] at hplay ⊢
    generalize hg₁ : (⟨GameState.publish _ _ _, g.memory⟩ : Game M) = g₁ at hplay ⊢
    have hunderway : g.state.Underway id g₁.state := hg₁ ▸ hplayed.1
    have hlies : g₁.state.Lies id card := hg₁ ▸ hplayed.2
    have hfire := firePlayTriggers_heeds (L := .turn g₁.state (· = id)) (fun _ hp => hheeds hp) rfl
      trivial card
    refine ((hfire g₁ hunderway.midway.ready_fixed).and hplay).mono ?_ fun _ _ _ => trivial
    rintro _ g₂ ⟨⟨hallows, -⟩, hseated⟩
    have hafter := hunderway.trans ⟨hunderway.midway.allows hallows hseated, .of_allows hallows⟩
    refine ⟨hafter, ?_⟩
    intro _ _ _ hlasting
    exact hallows.lies ⟨hunderway.keeps.lasting hlasting, id, hlies⟩ hlies

end Provoking

/-! ### What the cards do -/

theorem ofCall_leads {handler : (c : Call) → Engine M c.Answer}
    {effect : Effect} {ctx : EffectContext} {c : Call} {P : Game M → Prop} {E : Halt → Game M → Prop}
    (heffect : ∀ k, effect.program ctx k = .call c fun _ => k)
    (h : Ensures (handler c) g (fun _ => P) E) :
    (Effect.step effect ctx).Leads handler g (fun _ => P) E := by
  intro k R hk
  simp only [Effect.step, heffect, interpret, ensures_bind]
  exact h.imp fun _ g' hg' => hk () g' hg'

theorem credit_underway (h : g.state.Midway (· = id) noCard) (counter : Counter) (k : Nat) :
    Ensures (modifyPlayer id (·.onTableau (·.credit k counter))) g
      (fun _ g' => g.state.Underway id g'.state) (fun _ _ => True) :=
  (Heeds.underway h (credit_heeds rfl counter k) (credit_acts id counter k)).imp fun _ _ h' => h'.1

theorem endWatch_seated {n : Nat} (ctx : EffectContext) : (Catalog.endWatch ctx).Seated n :=
  Script.Seated.once (Script.Seated.callBind trivial fun _ =>
    Script.Seated.callBind trivial fun _ => Script.Seated.pure trivial)

/-- A Lighthouse that has been laid aside is excused until something waits on it. -/
theorem addWatch_underway (h : g.state.Midway (· = id) (· = card))
    (hlies : g.state.Lies id card) (hdef : g.state.definition? card = some Catalog.lighthouse) :
    Ensures (addDuration card Catalog.endWatch) g (fun _ g' => g.state.Underway id g'.state)
      (fun _ _ => True) := by
  obtain ⟨c, hc, hcdef⟩ := Option.map_eq_some_iff.mp hdef
  have hlasting : g.state.Lasting card := ⟨_, hdef, rfl⟩
  have hangs : (Licence.turn g.state (· = id)).hangs card Catalog.endWatch :=
    ⟨⟨hlasting, id, hlies⟩, _, hdef, rfl, Or.inl ⟨rfl, rfl⟩⟩
  have hseated := (addDuration_acts (n := g.state.players.length) card
    fun ctx _ => endWatch_seated ctx).seated h.seated
  simp only [addDuration, ensures_bind, ensures_card, hc, ensures_modifyState] at hseated ⊢
  have hallows := Licence.Allows.hang g.state card hangs
  refine ⟨(h.allows hallows hseated).pardon ?_, .of_allows hallows⟩
  rintro _ _ _ _ other _ rfl
  refine ⟨(hallows.definition? other).trans hdef, ?_⟩
  rw [GameState.Pending, GameState.durations, GameState.card?, Store.get?_modify, if_pos rfl]
  change (((g.state.card? other).map _).map _).getD [] ≠ []
  rw [hc]
  exact List.append_ne_nil_of_right_ne_nil _ (List.cons_ne_nil _ _)

variable [Controllers M]

/-- Whatever card of the game is carried out this way, the turn stays underway. A card with a duration
must lie in front of the player. -/
def Resolves (id : PlayerId) (provoke : Program → Engine M Bool) : Prop :=
  ∀ (g : Game M) (card : CardId) (c : Card), g.state.Midway (· = id) noCard →
    id.seat < g.state.players.length → g.state.card? card = some c →
      (g.state.Lasting card → g.state.Lies id card) →
        Ensures (provoke (Effect.programAll ⟨card, id⟩ c.definition.onPlay (.finish false))) g
          (fun _ g' => g.state.Underway id g'.state) fun _ _ => True

omit [Controllers M] in
theorem resolve_underway (hresolves : Resolves id provoke) (h : g.state.Midway (· = id) noCard)
    (hid : id.seat < g.state.players.length) (hlies : g.state.Lasting card → g.state.Lies id card) :
    Ensures (resolve provoke card id) g (fun _ g' => g.state.Underway id g'.state)
      (fun _ _ => True) := by
  simp only [resolve, ensures_bind, ensures_definition]
  cases hc : g.state.card? card with
  | none => exact trivial
  | some c => exact ensures_executeAll h.underway fun _ => hresolves g card c h hid hc hlies

omit [Controllers M] in
/-- What a licensed card does keeps within the licence of the turn. -/
theorem licensed_within {c : Card} (hc : g.state.card? card = some c)
    (hlicensed : Catalog.Licensed c.definition) (hne : c.definition ≠ Catalog.lighthouse)
    (hlies : g.state.Lasting card → g.state.Lies id card) :
    (Effect.programAll ⟨card, id⟩ c.definition.onPlay (.finish false)).Within
      (.turn g.state (· = id)) := by
  have hdef : g.state.definition? card = some c.definition := by
    rw [GameState.definition?, hc]
    rfl
  have hfree : c.definition.is .duration = false →
      ¬ (Licence.turn g.state (· = id)).locked card := by
    rintro hnot ⟨⟨d, hd, hduration⟩, -⟩
    rw [hdef] at hd
    obtain rfl := Option.some.inj hd
    rw [hnot] at hduration
    exact absurd hduration (by simp)
  have hhang : c.definition.is .duration = true → ∀ effects : List Effect,
      (∀ effect ∈ effects, effect.Plain) →
      (Licence.turn g.state (· = id)).hangs card (Catalog.doLater effects) := by
    intro hduration effects hplain
    have hlasting : g.state.Lasting card := ⟨_, hdef, hduration⟩
    exact ⟨⟨hlasting, id, hlies hlasting⟩, _, hdef, hduration,
      Or.inr ⟨hne, effects, hplain, rfl⟩⟩
  have hwithin := hlicensed (.turn g.state (· = id)) ⟨card, id⟩ rfl (fun _ => trivial) hfree hhang
  exact Effect.WithinAll.program c.definition.onPlay hwithin (k := .finish false) trivial

theorem licensed_underway (depth : Nat) (h : g.state.Midway (· = id) noCard)
    (hid : id.seat < g.state.players.length) {c : Card} (hc : g.state.card? card = some c)
    (hlicensed : Catalog.Licensed c.definition) (hne : c.definition ≠ Catalog.lighthouse)
    (hlies : g.state.Lasting card → g.state.Lies id card) :
    Ensures (runWithin depth (Effect.programAll ⟨card, id⟩ c.definition.onPlay (.finish false))) g
      (fun _ g' => g.state.Underway id g'.state) fun _ _ => True := by
  have hprogram := licensed_within hc hlicensed hne hlies
  have hseated : (Effect.programAll ⟨card, id⟩ c.definition.onPlay (.finish false)).Seated
      g.state.players.length :=
    Effect.SeatedAll.program hid c.definition.onPlay (h.seated.rules card c hc).play trivial
  exact (Heeds.underway h (runWithin_heeds depth hprogram) (runWithin_acts depth _ hseated)).imp
    fun _ _ h' => h'.1

/-- The Lighthouse pays, lays itself aside and has something wait on itself. -/
theorem lighthouse_underway (depth : Nat) (h : g.state.Midway (· = id) noCard)
    (hdef : g.state.definition? card = some Catalog.lighthouse) (hlies : g.state.Lies id card) :
    Ensures (runWithin (depth + 1)
      (Effect.programAll ⟨card, id⟩ Catalog.lighthouse.onPlay (.finish false))) g
      (fun _ g' => g.state.Underway id g'.state) fun _ _ => True := by
  have hlasting : g.state.Lasting card := ⟨_, hdef, rfl⟩
  refine Script.Leads.programAll (Script.Leads.steps_cons
    (ofCall_leads (fun _ => rfl) ((credit_underway h .actions 1).imp ?_)))
  intro _ g₁ h₁
  refine Script.Leads.steps_cons
    (ofCall_leads (fun _ => rfl) ((credit_underway h₁.midway .money 1).imp ?_))
  intro _ g₂ h₂
  have hlies₂ := (h₁.trans h₂).keeps.stays card hlasting hlies
  have hdef₂ := ((h₁.trans h₂).keeps.definitions card).trans hdef
  have haside : PlayerZones.OnTable .setAside := trivial
  have hlay : Ensures (move card id .setAside .top) g₂ (fun _ g' =>
      g'.state.Midway (· = id) (· = card) ∧ g₂.state.Keeps id g'.state) fun _ _ => True := by
    refine (lay_midway h₂.midway hlies₂ haside (fun _ h => h.elim) ?_).imp fun _ _ h => h.1
    exact fun _ => rfl
  refine Script.Leads.steps_scripted (Script.Leads.callBind (hlay.imp ?_))
  rintro _ g₃ ⟨hmidway₃, hkeeps₃⟩
  have hlies₃ := hkeeps₃.stays card ((h₁.trans h₂).keeps.lasting hlasting) hlies₂
  have hdef₃ := (hkeeps₃.definitions card).trans hdef₂
  refine Script.Leads.addDuration ((addWatch_underway hmidway₃ hlies₃ hdef₃).imp ?_)
  intro _ g₄ h₄
  exact ⟨h₄.midway, ((h₁.trans h₂).keeps.trans hkeeps₃).trans h₄.keeps⟩

/-- The Throne Room has a card from the hand played and carried out twice. -/
theorem throneRoom_underway {depth : Nat} (hresolves : Resolves (M := M) id (runWithin depth))
    (h : g.state.Midway (· = id) noCard) (hid : id.seat < g.state.players.length) :
    Ensures (runWithin (depth + 1)
      (Effect.programAll ⟨card, id⟩ Catalog.throneRoom.onPlay (.finish false))) g
      (fun _ g' => g.state.Underway id g'.state) fun _ _ => True := by
  obtain ⟨p, hp⟩ := GameState.player?_of_lt hid
  have hheld : ∀ c ∈ p.hand, c ∈ p.allCards :=
    fun c hc => PlayerZones.mem_allCards_of_mem_row (show c ∈ p.zones.row .hand from hc)
  refine Script.Leads.programAll (Script.Leads.steps_scripted (Script.Leads.bind
    (Script.Leads.handWhere hp (fun c hc => h.seated.carded hp (hheld c hc)) fun actions hactions =>
      Script.Leads.callBind
        ((chooseCards_ponders id _ g).mono ?_ fun _ _ _ => trivial))))
  rintro chosen g₁ ⟨hpondered, hchosen⟩
  have h₁ := h.ponder hpondered
  cases hhead : chosen.head? with
  | none => exact Script.Leads.pure h₁
  | some other =>
    have hmem : other ∈ p.allCards :=
      hheld other (hactions.mem (hchosen other (List.mem_of_mem_head? hhead)))
    have hp₁ : g₁.state.player? id = some p := by
      obtain ⟨rng, logger, heq⟩ := hpondered
      rw [heq]
      exact hp
    refine Script.Leads.callBind ((play_underway (fun hp => runWithin_heeds depth hp)
      (runWithin_acts depth) h₁.midway other).imp ?_)
    rintro _ g₂ ⟨h₂, hlies⟩
    have hlies₂ : g₂.state.Lasting other → g₂.state.Lies id other := by
      intro hlasting
      rw [GameState.Lasting, h₂.keeps.definitions] at hlasting
      exact hlies p hp₁ hmem hlasting
    have hsecond := h₁.trans h₂
    refine Script.Leads.callBind
      ((resolve_underway hresolves h₂.midway (hsecond.keeps.seated hid) hlies₂).imp ?_)
    intro _ g₃ h₃
    have hthird := hsecond.trans h₃
    refine (Script.Leads.call
      ((resolve_underway hresolves h₃.midway (hthird.keeps.seated hid) ?_).imp ?_))
    · intro hlasting
      have hbefore : g₂.state.Lasting other := by
        rw [GameState.Lasting, ← h₃.keeps.definitions]
        exact hlasting
      exact h₃.keeps.stays other hbefore (hlies₂ hbefore)
    · intro _ g₄ h₄
      exact hthird.trans h₄

end Engine

namespace Registry

theorem eq_lighthouse {d : CardDefinition} (hd : d ∈ allCards)
    (h : d.name = Catalog.lighthouse.name) : d = Catalog.lighthouse := by
  refine eq_of_filter (p := fun d => d.name == Catalog.lighthouse.name) rfl hd ?_
  simpa using h

theorem eq_throneRoom {d : CardDefinition} (hd : d ∈ allCards)
    (h : d.name = Catalog.throneRoom.name) : d = Catalog.throneRoom := by
  refine eq_of_filter (p := fun d => d.name == Catalog.throneRoom.name) rfl hd ?_
  simpa using h

end Registry

namespace Engine

variable {M : Type} [Controllers M] {id : PlayerId} {card : CardId} {g : Game M}

/-- However deep cards provoke each other. -/
theorem runWithin_resolves (depth : Nat) : Resolves (M := M) id (runWithin depth) := by
  induction depth with
  | zero => exact fun _ _ _ _ _ _ _ => trivial
  | succ depth ih =>
    intro g card c h hid hc hlies
    have hd := h.registered card c hc
    have hdef : g.state.definition? card = some c.definition := by
      rw [GameState.definition?, hc]
      rfl
    by_cases hlighthouse : c.definition.name = Catalog.lighthouse.name
    · rw [Registry.eq_lighthouse hd hlighthouse] at hdef ⊢
      exact lighthouse_underway depth h hdef (hlies ⟨_, hdef, rfl⟩)
    by_cases hthroneRoom : c.definition.name = Catalog.throneRoom.name
    · rw [Registry.eq_throneRoom hd hthroneRoom]
      exact throneRoom_underway ih h hid
    · have hlicensed := Registry.allCards_licensed hd hlighthouse hthroneRoom
      have hne : c.definition ≠ Catalog.lighthouse :=
        fun heq => hlighthouse (congrArg (·.name) heq)
      exact licensed_underway (depth + 1) h hid hc hlicensed hne hlies

theorem run_resolves : Resolves (M := M) id run := by
  intro g card c h hid hc hlies
  simp only [run, ensures_bind, ensures_state]
  exact runWithin_resolves _ g card c h hid hc hlies

/-- A card from the hand is played and carried out. -/
theorem playAndResolve_underway (h : g.state.Midway (· = id) noCard)
    (hid : id.seat < g.state.players.length)
    (hcard : g.state.Lasting card → ∃ p, g.state.player? id = some p ∧ card ∈ p.allCards) :
    Ensures (do play run card id; resolve run card id) g
      (fun _ g' => g.state.Underway id g'.state) fun _ _ => True := by
  rw [ensures_bind]
  refine (play_underway (fun hp => run_heeds hp) run_acts h card).imp ?_
  rintro _ g₁ ⟨h₁, hlies⟩
  have hid₁ := h₁.keeps.seated hid
  refine (resolve_underway run_resolves h₁.midway hid₁ ?_).imp fun _ _ h₂ => h₁.trans h₂
  intro hlasting
  rw [GameState.Lasting, h₁.keeps.definitions] at hlasting
  obtain ⟨p, hp, hmem⟩ := hcard hlasting
  exact hlies p hp hmem hlasting

/-! ### The phases -/

theorem actionPhase_underway (n : Nat) (h : g.state.Midway (· = id) noCard)
    (hid : id.seat < g.state.players.length) :
    Ensures (actionPhase id n) g (fun _ g' => g.state.Underway id g'.state) fun _ _ => True := by
  induction n generalizing g with
  | zero => exact trivial
  | succ n ih =>
    obtain ⟨p, hp⟩ := GameState.player?_of_lt hid
    simp only [actionPhase, ensures_bind, ensures_player, hp]
    rw [ensures_ite]
    refine ⟨fun _ => h.underway, fun _ => ?_⟩
    rw [ensures_bind]
    refine (ensures_handWhere_eq id _ g).mono ?_ fun _ _ _ => trivial
    rintro playable g ⟨rfl, q, hq, hplayable⟩
    obtain rfl := Option.some.inj (hp.symm.trans hq)
    rw [ensures_ite]
    refine ⟨fun _ => h.underway, fun _ => ?_⟩
    rw [ensures_bind]
    refine (chooseAction_ponders id playable _).mono ?_ fun _ _ _ => trivial
    rintro choice g₁ ⟨hpondered, hchoice⟩
    have h₁ := h.ponder hpondered
    cases choice with
    | none => exact h₁
    | some card =>
      have hcard : card ∈ p.hand := by
        have hmem := hchoice card rfl
        rw [hplayable] at hmem
        exact (List.mem_filter.mp hmem).1
      have hp₁ : g₁.state.player? id = some p := by
        obtain ⟨rng, logger, heq⟩ := hpondered
        rw [heq]
        exact hp
      simp only [ensures_bind, ensures_modifyPlayer, hp₁]
      generalize hg₂ : (⟨GameState.setPlayer _ _ _, g₁.memory⟩ : Game M) = g₂
      have h₂ : g.state.Underway id g₂.state := by
        rw [← hg₂]
        exact h₁.trans (.of_and (h₁.midway.recount hp₁ (fun _ => rfl) fun _ => rfl))
      have hheld : ∃ q, g₂.state.player? id = some q ∧ card ∈ q.allCards := by
        rw [← hg₂]
        refine ⟨_, GameState.player?_setPlayer_self _ hp₁, ?_⟩
        exact PlayerZones.mem_allCards_of_mem_row (show card ∈ p.zones.row .hand from hcard)
      have hid₂ := h₂.keeps.seated hid
      have hplay := playAndResolve_underway h₂.midway hid₂ fun _ => hheld
      rw [ensures_bind] at hplay
      refine hplay.imp fun _ _ hresolve => hresolve.imp fun _ g₄ h₄ => ?_
      have hid₄ := h₄.keeps.seated hid₂
      exact (ih h₄.midway hid₄).imp fun _ _ h₅ => (h₂.trans h₄).trans h₅

omit [Controllers M] in
/-- No treasure has a duration. -/
theorem treasure_not_lasting (h : g.state.Midway (· = id) noCard)
    (hface : (g.state.face? card).any CardFace.isTreasure = true) : ¬ g.state.Lasting card := by
  rintro ⟨d, hd, hduration⟩
  obtain ⟨c, hc, rfl⟩ := Option.map_eq_some_iff.mp hd
  have hall : ∀ d ∈ Registry.allCards, d.isTreasure = true → d.is .duration = false := by decide
  have htreasure : c.definition.isTreasure = true := by
    simpa [GameState.face?, hc, Card.face] using hface
  rw [hall _ (h.registered card c hc) htreasure] at hduration
  exact absurd hduration (by simp)

theorem treasurePhase_underway (n : Nat) (h : g.state.Midway (· = id) noCard)
    (hid : id.seat < g.state.players.length) :
    Ensures (treasurePhase id n) g (fun _ g' => g.state.Underway id g'.state) fun _ _ => True := by
  induction n generalizing g with
  | zero => exact trivial
  | succ n ih =>
    simp only [treasurePhase, ensures_bind]
    refine (ensures_handWhere_eq id _ g).mono ?_ fun _ _ _ => trivial
    rintro playable g ⟨rfl, p, -, hplayable⟩
    rw [ensures_ite]
    refine ⟨fun _ => h.underway, fun _ => ?_⟩
    rw [ensures_bind]
    refine (chooseTreasures_ponders id playable _).mono ?_ fun _ _ _ => trivial
    rintro choice g₁ ⟨hpondered, hchoice⟩
    have h₁ := h.ponder hpondered
    cases choice with
    | none => exact h₁
    | some cards =>
    cases cards with
    | nil => exact h₁
    | cons first rest =>
      rw [ensures_bind]
      refine (ensures_forM (I := fun g' => g.state.Underway id g'.state) h₁
        fun card hcard g₂ h₂ => ?_).imp fun _ g₃ h₃ => ?_
      · have hmem := hchoice _ rfl card hcard
        rw [hplayable] at hmem
        have hnot := treasure_not_lasting h (List.mem_filter.mp hmem).2
        have hid₂ := h₂.keeps.seated hid
        refine (playAndResolve_underway h₂.midway hid₂ ?_).imp fun _ _ h₃ => h₂.trans h₃
        intro hlasting
        rw [GameState.Lasting, h₂.keeps.definitions] at hlasting
        exact absurd hlasting hnot
      · have hid₃ := h₃.keeps.seated hid
        exact (ih h₃.midway hid₃).imp fun _ _ h₄ => h₃.trans h₄

theorem buy_underway (h : g.state.Midway (· = id) noCard) (hid : id.seat < g.state.players.length)
    (pile : String) :
    Ensures (buy run pile id) g (fun _ g' => g.state.Underway id g'.state) fun _ _ => True := by
  have hbuys : (Licence.turn g.state (· = id)).buys := trivial
  have hbuy := buy_heeds (M := M) (fun _ hp => (run_heeds hp).of_modest) pile hbuys rfl
  exact (hbuy.underway h (buy_acts run_acts pile hid)).imp fun _ _ h' => h'.1

theorem purchases_underway (n : Nat) (h : g.state.Midway (· = id) noCard)
    (hid : id.seat < g.state.players.length) :
    Ensures (purchases id n) g (fun _ g' => g.state.Underway id g'.state) fun _ _ => True := by
  induction n generalizing g with
  | zero => exact trivial
  | succ n ih =>
    simp only [purchases, ensures_bind, ensures_state]
    rw [ensures_ite]
    refine ⟨fun _ => h.underway, fun _ => ?_⟩
    rw [ensures_bind]
    refine (choosePurchase_ponders id _ g).mono ?_ fun _ _ _ => trivial
    rintro choice g₁ ⟨hpondered, -⟩
    have h₁ := h.ponder hpondered
    cases choice with
    | none => exact h₁
    | some pile =>
      have hid₁ := h₁.keeps.seated hid
      rw [ensures_bind]
      refine (buy_underway h₁.midway hid₁ pile).imp fun _ g₂ h₂ => ?_
      simp only [ensures_bind, ensures_player]
      cases g₂.state.player? id with
      | none => exact trivial
      | some p₂ =>
        simp only [ensures_verbose]
        generalize hg₃ : (⟨g₂.state.onLogger _, g₂.memory⟩ : Game M) = g₃
        have h₃ : g₂.state.Underway id g₃.state := by
          rw [← hg₃]
          exact .of_and (h₂.midway.aside rfl (fun _ => rfl) rfl rfl rfl)
        have hid₃ := (h₂.trans h₃).keeps.seated hid₁
        exact (ih h₃.midway hid₃).imp fun _ _ h₄ => ((h₁.trans h₂).trans h₃).trans h₄

theorem buyPhase_underway (h : g.state.Midway (· = id) noCard)
    (hid : id.seat < g.state.players.length) :
    Ensures (buyPhase id) g (fun _ g' => g.state.Underway id g'.state) fun _ _ => True := by
  simp only [buyPhase, ensures_bind, ensures_modifyState, ensures_state]
  generalize hg₁ : (⟨{ g.state with phase := _ }, g.memory⟩ : Game M) = g₁
  have h₁ : g.state.Underway id g₁.state := by
    rw [← hg₁]
    exact .of_and (h.aside rfl (fun _ => rfl) rfl rfl rfl)
  have hid₁ := h₁.keeps.seated hid
  refine (treasurePhase_underway _ h₁.midway hid₁).imp fun _ g₂ h₂ => ?_
  have hid₂ := h₂.keeps.seated hid₁
  exact (purchases_underway _ h₂.midway hid₂).imp fun _ _ h₃ => (h₁.trans h₂).trans h₃

end Engine

end DeckBuilder
