import DeckBuilder.Proofs.CleanUp
import DeckBuilder.Proofs.Watched

/-!
Players on guard. A player is on guard from when a Lighthouse that the player has played is no longer in
play until the player's next turn begins; that is read off the events. Such a Lighthouse lies aside all
the while: nothing that keeps to the licence of a turn moves it, and when it is played and carried out it
comes there. So whoever is on guard is kept from attacks.
-/
namespace DeckBuilder

namespace PlayerZones

variable {z : PlayerZones} {card c : CardId}

/-- Another card that is set aside stays there when a card is laid somewhere. -/
theorem mem_setAside_lay (source target : Zone) (hne : c ≠ card) (h : c ∈ z.setAside) :
    c ∈ (z.lay card source target).setAside := by
  have herase : c ∈ (z.update source (·.erase card)).setAside := by
    cases source with
    | setAside => exact (List.mem_erase_of_ne hne).mpr h
    | _ => exact h
  cases target with
  | setAside => exact List.mem_append_left _ herase
  | _ => exact herase

theorem mem_setAside_lay_self (source : Zone) : card ∈ (z.lay card source .setAside).setAside :=
  List.mem_append_right _ List.mem_cons_self

theorem mem_inPlay_lay_self (source : Zone) : card ∈ (z.lay card source .inPlay).inPlay :=
  List.mem_append_right _ List.mem_cons_self

end PlayerZones

/-- The licence under which no card leaves a table and nothing is hung on cards. -/
def Licence.frozen : Licence := ⟨fun _ => True, fun _ => True, fun _ _ => False, False, True⟩

namespace GameState

/-! ### What was played this turn -/

/-- The cards that the player has played since the player's last turn began, the last one first. -/
def played (s : GameState) (id : PlayerId) : List CardId :=
  s.deeds.foldl (fun cards deed =>
    if deed.1 = id then
      match deed.2 with
      | .turn => []
      | .play card => card :: cards
    else cards) []

variable {s s' : GameState} {id other : PlayerId} {card : CardId}

theorem played_congr (h : s'.deeds = s.deeds) (id : PlayerId) : s'.played id = s.played id := by
  rw [played, h, played]

theorem played_publish_of_none {kind : EventKind} (h : kind.deed? = none) :
    (s.publish other kind).played id = s.played id := by
  refine played_congr ?_ id
  rw [deeds_publish, h]
  exact List.append_nil _

theorem played_publish_playCard (name : String) :
    (s.publish other (.playCard card name)).played id =
      if other = id then card :: s.played id else s.played id := by
  simp only [played, deeds_publish, EventKind.deed?, Option.map_some, Option.toList_some,
    List.foldl_append, List.foldl_cons, List.foldl_nil]

theorem played_publish_startTurn :
    (s.publish other .startTurn).played id = if other = id then [] else s.played id := by
  simp only [played, deeds_publish, EventKind.deed?, Option.map_some, Option.toList_some,
    List.foldl_append, List.foldl_cons, List.foldl_nil]

/-! ### Guards -/

/-- The player has played a Lighthouse since the player's last turn began. If that turn is still going
on, the Lighthouse has done what it does when it is played: it is no longer in play. -/
def onGuard (s : GameState) (id : PlayerId) : Bool :=
  (s.played id).any fun card =>
    (s.face? card).any (·.name == Catalog.lighthouse.name) &&
      (s.activePlayer ≠ id || !(s.player? id).any (·.inPlay.contains card))

/-- Whoever is on guard has a card set aside that keeps attacks off. -/
def Shielded (s : GameState) : Prop :=
  ∀ id, s.onGuard id = true →
    ∃ p, s.player? id = some p ∧ p.zones.setAside.any (s.grants .whileSetAside) = true

/-- The card lies aside, or it is an excused one that its player has in play now. -/
def Posted (excused : CardId → Prop) (s : GameState) (id : PlayerId) (card : CardId) : Prop :=
  ∃ p, s.player? id = some p ∧
    (card ∈ p.zones.setAside ∨ excused card ∧ s.activePlayer = id ∧ card ∈ p.inPlay)

/-- Lighthouses that were played since their player's last turn began are posted. -/
structure Guarding (excused : CardId → Prop) (s : GameState) : Prop where
  registered : ∀ card c, s.card? card = some c → c.definition ∈ Registry.allCards
  posted : ∀ id, ∀ card ∈ s.played id, s.definition? card = some Catalog.lighthouse →
    s.Posted excused id card

namespace Guarding

variable {excused excused' : CardId → Prop}

theorem shielded (h : s.Guarding excused) : s.Shielded := by
  intro id hguard
  obtain ⟨card, hcard, hwatch⟩ := List.any_eq_true.mp hguard
  obtain ⟨hname, haway⟩ := Bool.and_eq_true_iff.mp hwatch
  cases hc : s.card? card with
  | none => simp [face?, hc] at hname
  | some c =>
  have hlighthouse : c.definition.name = Catalog.lighthouse.name := by
    simpa [face?, hc, Card.face] using hname
  have hdef : s.definition? card = some Catalog.lighthouse := by
    rw [definition?, hc, ← Registry.eq_lighthouse (h.registered card c hc) hlighthouse]
    rfl
  obtain ⟨p, hp, haside | ⟨-, hactive, hplay⟩⟩ := h.posted id card hcard hdef
  · refine ⟨p, hp, List.any_eq_true.mpr ⟨card, haside, ?_⟩⟩
    obtain ⟨c', hc', hdef'⟩ := Option.map_eq_some_iff.mp hdef
    simp only [grants, face?, hc', Option.map_some, Card.face, hdef']
    rfl
  · simp [hp, hactive, hplay] at haway

/-- What is to be shown of a change: what is played by it is posted, and Lighthouses stay so, if they
still count as played then. -/
theorem step (h : s.Guarding excused) (hdefinitions : ∀ card, s'.definition? card = s.definition? card)
    (hplayed : ∀ id, ∀ card ∈ s'.played id, card ∈ s.played id ∨ s'.Posted excused' id card)
    (hstays : ∀ id, ∀ card ∈ s'.played id, s.definition? card = some Catalog.lighthouse →
      s.Posted excused id card → s'.Posted excused' id card) : s'.Guarding excused' where
  registered := by
    intro card c hc
    obtain ⟨before, hbefore, heq⟩ := carded_before (hdefinitions card) hc
    rw [← heq]
    exact h.registered card before hbefore
  posted := by
    intro id card hcard hdef
    rw [hdefinitions] at hdef
    rcases hplayed id card hcard with hbefore | hposted
    · exact hstays id card hcard hdef (h.posted id card hbefore hdef)
    · exact hposted

/-- More may be excused, and what is no Lighthouse needs no excuse. -/
theorem weaken (h : s.Guarding excused)
    (hexcused : ∀ card, s.definition? card = some Catalog.lighthouse → excused card → excused' card) :
    s.Guarding excused' := by
  refine h.step (fun _ => rfl) (fun _ _ hcard => Or.inl hcard) fun id card _ hdef hposted => ?_
  obtain ⟨p, hp, hcard⟩ := hposted
  exact ⟨p, hp, hcard.imp_right fun hcard => ⟨hexcused card hdef hcard.1, hcard.2⟩⟩

/-- If nothing is played, and Lighthouses are locked on the tables. -/
theorem allows {L : Licence} (h : s.Guarding excused) (hallows : L.Allows s s')
    (hlocked : ∀ id card, s.definition? card = some Catalog.lighthouse → s.Lies id card →
      L.locked card) : s'.Guarding excused := by
  refine h.step hallows.definition? ?_ ?_
  · intro id card hcard
    rw [played_congr hallows.deeds] at hcard
    exact Or.inl hcard
  · rintro id card - hdef ⟨p, hp, hcard⟩
    obtain ⟨p', hp', hplayer⟩ := hallows.players id p hp
    have hactive : s'.activePlayer = s.activePlayer := congrArg PlayerId.mk hallows.active
    refine ⟨p', hp', ?_⟩
    rcases hcard with haside | ⟨hexcused, hid, hplay⟩
    · have hlock := hlocked id card hdef ⟨p, hp, List.mem_append_right _ haside⟩
      exact Or.inl (hplayer.zones.keepsAside card hlock haside)
    · have hlock := hlocked id card hdef ⟨p, hp, List.mem_append_left _ hplay⟩
      exact Or.inr ⟨hexcused, hactive.trans hid, hplayer.zones.keepsPlay card hlock hplay⟩

/-- The licence of a turn locks them. -/
theorem turn {busy : PlayerId → Prop} (h : s.Guarding excused)
    (hallows : (Licence.turn s busy).Allows s s') : s'.Guarding excused :=
  h.allows hallows fun id _ hdef hlies => ⟨⟨_, hdef, rfl⟩, id, hlies⟩

theorem frozen (h : s.Guarding excused) (hallows : Licence.frozen.Allows s s') : s'.Guarding excused :=
  h.allows hallows fun _ _ _ _ => trivial

theorem pondered (h : s.Guarding excused) (hpondered : s.Pondered s') : s'.Guarding excused :=
  h.frozen (.ponder hpondered)

/-- A player's cards are arranged anew. Nothing is played by it but perhaps a card that is posted then,
and of the others set aside all stay. -/
theorem rearrange (h : s.Guarding excused) {p p' : Player} (hp : s.player? id = some p)
    (hplayers : s'.players = (s.setPlayer id p').players)
    (hdefinitions : ∀ card, s'.definition? card = s.definition? card)
    (hplayed : ∀ other, ∀ card ∈ s'.played other, card ∈ s.played other ∨ s'.Posted excused' other card)
    (haside : ∀ card ∈ p.zones.setAside, s'.Posted excused' id card)
    (hexcused : ∀ card, excused card → s'.Posted excused' id card) (hid : s.activePlayer = id) :
    s'.Guarding excused' := by
  refine h.step hdefinitions hplayed ?_
  rintro other card - - ⟨q, hq, hcard⟩
  by_cases hother : id = other
  · rw [← hother, hp] at hq
    obtain rfl := Option.some.inj hq
    rw [← hother]
    rcases hcard with hcard | ⟨hexc, -, -⟩
    · exact haside card hcard
    · exact hexcused card hexc
  · refine ⟨q, ?_, Or.inl ?_⟩
    · rw [player?, hplayers]
      exact (player?_setPlayer (seat_lt_of_player? hp)).trans ((if_neg hother).trans hq)
    · exact hcard.resolve_right fun hcard => hother (hid.symm.trans hcard.2.1)

end Guarding

/-! ### A turn with guards -/

/-- The middle of the player's turn, with the guards posted. -/
structure Watchful (id : PlayerId) (s : GameState) : Prop where
  midway : s.Midway (· = id) noCard
  active : s.activePlayer = id
  guarding : s.Guarding noCard

/-- After changes in the middle of the player's turn the guards are still posted. -/
structure Warded (id : PlayerId) (s s' : GameState) : Prop where
  watchful : s'.Watchful id
  keeps : s.Keeps id s'

theorem Watchful.seated (h : s.Watchful id) : id.seat < s.players.length :=
  h.active ▸ h.midway.seated.sound.active

theorem Watchful.step (h : s.Watchful id) (hunderway : s.Underway id s')
    (hguarding : s'.Guarding noCard) : s.Warded id s' :=
  ⟨⟨hunderway.midway, hunderway.keeps.activePlayer.trans h.active, hguarding⟩, hunderway.keeps⟩

theorem Watchful.warded (h : s.Watchful id) : s.Warded id s := ⟨h, .refl id s⟩

theorem Watchful.pondered (h : s.Watchful id) (hpondered : s.Pondered s') : s.Warded id s' :=
  h.step (h.midway.ponder hpondered) (h.guarding.pondered hpondered)

theorem Warded.trans {s'' : GameState} (h : s.Warded id s') (h' : s'.Warded id s'') :
    s.Warded id s'' :=
  ⟨h'.watchful, h.keeps.trans h'.keeps⟩

end GameState

namespace Engine

variable {M : Type} {id : PlayerId} {card : CardId} {g : Game M}

/-! ### Attacks -/

/-- An attack is about to be carried out against a player who is on guard. -/
def unshielded (s : GameState) : (c : Call) → c.Answer → Bool
  | .blocksAttack target _, blocked => s.onGuard target && !blocked
  | _, _ => false

/-- Whether a player is kept from an attack: all that happens to a player who is is that a card is
shown, or that the log book has it. One who is not has no card aside that would keep it off. -/
theorem blocksAttack_leaves (target : PlayerId) (attack : CardId) :
    Ensures (blocksAttack target attack) g
      (fun blocked g' => g'.state.players = g.state.players ∧
        (blocked = false → g' = g ∧ ∃ p, g.state.player? target = some p ∧
          p.zones.setAside.any (g.state.grants .whileSetAside) = false))
      fun _ g' => g'.state.players = g.state.players := by
  rw [blocksAttack, ensures_bind, ensures_player]
  cases hp : g.state.player? target with
  | none => rfl
  | some p =>
  dsimp only
  rw [ensures_bind, ensures_state]
  cases p.hand.find? (g.state.grants .revealFromHand) with
  | some card =>
    dsimp only
    rw [ensures_bind, reveal, ensures_ite]
    refine ⟨fun hnone => absurd hnone (by simp), fun _ => ?_⟩
    exact ⟨rfl, fun h => absurd h (by simp)⟩
  | none =>
    dsimp only
    rw [ensures_ite]
    refine ⟨fun _ => ⟨rfl, fun h => absurd h (by simp)⟩, fun hnot => ⟨rfl, fun _ => ?_⟩⟩
    exact ⟨rfl, p, rfl, Bool.eq_false_iff.mpr hnot⟩

/-- What heeds the licence of the turn leaves the guards where they are. -/
theorem Heeds.guards {α : Type} {e : Engine M α} {Q : α → Prop} {excused : CardId → Prop}
    (he : Heeds (.turn g.state (· = id)) e Q) (h : g.state.Midway (· = id) noCard)
    (hguarding : g.state.Guarding excused) :
    Ensures e g (fun _ g' => g'.state.Guarding excused) fun _ g' => g'.state.Shielded :=
  (he g h.ready_fixed).mono (fun _ _ h' => hguarding.turn h'.1) fun _ _ h' =>
    (hguarding.turn h').shielded

variable [Controllers M]

/-- There is cause for alarm only where a player on guard is not shielded. -/
theorem not_shielded_of_alarm (provoke : Program → Engine M Bool) (g : Game M) (c : Call)
    (a : c.Answer) (g' : Game M) (hrun : (perform provoke c).runOn g = (.ok a, g'))
    (h : unshielded g'.state c a = true) : ¬ g'.state.Shielded := by
  cases c with
  | blocksAttack target attack =>
    obtain ⟨hguard, hblocked⟩ := Bool.and_eq_true_iff.mp h
    have hfacts := blocksAttack_leaves (g := g) target attack
    rw [Ensures, show (blocksAttack target attack).runOn g = (.ok a, g') from hrun] at hfacts
    obtain ⟨rfl, p, hp, hnone⟩ := hfacts.2 (by simpa using hblocked)
    intro hshielded
    obtain ⟨q, hq, hany⟩ := hshielded target hguard
    rw [hp] at hq
    obtain rfl := Option.some.inj hq
    rw [hnone] at hany
    exact absurd hany (by simp)
  | _ => exact absurd h (by simp [unshielded])

/-! ### Two ways to run programs -/

/-- The second way is to watch for attacks on players on guard. -/
structure Watch (provoke watched : Program → Engine M Bool) : Prop where
  heeds : ∀ {L : Licence} {p : Program}, p.Within L → Heeds L (provoke p) fun _ => True
  acts : ∀ {n : Nat} (p : Program), p.Seated n → Acts n (provoke p) fun _ => True
  heeds_watched : ∀ {L : Licence} {p : Program}, p.Within L → Heeds L (watched p) fun _ => True
  coupled : ∀ p, Coupled Eq (fun _ g => ¬ g.state.Shielded) (provoke p) (watched p)

theorem watch_runWithin (halt : Halt) (depth : Nat) :
    Watch (M := M) (runWithin depth) (runWithinUntil unshielded halt depth) where
  heeds hp := runWithin_heeds depth hp
  acts := runWithin_acts depth
  heeds_watched hp := runWithinUntil_heeds depth hp
  coupled := runWithinUntil_coupled not_shielded_of_alarm depth

theorem watch_run (halt : Halt) : Watch (M := M) run (runUntil unshielded halt) where
  heeds hp := run_heeds hp
  acts := run_acts
  heeds_watched hp := runUntil_heeds hp
  coupled := runUntil_coupled not_shielded_of_alarm

variable {provoke watched : Program → Engine M Bool}

/-! ### Playing -/

omit [Controllers M] in
/-- A card that comes into play is excused until it is carried out. -/
theorem played_guarding (h : g.state.Guarding noCard) (hactive : g.state.activePlayer = id)
    {p : Player} {zone : Zone} {tableau : Tableau} (hp : g.state.player? id = some p)
    (hremove : p.toTableau.remove? card = some (zone, tableau)) (d : CardDefinition) (name : String) :
    ((g.state.setPlayer id { p with toTableau := afterPlay d card tableau }).publish id
      (.playCard card name)).Guarding (· = card) := by
  have hlay := zones_afterPlay hremove d
  generalize hs : GameState.publish _ id _ = s
  have hplayer : s.player? id = some { p with toTableau := afterPlay d card tableau } := by
    rw [← hs]
    exact GameState.player?_setPlayer_self _ hp
  have hself : s.Posted (· = card) id card := by
    refine ⟨_, hplayer, Or.inr ⟨rfl, ?_, ?_⟩⟩
    · rw [← hs]
      exact hactive
    · rw [Tableau.inPlay, hlay]
      exact PlayerZones.mem_inPlay_lay_self zone
  refine h.rearrange hp (by rw [← hs]; rfl) ?_ ?_ ?_ (fun _ h => h.elim) hactive
  · intro other
    rw [← hs]
    rfl
  · intro other c hc
    rw [← hs, GameState.played_publish_playCard] at hc
    by_cases hother : id = other
    · rw [if_pos hother] at hc
      rcases List.mem_cons.mp hc with rfl | hc
      · exact Or.inr (hother ▸ hself)
      · exact Or.inl hc
    · rw [if_neg hother] at hc
      exact Or.inl hc
  · intro c hc
    by_cases hcard : c = card
    · exact hcard ▸ hself
    · refine ⟨_, hplayer, Or.inl ?_⟩
      rw [hlay]
      exact PlayerZones.mem_setAside_lay zone .inPlay hcard hc

/-- A card is played, with the guards where they were. -/
theorem play_guards (hwatch : Watch provoke watched) (h : g.state.Watchful id) (card : CardId) :
    Ensures (play watched card id) g
      (fun _ g' => g'.state.Guarding (· = card) ∧ g.state.Underway id g'.state ∧
        ∀ p, g.state.player? id = some p → card ∈ p.allCards → g.state.Lasting card →
          g'.state.Lies id card) fun _ g' => g'.state.Shielded := by
  have hcoupled := Coupled.play coupling_eq hwatch.coupled card id
  have hguarding := h.guarding
  have hcautious : g.state.Guarding (· = card) := hguarding.weaken fun _ _ h => h.elim
  refine hcoupled.transfer ?_ (play_underway hwatch.heeds hwatch.acts h.midway card)
  cases hc : g.state.card? card with
  | none =>
    simp only [play, ensures_bind, ensures_definition, hc]
    exact hguarding.shielded
  | some c =>
  cases hp : g.state.player? id with
  | none =>
    simp only [play, ensures_bind, ensures_definition, hc, ensures_player, hp]
    exact hguarding.shielded
  | some p =>
  cases hremove : p.toTableau.remove? card with
  | none =>
    simp only [play, ensures_bind, ensures_definition, hc, ensures_player, hp, hremove, ensures_warn]
    exact hcautious.pondered (.warn g.state _)
  | some taken =>
    rw [ensures_play_iff hc hp hremove]
    have hplayed := played_guarding hguarding h.active hp hremove c.definition c.definition.name
    have hmidway := (played_midway h.midway hp hremove c.definition c.definition.name).1.midway
    exact (firePlayTriggers_heeds (fun _ hp => hwatch.heeds_watched hp) rfl trivial
      card).guards hmidway hplayed

/-! ### What the cards do -/

/-- Whatever card of the game is carried out this way after it was played: the guards stay, and if it is
a Lighthouse then it is one of them. -/
def Guards (id : PlayerId) (watched : Program → Engine M Bool) : Prop :=
  ∀ (g : Game M) (card : CardId) (c : Card), g.state.Midway (· = id) noCard →
    g.state.activePlayer = id → g.state.card? card = some c →
      (g.state.Lasting card → g.state.Lies id card) → g.state.Guarding (· = card) →
        Ensures (watched (Effect.programAll ⟨card, id⟩ c.definition.onPlay (.finish false))) g
          (fun _ g' => g'.state.Guarding noCard) fun _ g' => g'.state.Shielded

theorem resolve_guards (hwatch : Watch provoke watched) (hresolves : Resolves id provoke)
    (hguards : Guards id watched) (h : g.state.Midway (· = id) noCard)
    (hactive : g.state.activePlayer = id) (hlies : g.state.Lasting card → g.state.Lies id card)
    (hguarding : g.state.Guarding (· = card)) :
    Ensures (resolve watched card id) g
      (fun _ g' => g'.state.Guarding noCard ∧ g.state.Underway id g'.state)
      fun _ g' => g'.state.Shielded := by
  have hid : id.seat < g.state.players.length := hactive ▸ h.seated.sound.active
  have hcoupled := Coupled.resolve coupling_eq hwatch.coupled card id
  refine hcoupled.transfer ?_ (resolve_underway hresolves h hid hlies)
  simp only [resolve, ensures_bind, ensures_definition]
  cases hc : g.state.card? card with
  | none => exact hguarding.shielded
  | some c =>
    dsimp only
    rw [executeAll, ensures_ite]
    refine ⟨fun hnone => hguarding.weaken ?_, fun _ => ?_⟩
    · rintro other hdef rfl
      rw [GameState.definition?, hc] at hdef
      have heq : c.definition = Catalog.lighthouse := Option.some.inj hdef
      rw [heq] at hnone
      exact absurd hnone (by decide)
    · exact ensures_bind.mpr (hguards g card c h hactive hc hlies hguarding)

theorem licensed_guards (halt : Halt) (depth : Nat) (h : g.state.Midway (· = id) noCard)
    {c : Card} (hc : g.state.card? card = some c) (hlicensed : Catalog.Licensed c.definition)
    (hne : c.definition ≠ Catalog.lighthouse)
    (hlies : g.state.Lasting card → g.state.Lies id card) (hguarding : g.state.Guarding (· = card)) :
    Ensures (runWithinUntil unshielded halt depth
      (Effect.programAll ⟨card, id⟩ c.definition.onPlay (.finish false))) g
      (fun _ g' => g'.state.Guarding noCard) fun _ g' => g'.state.Shielded := by
  have hfree : g.state.Guarding noCard := by
    refine hguarding.weaken ?_
    rintro other hdef rfl
    rw [GameState.definition?, hc] at hdef
    exact hne (Option.some.inj hdef)
  exact (runWithinUntil_heeds depth (licensed_within hc hlicensed hne hlies)).guards h hfree

omit [Controllers M] in
/-- When a Lighthouse is laid aside, it is on guard. -/
theorem lay_guards (hs : g.state.Sound) (hactive : g.state.activePlayer = id)
    (hlies : g.state.Lies id card) (hguarding : g.state.Guarding (· = card))
    {E : Halt → Game M → Prop} :
    Ensures (move card id .setAside .top) g (fun _ g' => g'.state.Guarding noCard) E := by
  obtain ⟨p, hp, hcard⟩ := hlies
  have haside : PlayerZones.OnTable .setAside := trivial
  refine ensures_lay hs hp hcard haside fun source _ _ => ?_
  generalize hs' : GameState.publish _ id _ = s'
  have hplayer : s'.player? id = some { p with zones := p.zones.lay card source .setAside } := by
    rw [← hs']
    exact GameState.player?_setPlayer_self _ hp
  have hself : s'.Posted noCard id card :=
    ⟨_, hplayer, Or.inl (PlayerZones.mem_setAside_lay_self source)⟩
  refine hguarding.rearrange hp (by rw [← hs']; rfl) ?_ ?_ ?_ ?_ hactive
  · intro other
    rw [← hs']
    rfl
  · intro other c hc
    rw [← hs', GameState.played_publish_of_none rfl] at hc
    exact Or.inl hc
  · intro c hc
    by_cases hcard : c = card
    · exact hcard ▸ hself
    · exact ⟨_, hplayer, Or.inl (PlayerZones.mem_setAside_lay source .setAside hcard hc)⟩
  · rintro c rfl
    exact hself

omit [Controllers M] in
/-- What is hung on cards does not matter to the guards. -/
theorem addDuration_guards {excused : CardId → Prop} (hguarding : g.state.Guarding excused)
    (callback : EffectContext → Program) :
    Ensures (addDuration card callback) g (fun _ g' => g'.state.Guarding excused)
      fun _ g' => g'.state.Shielded := by
  rw [addDuration, ensures_bind, ensures_card]
  cases g.state.card? card with
  | none => exact hguarding.shielded
  | some c =>
    -- a licence to hang anything, under which all cards are locked
    let L : Licence := ⟨fun _ => True, fun _ => False, fun _ _ => True, False, False⟩
    have hhangs : L.hangs card callback := trivial
    exact hguarding.allows (.hang g.state card hhangs) fun _ _ _ _ => trivial

/-- The Lighthouse pays, lays itself aside and is on guard from then on. -/
theorem lighthouse_guards (halt : Halt) (depth : Nat) (h : g.state.Midway (· = id) noCard)
    (hactive : g.state.activePlayer = id)
    (hdef : g.state.definition? card = some Catalog.lighthouse) (hlies : g.state.Lies id card)
    (hguarding : g.state.Guarding (· = card)) :
    Ensures (runWithinUntil unshielded halt (depth + 1)
      (Effect.programAll ⟨card, id⟩ Catalog.lighthouse.onPlay (.finish false))) g
      (fun _ g' => g'.state.Guarding noCard) fun _ g' => g'.state.Shielded := by
  have hlasting : g.state.Lasting card := ⟨_, hdef, rfl⟩
  have hcredit : ∀ {g : Game M} (counter : Counter), g.state.Midway (· = id) noCard →
      g.state.Guarding (· = card) →
      Ensures (performUntil unshielded halt (runWithinUntil unshielded halt depth)
        (.credit id counter 1)) g
        (fun _ g' => g'.state.Guarding (· = card) ∧ g.state.Underway id g'.state)
        fun _ g' => g'.state.Shielded := by
    intro g counter hmidway hguarding
    refine ensures_performUntil.mpr ?_
    refine (((credit_heeds rfl counter 1).guards hmidway hguarding).and
      (credit_underway hmidway counter 1)).mono (fun _ _ h => h) fun _ _ h => h.1
  refine Script.Leads.programAll (Script.Leads.steps_cons
    (ofCall_leads (fun _ => rfl) ((hcredit .actions h hguarding).imp ?_)))
  rintro _ g₁ ⟨hguarding₁, h₁⟩
  refine Script.Leads.steps_cons
    (ofCall_leads (fun _ => rfl) ((hcredit .money h₁.midway hguarding₁).imp ?_))
  rintro _ g₂ ⟨hguarding₂, h₂⟩
  have hkeeps := (h₁.trans h₂).keeps
  have hlies₂ := hkeeps.stays card hlasting hlies
  have hactive₂ : g₂.state.activePlayer = id := (congrArg PlayerId.mk hkeeps.active).trans hactive
  have haside := lay_guards h₂.midway.seated.sound hactive₂ hlies₂ hguarding₂
    (E := fun _ g' => g'.state.Shielded)
  refine Script.Leads.steps_scripted (Script.Leads.callBind (ensures_performUntil.mpr (haside.imp ?_)))
  intro _ g₃ hguarding₃
  exact Script.Leads.addDuration (addDuration_guards hguarding₃ _)

/-- The Throne Room has a card from the hand played, and carried out twice. -/
theorem throneRoom_guards {halt : Halt} {depth : Nat}
    (hguards : Guards (M := M) id (runWithinUntil unshielded halt depth)) (h : g.state.Watchful id) :
    Ensures (runWithinUntil unshielded halt (depth + 1)
      (Effect.programAll ⟨card, id⟩ Catalog.throneRoom.onPlay (.finish false))) g
      (fun _ g' => g'.state.Guarding noCard) fun _ g' => g'.state.Shielded := by
  have hwatch := watch_runWithin (M := M) halt depth
  have hresolves : Resolves (M := M) id (runWithin depth) := runWithin_resolves depth
  obtain ⟨p, hp⟩ := GameState.player?_of_lt h.seated
  have hheld : ∀ c ∈ p.hand, c ∈ p.allCards :=
    fun c hc => PlayerZones.mem_allCards_of_mem_row (show c ∈ p.zones.row .hand from hc)
  refine Script.Leads.programAll (Script.Leads.steps_scripted (Script.Leads.bind
    (Script.Leads.handWhere hp (fun c hc => h.midway.seated.carded hp (hheld c hc))
      fun actions hactions => Script.Leads.callBind (ensures_performUntil.mpr
        ((chooseCards_ponders id _ g).mono ?_ fun _ _ hpondered =>
          (h.pondered hpondered).watchful.guarding.shielded)))))
  rintro chosen g₁ ⟨hpondered, hchosen⟩
  have h₁ := (h.pondered hpondered).watchful
  cases hhead : chosen.head? with
  | none => exact Script.Leads.pure h₁.guarding
  | some other =>
    have hmem : other ∈ p.allCards :=
      hheld other (hactions.mem (hchosen other (List.mem_of_mem_head? hhead)))
    have hp₁ : g₁.state.player? id = some p := by
      obtain ⟨rng, logger, heq⟩ := hpondered
      rw [heq]
      exact hp
    refine Script.Leads.callBind (ensures_performUntil.mpr ((play_guards hwatch h₁ other).imp ?_))
    rintro _ g₂ ⟨hguarding₂, h₂, hlies⟩
    have hactive₂ := h₂.keeps.activePlayer.trans h₁.active
    have hlies₂ : g₂.state.Lasting other → g₂.state.Lies id other := by
      intro hlasting
      rw [GameState.Lasting, h₂.keeps.definitions] at hlasting
      exact hlies p hp₁ hmem hlasting
    refine Script.Leads.callBind (ensures_performUntil.mpr
      ((resolve_guards hwatch hresolves hguards h₂.midway hactive₂ hlies₂ hguarding₂).imp ?_))
    rintro _ g₃ ⟨hguarding₃, h₃⟩
    have hlies₃ : g₃.state.Lasting other → g₃.state.Lies id other := by
      intro hlasting
      rw [GameState.Lasting, h₃.keeps.definitions] at hlasting
      exact h₃.keeps.stays other hlasting (hlies₂ hlasting)
    have hactive₃ := h₃.keeps.activePlayer.trans hactive₂
    refine Script.Leads.call (c := .resolve other id) (ensures_performUntil.mpr ?_)
    exact (resolve_guards hwatch hresolves hguards h₃.midway hactive₃ hlies₃
      (hguarding₃.weaken fun _ _ h => h.elim)).imp fun _ _ h₄ => h₄.1

/-- However deep cards provoke each other. -/
theorem runWithinUntil_guards (halt : Halt) (depth : Nat) :
    Guards (M := M) id (runWithinUntil unshielded halt depth) := by
  induction depth with
  | zero => exact fun _ _ _ _ _ _ _ hguarding => hguarding.shielded
  | succ depth ih =>
    intro g card c h hactive hc hlies hguarding
    have hd := h.registered card c hc
    have hdef : g.state.definition? card = some c.definition := by
      rw [GameState.definition?, hc]
      rfl
    by_cases hlighthouse : c.definition.name = Catalog.lighthouse.name
    · rw [Registry.eq_lighthouse hd hlighthouse] at hdef ⊢
      exact lighthouse_guards halt depth h hactive hdef (hlies ⟨_, hdef, rfl⟩) hguarding
    have hne : c.definition ≠ Catalog.lighthouse :=
      fun heq => hlighthouse (congrArg (·.name) heq)
    by_cases hthroneRoom : c.definition.name = Catalog.throneRoom.name
    · have hfree : g.state.Guarding noCard := by
        refine hguarding.weaken ?_
        rintro other hother rfl
        exact hne (Option.some.inj (hdef.symm.trans hother))
      rw [Registry.eq_throneRoom hd hthroneRoom]
      exact throneRoom_guards ih ⟨h, hactive, hfree⟩
    · have hlicensed := Registry.allCards_licensed hd hlighthouse hthroneRoom
      exact licensed_guards halt (depth + 1) h hc hlicensed hne hlies hguarding

theorem runUntil_guards (halt : Halt) : Guards (M := M) id (runUntil unshielded halt) := by
  intro g card c h hactive hc hlies hguarding
  simp only [runUntil, ensures_bind, ensures_state]
  exact runWithinUntil_guards halt _ g card c h hactive hc hlies hguarding

end Engine

end DeckBuilder
