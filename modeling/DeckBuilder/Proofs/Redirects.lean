import DeckBuilder.Proofs.GainFrame
import DeckBuilder.Proofs.Minutes

/-!
What becomes of a gained card. A card that comes to the discard pile may be put onto the deck, when a
Royal Seal or a Watchtower asks for it, or into the trash, when a Watchtower does; the Fortress comes back
from there into the hand. All of them act one after the other on what the earlier ones have left. Where
the card lies in the end can be read off the answers: it is in the trash, or the hand, once somebody wanted
it trashed, and otherwise on the deck once somebody wanted it there.
-/
namespace DeckBuilder

namespace Catalog

/-- What a player is asked who may put a gained card of the name onto the deck. -/
def topdeckPrompt (name : String) : String := s!"Put the gained {name} on top of your deck?"

/-- What a player is asked who may trash a gained card of the name. -/
def trashPrompt (name : String) : String := s!"Reveal Watchtower to trash the gained {name}?"

/-- The name can be read off a prompt. -/
theorem eq_of_framed {before after name name' : String}
    (h : before ++ name ++ after = before ++ name' ++ after) : name = name' := by
  have hlist := congrArg String.toList h
  rw [String.toList_append, String.toList_append, String.toList_append, String.toList_append] at hlist
  exact String.ext (List.append_cancel_left (List.append_cancel_right hlist))

theorem topdeckPrompt_injective : Function.Injective topdeckPrompt := fun _ _ => eq_of_framed

theorem trashPrompt_injective : Function.Injective trashPrompt := fun _ _ => eq_of_framed

theorem head?_topdeckPrompt (name : String) : (topdeckPrompt name).toList.head? = some 'P' := by
  change ("Put the gained " ++ name ++ " on top of your deck?").toList.head? = _
  have hfirst : ("Put the gained " : String).toList.head? = some 'P' := by decide
  rw [String.toList_append, String.toList_append, List.head?_append, List.head?_append, hfirst]
  rfl

theorem head?_trashPrompt (name : String) : (trashPrompt name).toList.head? = some 'R' := by
  change ("Reveal Watchtower to trash the gained " ++ name ++ "?").toList.head? = _
  have hfirst : ("Reveal Watchtower to trash the gained " : String).toList.head? = some 'R' := by decide
  rw [String.toList_append, String.toList_append, List.head?_append, List.head?_append, hfirst]
  rfl

theorem topdeckPrompt_ne_trashPrompt (name name' : String) :
    topdeckPrompt name ≠ trashPrompt name' := by
  intro h
  have hhead := head?_topdeckPrompt name
  rw [h, head?_trashPrompt] at hhead
  exact absurd hhead (by decide)

end Catalog

namespace Inquiry

/-- Whether the player was asked this. -/
def asks (x : Inquiry) (id : PlayerId) (prompt : String) : Bool :=
  match x.toExchange with
  | ⟨player, .boolean choice, _⟩ => player = id && choice.prompt = prompt
  | _ => false

/-- Whether the player was asked this and said yes. -/
def agrees (x : Inquiry) (id : PlayerId) (prompt : String) : Bool :=
  match x.toExchange with
  | ⟨player, .boolean choice, answer⟩ => player = id && choice.prompt = prompt && answer
  | _ => false

section

variable {x : Inquiry} {id : PlayerId} {choice : BooleanChoice} {answer : Bool}
variable (h : x.toExchange = ⟨id, .boolean choice, answer⟩)
include h

theorem asks_eq (prompt : String) : x.asks id prompt = decide (choice.prompt = prompt) := by
  rw [asks, h]
  simp

theorem agrees_eq (prompt : String) :
    x.agrees id prompt = (decide (choice.prompt = prompt) && answer) := by
  rw [agrees, h]
  simp

end

theorem asks_of_agrees {x : Inquiry} {id : PlayerId} {prompt : String} (h : x.agrees id prompt = true) :
    x.asks id prompt = true := by
  obtain ⟨⟨player, question, answer⟩, state⟩ := x
  cases question with
  | boolean choice =>
    simp only [agrees, asks, Bool.and_eq_true] at h ⊢
    exact h.1
  | _ => exact absurd h Bool.false_ne_true

end Inquiry

namespace Catalog

variable {x : Inquiry} {id : PlayerId} {name : String} {default answer : Bool} {source : Option CardId}

/-- Who is asked to put the card onto the deck is not asked to trash it. -/
theorem topdeck_inquiry
    (h : x.toExchange = ⟨id, .boolean { prompt := topdeckPrompt name, default, source }, answer⟩) :
    x.asks id (topdeckPrompt name) = true ∧ x.agrees id (topdeckPrompt name) = answer ∧
      x.agrees id (trashPrompt name) = false := by
  refine ⟨?_, ?_, ?_⟩
  · rw [Inquiry.asks_eq h, decide_eq_true rfl]
  · rw [Inquiry.agrees_eq h, decide_eq_true rfl, Bool.true_and]
  · rw [Inquiry.agrees_eq h, decide_eq_false (topdeckPrompt_ne_trashPrompt _ _), Bool.false_and]

/-- Who is asked to trash the card is not asked to put it onto the deck. -/
theorem trash_inquiry
    (h : x.toExchange = ⟨id, .boolean { prompt := trashPrompt name, default, source }, answer⟩) :
    x.asks id (trashPrompt name) = true ∧ x.agrees id (trashPrompt name) = answer ∧
      x.agrees id (topdeckPrompt name) = false := by
  refine ⟨?_, ?_, ?_⟩
  · rw [Inquiry.asks_eq h, decide_eq_true rfl]
  · rw [Inquiry.agrees_eq h, decide_eq_true rfl, Bool.true_and]
  · rw [Inquiry.agrees_eq h, decide_eq_false (topdeckPrompt_ne_trashPrompt _ _).symm, Bool.false_and]

end Catalog

/-! ### The answers -/

/-- What becomes of a card that came to the discard pile. -/
inductive Fate
  | left
  | topdecked
  | trashed
deriving DecidableEq

namespace Catalog

/-- What the answers of the player make of a gained card of the name. -/
def fate (id : PlayerId) (name : String) (record : List Inquiry) : Fate :=
  if record.any (·.agrees id (trashPrompt name)) then .trashed
  else if record.any (·.agrees id (topdeckPrompt name)) then .topdecked
  else .left

variable {id : PlayerId} {name : String} {record : List Inquiry} {x : Inquiry}

theorem fate_eq_trashed_iff :
    fate id name record = .trashed ↔ record.any (·.agrees id (trashPrompt name)) = true := by
  unfold fate
  split
  · simp [*]
  · split <;> simp [*]

theorem fate_eq_topdecked_iff :
    fate id name record = .topdecked ↔ record.any (·.agrees id (topdeckPrompt name)) = true ∧
      ¬ record.any (·.agrees id (trashPrompt name)) = true := by
  unfold fate
  split
  · simp [*]
  · split <;> simp [*]

theorem fate_eq_left_iff :
    fate id name record = .left ↔ ¬ record.any (·.agrees id (topdeckPrompt name)) = true ∧
      ¬ record.any (·.agrees id (trashPrompt name)) = true := by
  unfold fate
  split
  · simp [*]
  · split <;> simp [*]

theorem fate_append_of_not (htopdeck : x.agrees id (topdeckPrompt name) = false)
    (htrash : x.agrees id (trashPrompt name) = false) :
    fate id name (record ++ [x]) = fate id name record := by
  simp [fate, htopdeck, htrash]

theorem fate_append_trash (h : x.agrees id (trashPrompt name) = true) :
    fate id name (record ++ [x]) = .trashed := by
  simp [fate, h]

theorem fate_append_topdeck (htrash : x.agrees id (trashPrompt name) = false)
    (htopdeck : x.agrees id (topdeckPrompt name) = true) (h : fate id name record = .left) :
    fate id name (record ++ [x]) = .topdecked := by
  obtain ⟨-, hkept⟩ := fate_eq_left_iff.mp h
  rw [fate_eq_topdecked_iff]
  simp_all

end Catalog

/-! ### The places -/

namespace PlayerZones

/-- The zones after the card, which lay in the discard pile, has met its fate. A card that returns comes
back from the trash into the hand. -/
def redirected (z : PlayerZones) (card : CardId) (returns : Bool) : Fate → PlayerZones
  | .left => z
  | .topdecked => (z.update .discard (·.erase card)).update .deck (·.insert card .top)
  | .trashed =>
    if returns then (z.update .discard (·.erase card)).update .hand (·.insert card .top)
    else z.update .discard (·.erase card)

variable {z : PlayerZones} {card : CardId} {returns : Bool}

theorem mem_allCards_of_deck (h : card ∈ z.deck) : card ∈ z.allCards := by
  have hrow : card ∈ z.row .deck := h
  exact mem_allCards_of_mem_row hrow

theorem mem_allCards_of_hand (h : card ∈ z.hand) : card ∈ z.allCards := by
  have hrow : card ∈ z.row .hand := h
  exact mem_allCards_of_mem_row hrow

theorem mem_allCards_of_discard (h : card ∈ z.discard) : card ∈ z.allCards := by
  have hrow : card ∈ z.row .discard := h
  exact mem_allCards_of_mem_row hrow

theorem locate_of_mem_discard (hm : z.MatsSorted) (hn : z.allCards.Nodup) (hcard : card ∈ z.discard) :
    z.locate card = some .discard := by
  have hrow : card ∈ z.row .discard := hcard
  exact locate_of_mem_row hm hn hrow

section

variable (hm : z.MatsSorted) (hn : z.allCards.Nodup) (hcard : card ∈ z.discard)
include hm hn hcard

theorem remove?_of_mem_discard : z.remove? card = some (.discard, z.update .discard (·.erase card)) :=
  remove?_eq_some_iff.mpr ⟨locate_of_mem_discard hm hn hcard, rfl⟩

theorem notMem_erased : card ∉ (z.update .discard (·.erase card)).allCards := by
  have hcount := weigh_remove? (fun _ d => if d = card then 1 else 0) hm
    (remove?_of_mem_discard hm hn hcard)
  simp only [weigh_indicator, if_true] at hcount
  have hle := List.nodup_iff_count_le_one.mp hn card
  rw [← List.count_eq_zero]
  omega

/-- A card that was put elsewhere lies there and can be taken from there. -/
theorem remove?_put {zone : Zone} (hz : zone = .deck ∨ zone = .hand) :
    ((z.update .discard (·.erase card)).update zone (·.insert card .top)).remove? card =
      some (zone, z.update .discard (·.erase card)) := by
  have hremove := remove?_of_mem_discard hm hn hcard
  have hnot := notMem_erased hm hn hcard
  have hholds : holds zone := by rcases hz with rfl | rfl <;> rfl
  have hperm := perm_put_remove? hm hremove hholds .top
  have hm' := (hm.update .discard (·.erase card)).update zone (·.insert card .top)
  have hmem : card ∈ ((z.update .discard (·.erase card)).update zone (·.insert card .top)).row zone := by
    rw [row_update_self (hm.update _ _) hholds]
    exact List.mem_append_right _ (List.mem_singleton_self _)
  refine remove?_eq_some_iff.mpr ⟨locate_of_mem_row hm' (hperm.nodup_iff.mpr hn) hmem, ?_⟩
  have herase : ∀ cards : CardRow, card ∉ cards → (cards.insert card .top).erase card = cards := by
    intro cards hcards
    simp [CardRow.insert, List.erase_append_right _ hcards]
  rcases hz with rfl | rfl
  · have hdeck : card ∉ z.deck := fun h =>
      hnot (mem_allCards_of_deck (z := z.update .discard (·.erase card)) h)
    simp [update, herase _ hdeck]
  · have hhand : card ∉ z.hand := fun h =>
      hnot (mem_allCards_of_hand (z := z.update .discard (·.erase card)) h)
    simp [update, herase _ hhand]

/-- Unless it is in the trash the card can still be taken, and leaves what was there before it came. -/
theorem remove?_redirected {fate : Fate} (h : ¬ (fate = .trashed ∧ returns = false)) :
    ∃ zone, (z.redirected card returns fate).remove? card =
      some (zone, z.update .discard (·.erase card)) := by
  cases fate with
  | left => exact ⟨_, remove?_of_mem_discard hm hn hcard⟩
  | topdecked => exact ⟨_, remove?_put hm hn hcard (.inl rfl)⟩
  | trashed =>
    obtain rfl : returns = true := by simpa using h
    exact ⟨_, remove?_put hm hn hcard (.inr rfl)⟩

theorem remove?_trashed : (z.redirected card false .trashed).remove? card = none := by
  have hnot := notMem_erased hm hn hcard
  rw [remove?, Option.map_eq_none_iff]
  cases hloc : (z.redirected card false .trashed).locate card with
  | none => rfl
  | some zone =>
    exact absurd (mem_allCards_of_mem_row (mem_row_of_locate (z := z.update .discard (·.erase card))
      (hm.update _ _) hloc).2) hnot

/-- Only a card that was left there lies in the discard pile. -/
theorem eq_left_of_locate {fate : Fate}
    (h : (z.redirected card returns fate).locate card = some .discard) : fate = .left := by
  by_contra hne
  have hremove : (z.redirected card returns fate).remove? card =
      some (.discard, (z.redirected card returns fate).update .discard (·.erase card)) :=
    remove?_eq_some_iff.mpr ⟨h, rfl⟩
  cases fate with
  | left => exact hne rfl
  | topdecked =>
    change ((z.update .discard (·.erase card)).update .deck (·.insert card .top)).remove? card = _
      at hremove
    rw [remove?_put hm hn hcard (.inl rfl)] at hremove
    simp at hremove
  | trashed =>
    cases returns with
    | false =>
      rw [remove?_trashed hm hn hcard] at hremove
      simp at hremove
    | true =>
      change ((z.update .discard (·.erase card)).update .hand (·.insert card .top)).remove? card = _
        at hremove
      rw [remove?_put hm hn hcard (.inr rfl)] at hremove
      simp at hremove

end

end PlayerZones

namespace GameState

def zones? (s : GameState) (id : PlayerId) : Option PlayerZones := (s.player? id).map (·.zones)

/-- The player has the card in the discard pile. -/
def Discarded (s : GameState) (id : PlayerId) (card : CardId) : Prop :=
  ∃ p, s.player? id = some p ∧ card ∈ p.zones.discard

theorem zones?_congr {s s' : GameState} (h : s'.players = s.players) : s'.zones? = s.zones? := by
  funext id
  rw [zones?, player?, h]
  rfl

theorem zones?_setPlayer {s : GameState} {id : PlayerId} {p : Player} (hp : s.player? id = some p)
    (p' : Player) (other : PlayerId) :
    (s.setPlayer id p').zones? other = if id = other then some p'.zones else s.zones? other := by
  rw [zones?, player?_setPlayer (seat_lt_of_player? hp)]
  by_cases hid : id = other
  · rw [if_pos hid, if_pos hid]
    rfl
  · rw [if_neg hid, if_neg hid]
    rfl

end GameState

theorem Still.zones? {s s' : GameState} (h : Still s s') : s'.zones? = s.zones? := by
  have hzones : ∀ (t : GameState) id, t.zones? id = (t.players.map (·.zones))[id.seat]? := by
    intro t id
    rw [List.getElem?_map]
    rfl
  funext id
  rw [hzones, hzones, h.zones]

theorem Still.discarded {s s' : GameState} (h : Still s s') {id : PlayerId} {card : CardId}
    (hcard : s.Discarded id card) : s'.Discarded id card := by
  obtain ⟨p, hp, hmem⟩ := hcard
  obtain ⟨p', hp', hzones⟩ := h.player? hp
  exact ⟨p', hp', hzones ▸ hmem⟩

/-- The card has met its fate, and nothing else has moved. -/
structure Redirected (id : PlayerId) (card : CardId) (fate : Fate) (s s' : GameState) : Prop where
  changes : Changes Hooks.catalog s s'
  zones : ∀ other, s'.zones? other =
    if id = other then (s.zones? other).map (·.redirected card (s.returns card) fate)
    else s.zones? other
  supply : s'.supply = s.supply
  trash : s'.trash =
    if fate = .trashed ∧ s.returns card = false then s.trash ++ [card] else s.trash

namespace Redirected

variable {id : PlayerId} {card : CardId} {fate fate' : Fate} {s₀ s s' : GameState} {p₀ p p' : Player}

theorem refl (s : GameState) : Redirected id card .left s s where
  changes := .refl
  zones other := by
    have hsame : (fun z : PlayerZones => z.redirected card (s.returns card) .left) = fun z => z := rfl
    rw [hsame, Option.map_id', ite_self]
  supply := rfl
  trash := rfl

theorem kept (h : Redirected id card fate s₀ s) : Kept s₀ s := h.changes.kept

theorem ofCatalog (h : Redirected id card fate s₀ s) (hs : s₀.OfCatalog) : s.OfCatalog :=
  h.changes.ofCatalog hs

theorem still (h : Redirected id card fate s₀ s) (hchange : Change Hooks.catalog s s')
    (hstill : Still s s') : Redirected id card fate s₀ s' where
  changes := h.changes.tail hchange
  zones other := by rw [hstill.zones?, h.zones]
  supply := hstill.supply.trans h.supply
  trash := hstill.trash.trans h.trash

/-- Nothing is asked and nothing moves. -/
theorem firm {M : Type} (hs : s₀.OfCatalog) (memory : M) :
    Firm Hooks.catalog s₀ fun g : Game M => g.memory = memory ∧ Redirected id card fate s₀ g.state where
  sound := hs.sound
  allow := hs.hooks
  changes _ h := h.2.changes
  still _ _ h hchange hstill := ⟨h.1, h.2.still hchange hstill⟩

theorem player? (h : Redirected id card fate s₀ s) (hp₀ : s₀.player? id = some p₀) :
    ∃ p, s.player? id = some p ∧ p.zones = p₀.zones.redirected card (s₀.returns card) fate := by
  have hzones := h.zones id
  rw [if_pos rfl, GameState.zones?, GameState.zones?, hp₀] at hzones
  exact Option.map_eq_some_iff.mp hzones

/-- The player's zones are put as another fate has them. -/
theorem again (h : Redirected id card fate s₀ s) (hp₀ : s₀.player? id = some p₀)
    (hp : s.player? id = some p) (hchanges : Changes Hooks.catalog s s')
    (hplayers : s'.players = (s.setPlayer id p').players)
    (hzones : p'.zones = p₀.zones.redirected card (s₀.returns card) fate')
    (hsupply : s'.supply = s.supply)
    (htrash : s'.trash =
      if fate' = .trashed ∧ s₀.returns card = false then s₀.trash ++ [card] else s₀.trash) :
    Redirected id card fate' s₀ s' where
  changes := h.changes.trans hchanges
  zones other := by
    rw [GameState.zones?_congr hplayers, GameState.zones?_setPlayer hp, h.zones]
    by_cases hother : id = other
    · rw [if_pos hother, if_pos hother, ← hother, GameState.zones?, hp₀, hzones]
      rfl
    · rw [if_neg hother, if_neg hother, if_neg hother]
  supply := hsupply.trans h.supply
  trash := htrash

end Redirected

/-- The state when a card that was taken from the player has come to the trash. -/
def GameState.thrown (s : GameState) (id : PlayerId) (p : Player) (card : CardId) (name : String) :
    GameState :=
  ({ s.setPlayer id p with trash := s.trash ++ [card] } : GameState).publish id (.trashCard card name)

namespace Engine

variable {M : Type} {g : Game M} {E : Halt → Game M → Prop} {provoke : Program → Engine M Bool}

/-- A card is trashed, and then does what it does when it is. -/
theorem ensures_trash_then {card : CardId} {owner : PlayerId} {c : Card} {p : Player}
    {Q : Bool → Game M → Prop} (hc : g.state.card? card = some c) (hp : g.state.player? owner = some p)
    (hmissing : p.toTableau.remove? card = none →
      ∀ message, Q false { g with state := g.state.warn message })
    (htrash : ∀ zone tableau, p.toTableau.remove? card = some (zone, tableau) →
      Ensures (executeAll provoke c.definition.onTrash ⟨card, owner⟩)
        ⟨g.state.thrown owner { p with toTableau := tableau } card c.definition.name, g.memory⟩
        (fun _ => Q true) E) :
    Ensures (trash provoke card owner) g Q E := by
  simp only [trash, ensures_bind, ensures_definition, hc, ensures_player, hp]
  cases hremove : p.toTableau.remove? card with
  | none => exact hmissing hremove _
  | some taken =>
    obtain ⟨zone, tableau⟩ := taken
    simp only [ensures_bind, ensures_modifyState, ensures_publish, ensures_pure]
    exact htrash zone tableau hremove

/-- A card that is in the trash comes back. -/
theorem ensures_recover_of_mem {card : CardId} {id : PlayerId} {p : Player} {Q : Unit → Game M → Prop}
    (hp : g.state.player? id = some p) (hcard : card ∈ g.state.trash)
    (h : ∀ name, Q ()
      ⟨({ g.state.setPlayer id (p.onTableau (·.put card .hand .top)) with
        trash := g.state.trash.erase card } : GameState).publish id
          (.moveCard card name .trash .hand), g.memory⟩) :
    Ensures (recover card id) g Q E := by
  simp only [recover, ensures_bind, ensures_state]
  rw [if_pos (List.contains_iff_mem.mpr hcard)]
  simp only [ensures_bind, ensures_modifyPlayer, hp, ensures_modifyState, ensures_state,
    ensures_publish]
  exact h _

end Engine

/-! ### Moving the card -/

namespace Catalog

open Engine Script.Leads

variable {M : Type} {g : Game M} {E : Halt → Game M → Prop} {id : PlayerId} {card : CardId}
variable {s₀ : GameState} {p₀ : Player} {fate : Fate}

section

variable (hs₀ : s₀.OfCatalog) (hp₀ : s₀.player? id = some p₀) (hcard : card ∈ p₀.zones.discard)
include hs₀ hp₀ hcard

theorem move_redirects (h : Redirected id card .left s₀ g.state) :
    Ensures (move card id .deck .top) g
      (fun _ g' => g'.memory = g.memory ∧ Redirected id card .topdecked s₀ g'.state) E := by
  obtain ⟨p, hp, hzones⟩ := h.player? hp₀
  change p.zones = p₀.zones at hzones
  have hm := hs₀.sound.mats p₀ (GameState.player?_mem hp₀)
  have hmoves : (p₀.zones.transfer card .discard .deck .top).1 = true :=
    (PlayerZones.transfer_of_mem hm rfl hcard rfl .top).1
  have hloc := PlayerZones.locate_of_mem_discard hm (hs₀.sound.nodup_allCards hp₀) hcard
  have hcontains : p₀.zones.discard.contains card = true := List.contains_iff_mem.mpr hcard
  have htransfer : (p₀.zones.transfer card .discard .deck .top).2 =
      p₀.zones.redirected card (s₀.returns card) .topdecked := by
    simp only [PlayerZones.transfer, PlayerZones.update, PlayerZones.get?, Option.getD_some, id_eq,
      hcontains, if_true]
    rfl
  have hperm : p₀.zones.MatsSorted →
      (p₀.zones.transfer card .discard .deck .top).2.MatsSorted ∧
        (p₀.zones.transfer card .discard .deck .top).2.allCards.Perm p₀.zones.allCards := by
    refine fun hm => ⟨hm.transfer card .discard .deck .top, List.perm_iff_count.mpr ?_⟩
    exact PlayerZones.count_transfer hm card rfl .deck .top
  have harranged : Change Hooks.catalog g.state (g.state.setPlayer id
      { p with zones := (p₀.zones.transfer card .discard .deck .top).2 }) := by
    refine .arrange g.state id p _ hp rfl rfl ?_ fun hallow => ⟨hallow.gain, hallow.play⟩
    rw [Tableau.allCards, Tableau.allCards, hzones]
    exact hperm
  have htold : Zone.discard ≠ Zone.trash := by decide
  rw [move, ensures_step, GameState.move]
  simp only [hp, hzones, hloc, Tableau.transfer, hmoves, if_true]
  exact ⟨trivial, h.again hp₀ hp (.tail (.single harranged) (.publish _ id _ htold)) rfl htransfer rfl
    h.trash⟩

/-- The Fortress comes back from the trash. -/
theorem recover_redirects {p : Player} {zones : PlayerZones} {name : String} {s : GameState} {m : M}
    (hback : s₀.returns card = true) (h : Redirected id card fate s₀ s) (hp : s.player? id = some p)
    (htrash : s.trash = s₀.trash) (hzones : zones = p₀.zones.update .discard (·.erase card))
    (hthrown : Change Hooks.catalog s (s.thrown id { p with zones } card name)) :
    Ensures (recover card id) ⟨s.thrown id { p with zones } card name, m⟩
      (fun _ g' => g'.memory = m ∧ Redirected id card .trashed s₀ g'.state) E := by
  have hp₁ : (s.thrown id { p with zones } card name).player? id = some { p with zones } :=
    GameState.player?_setPlayer_self _ hp
  have hnew : card ∉ s₀.trash :=
    hs₀.sound.notMem_trash hp₀ (PlayerZones.mem_allCards_of_discard hcard)
  have hin : card ∈ (s.thrown id { p with zones } card name).trash :=
    List.mem_append_right _ (List.mem_singleton_self _)
  refine ensures_recover_of_mem hp₁ hin fun name' => ?_
  refine ⟨rfl, h.again hp₀ hp
    (.tail (.single hthrown) (.recover _ id _ card name' hp₁ hin)) (List.set_set ..) ?_ rfl ?_⟩
  · rw [hback]
    exact congrArg (PlayerZones.update · .hand (·.insert card .top)) hzones
  · rw [if_neg fun hboth => absurd (hback.symm.trans hboth.2) (by simp)]
    change (s.trash ++ [card]).erase card = s₀.trash
    rw [htrash, List.erase_append_right _ hnew, List.erase_cons_head, List.append_nil]

/-- The card is missing only when it was trashed for good. -/
theorem trashed_of_missing {p : Player} (h : Redirected id card fate s₀ g.state)
    (hp : g.state.player? id = some p) (hnone : p.zones.locate card = none) :
    fate = .trashed ∧ s₀.returns card = false := by
  obtain ⟨p', hp', hzones⟩ := h.player? hp₀
  obtain rfl := Option.some.inj (hp.symm.trans hp')
  by_contra hnot
  obtain ⟨zone, hremove⟩ := PlayerZones.remove?_redirected (hs₀.sound.mats p₀ (GameState.player?_mem hp₀))
    (hs₀.sound.nodup_allCards hp₀) hcard hnot
  rw [← hzones] at hremove
  exact absurd (hnone.symm.trans (PlayerZones.remove?_eq_some_iff.mp hremove).1) (by simp)

/-- A card that can be taken is not in the trash yet, and it leaves what was there before it came. -/
theorem left_of_taken {p : Player} {zone : Zone} {zones : PlayerZones}
    (h : Redirected id card fate s₀ g.state) (hp : g.state.player? id = some p)
    (htaken : p.zones.remove? card = some (zone, zones)) :
    g.state.trash = s₀.trash ∧ zones = p₀.zones.update .discard (·.erase card) := by
  obtain ⟨p', hp', hzones⟩ := h.player? hp₀
  obtain rfl := Option.some.inj (hp.symm.trans hp')
  have hm := hs₀.sound.mats p₀ (GameState.player?_mem hp₀)
  have hn := hs₀.sound.nodup_allCards hp₀
  have hhere : ¬ (fate = .trashed ∧ s₀.returns card = false) := by
    rintro ⟨rfl, hfalse⟩
    rw [hzones, hfalse, PlayerZones.remove?_trashed hm hn hcard] at htaken
    exact absurd htaken (by simp)
  obtain ⟨_, hlaid⟩ := PlayerZones.remove?_redirected hm hn hcard hhere
  rw [← hzones] at hlaid
  exact ⟨by rw [h.trash, if_neg hhere], (Prod.mk.inj (Option.some.inj (htaken.symm.trans hlaid))).2⟩

/-- Wherever the card lies it comes to the trash, and the Fortress from there to the hand. -/
theorem trash_redirects [Controllers M] {depth : Nat} {c₀ : Card} (hc₀ : s₀.card? card = some c₀)
    (h : Redirected id card fate s₀ g.state) :
    Ensures (trash (runWithin depth) card id) g
      (fun _ g' => g'.memory = g.memory ∧ Redirected id card .trashed s₀ g'.state) fun _ _ => True := by
  obtain ⟨p, hp, -⟩ := h.player? hp₀
  obtain ⟨c, hc, hdef⟩ := h.kept.carded hc₀
  have hreturns : s₀.returns card = !c.definition.onTrash.isEmpty := by
    rw [GameState.returns_eq hc₀, hdef]
  refine ensures_trash_then hc hp (fun hnone message => ?_) fun zone tableau hremove => ?_
  · obtain ⟨rfl, -⟩ := trashed_of_missing hs₀ hp₀ hcard h hp (Tableau.remove?_eq_none_iff.mp hnone)
    exact ⟨rfl, h.still (.remark g.state ⟨.minimal, _, some .warning⟩ (by simp)) ⟨rfl, rfl, rfl⟩⟩
  · have hchange := Change.trash (H := Hooks.catalog) g.state id p card zone _ c.definition.name hp hremove
    obtain ⟨zones, htaken, rfl⟩ := Tableau.remove?_eq_some hremove
    obtain ⟨htrash, hlaid⟩ := left_of_taken hs₀ hp₀ hcard h hp htaken
    cases hback : s₀.returns card with
    | false =>
      have hnothing : c.definition.onTrash = [] := by
        rw [hback] at hreturns
        simpa using hreturns.symm
      rw [hnothing]
      refine ⟨rfl, h.again hp₀ hp (.single hchange) rfl ?_ rfl ?_⟩
      · rw [hback]
        exact hlaid
      · rw [if_pos ⟨rfl, hback⟩, ← htrash]
        rfl
    | true =>
      have hne : c.definition.onTrash ≠ [] := by
        rw [hback] at hreturns
        simpa using hreturns.symm
      have hrecover : c.definition.onTrash = fortress.onTrash :=
        congrArg _ (Registry.eq_fortress ((h.ofCatalog hs₀).registered card c hc) hne)
      rw [hrecover]
      cases depth with
      | zero => exact trivial
      | succ depth =>
        refine ensures_ite.mpr ⟨fun hempty => absurd hempty (by decide), fun _ => ensures_bind.mpr ?_⟩
        exact programAll (steps_scripted (call
          (recover_redirects hs₀ hp₀ hcard hback h hp htrash hlaid hchange)))

end

end Catalog

/-! ### Asking for the card -/

namespace Catalog

/-- A player is asked to put the card, of the name, onto the deck while it lies in the discard pile, or
is asked to trash it. -/
def Prompts (id : PlayerId) (card : CardId) (name : String) (x : Inquiry) : Prop :=
  x.asks id (topdeckPrompt name) = true ∧ x.state.Discarded id card ∨
    x.asks id (trashPrompt name) = true

/-- Nothing has moved but the one card, and what the player was asked meanwhile was what should become of
it; its fate is that of the answers. -/
def Redirecting {M : Type} (id : PlayerId) (card : CardId) (name : String) (n₀ n : Game (Minuted M)) :
    Prop :=
  ∃ record, n.memory.inquiries = n₀.memory.inquiries ++ record ∧
    (∀ x ∈ record, Prompts id card name x) ∧
    Redirected id card (fate id name record) n₀.state n.state

open Engine Script.Leads

variable {M : Type} {n₀ n : Game (Minuted M)} {E : Halt → Game (Minuted M) → Prop}
variable {id : PlayerId} {card : CardId} {name : String} {c₀ : Card} {p₀ : Player} {depth : Nat}

theorem Redirecting.refl (id : PlayerId) (card : CardId) (name : String) (n : Game (Minuted M)) :
    Redirecting id card name n n :=
  ⟨[], (List.append_nil _).symm, by simp, .refl n.state⟩

theorem Redirecting.kept (h : Redirecting id card name n₀ n) : Kept n₀.state n.state := by
  obtain ⟨_, _, _, h⟩ := h
  exact h.kept

theorem Redirecting.firm (hs₀ : n₀.state.OfCatalog) (id : PlayerId) (card : CardId) (name : String) :
    Firm Hooks.catalog n₀.state (Redirecting id card name n₀) where
  sound := hs₀.sound
  allow := hs₀.hooks
  changes := by
    rintro n ⟨_, _, _, h⟩
    exact h.changes
  still := by
    rintro n s' ⟨record, hrecord, hprompts, h⟩ hchange hstill
    exact ⟨record, hrecord, hprompts, h.still hchange hstill⟩

variable [Controllers M]

/-- The player is asked once more: the answer is in the minutes, and the card has not moved yet. -/
theorem ensures_asked {choice : BooleanChoice} {record : List Inquiry} {fate : Fate}
    {Q : Bool → Game (Minuted M) → Prop} (hid : id.seat < n.state.players.length)
    (hrecord : n.memory.inquiries = n₀.memory.inquiries ++ record)
    (h : Redirected id card fate n₀.state n.state)
    (hQ : ∀ (answer : Bool) n' (x : Inquiry), x.toExchange = ⟨id, .boolean choice, answer⟩ →
      x.state = n.state → n'.memory.inquiries = n₀.memory.inquiries ++ (record ++ [x]) →
      Redirected id card fate n₀.state n'.state → Q answer n') :
    Ensures (chooseBoolean id choice) n Q E := by
  rw [chooseBoolean, ensures_ask hid]
  refine hQ _ _ { player := id, question := .boolean choice, answer := _, state := n.state } rfl rfl ?_
    (h.still (.think n.state id _ _) (.think n.state id _ _))
  rw [asked_inquiries, hrecord, List.append_assoc]

section

variable (hs₀ : n₀.state.OfCatalog) (hp₀ : n₀.state.player? id = some p₀)
variable (hcard : card ∈ p₀.zones.discard) (hc₀ : n₀.state.card? card = some c₀)
include hs₀ hp₀ hcard hc₀

/-- The card may be put onto the deck as long as it lies in the discard pile. -/
theorem offerTopdeck_redirects {provoke : Program → Engine (Minuted M) Bool} {source : CardId}
    (h : Redirecting id card c₀.definition.name n₀ n) :
    (offerTopdeck id card source).Leads (perform provoke) n
      (fun _ n' => Redirecting id card c₀.definition.name n₀ n') E := by
  obtain ⟨record, hrecord, hprompts, h⟩ := h
  obtain ⟨p, hp, hzones⟩ := h.player? hp₀
  obtain ⟨c, hc, hdef⟩ := h.kept.carded hc₀
  have hname : c.face.name = c₀.definition.name := congrArg (·.name) hdef
  have hm := hs₀.sound.mats p₀ (GameState.player?_mem hp₀)
  have hn := hs₀.sound.nodup_allCards hp₀
  refine bind (tableau hp (ite (fun hloc => ?_) fun _ => pure ⟨record, hrecord, hprompts, h⟩))
  rw [hzones] at hloc
  have hleft := PlayerZones.eq_left_of_locate hm hn hcard hloc
  rw [hleft] at h hzones
  refine bind (face hc ?_)
  rw [hname]
  refine callBind (ensures_asked (GameState.seat_lt_of_player? hp) hrecord h ?_)
  intro answer n' x hx hstate hsaid h'
  obtain ⟨hasks, hagrees, hother⟩ := topdeck_inquiry hx
  have hasked : ∀ y ∈ record ++ [x], Prompts id card c₀.definition.name y :=
    List.forall_mem_append.mpr ⟨hprompts, List.forall_mem_singleton.mpr
      (.inl ⟨hasks, p, hstate ▸ hp, hzones ▸ hcard⟩)⟩
  refine ite (fun hyes => ?_) fun hno => pure ⟨_, hsaid, hasked, ?_⟩
  · refine callBind ((move_redirects hs₀ hp₀ hcard h').imp ?_)
    rintro _ n'' ⟨hmemory, h''⟩
    refine pure ⟨_, by rw [hmemory, hsaid], hasked, ?_⟩
    rw [fate_append_topdeck hother (hagrees.trans hyes) hleft]
    exact h''
  · rw [fate_append_of_not (hagrees.trans (by simpa using hno)) hother, hleft]
    exact h'

/-- A Watchtower of the player asks for the card, and one of another player does not. -/
theorem watch_redirects {ctx : ReactionContext} {info : GainInfo} (htrigger : ctx.trigger = .gain info)
    (hplayer : info.player = id) (hgained : info.card = card)
    (h : Redirecting id card c₀.definition.name n₀ n) :
    (watch ctx).Leads (perform (runWithin depth)) n
      (fun _ n' => Redirecting id card c₀.definition.name n₀ n') fun _ _ => True := by
  unfold watch
  rw [htrigger]
  refine ite (fun howner => ?_) fun _ => pure h
  rw [← howner, hplayer, hgained]
  obtain ⟨record, hrecord, hprompts, h⟩ := h
  obtain ⟨p, hp, -⟩ := h.player? hp₀
  obtain ⟨c, hc, hdef⟩ := h.kept.carded hc₀
  have hname : c.face.name = c₀.definition.name := congrArg (·.name) hdef
  refine bind (face hc ?_)
  rw [hname]
  refine callBind (ensures_asked (GameState.seat_lt_of_player? hp) hrecord h ?_)
  intro answer n' x hx _ hsaid h'
  obtain ⟨hasks, hagrees, hother⟩ := trash_inquiry hx
  have hasked : ∀ y ∈ record ++ [x], Prompts id card c₀.definition.name y :=
    List.forall_mem_append.mpr ⟨hprompts, List.forall_mem_singleton.mpr (.inr hasks)⟩
  refine ite (fun hyes => ?_) fun hno => ?_
  · refine callBind ((ensures_reveal (Redirected.firm hs₀ n'.memory) ⟨rfl, h'⟩).imp ?_)
    rintro _ n₂ ⟨hmemory, h₂⟩
    refine callBind ((trash_redirects hs₀ hp₀ hcard hc₀ h₂).imp ?_)
    rintro _ n₃ ⟨hmemory', h₃⟩
    refine pure ⟨_, by rw [hmemory', hmemory, hsaid], hasked, ?_⟩
    rw [fate_append_trash (hagrees.trans hyes)]
    exact h₃
  · refine offerTopdeck_redirects hs₀ hp₀ hcard hc₀ ⟨_, hsaid, hasked, ?_⟩
    rw [fate_append_of_not hother (hagrees.trans (by simpa using hno))]
    exact h'

end

end Catalog

end DeckBuilder
