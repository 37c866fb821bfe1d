import DeckBuilder.Catalog.Base
import DeckBuilder.Controller.ScriptedPlayer
import DeckBuilder.Proofs.Fields
import Mathlib.Data.List.Count
import Mathlib.Data.List.Induction
import Mathlib.Data.List.Nodup

/-!
Cards picked by name. A request takes the first offered card of its name that has not been taken. Names that
differ by more than the case of their letters share no card, so what a request takes depends only on how
often its name was requested before: of the offered cards of a name the first goes to the first request for
it, the second to the second, and the requests beyond the last one go empty.
-/
namespace DeckBuilder.ScriptedPlayer

section

variable (nameOf : CardId → String)

/-- Those of the cards that have the name, whatever the case of its letters. -/
def ofName (name : String) (cards : List CardId) : List CardId :=
  cards.filter fun id => Text.sameAscii (nameOf id) name

/-- How many of the names ask for the cards of this one. -/
def requests (name : String) (names : List String) : Nat := names.countP (Text.sameAscii · name)

/-- The card for the request at a place: among the offered cards of its name the one with as many before it
as there were requests for them. -/
def granted? (offered : List CardId) (names : List String) (place : Nat) : Option CardId :=
  names[place]?.bind fun name => (ofName nameOf name offered)[requests name (names.take place)]?

end

section

variable {nameOf : CardId → String} {offered cards : List CardId} {names : List String}
  {name name' : String}

theorem mem_ofName {id : CardId} :
    id ∈ ofName nameOf name cards ↔ id ∈ cards ∧ Text.sameAscii (nameOf id) name = true :=
  List.mem_filter

theorem ofName_append (name : String) (cards more : List CardId) :
    ofName nameOf name (cards ++ more) = ofName nameOf name cards ++ ofName nameOf name more :=
  List.filter_append ..

theorem requests_append_singleton (name' : String) (names : List String) (name : String) :
    requests name' (names ++ [name]) =
      requests name' names + if Text.sameAscii name name' then 1 else 0 := by
  rw [requests, List.countP_append, List.countP_singleton]
  rfl

/-- A card that has one name has another if these are the same. -/
theorem ofName_toList {card : Option CardId}
    (h : ∀ id ∈ card, Text.sameAscii (nameOf id) name = true) :
    ofName nameOf name' card.toList = if Text.sameAscii name name' then card.toList else [] := by
  cases card with
  | none => simp [ofName]
  | some id =>
    have hid := Text.sameAscii_iff.mp (h id rfl)
    rw [Option.toList_some, ofName, List.filter_singleton, Text.sameAscii_congr_left hid, cond_eq_ite]

/-! ### One request -/

theorem go_append (picked : List CardId) (names names' : List String) :
    pickByName.go nameOf offered picked (names ++ names') =
      pickByName.go nameOf offered (pickByName.go nameOf offered picked names) names' := by
  induction names generalizing picked with
  | nil => rfl
  | cons name names ih =>
    rw [List.cons_append, pickByName.go, pickByName.go]
    split
    · exact ih _
    · exact ih _

/-- The last request comes after all others. -/
theorem pickByName_append_singleton (names : List String) (name : String) :
    pickByName nameOf offered (names ++ [name]) =
      pickByName nameOf offered names ++
        (offered.find? fun id => !(pickByName nameOf offered names).contains id &&
          Text.sameAscii (nameOf id) name).toList := by
  simp only [pickByName]
  rw [go_append, pickByName.go]
  split
  · next id hid => rw [hid, Option.toList_some, pickByName.go]
  · next hnone => rw [hnone, Option.toList_none, List.append_nil, pickByName.go]

theorem filter_notMem_take {α : Type} [BEq α] [LawfulBEq α] {l : List α} (h : l.Nodup) (n : Nat) :
    (l.filter fun x => !(l.take n).contains x) = l.drop n := by
  have htake : ((l.take n).filter fun x => !(l.take n).contains x) = [] := by
    simp
  have hdrop : ((l.drop n).filter fun x => !(l.take n).contains x) = l.drop n := by
    rw [List.filter_eq_self]
    intro x hx
    have hnot : x ∉ l.take n := fun hmem => List.disjoint_take_drop h (Nat.le_refl n) hmem hx
    simpa using hnot
  calc (l.filter fun x => !(l.take n).contains x)
      = (l.take n ++ l.drop n).filter fun x => !(l.take n).contains x := by
        rw [List.take_append_drop]
    _ = l.drop n := by rw [List.filter_append, htake, hdrop, List.nil_append]

/-- If the first `n` of the offered cards of a name are taken, a request for the name finds the next one. -/
theorem find?_untaken {picked : List CardId} {n : Nat} (hoffered : offered.Nodup)
    (h : ofName nameOf name picked = (ofName nameOf name offered).take n) :
    (offered.find? fun id => !picked.contains id && Text.sameAscii (nameOf id) name) =
      (ofName nameOf name offered)[n]? := by
  have htaken : ∀ id ∈ ofName nameOf name offered,
      (!picked.contains id) = !((ofName nameOf name offered).take n).contains id := by
    intro id hid
    rw [← h, Bool.eq_iff_iff]
    simp [mem_ofName, (mem_ofName.mp hid).2]
  have hcards : (ofName nameOf name offered).Nodup := hoffered.filter _
  calc (offered.find? fun id => !picked.contains id && Text.sameAscii (nameOf id) name)
      = ((ofName nameOf name offered).filter fun id => !picked.contains id).head? := by
        rw [← List.head?_filter, ofName, List.filter_filter]
    _ = ((ofName nameOf name offered).drop n).head? := by
        rw [List.filter_congr htaken, filter_notMem_take hcards]
    _ = (ofName nameOf name offered)[n]? := List.head?_drop

/-! ### All requests -/

/-- If the requests so far have taken the first cards of a name, one more request for it takes the next. -/
theorem pickByName_next (hoffered : offered.Nodup)
    (h : ofName nameOf name (pickByName nameOf offered names) =
      (ofName nameOf name offered).take (requests name names)) :
    pickByName nameOf offered (names ++ [name]) =
      pickByName nameOf offered names ++ (ofName nameOf name offered)[requests name names]?.toList := by
  rw [pickByName_append_singleton, find?_untaken hoffered h]

/-- What is picked of a name are its first cards, one for each request. By induction on the requests from
the last one, since what it finds depends on what all others have taken. -/
theorem ofName_pickByName (hoffered : offered.Nodup) (names : List String) (name : String) :
    ofName nameOf name (pickByName nameOf offered names) =
      (ofName nameOf name offered).take (requests name names) := by
  induction names using List.reverseRecOn generalizing name with
  | nil => rfl
  | append_singleton names last ih =>
    have hlast : ∀ id ∈ (ofName nameOf last offered)[requests last names]?,
        Text.sameAscii (nameOf id) last = true :=
      fun id hid => (mem_ofName.mp (List.mem_of_getElem? hid)).2
    rw [pickByName_next hoffered (ih last), ofName_append, ih name, ofName_toList hlast,
      requests_append_singleton]
    split
    · next hsame =>
      have hlower := Text.sameAscii_iff.mp hsame
      have hcards : ofName nameOf last offered = ofName nameOf name offered := by
        simp only [ofName, Text.sameAscii_congr_right hlower]
      have hrequests : requests last names = requests name names := by
        simp only [requests, Text.sameAscii_congr_right hlower]
      rw [hcards, hrequests, List.take_add_one]
    · rw [List.append_nil, Nat.add_zero]

/-- The request at a place finds the card that is granted to it. -/
theorem pickByName_take_succ (hoffered : offered.Nodup) (names : List String) (place : Nat) :
    pickByName nameOf offered (names.take (place + 1)) =
      pickByName nameOf offered (names.take place) ++ (granted? nameOf offered names place).toList := by
  rw [List.take_add_one, granted?]
  cases names[place]? with
  | none => simp
  | some name => exact pickByName_next hoffered (ofName_pickByName hoffered (names.take place) name)

theorem pickByName_take (hoffered : offered.Nodup) (names : List String) (n : Nat) :
    pickByName nameOf offered (names.take n) =
      (List.range n).filterMap (granted? nameOf offered names) := by
  induction n with
  | zero => rfl
  | succ n ih =>
    have hlast : [n].filterMap (granted? nameOf offered names) =
        (granted? nameOf offered names n).toList := rfl
    rw [pickByName_take_succ hoffered, ih, List.range_succ, List.filterMap_append, hlast]

/-- The cards are picked request by request. -/
theorem pickByName_eq_filterMap (hoffered : offered.Nodup) (names : List String) :
    pickByName nameOf offered names =
      (List.range names.length).filterMap (granted? nameOf offered names) := by
  rw [← pickByName_take hoffered, List.take_length]

theorem mem_offered_of_picked (hoffered : offered.Nodup) {id : CardId}
    (h : id ∈ pickByName nameOf offered names) : id ∈ offered := by
  have hown : id ∈ ofName nameOf (nameOf id) (pickByName nameOf offered names) :=
    mem_ofName.mpr ⟨h, Text.sameAscii_iff.mpr rfl⟩
  rw [ofName_pickByName hoffered] at hown
  exact (mem_ofName.mp (List.mem_of_mem_take hown)).1

/-- A card is picked as often as it is picked of its own name. -/
theorem nodup_pickByName (hoffered : offered.Nodup) (names : List String) :
    (pickByName nameOf offered names).Nodup := by
  rw [List.nodup_iff_count_le_one]
  intro id
  have hown : Text.sameAscii (nameOf id) (nameOf id) = true := Text.sameAscii_iff.mpr rfl
  have hcards : (ofName nameOf (nameOf id) offered).Nodup := hoffered.filter _
  calc (pickByName nameOf offered names).count id
      = (ofName nameOf (nameOf id) (pickByName nameOf offered names)).count id :=
        (List.count_filter (p := fun other => Text.sameAscii (nameOf other) (nameOf id)) hown).symm
    _ = ((ofName nameOf (nameOf id) offered).take (requests (nameOf id) names)).count id := by
        rw [ofName_pickByName hoffered]
    _ ≤ 1 := List.nodup_iff_count_le_one.mp (hcards.sublist (List.take_sublist _ _)) id

end

/-- What a script picks by names are different offered cards. Of each name, in whatever letters, there are as
many as requested, or all that are offered if these are fewer, and they are the first ones in the order of
the offer. The cards come in the order of the requests that found one. -/
theorem requests_take_first_copies (s : GameState) {offered : List CardId} (hoffered : offered.Nodup)
    (names : List String) :
    let picked := pickByName s.cardName offered names
    picked.Nodup ∧ (∀ id ∈ picked, id ∈ offered) ∧
      (∀ name, (ofName s.cardName name picked).length =
        min (requests name names) (ofName s.cardName name offered).length) ∧
      (∀ name, ofName s.cardName name picked =
        (ofName s.cardName name offered).take (requests name names)) ∧
      picked = (List.range names.length).filterMap (granted? s.cardName offered names) := by
  intro picked
  have hfirst : ∀ name, ofName s.cardName name picked =
      (ofName s.cardName name offered).take (requests name names) :=
    ofName_pickByName hoffered names
  refine ⟨nodup_pickByName hoffered names, fun id => mem_offered_of_picked hoffered, fun name => ?_,
    hfirst, pickByName_eq_filterMap hoffered names⟩
  rw [hfirst, List.length_take]

/-- A table with two Coppers and an Estate between them. -/
def copperEstateCopper : GameState where
  cards := ((Store.insert {} ⟨0⟩ ⟨Catalog.baseTreasure "Copper" 0 1, []⟩).insert
    ⟨1⟩ ⟨Catalog.baseVictory "Estate" 2 1, []⟩).insert ⟨2⟩ ⟨Catalog.baseTreasure "Copper" 0 1, []⟩
  players := []
  supply := ⟨[], 0⟩
  rng := .ofSeed 1

/-- Three Coppers are requested of two, in letters of different case, and the Estate in between. -/
theorem requests_take_first_copies_of_three :
    let names := ["COPPER", "estate", "Copper", "copper"]
    let picked := pickByName copperEstateCopper.cardName [⟨0⟩, ⟨1⟩, ⟨2⟩] names
    picked = [⟨0⟩, ⟨1⟩, ⟨2⟩] ∧ (ofName copperEstateCopper.cardName "copper" picked).length = 2 := by
  intro names picked
  have hoffered : [(⟨0⟩ : CardId), ⟨1⟩, ⟨2⟩].Nodup := by decide
  obtain ⟨-, -, hcount, -, horder⟩ := requests_take_first_copies copperEstateCopper hoffered names
  have hgranted : (List.range 4).filterMap
      (granted? copperEstateCopper.cardName [⟨0⟩, ⟨1⟩, ⟨2⟩] names) = [⟨0⟩, ⟨1⟩, ⟨2⟩] := by
    unfold granted? ofName requests
    simp only [Text.sameAscii_eq]
    decide
  have hcopies : min (requests "copper" names)
      (ofName copperEstateCopper.cardName "copper" [⟨0⟩, ⟨1⟩, ⟨2⟩]).length = 2 := by
    unfold ofName requests
    simp only [Text.sameAscii_eq]
    decide
  exact ⟨horder.trans hgranted, (hcount "copper").trans hcopies⟩

end DeckBuilder.ScriptedPlayer
