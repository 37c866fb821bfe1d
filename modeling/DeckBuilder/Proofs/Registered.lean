import DeckBuilder.KingdomChoice
import DeckBuilder.Proofs.Opening
import DeckBuilder.Proofs.Winning
import Mathlib.Data.List.Nodup

/-!
Finding cards by their names. A registry keeps its definitions in order and their places under the
names in lower case; so a card is found under its name in any case and under no other name, and cards
can be registered together as long as no two of their names are the same in lower case. What a choice of
a kingdom comes to with the catalog follows from this.
-/
namespace DeckBuilder

open DeckBuilder.Random

/-- The name under which a card is looked up. -/
def CardDefinition.key (d : CardDefinition) : String := Text.lowerCase d.name

namespace Registry

/-- The places are those of the definitions, each under its key. -/
def Indexed (r : Registry) : Prop :=
  ∀ (key : String) (i : Nat),
    r.places[key]? = some i ↔ ∃ d, r.definitions[i]? = some d ∧ d.key = key

variable {r r' : Registry} {d : CardDefinition}

theorem Indexed.get?_eq_some_iff (h : r.Indexed) {name : String} :
    r.get? name = some d ↔ d ∈ r.definitions ∧ d.key = Text.lowerCase name := by
  constructor
  · intro hget
    obtain ⟨i, hplace, hd⟩ := Option.bind_eq_some_iff.mp hget
    obtain ⟨d', hd', hkey⟩ := (h _ i).mp hplace
    obtain rfl : d' = d := Option.some.inj (hd'.symm.trans hd)
    exact ⟨Array.mem_of_getElem? hd, hkey⟩
  · intro hfound
    obtain ⟨hmem, hkey⟩ := hfound
    obtain ⟨i, hi⟩ := Array.mem_iff_getElem?.mp hmem
    have hplace := (h (Text.lowerCase name) i).mpr ⟨d, hi, hkey⟩
    exact Option.bind_eq_some_iff.mpr ⟨i, hplace, hi⟩

theorem Indexed.lookup_eq_ok_iff (h : r.Indexed) {name : String} :
    r.lookup name = .ok d ↔ d ∈ r.definitions ∧ d.key = Text.lowerCase name := by
  rw [← h.get?_eq_some_iff, lookup]
  cases r.get? name with
  | none => simp
  | some d' => simp

theorem indexed_empty : Indexed {} := by
  intro key i
  simp

/-- A card whose key is new can be registered, after the others. -/
theorem Indexed.register (h : r.Indexed) (hnew : ∀ d' ∈ r.definitions, d'.key ≠ d.key) :
    ∃ r', r.register d = .ok r' ∧ r'.Indexed ∧
      r'.definitions.toList = r.definitions.toList ++ [d] := by
  have hfree : r.places[d.key]? = none := by
    rw [Option.eq_none_iff_forall_ne_some]
    intro i hi
    obtain ⟨d', hd', hkey⟩ := (h _ i).mp hi
    exact hnew d' (Array.mem_of_getElem? hd') hkey
  have hcontains : ¬ r.places.contains (Text.lowerCase d.name) := by
    rw [Std.TreeMap.contains_eq_isSome_getElem?, ← CardDefinition.key, hfree]
    decide
  refine ⟨_, if_neg hcontains, ?_, Array.toList_push⟩
  intro key i
  change (r.places.insert d.key r.definitions.size)[key]? = some i ↔
    ∃ d', (r.definitions.push d)[i]? = some d' ∧ d'.key = key
  rw [Std.TreeMap.getElem?_insert, Array.getElem?_push]
  simp only [Std.compare_eq_iff_eq]
  by_cases hkey : d.key = key
  · rw [if_pos hkey, Option.some.injEq]
    constructor
    · intro hi
      exact ⟨d, if_pos hi.symm, hkey⟩
    · intro hfound
      obtain ⟨d', hd', hkey'⟩ := hfound
      by_cases hi : i = r.definitions.size
      · exact hi.symm
      · rw [if_neg hi] at hd'
        exact absurd (hkey'.trans hkey.symm) (hnew d' (Array.mem_of_getElem? hd'))
  · rw [if_neg hkey, h key i]
    by_cases hi : i = r.definitions.size
    · rw [if_pos hi, hi, Array.getElem?_size]
      simp [hkey]
    · rw [if_neg hi]

/-- Cards with different keys, none of them there already, can all be registered. -/
theorem Indexed.registerAll (h : r.Indexed) {ds : List CardDefinition}
    (hkeys : ((r.definitions.toList ++ ds).map CardDefinition.key).Nodup) :
    ∃ r', r.registerAll ds = (r', none) ∧ r'.Indexed ∧
      r'.definitions.toList = r.definitions.toList ++ ds := by
  induction ds generalizing r with
  | nil => exact ⟨r, rfl, h, (List.append_nil _).symm⟩
  | cons d rest ih =>
    have hnew : ∀ d' ∈ r.definitions, d'.key ≠ d.key := by
      intro d' hd'
      rw [List.map_append, List.nodup_append] at hkeys
      exact hkeys.2.2 _ (List.mem_map_of_mem (Array.mem_toList_iff.mpr hd')) _
        (List.mem_map_of_mem List.mem_cons_self)
    obtain ⟨r₁, hregister, h₁, hdefinitions⟩ := h.register hnew
    have happend : r₁.definitions.toList ++ rest = r.definitions.toList ++ d :: rest := by
      rw [hdefinitions, List.append_assoc, List.singleton_append]
    obtain ⟨r', hrest, h', hall⟩ := ih h₁ (by rw [happend]; exact hkeys)
    exact ⟨r', by rw [Registry.registerAll, hregister]; exact hrest, h', hall.trans happend⟩

theorem indexed_ofCards {ds : List CardDefinition} (hkeys : (ds.map CardDefinition.key).Nodup) :
    (ofCards ds).Indexed ∧ (ofCards ds).definitions.toList = ds := by
  obtain ⟨r, hall, hindexed, hdefinitions⟩ := indexed_empty.registerAll hkeys
  rw [ofCards, hall]
  exact ⟨hindexed, hdefinitions⟩

/-! ### The catalog -/

set_option maxRecDepth 100000 in
/-- No two cards of the catalog are the same but for the case of their names. -/
theorem allCards_keys : (allCards.map CardDefinition.key).Nodup := by decide +kernel

theorem eq_of_name {d d' : CardDefinition} (hd : d ∈ allCards) (hd' : d' ∈ allCards)
    (h : d.name = d'.name) : d = d' :=
  List.inj_on_of_nodup_map allCards_keys hd hd' (congrArg Text.lowerCase h)

/-- A name finds the card of the catalog whose name it is, in any case. -/
theorem catalog_lookup_iff {name : String} :
    catalog.lookup name = .ok d ↔ d ∈ allCards ∧ d.key = Text.lowerCase name := by
  obtain ⟨hindexed, hdefinitions⟩ := indexed_ofCards allCards_keys
  rw [catalog, hindexed.lookup_eq_ok_iff, ← Array.mem_toList_iff, hdefinitions]

/-- A card of the catalog is found under the name that is printed on it. -/
theorem catalog_lookup_name (hd : d ∈ allCards) : catalog.lookup d.name = .ok d :=
  catalog_lookup_iff.mpr ⟨hd, rfl⟩

/-- The names of the kingdom cards of the catalog, in its order. -/
def kingdomCardNames : List String := (allCards.filter fun d => d.set == .kingdom).map (·.name)

theorem kingdomNames_catalog : catalog.kingdomNames = kingdomCardNames := by
  rw [kingdomNames, catalog, (indexed_ofCards allCards_keys).2, kingdomCardNames]

theorem enough_kingdomNames : ¬ catalog.kingdomNames.length < DeckBuilder.kingdomSize := by
  rw [kingdomNames_catalog]
  decide +kernel

end Registry

/-! ### Kingdoms -/

namespace KingdomChoice

variable {seed : UInt64} {names : List String}

/-- The names that the choice stands for. A preset is known by its name, whatever the case of the
letters; ten cards at random are the first ten of the kingdom cards when these are shuffled. -/
def Lists (seed : UInt64) (names : List String) : KingdomChoice → Prop
  | .preset name => ∃ p ∈ presets, Text.sameAscii p.1 name ∧ names = p.2
  | .random =>
    names = (shuffle Registry.kingdomCardNames (Generator.ofSeed seed)).1.take 10
  | .custom cards => names = cards

/-- The choice stands for the names, in any case, of these ten cards of the catalog. -/
def Resolves (choice : KingdomChoice) (seed : UInt64) (kingdom : List CardDefinition) : Prop :=
  ∃ names, choice.Lists seed names ∧ names.length = 10 ∧
    List.Forall₂ (fun name d => d ∈ Registry.allCards ∧ d.key = Text.lowerCase name) names kingdom

theorem Resolves.mem_allCards {choice : KingdomChoice} {kingdom : List CardDefinition}
    (h : choice.Resolves seed kingdom) {d : CardDefinition} (hd : d ∈ kingdom) :
    d ∈ Registry.allCards := by
  obtain ⟨names, -, -, hfound⟩ := h
  exact ((List.forall₂_and_left _ _).mp hfound.flip).1 d hd

/-- No two presets have the same name but for the case of the letters. -/
theorem presets_distinct :
    ∀ p ∈ presets, ∀ q ∈ presets, Text.asciiLower p.1 = Text.asciiLower q.1 → p = q := by
  decide +kernel

theorem preset?_eq_some_iff {name : String} :
    preset? name = some names ↔ ∃ p ∈ presets, Text.sameAscii p.1 name ∧ names = p.2 := by
  constructor
  · intro h
    obtain ⟨p, hp, rfl⟩ := Option.map_eq_some_iff.mp h
    exact ⟨p, List.mem_of_find?_eq_some hp, by simpa using List.find?_some hp, rfl⟩
  · intro h
    obtain ⟨p, hp, hname, rfl⟩ := h
    have hfound : (presets.find? fun p => Text.sameAscii p.1 name).isSome :=
      List.find?_isSome.mpr ⟨p, hp, hname⟩
    obtain ⟨q, hq⟩ := Option.isSome_iff_exists.mp hfound
    have hname' : Text.sameAscii q.1 name := by simpa using List.find?_some hq
    obtain rfl : q = p := presets_distinct q (List.mem_of_find?_eq_some hq) p hp
      ((Text.sameAscii_iff.mp hname').trans (Text.sameAscii_iff.mp hname).symm)
    rw [preset?, hq]
    rfl

theorem randomCards_eq {r : Registry} (h : ¬ r.kingdomNames.length < kingdomSize) (g : Generator) :
    randomCards r g =
      .ok ((shuffle r.kingdomNames g).1.take kingdomSize, (shuffle r.kingdomNames g).2) := by
  rw [randomCards, if_neg h]

theorem namesIn_eq_ok_iff {choice : KingdomChoice} :
    (∃ g, choice.namesIn Registry.catalog (Generator.ofSeed seed) = .ok (names, g)) ↔
      choice.Lists seed names := by
  cases choice with
  | preset name =>
    rw [Lists, ← preset?_eq_some_iff, namesIn]
    cases preset? name with
    | none => simp
    | some cards => simp [eq_comm]
  | random =>
    rw [Lists, namesIn, randomCards_eq Registry.enough_kingdomNames, kingdomSize,
      Registry.kingdomNames_catalog]
    simp [eq_comm]
  | custom cards => simp [Lists, namesIn, eq_comm]

/-- A choice that comes to cards stands for ten names, each of a card. -/
theorem listed_of_cardNames {choice : KingdomChoice} {r : Registry} {g g' : Generator}
    (h : choice.cardNames r g = .ok (names, g')) :
    ∃ listed, choice.namesIn r g = .ok (listed, g') ∧ listed.length = kingdomSize ∧
      ∃ kingdom, List.Forall₂ (fun name d => r.lookup name = .ok d) listed kingdom ∧
        names = kingdom.map (·.name) := by
  obtain ⟨⟨listed, g₁⟩, hlisted, h⟩ := ok_bind h
  dsimp only at h
  by_cases hlength : listed.length = kingdomSize
  · rw [if_neg (not_not_intro hlength), mapM_map_ok] at h
    obtain ⟨found, hfound, h⟩ := ok_bind h
    cases hkingdom : listed.mapM r.lookup with
    | error e => simp [hkingdom, Except.map] at hfound
    | ok kingdom =>
      rw [hkingdom] at hfound
      obtain rfl := Except.ok.inj hfound
      obtain ⟨rfl, rfl⟩ := Prod.mk.inj (Except.ok.inj h)
      exact ⟨listed, hlisted, hlength, kingdom, mapM_eq_ok_iff.mp hkingdom, rfl⟩
  · rw [if_pos hlength] at h
    cases h

theorem cardNames_eq_ok_iff {choice : KingdomChoice} :
    (∃ g, choice.cardNames Registry.catalog (Generator.ofSeed seed) = .ok (names, g)) ↔
      ∃ kingdom, choice.Resolves seed kingdom ∧ names = kingdom.map (·.name) := by
  constructor
  · intro h
    obtain ⟨g, h⟩ := h
    obtain ⟨listed, hlisted, hlength, kingdom, hfound, hnames⟩ := listed_of_cardNames h
    refine ⟨kingdom, ⟨listed, namesIn_eq_ok_iff.mp ⟨g, hlisted⟩, hlength, ?_⟩, hnames⟩
    exact hfound.imp fun _ _ => Registry.catalog_lookup_iff.mp
  · intro h
    obtain ⟨kingdom, ⟨listed, hlists, hlength, hfound⟩, rfl⟩ := h
    obtain ⟨g, hlisted⟩ := namesIn_eq_ok_iff.mpr hlists
    have hkingdom : listed.mapM Registry.catalog.lookup = .ok kingdom :=
      mapM_eq_ok_iff.mpr (hfound.imp fun _ _ => Registry.catalog_lookup_iff.mpr)
    refine ⟨g, ?_⟩
    rw [cardNames, hlisted]
    change (if listed.length ≠ kingdomSize then _ else _) = _
    have hten : ¬ listed.length ≠ kingdomSize := not_not_intro hlength
    rw [if_neg hten, mapM_map_ok, hkingdom]
    rfl

end KingdomChoice

end DeckBuilder
