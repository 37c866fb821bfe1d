import DeckBuilder.Proofs.Registered

/-!
Registering cards one after the other. Whichever calls are made on an empty registry, those that fail
among them, the places and the definitions stay in step. So to look a name up in the places is to scan
the definitions for it, a card is refused if and only if that scan finds one, and of cards that are
registered together those before the first refused one are kept.
-/
namespace DeckBuilder

/-- A call by which cards are registered. -/
inductive Registration
  | one (d : CardDefinition)
  | all (ds : List CardDefinition)

namespace Registry

/-- The registry after a call, and the error if it fails. -/
def enter (r : Registry) : Registration → Registry × Option GameError
  | .one d =>
    match r.register d with
    | .ok r' => (r', none)
    | .error e => (r, some e)
  | .all ds => r.registerAll ds

/-- The registry after some calls, be they done or given up. -/
def enterAll (r : Registry) (calls : List Registration) : Registry :=
  calls.foldl (fun r call => (r.enter call).1) r

/-- A card of this name is registered, whatever the case of the letters. -/
def Knows (r : Registry) (name : String) : Prop :=
  ∃ d ∈ r.definitions.toList, d.key = Text.lowerCase name

variable {r : Registry} {d : CardDefinition}

/-! ### Looking up -/

theorem Indexed.contains_iff (h : r.Indexed) {name : String} : r.contains name ↔ r.Knows name := by
  rw [contains, Std.TreeMap.contains_eq_isSome_getElem?, Option.isSome_iff_exists]
  constructor
  · rintro ⟨i, hi⟩
    obtain ⟨d, hd, hkey⟩ := (h _ i).mp hi
    exact ⟨d, Array.mem_toList_iff.mpr (Array.mem_of_getElem? hd), hkey⟩
  · rintro ⟨d, hd, hkey⟩
    obtain ⟨i, hi⟩ := Array.mem_iff_getElem?.mp (Array.mem_toList_iff.mp hd)
    exact ⟨i, (h _ i).mpr ⟨d, hi, hkey⟩⟩

/-- To look a name up is to scan the definitions for it. -/
theorem Indexed.get?_eq_find? (h : r.Indexed) (name : String) :
    r.get? name = r.definitions.toList.find? fun d => d.key = Text.lowerCase name := by
  cases hfind : r.definitions.toList.find? fun d => d.key = Text.lowerCase name with
  | none =>
    rw [Option.eq_none_iff_forall_ne_some]
    intro d hd
    obtain ⟨hmem, hkey⟩ := h.get?_eq_some_iff.mp hd
    exact absurd (decide_eq_true hkey) (List.find?_eq_none.mp hfind d (Array.mem_toList_iff.mpr hmem))
  | some d =>
    rw [h.get?_eq_some_iff, ← Array.mem_toList_iff]
    exact ⟨List.mem_of_find?_eq_some hfind, by simpa using List.find?_some hfind⟩

theorem Indexed.lookup_eq_error_iff (h : r.Indexed) {name : String} {e : GameError} :
    r.lookup name = .error e ↔ ¬ r.Knows name ∧ e = .unknownCard name := by
  have hknows : r.get? name = none ↔ ¬ r.Knows name := by
    rw [h.get?_eq_find?, List.find?_eq_none, Knows]
    simp
  rw [← hknows, lookup]
  cases r.get? name with
  | none => simp [eq_comm]
  | some d => simp

/-- No two definitions have the same key: its place tells them apart. -/
theorem Indexed.nodup_keys (h : r.Indexed) :
    (r.definitions.toList.map CardDefinition.key).Nodup := by
  rw [List.nodup_iff_getElem?_ne_getElem?]
  intro i j hij hj heq
  rw [List.length_map, Array.length_toList] at hj
  have hplace : ∀ k, k < r.definitions.size → ∃ d, r.definitions[k]? = some d :=
    fun k hk => ⟨_, Array.getElem?_eq_getElem hk⟩
  obtain ⟨d, hd⟩ := hplace i (hij.trans hj)
  obtain ⟨d', hd'⟩ := hplace j hj
  have hkey : d.key = d'.key := by simpa [hd, hd'] using heq
  have hi := (h d.key i).mpr ⟨d, hd, rfl⟩
  have hj := (h d.key j).mpr ⟨d', hd', hkey.symm⟩
  exact hij.ne (Option.some.inj (hi.symm.trans hj))

/-! ### Registering -/

theorem Indexed.register_of_knows (h : r.Indexed) (hknows : r.Knows d.name) :
    r.register d = .error (.duplicateCard d.name) := if_pos (h.contains_iff.mpr hknows)

theorem Indexed.register_of_not_knows (h : r.Indexed) (hnew : ¬ r.Knows d.name) :
    ∃ r', r.register d = .ok r' ∧ r'.Indexed ∧
      r'.definitions.toList = r.definitions.toList ++ [d] :=
  h.register fun d' hd' hkey => hnew ⟨d', Array.mem_toList_iff.mpr hd', hkey⟩

/-- What becomes of cards that are registered together: all of them are, or one has the name of a card
that is there already, then those before it are and it is refused. -/
inductive Registers (r : Registry) : List CardDefinition → Registry × Option GameError → Prop
  | all (ds : List CardDefinition) (r' : Registry)
      (kept : r'.definitions.toList = r.definitions.toList ++ ds) : Registers r ds (r', none)
  | before (ds rest : List CardDefinition) (d : CardDefinition) (r' : Registry)
      (kept : r'.definitions.toList = r.definitions.toList ++ ds) (known : r'.Knows d.name) :
      Registers r (ds ++ d :: rest) (r', some (.duplicateCard d.name))

/-- One more card is registered before the others. -/
theorem Registers.cons {r₁ : Registry} {ds : List CardDefinition} {outcome : Registry × Option GameError}
    (hd : r₁.definitions.toList = r.definitions.toList ++ [d]) (h : r₁.Registers ds outcome) :
    r.Registers (d :: ds) outcome := by
  have hcons : ∀ ds, r₁.definitions.toList ++ ds = r.definitions.toList ++ d :: ds := by
    intro ds
    rw [hd, List.append_assoc, List.singleton_append]
  cases h with
  | all _ r' kept => exact .all _ r' (kept.trans (hcons ds))
  | before ds rest d' r' kept known => exact .before (d :: ds) rest d' r' (kept.trans (hcons ds)) known

theorem Indexed.registerAll_registers (h : r.Indexed) (ds : List CardDefinition) :
    (r.registerAll ds).1.Indexed ∧ r.Registers ds (r.registerAll ds) := by
  induction ds generalizing r with
  | nil => exact ⟨h, .all [] r (List.append_nil _).symm⟩
  | cons d rest ih =>
    by_cases hknows : r.Knows d.name
    · rw [Registry.registerAll, h.register_of_knows hknows]
      exact ⟨h, .before [] rest d r (List.append_nil _).symm hknows⟩
    · obtain ⟨r₁, hregister, h₁, hdefinitions⟩ := h.register_of_not_knows hknows
      rw [Registry.registerAll, hregister]
      obtain ⟨hindexed, hregisters⟩ := ih h₁
      exact ⟨hindexed, hregisters.cons hdefinitions⟩

/-- A call keeps the places and the definitions in step, also one that fails. -/
theorem Indexed.enter (h : r.Indexed) (call : Registration) : (r.enter call).1.Indexed := by
  cases call with
  | all ds => exact (h.registerAll_registers ds).1
  | one d =>
    rw [Registry.enter]
    by_cases hknows : r.Knows d.name
    · rw [h.register_of_knows hknows]
      exact h
    · obtain ⟨r', hregister, hindexed, -⟩ := h.register_of_not_knows hknows
      rw [hregister]
      exact hindexed

theorem Indexed.enterAll (h : r.Indexed) (calls : List Registration) : (r.enterAll calls).Indexed := by
  induction calls generalizing r with
  | nil => exact h
  | cons call rest ih => exact ih (h.enter call)

/-- The places of a registry agree with its definitions. Whichever calls were made on an empty registry:
no two definitions have the same name in lower case; a name finds the definition that a scan for it finds,
and is unknown if the scan finds none; a card is refused if and only if its name is known, and then the
registry stays as it is; and of cards that are registered together those before the first of a known name
are kept. -/
theorem names_found_as_listed (calls : List Registration) :
    let r := enterAll {} calls
    (r.definitions.toList.map CardDefinition.key).Nodup ∧
    (∀ name,
      r.get? name = (r.definitions.toList.find? fun d => d.key = Text.lowerCase name) ∧
      (r.contains name ↔ r.Knows name) ∧
      (∀ d, r.lookup name = .ok d ↔ r.get? name = some d) ∧
      ∀ e, r.lookup name = .error e ↔ ¬ r.Knows name ∧ e = .unknownCard name) ∧
    (∀ d,
      (∀ e, r.register d = .error e ↔ r.Knows d.name ∧ e = .duplicateCard d.name) ∧
      (r.Knows d.name → (r.enter (.one d)).1 = r) ∧
      ∀ r', r.register d = .ok r' → r'.definitions.toList = r.definitions.toList ++ [d]) ∧
    ∀ ds,
      r.Registers ds (r.registerAll ds) ∧
      ((r.registerAll ds).1.definitions.toList.map CardDefinition.key).Nodup := by
  intro r
  have h : r.Indexed := indexed_empty.enterAll calls
  refine ⟨h.nodup_keys, fun name => ?_, fun d => ?_, fun ds => ?_⟩
  · refine ⟨h.get?_eq_find? name, h.contains_iff, fun d => ?_, fun e => h.lookup_eq_error_iff⟩
    rw [h.lookup_eq_ok_iff, h.get?_eq_some_iff]
  · by_cases hknows : r.Knows d.name
    · rw [enter, h.register_of_knows hknows]
      exact ⟨fun e => by simp [hknows, eq_comm], fun _ => rfl, fun r' hr' => by simp at hr'⟩
    · obtain ⟨r₁, hregister, -, hdefinitions⟩ := h.register_of_not_knows hknows
      rw [enter, hregister]
      refine ⟨fun e => by simp [hknows], fun hknown => absurd hknown hknows, fun r' hr' => ?_⟩
      rw [← Except.ok.inj hr', hdefinitions]
  · obtain ⟨hindexed, hregisters⟩ := h.registerAll_registers ds
    exact ⟨hregisters, hindexed.nodup_keys⟩

/-- Of three cards that are registered after a Copper the second is a Copper, too; so only the first
of them is known afterwards, and the name of the third is free. -/
theorem names_found_as_listed_after_refusal :
    let r := enterAll {}
      [.one (Catalog.baseTreasure "Copper" 0 1),
        .all [Catalog.baseTreasure "Silver" 3 2, Catalog.baseTreasure "COPPER" 0 1,
          Catalog.baseTreasure "Gold" 6 3]]
    let silver := Catalog.baseTreasure "silver" 2 2
    r.Knows silver.name ∧ r.register silver = .error (.duplicateCard "silver") ∧
      (r.enter (.one silver)).1 = r ∧
      ¬ r.Knows "Gold" ∧ r.lookup "Gold" = .error (.unknownCard "Gold") := by
  intro r silver
  obtain ⟨-, hnames, hcards, -⟩ := names_found_as_listed
    [.one (Catalog.baseTreasure "Copper" 0 1),
      .all [Catalog.baseTreasure "Silver" 3 2, Catalog.baseTreasure "COPPER" 0 1,
        Catalog.baseTreasure "Gold" 6 3]]
  have hsilver : r.Knows silver.name := (hnames _).2.1.mp (by decide +kernel)
  have hgold : ¬ r.Knows "Gold" := fun h => absurd ((hnames _).2.1.mpr h) (by decide +kernel)
  exact ⟨hsilver, ((hcards silver).1 _).mpr ⟨hsilver, rfl⟩, (hcards silver).2.1 hsilver, hgold,
    ((hnames "Gold").2.2.2 _).mpr ⟨hgold, rfl⟩⟩

end Registry

end DeckBuilder
