import DeckBuilder.Proofs.Fields
import DeckBuilder.Proofs.Registered

/-!
Choices of a kingdom, printed and read again. The name of a preset holds no blank. The names of cards
hold no comma and no blank at their ends, as the keys they are looked up by do not and lower case leaves
these characters where they are. So the text of a choice that comes to ten cards is read as that choice,
but for the case of the letters in the name of a preset.
-/
namespace DeckBuilder

open DeckBuilder.Random

/-! ### Characters that lower case leaves alone -/

namespace Text

def Caseless (c : Char) : Prop := c ≠ 'Σ' ∧ c ≠ 'İ' ∧ lowerChar c = c

theorem lowerFrom_caseless {c : Char} (h : Caseless c) (before rest : List Char) :
    lowerFrom before (c :: rest) = c :: lowerFrom (c :: before) rest := by
  rw [lowerFrom, if_neg h.1, if_neg h.2.1, h.2.2]
  rfl

theorem mem_lowerFrom {c : Char} (h : Caseless c) {cs : List Char} (hc : c ∈ cs)
    (before : List Char) : c ∈ lowerFrom before cs := by
  induction cs generalizing before with
  | nil => cases hc
  | cons d rest ih =>
    rcases List.mem_cons.mp hc with heq | hc
    · rw [← heq, lowerFrom_caseless h]
      exact List.mem_cons_self
    · exact List.mem_append_right _ (ih hc (d :: before))

theorem getLast?_lowerFrom {c : Char} (h : Caseless c) (cs before : List Char) :
    (lowerFrom before (cs ++ [c])).getLast? = some c := by
  induction cs generalizing before with
  | nil =>
    rw [List.nil_append, lowerFrom_caseless h]
    rfl
  | cons d rest ih =>
    rw [List.cons_append, lowerFrom, List.getLast?_append, ih]
    rfl

theorem caseless_comma : Caseless ',' := ⟨by decide, by decide, by decide⟩

/-- The code points of the blanks. -/
def blankCodes : List Nat :=
  List.range' 9 5 ++ List.range' 0x2000 11 ++
    [0x20, 0x85, 0xA0, 0x1680, 0x2028, 0x2029, 0x202F, 0x205F, 0x3000]

theorem toNat_mem_blankCodes {c : Char} (h : isBlank c = true) : c.toNat ∈ blankCodes := by
  simp only [isBlank, Bool.or_eq_true, Bool.and_eq_true, decide_eq_true_eq, beq_iff_eq] at h
  simp only [blankCodes, List.mem_append, List.mem_range'_1, List.mem_cons, List.not_mem_nil,
    or_false]
  omega

theorem capitalRun?_blankCodes : ∀ n ∈ blankCodes, capitalRun? n = none := by decide

theorem caseless_of_isBlank {c : Char} (h : isBlank c = true) : Caseless c := by
  refine ⟨fun hsigma => ?_, fun hdotted => ?_, ?_⟩
  · rw [hsigma] at h
    cases h
  · rw [hdotted] at h
    cases h
  · rw [lowerChar, capitalRun?_blankCodes _ (toNat_mem_blankCodes h)]

/-- A name is listable if its lower case is. -/
theorem Listable.of_lowerCase {name : String} (h : Listable (lowerCase name)) : Listable name := by
  obtain ⟨hfilled, htidy, hnoComma⟩ := h
  rw [lowerCase, String.toList_ofList] at hfilled htidy hnoComma
  refine ⟨fun hnil => ?_, ⟨fun c hc => ?_, fun c hc => ?_⟩, fun hcomma => ?_⟩
  · rw [hnil] at hfilled
    exact hfilled rfl
  · by_contra hblank
    rw [Bool.not_eq_false] at hblank
    obtain ⟨rest, hname⟩ := List.head?_eq_some_iff.mp hc
    rw [hname, lowerFrom_caseless (caseless_of_isBlank hblank)] at htidy
    have hkept := htidy.head c rfl
    rw [hblank] at hkept
    cases hkept
  · by_contra hblank
    rw [Bool.not_eq_false] at hblank
    obtain ⟨init, hname⟩ := List.getLast?_eq_some_iff.mp hc
    rw [hname] at htidy
    have hkept := htidy.last c (getLast?_lowerFrom (caseless_of_isBlank hblank) init [])
    rw [hblank] at hkept
    cases hkept
  · exact hnoComma (mem_lowerFrom caseless_comma hcomma [])

end Text

/-! ### The names of cards and presets -/

theorem allCards_keys_listable : ∀ d ∈ Registry.allCards,
    Text.lowerFrom [] d.name.toList ≠ [] ∧
      (Text.lowerFrom [] d.name.toList).head?.all (!Text.isBlank ·) = true ∧
      (Text.lowerFrom [] d.name.toList).getLast?.all (!Text.isBlank ·) = true ∧
      ',' ∉ Text.lowerFrom [] d.name.toList := by
  decide

theorem listable_key {d : CardDefinition} (hd : d ∈ Registry.allCards) : Text.Listable d.key := by
  have hkey : d.key.toList = Text.lowerFrom [] d.name.toList := String.toList_ofList
  obtain ⟨hfilled, hhead, hlast, hnoComma⟩ := allCards_keys_listable d hd
  rw [← hkey] at hfilled hhead hlast hnoComma
  exact ⟨hfilled, Text.tidy_of_all hhead hlast, hnoComma⟩

/-- A name under which a card of the catalog is found can stand between commas. -/
theorem listable_of_lookup {name : String} {d : CardDefinition}
    (h : Registry.catalog.lookup name = .ok d) : Text.Listable name := by
  obtain ⟨hd, hkey⟩ := Registry.catalog_lookup_iff.mp h
  apply Text.Listable.of_lowerCase
  rw [← hkey]
  exact listable_key hd

namespace KingdomChoice

/-- In small letters the name of a preset holds no comma and no blank, and it is not `random`. -/
theorem presets_plain : ∀ p ∈ presets, ',' ∉ p.1.toList.map Char.toLower ∧
    p.1.toList.map Char.toLower ≠ "random".toList.map Char.toLower ∧
      (p.1.toList.map Char.toLower).all (!Text.isBlank ·) = true := by
  decide

theorem preset?_congr {name name' : String} (h : Text.asciiLower name = Text.asciiLower name') :
    preset? name = preset? name' := by
  simp only [preset?, Text.sameAscii_congr_right h]

/-- A name that differs from that of a preset only in the case of its letters holds no blank. -/
theorem noBlank_of_preset {p : String × List String} (hp : p ∈ presets) {name : String}
    (h : Text.asciiLower p.1 = Text.asciiLower name) :
    ∀ c ∈ name.toList, Text.isBlank c = false := by
  intro c hc
  by_contra hblank
  rw [Bool.not_eq_false] at hblank
  have hsmall : c.toLower = c := by
    apply Text.toLower_of_not_isUpper
    by_contra hupper
    rw [Bool.not_eq_false] at hupper
    rw [Text.isBlank_of_isAlphanum (Text.isAlphanum_of_isUpper hupper)] at hblank
    cases hblank
  have hmem : c ∈ p.1.toList.map Char.toLower := by
    rw [← Text.toList_asciiLower, h, Text.toList_asciiLower]
    exact List.mem_map.mpr ⟨c, hc, hsmall⟩
  have hkept := List.all_eq_true.mp (presets_plain p hp).2.2 c hmem
  rw [hblank] at hkept
  cases hkept

theorem trimmed_of_tidy {s : String} (h : Text.Tidy s.toList) : Text.trimmed s = s := by
  rw [Text.trimmed, h.trim_eq, String.ofList_toList]

theorem ofText_random : ofText "random" = .ok .random := by
  have htidy : Text.Tidy "random".toList := Text.tidy_of_all rfl rfl
  have hsame : Text.sameAscii "random" "random" = true := Text.sameAscii_iff.mpr rfl
  rw [ofText, trimmed_of_tidy htidy, if_pos hsame]

theorem ofText_preset {p : String × List String} (hp : p ∈ presets) {name : String}
    (h : Text.asciiLower p.1 = Text.asciiLower name) :
    ofText name = .ok (.preset (Text.asciiLower name)) := by
  have htidy : Text.Tidy name.toList := Text.tidy_of_forall (noBlank_of_preset hp h)
  have hother : ¬ Text.sameAscii name "random" = true := by
    rw [Text.sameAscii_iff, ← h, ← String.toList_inj, Text.toList_asciiLower,
      Text.toList_asciiLower]
    exact (presets_plain p hp).2.1
  have hpreset : (preset? name).isSome = true :=
    Option.isSome_of_mem (preset?_eq_some_iff.mpr ⟨p, hp, Text.sameAscii_iff.mpr h, rfl⟩)
  rw [ofText, trimmed_of_tidy htidy, if_neg hother, if_pos hpreset]

theorem comma_mem_of_sameAscii {s t : String} (hcomma : ',' ∈ s.toList)
    (h : Text.asciiLower t = Text.asciiLower s) : ',' ∈ t.toList.map Char.toLower := by
  rw [← Text.toList_asciiLower, h, Text.toList_asciiLower]
  exact List.mem_map.mpr ⟨',', hcomma, rfl⟩

/-- At least two listable names, with commas between them, are read as these names. -/
theorem ofText_custom {a b : String} {rest : List String}
    (h : ∀ name ∈ a :: b :: rest, Text.Listable name) :
    ofText (",".intercalate (a :: b :: rest)) = .ok (.custom (a :: b :: rest)) := by
  have htidy := (Text.tidy_intercalate "," h (List.cons_ne_nil _ _)).1
  have hcomma : ',' ∈ (",".intercalate (a :: b :: rest)).toList := by
    rw [Text.toList_intercalate_cons_cons]
    exact List.mem_append_right _ (List.mem_append_left _ List.mem_cons_self)
  have hother : ¬ Text.sameAscii (",".intercalate (a :: b :: rest)) "random" = true := by
    intro hsame
    have hrandom := comma_mem_of_sameAscii hcomma (Text.sameAscii_iff.mp hsame).symm
    exact absurd hrandom (by decide)
  have hpreset : ¬ (preset? (",".intercalate (a :: b :: rest))).isSome = true := by
    intro hsome
    obtain ⟨names, hnames⟩ := Option.isSome_iff_exists.mp hsome
    obtain ⟨p, hp, hsame, -⟩ := preset?_eq_some_iff.mp hnames
    exact (presets_plain p hp).1 (comma_mem_of_sameAscii hcomma (Text.sameAscii_iff.mp hsame))
  have hcontains : (",".intercalate (a :: b :: rest)).toList.contains ',' = true :=
    List.contains_iff_mem.mpr hcomma
  rw [ofText, trimmed_of_tidy htidy, if_neg hother, if_neg hpreset, if_pos hcontains,
    Text.commaList_intercalate h]

/-! ### Printed choices -/

variable {names : List String} {g g' : Generator}

/-- A choice that comes to cards of the catalog is read back from its text, to a choice that stands for
the same names. -/
theorem ofText_text {choice : KingdomChoice}
    (h : choice.cardNames Registry.catalog g = .ok (names, g')) :
    ∃ choice', ofText choice.text = .ok choice' ∧
      ∀ r g, choice'.namesIn r g = choice.namesIn r g := by
  obtain ⟨listed, hlisted, hlength, kingdom, hfound, -⟩ := listed_of_cardNames h
  cases choice with
  | preset name =>
    have hsome : preset? name = some listed := by
      rw [namesIn] at hlisted
      cases hpreset : preset? name with
      | none => simp [hpreset] at hlisted
      | some cards =>
        rw [hpreset] at hlisted
        rw [(Prod.mk.inj (Except.ok.inj hlisted)).1]
    obtain ⟨p, hp, hsame, -⟩ := preset?_eq_some_iff.mp hsome
    have hread := ofText_preset hp (Text.sameAscii_iff.mp hsame)
    refine ⟨.preset (Text.asciiLower name), hread, fun r g => ?_⟩
    rw [namesIn, namesIn, preset?_congr (Text.asciiLower_asciiLower name), hsome]
  | random => exact ⟨.random, ofText_random, fun _ _ => rfl⟩
  | custom cards =>
    obtain rfl : cards = listed := (Prod.mk.inj (Except.ok.inj hlisted)).1
    have hboth : List.Forall₂ (fun name d => Text.Listable name ∧
        Registry.catalog.lookup name = .ok d) cards kingdom :=
      hfound.imp fun _ _ hlookup => ⟨listable_of_lookup hlookup, hlookup⟩
    have hlistable : ∀ name ∈ cards, Text.Listable name :=
      ((List.forall₂_and_left _ _).mp hboth).1
    -- Ten names are at least two.
    cases cards with
    | nil => exact absurd hlength (by decide)
    | cons a cards =>
      cases cards with
      | nil => exact absurd hlength (by simp [kingdomSize])
      | cons b rest => exact ⟨_, ofText_custom hlistable, fun _ _ => rfl⟩

/-- A choice that comes to cards of the catalog is read back from its printed text, and what is read
comes to the same ten names and leaves the same generator. -/
theorem printed_choice_comes_to_same_cards (choice : KingdomChoice) (g g' : Generator)
    (names : List String) (h : choice.cardNames Registry.catalog g = .ok (names, g')) :
    ∃ choice', ofText choice.text = .ok choice' ∧
      choice'.cardNames Registry.catalog g = .ok (names, g') ∧ names.length = 10 := by
  obtain ⟨choice', hread, hsame⟩ := ofText_text h
  have hcards : choice'.cardNames Registry.catalog g = choice.cardNames Registry.catalog g := by
    rw [cardNames, cardNames, hsame]
  obtain ⟨listed, -, hlength, kingdom, hfound, hnames⟩ := listed_of_cardNames h
  refine ⟨choice', hread, hcards.trans h, ?_⟩
  rw [hnames, List.length_map, ← hfound.length_eq, hlength]
  rfl

theorem printed_choice_of_small_letters_comes_to_same_cards :
    ∃ names g' choice',
      (custom ["cellar", "market", "merchant", "militia", "moat", "remodel", "smithy", "village",
        "workshop", "council room"]).cardNames Registry.catalog (.ofSeed 1) = .ok (names, g') ∧
      ofText "cellar,market,merchant,militia,moat,remodel,smithy,village,workshop,council room" =
        .ok choice' ∧
      choice'.cardNames Registry.catalog (.ofSeed 1) = .ok (names, g') ∧ names.length = 10 := by
  have hsome : ((custom ["cellar", "market", "merchant", "militia", "moat", "remodel", "smithy",
      "village", "workshop", "council room"]).cardNames Registry.catalog (.ofSeed 1)).toOption.isSome :=
    by decide
  obtain ⟨⟨names, g'⟩, hcards⟩ := exists_ok_of_isSome hsome
  obtain ⟨choice', hread, hsame⟩ := printed_choice_comes_to_same_cards _ _ _ _ hcards
  exact ⟨names, g', choice', hcards, hread, hsame⟩

end KingdomChoice

end DeckBuilder
