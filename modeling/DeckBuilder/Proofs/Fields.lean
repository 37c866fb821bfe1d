import DeckBuilder.Text.Ascii
import DeckBuilder.Text.Blank
import DeckBuilder.Text.Numeral
import Mathlib.Data.List.TakeDrop
import Mathlib.Data.List.TakeWhile

/-!
Texts that are taken apart. Blanks at the ends of a text do not matter to what is left when it is
trimmed, and a text that is tidy stays as it is. Characters that are no separators make the field longer
in which they stand, so that blanks around a list between commas do not matter either. A number is read
from its own digits.
-/
namespace DeckBuilder.Text

/-! ### Trimming -/

/-- Nothing but blanks. -/
def Blanks (cs : List Char) : Prop := ∀ c ∈ cs, isBlank c = true

/-- No blank at either end. -/
structure Tidy (cs : List Char) : Prop where
  head : ∀ c ∈ cs.head?, isBlank c = false
  last : ∀ c ∈ cs.getLast?, isBlank c = false

theorem tidy_of_forall {cs : List Char} (h : ∀ c ∈ cs, isBlank c = false) : Tidy cs :=
  ⟨fun c hc => h c (List.mem_of_mem_head? hc), fun c hc => h c (List.mem_of_mem_getLast? hc)⟩

theorem blanks_nil : Blanks [] := nofun

theorem Blanks.append {cs ds : List Char} (hcs : Blanks cs) (hds : Blanks ds) :
    Blanks (cs ++ ds) := by
  intro c hc
  rcases List.mem_append.mp hc with hc | hc
  · exact hcs c hc
  · exact hds c hc

/-- Both ends are looked at. -/
theorem tidy_of_all {cs : List Char} (hhead : cs.head?.all (!isBlank ·) = true)
    (hlast : cs.getLast?.all (!isBlank ·) = true) : Tidy cs := by
  refine ⟨fun c hc => ?_, fun c hc => ?_⟩
  · exact Bool.not_eq_eq_eq_not.mp ((Option.all_eq_true _ _).mp hhead c hc)
  · exact Bool.not_eq_eq_eq_not.mp ((Option.all_eq_true _ _).mp hlast c hc)

theorem trimStart_append {gap : List Char} (h : Blanks gap) (cs : List Char) :
    trimStart (gap ++ cs) = trimStart cs :=
  List.dropWhile_append_of_pos h

theorem trimEnd_append {gap : List Char} (h : Blanks gap) (cs : List Char) :
    trimEnd (cs ++ gap) = trimEnd cs := by
  have hreverse : Blanks gap.reverse := fun c hc => h c (List.mem_reverse.mp hc)
  rw [trimEnd, List.reverse_append, List.dropWhile_append_of_pos hreverse]
  rfl

theorem trimStart_of_blanks {cs : List Char} (h : Blanks cs) : trimStart cs = [] :=
  List.dropWhile_eq_nil_iff.mpr h

theorem trim_of_blanks {cs : List Char} (h : Blanks cs) : trim cs = [] := by
  rw [trim, trimStart_of_blanks h]
  rfl

theorem trimStart_of_head {cs : List Char} (h : ∀ c ∈ cs.head?, isBlank c = false) :
    trimStart cs = cs := by
  cases cs with
  | nil => rfl
  | cons c rest =>
    have hc : ¬ isBlank c = true := by simp [h c rfl]
    exact List.dropWhile_cons_of_neg hc

theorem trimEnd_of_last {cs : List Char} (h : ∀ c ∈ cs.getLast?, isBlank c = false) :
    trimEnd cs = cs := by
  have hreverse : trimStart cs.reverse = cs.reverse := by
    apply trimStart_of_head
    rw [List.head?_reverse]
    exact h
  rw [trimEnd, ← trimStart, hreverse, List.reverse_reverse]

/-- A tidy text stays as it is. -/
theorem Tidy.trim_eq {cs : List Char} (h : Tidy cs) : trim cs = cs := by
  rw [trim, trimStart_of_head h.head, trimEnd_of_last h.last]

/-- Between two tidy texts anything may stand. -/
theorem Tidy.around {cs ds : List Char} (hcs : Tidy cs) (hds : Tidy ds) (hcs' : cs ≠ [])
    (hds' : ds ≠ []) (mid : List Char) : Tidy (cs ++ (mid ++ ds)) := by
  constructor
  · intro c hc
    have hhead : (cs ++ (mid ++ ds)).head? = cs.head? := by
      rw [List.head?_append, List.head?_eq_some_head hcs', Option.some_or]
    exact hcs.head c (hhead ▸ hc)
  · intro c hc
    have hlast : (cs ++ (mid ++ ds)).getLast? = ds.getLast? := by
      rw [← List.append_assoc, List.getLast?_append, List.getLast?_eq_some_getLast hds',
        Option.some_or]
    exact hds.last c (hlast ▸ hc)

theorem trim_append_blanks {gap : List Char} (h : Blanks gap) (cs : List Char) :
    trim (cs ++ gap) = trim cs := by
  by_cases hcs : Blanks cs
  · rw [trim_of_blanks (hcs.append h), trim_of_blanks hcs]
  · have hsome : ¬ (cs.dropWhile isBlank).isEmpty = true := by
      rw [List.isEmpty_iff, List.dropWhile_eq_nil_iff]
      exact hcs
    have hstart : trimStart (cs ++ gap) = trimStart cs ++ gap := by
      rw [trimStart, List.dropWhile_append, if_neg hsome]
      rfl
    rw [trim, hstart, trimEnd_append h]
    rfl

theorem trim_blanks_append {gap : List Char} (h : Blanks gap) (cs : List Char) :
    trim (gap ++ cs) = trim cs := by
  rw [trim, trimStart_append h]
  rfl

theorem head?_trimStart (cs : List Char) : ∀ c ∈ (trimStart cs).head?, isBlank c = false := by
  intro c hc
  have hfirst := List.head?_dropWhile_not isBlank cs
  rw [← trimStart, hc] at hfirst
  exact hfirst

/-- What is left of a text is tidy, and only blanks were at its ends. -/
theorem exists_trim (cs : List Char) :
    ∃ before after, Blanks before ∧ Blanks after ∧ Tidy (trim cs) ∧
      cs = before ++ (trim cs ++ after) := by
  have hbefore : Blanks (cs.takeWhile isBlank) := fun _ hc => List.mem_takeWhile_imp hc
  have hafter : Blanks ((trimStart cs).reverse.takeWhile isBlank).reverse := by
    intro c hc
    exact List.mem_takeWhile_imp (List.mem_reverse.mp hc)
  have hstart : cs = cs.takeWhile isBlank ++ trimStart cs := List.takeWhile_append_dropWhile.symm
  have hend : trimStart cs = trim cs ++ ((trimStart cs).reverse.takeWhile isBlank).reverse := by
    rw [trim, trimEnd, ← List.reverse_append, List.takeWhile_append_dropWhile, List.reverse_reverse]
  have htidy : Tidy (trim cs) := by
    refine ⟨fun c hc => ?_, fun c hc => ?_⟩
    · apply head?_trimStart cs
      rw [hend]
      rw [List.head?_append, hc]
      rfl
    · rw [trim, trimEnd, List.getLast?_reverse] at hc
      exact head?_trimStart _ c hc
  exact ⟨_, _, hbefore, hafter, htidy, hstart.trans (congrArg _ hend)⟩

/-! ### Cutting -/

theorem cutAt?_of_forall {p : Char → Bool} {cs : List Char} (h : ∀ c ∈ cs, p c = false) :
    cutAt? p cs = none := by
  have hrest : cs.dropWhile (fun c => !p c) = [] := by
    apply List.dropWhile_eq_nil_iff.mpr
    intro c hc
    rw [h c hc]
    rfl
  rw [cutAt?, List.span_eq_takeWhile_dropWhile, hrest]

/-- A text is cut at the first character with the property. -/
theorem cutAt?_append {p : Char → Bool} {cs : List Char} {c : Char} (h : ∀ d ∈ cs, p d = false)
    (hc : p c = true) (rest : List Char) : cutAt? p (cs ++ c :: rest) = some (cs, rest) := by
  have hcs : ∀ d ∈ cs, (!p d) = true := by
    intro d hd
    rw [h d hd]
    rfl
  have hnot : ¬ (!p c) = true := by simp [hc]
  have htake : (cs ++ c :: rest).takeWhile (fun d => !p d) = cs := by
    rw [List.takeWhile_append_of_pos hcs, List.takeWhile_cons, if_neg hnot, List.append_nil]
  have hdrop : (cs ++ c :: rest).dropWhile (fun d => !p d) = c :: rest := by
    rw [List.dropWhile_append_of_pos hcs, List.dropWhile_cons, if_neg hnot]
  rw [cutAt?, List.span_eq_takeWhile_dropWhile, htake, hdrop]

/-! ### Fields -/

/-- Characters before a text that are no separators belong to its first field. -/
theorem fieldsBy_of_forall_append {sep : Char → Bool} {ds : List Char}
    (h : ∀ d ∈ ds, sep d = false) (cs : List Char) :
    ∃ first others, fieldsBy sep cs = first :: others ∧
      fieldsBy sep (ds ++ cs) = (ds ++ first) :: others := by
  induction ds with
  | nil =>
    cases hfields : fieldsBy sep cs with
    | nil => exact absurd hfields (fieldsBy_ne_nil sep cs)
    | cons first others => exact ⟨first, others, rfl, hfields⟩
  | cons d ds ih =>
    obtain ⟨first, others, hcs, hboth⟩ := ih fun e he => h e (List.mem_cons_of_mem d he)
    have hd : ¬ sep d = true := by simp [h d List.mem_cons_self]
    refine ⟨first, others, hcs, ?_⟩
    rw [List.cons_append, fieldsBy, if_neg hd, hboth]
    rfl

/-- Characters after a text that are no separators belong to its last field. -/
theorem fieldsBy_append_of_forall {sep : Char → Bool} {ds : List Char}
    (h : ∀ d ∈ ds, sep d = false) (cs : List Char) :
    ∃ others last, fieldsBy sep cs = others ++ [last] ∧
      fieldsBy sep (cs ++ ds) = others ++ [last ++ ds] := by
  induction cs with
  | nil => exact ⟨[], [], rfl, fieldsBy_of_forall h⟩
  | cons c cs ih =>
    obtain ⟨others, last, hcs, hboth⟩ := ih
    rw [List.cons_append, fieldsBy, fieldsBy, hcs, hboth]
    by_cases hc : sep c = true
    · rw [if_pos hc, if_pos hc]
      exact ⟨[] :: others, last, rfl, rfl⟩
    · rw [if_neg hc, if_neg hc]
      cases others with
      | nil => exact ⟨[], c :: last, rfl, rfl⟩
      | cons first others => exact ⟨(c :: first) :: others, last, rfl, rfl⟩

theorem commaList_nil : commaList [] = [] := rfl

theorem isBlank_comma : isBlank ',' = false := rfl

theorem Blanks.noComma {cs : List Char} (h : Blanks cs) : ∀ c ∈ cs, (c == ',') = false := by
  intro c hc
  rw [beq_eq_false_iff_ne]
  intro hcomma
  have hblank := h c hc
  rw [hcomma, isBlank_comma] at hblank
  cases hblank

theorem commaList_append (cs ds : List Char) :
    commaList (cs ++ ',' :: ds) = commaList cs ++ commaList ds := by
  have hfields : fieldsBy (· == ',') (cs ++ ',' :: ds) =
      fieldsBy (· == ',') cs ++ fieldsBy (· == ',') ds := fieldsBy_append_cons rfl cs ds
  simp only [commaList, hfields, List.map_append, List.filter_append]

/-- Blanks around a list do not matter. -/
theorem commaList_trim (cs : List Char) : commaList (trim cs) = commaList cs := by
  obtain ⟨before, after, hbefore, hafter, -, hcs⟩ := exists_trim cs
  have hend : commaList (trim cs ++ after) = commaList (trim cs) := by
    obtain ⟨others, last, hfields, hboth⟩ := fieldsBy_append_of_forall hafter.noComma (trim cs)
    simp only [commaList, hfields, hboth, List.map_append, List.map_cons, List.map_nil,
      trim_append_blanks hafter]
  obtain ⟨first, others, hfields, hboth⟩ :=
    fieldsBy_of_forall_append hbefore.noComma (trim cs ++ after)
  have hstart : commaList (before ++ (trim cs ++ after)) = commaList (trim cs ++ after) := by
    simp only [commaList, hfields, hboth, List.map_cons, trim_blanks_append hbefore]
  rw [← hcs] at hstart
  exact (hstart.trans hend).symm

theorem commaList_of_noComma {cs : List Char} (h : ∀ c ∈ cs, (c == ',') = false) :
    commaList cs = if (trim cs).isEmpty then [] else [String.ofList (trim cs)] := by
  rw [commaList, fieldsBy_of_forall h, List.map_singleton]
  cases trim cs <;> rfl

/-- A name that can stand in a list between commas. -/
structure Listable (name : String) : Prop where
  filled : name.toList ≠ []
  tidy : Tidy name.toList
  noComma : ',' ∉ name.toList

theorem toList_intercalate_cons_cons (sep a b : String) (rest : List String) :
    (sep.intercalate (a :: b :: rest)).toList =
      a.toList ++ (sep.toList ++ (sep.intercalate (b :: rest)).toList) := by
  rw [String.intercalate_cons_cons, String.toList_append, String.toList_append, List.append_assoc]

/-- One name, with blanks around it. -/
theorem commaList_item {name : String} (h : Listable name) {before after : List Char}
    (hbefore : Blanks before) (hafter : Blanks after) :
    commaList (before ++ (name.toList ++ after)) = [name] := by
  have hnoComma : ∀ c ∈ before ++ (name.toList ++ after), (c == ',') = false := by
    intro c hc
    rcases List.mem_append.mp hc with hc | hc
    · exact hbefore.noComma c hc
    rcases List.mem_append.mp hc with hc | hc
    · rw [beq_eq_false_iff_ne]
      intro heq
      exact h.noComma (heq ▸ hc)
    · exact hafter.noComma c hc
  have htrim : trim (before ++ (name.toList ++ after)) = name.toList := by
    rw [trim_blanks_append hbefore, trim_append_blanks hafter, h.tidy.trim_eq]
  have hfilled : ¬ name.toList.isEmpty = true := by
    rw [List.isEmpty_iff]
    exact h.filled
  rw [commaList_of_noComma hnoComma, htrim, if_neg hfilled, String.ofList_toList]

/-- Listable names with commas between them are read as these names. -/
theorem commaList_intercalate {names : List String} (h : ∀ name ∈ names, Listable name) :
    commaList (",".intercalate names).toList = names := by
  induction names with
  | nil => rfl
  | cons name rest ih =>
    obtain ⟨hname, hrest⟩ := List.forall_mem_cons.mp h
    have hone : commaList name.toList = [name] := by
      simpa using commaList_item hname blanks_nil blanks_nil
    cases rest with
    | nil => rw [String.intercalate_singleton, hone]
    | cons name' rest =>
      rw [toList_intercalate_cons_cons]
      change commaList (name.toList ++ ',' :: (",".intercalate (name' :: rest)).toList) = _
      rw [commaList_append, hone, ih hrest]
      rfl

theorem tidy_intercalate (sep : String) {names : List String} (h : ∀ name ∈ names, Listable name)
    (hsome : names ≠ []) :
    Tidy (sep.intercalate names).toList ∧ (sep.intercalate names).toList ≠ [] := by
  induction names with
  | nil => exact absurd rfl hsome
  | cons name rest ih =>
    obtain ⟨hname, hrest⟩ := List.forall_mem_cons.mp h
    cases rest with
    | nil =>
      rw [String.intercalate_singleton]
      exact ⟨hname.tidy, hname.filled⟩
    | cons name' rest =>
      obtain ⟨htidy, hfilled⟩ := ih hrest (List.cons_ne_nil _ _)
      rw [toList_intercalate_cons_cons]
      refine ⟨hname.tidy.around htidy hname.filled hfilled _, ?_⟩
      exact List.append_ne_nil_of_left_ne_nil hname.filled _

/-! ### Letters and digits -/

section

variable {c : Char}

theorem isAlphanum_of_isUpper (h : c.isUpper = true) : c.isAlphanum = true := by
  change ((c.isUpper || c.isLower) || c.isDigit) = true
  rw [h]
  rfl

theorem isAlphanum_of_isLower (h : c.isLower = true) : c.isAlphanum = true := by
  change ((c.isUpper || c.isLower) || c.isDigit) = true
  rw [h, Bool.or_true]
  rfl

theorem isAlphanum_of_isDigit (h : c.isDigit = true) : c.isAlphanum = true := by
  change ((c.isUpper || c.isLower) || c.isDigit) = true
  rw [h, Bool.or_true]

theorem toNat_of_isAlphanum (h : c.isAlphanum = true) :
    65 ≤ c.toNat ∧ c.toNat ≤ 90 ∨ 97 ≤ c.toNat ∧ c.toNat ≤ 122 ∨ 48 ≤ c.toNat ∧ c.toNat ≤ 57 := by
  change ((c.isUpper || c.isLower) || c.isDigit) = true at h
  rw [Bool.or_eq_true, Bool.or_eq_true] at h
  rcases h with (hupper | hlower) | hdigit
  · exact .inl (of_decide_eq_true hupper)
  · obtain ⟨hlow, hhigh⟩ := Bool.and_eq_true_iff.mp hlower
    exact .inr (.inl ⟨of_decide_eq_true hlow, of_decide_eq_true hhigh⟩)
  · obtain ⟨hlow, hhigh⟩ := Bool.and_eq_true_iff.mp hdigit
    exact .inr (.inr ⟨of_decide_eq_true hlow, of_decide_eq_true hhigh⟩)

theorem isBlank_of_isAlphanum (h : c.isAlphanum = true) : isBlank c = false := by
  have hbounds := toNat_of_isAlphanum h
  by_contra hblank
  simp only [isBlank, Bool.not_eq_false, Bool.or_eq_true, Bool.and_eq_true, decide_eq_true_eq,
    beq_iff_eq] at hblank
  omega

theorem toLower_of_not_isUpper (h : c.isUpper = false) : c.toLower = c :=
  dif_neg (of_decide_eq_false h)

theorem isUpper_toLower (c : Char) : c.toLower.isUpper = false := by
  by_cases hc : c.isUpper = true
  · have hbounds : 'A'.val ≤ c.val ∧ c.val ≤ 'Z'.val := of_decide_eq_true hc
    have hval : c.toLower.val = c.val + ('a'.val - 'A'.val) := congrArg Char.val (dif_pos hbounds)
    apply decide_eq_false
    intro hupper
    rw [hval] at hupper
    have hlow : 65 ≤ c.val.toNat := hbounds.1
    have hhigh : c.val.toNat ≤ 90 := hbounds.2
    have hadd : (c.val + ('a'.val - 'A'.val)).toNat = (c.val.toNat + 32) % 2 ^ 32 := rfl
    have hle : (c.val + ('a'.val - 'A'.val)).toNat ≤ 90 := hupper.2
    omega
  · rw [Bool.not_eq_true] at hc
    rw [toLower_of_not_isUpper hc, hc]

end

theorem toList_asciiLower (s : String) : (asciiLower s).toList = s.toList.map Char.toLower :=
  String.toList_map

theorem asciiLower_asciiLower (s : String) : asciiLower (asciiLower s) = asciiLower s := by
  rw [← String.toList_inj, toList_asciiLower, toList_asciiLower, List.map_map]
  apply List.map_congr_left
  intro c _
  exact toLower_of_not_isUpper (isUpper_toLower c)

theorem sameAscii_eq (s t : String) :
    sameAscii s t = (s.toList.map Char.toLower == t.toList.map Char.toLower) := by
  rw [Bool.eq_iff_iff, sameAscii_iff, ← String.toList_inj, toList_asciiLower, toList_asciiLower,
    beq_iff_eq]

theorem sameAscii_congr_left {s s' : String} (h : asciiLower s = asciiLower s') (t : String) :
    sameAscii s t = sameAscii s' t := by
  rw [sameAscii, sameAscii, h]

theorem sameAscii_congr_right {t t' : String} (h : asciiLower t = asciiLower t') (s : String) :
    sameAscii s t = sameAscii s t' := by
  rw [sameAscii, sameAscii, h]

/-! ### Numbers -/

theorem isDigit_toDigits (n : Nat) : ∀ c ∈ Nat.toDigits 10 n, c.isDigit = true :=
  fun _ hc => Nat.isDigit_of_mem_toDigits (by decide) (by decide) hc

theorem digitsValue?_toDigits (n : Nat) : digitsValue? (Nat.toDigits 10 n) = some n := by
  have hdigits : (Nat.toDigits 10 n).all Char.isDigit = true :=
    List.all_eq_true.mpr (isDigit_toDigits n)
  have hsome : (Nat.toDigits 10 n).isEmpty = false := by
    rw [List.isEmpty_eq_false_iff]
    exact Nat.toDigits_ne_nil
  have hvalue : Nat.ofDigitChars 10 (Nat.toDigits 10 n) 0 = n :=
    Nat.ofDigitChars_toDigits (by decide) (by decide)
  rw [digitsValue?, hdigits, hsome]
  exact congrArg some hvalue

theorem natural?_of_digits {cs : List Char} (h : ∀ c ∈ cs, c.isDigit = true) (limit : Nat) :
    natural? limit cs = (digitsValue? cs).filter (· ≤ limit) := by
  unfold natural?
  split
  · cases h '+' List.mem_cons_self
  · rfl

theorem integer?_of_digits {cs : List Char} (h : ∀ c ∈ cs, c.isDigit = true) (low high : Int) :
    integer? low high cs =
      ((digitsValue? cs).map Int.ofNat).filter fun n => low ≤ n && n ≤ high := by
  unfold integer?
  split
  · cases h '+' List.mem_cons_self
  · cases h '-' List.mem_cons_self
  · rfl

theorem integer?_minus (cs : List Char) (low high : Int) :
    integer? low high ('-' :: cs) =
      ((digitsValue? cs).map fun n => -(n : Int)).filter fun n => low ≤ n && n ≤ high := rfl

theorem toList_toString_nat (n : Nat) : (toString n).toList = Nat.toDigits 10 n := Nat.toList_repr

theorem toList_toString_negSucc (n : Nat) :
    (toString (Int.negSucc n)).toList = '-' :: Nat.toDigits 10 (n + 1) := by
  have hdigits : (Nat.repr (n + 1)).toList = Nat.toDigits 10 (n + 1) := Nat.toList_repr
  change ("-" ++ Nat.repr (n + 1)).toList = _
  rw [String.toList_append, hdigits]
  rfl

/-- A number is read from its digits. -/
theorem word?_toString {n : Nat} (h : n ≤ maxWord) : word? (toString n).toList = some n := by
  rw [toList_toString_nat, word?, natural?_of_digits (isDigit_toDigits n), digitsValue?_toDigits]
  exact Option.filter_some_pos (decide_eq_true h)

theorem signedWord?_toString {n : Int} (hlow : -0x8000000000000000 ≤ n)
    (hhigh : n ≤ 0x7FFFFFFFFFFFFFFF) : signedWord? (toString n).toList = some n := by
  have hbounds : (decide (-0x8000000000000000 ≤ n) && decide (n ≤ 0x7FFFFFFFFFFFFFFF)) = true := by
    rw [decide_eq_true hlow, decide_eq_true hhigh]
    rfl
  cases n with
  | ofNat m =>
    change integer? _ _ (toString m).toList = _
    rw [toList_toString_nat, integer?_of_digits (isDigit_toDigits m), digitsValue?_toDigits]
    exact Option.filter_some_pos hbounds
  | negSucc m =>
    rw [toList_toString_negSucc, signedWord?, integer?_minus, digitsValue?_toDigits]
    exact Option.filter_some_pos hbounds

end DeckBuilder.Text
