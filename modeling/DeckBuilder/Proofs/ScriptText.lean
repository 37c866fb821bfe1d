import DeckBuilder.Controller.Script
import DeckBuilder.Proofs.Fields

/-!
How answers are written in a script. A phrase is a keyword, in letters of any case, and what belongs to
it. An entry is a phrase with blanks around it, or nothing but blanks, and a comment may follow. Entries
with separators between them make the text. Whatever is written so is read as the answers it was written
for, and a script is read as its parts are.
-/
namespace DeckBuilder.Script

open Text

/-! ### Characters -/

/-- No character that would end an entry or begin a comment. -/
def Plain (cs : List Char) : Prop := ∀ c ∈ cs, isSeparator c = false ∧ c ≠ '#'

/-- Blanks within an entry. -/
structure Gap (cs : List Char) : Prop where
  blanks : Blanks cs
  plain : Plain cs

/-- A name that can stand in a script. -/
structure Nameable (name : String) : Prop where
  filled : name.toList ≠ []
  tidy : Tidy name.toList
  plain : Plain name.toList

/-- The word in letters of any case. -/
def Keyword (word : String) (cs : List Char) : Prop := asciiLower (String.ofList cs) = word

theorem plain_nil : Plain [] := nofun

theorem Plain.append {cs ds : List Char} (hcs : Plain cs) (hds : Plain ds) : Plain (cs ++ ds) := by
  intro c hc
  rcases List.mem_append.mp hc with hc | hc
  · exact hcs c hc
  · exact hds c hc

theorem Plain.noSeparator {cs : List Char} (h : Plain cs) : ∀ c ∈ cs, isSeparator c = false :=
  fun c hc => (h c hc).1

theorem plain_singleton_comma : Plain [','] := by
  intro c hc
  rw [List.mem_singleton.mp hc]
  decide

theorem plain_char_of_isAlphanum {c : Char} (h : c.isAlphanum = true) :
    isSeparator c = false ∧ c ≠ '#' := by
  constructor
  · by_contra hsep
    rw [Bool.not_eq_false, isSeparator, Bool.or_eq_true, decide_eq_true_eq, decide_eq_true_eq] at hsep
    rcases hsep with hsep | hsep
    · rw [hsep] at h
      cases h
    · rw [hsep] at h
      cases h
  · intro hsharp
    rw [hsharp] at h
    cases h

theorem plain_of_isAlphanum {cs : List Char} (h : ∀ c ∈ cs, c.isAlphanum = true) : Plain cs :=
  fun c hc => plain_char_of_isAlphanum (h c hc)

theorem isAlphanum_of_toLower {c : Char} (h : c.toLower.isLower = true) :
    c.isAlphanum = true := by
  by_cases hc : c.isUpper = true
  · exact isAlphanum_of_isUpper hc
  · rw [Bool.not_eq_true] at hc
    rw [toLower_of_not_isUpper hc] at h
    exact isAlphanum_of_isLower h

/-! ### Keywords -/

/-- The words an entry may begin with. -/
def keywords : List String :=
  ["card", "cards", "pile", "buy", "yes", "true", "no", "false", "effects", "int", "pass"]

theorem isLower_of_mem_keywords :
    ∀ word ∈ keywords, word.toList ≠ [] ∧ word.toList.all Char.isLower = true := by decide

theorem keyword_of_toLower {word : String} {key : List Char}
    (h : key.map Char.toLower = word.toList) : Keyword word key := by
  rw [Keyword, ← String.toList_inj, toList_asciiLower, String.toList_ofList]
  exact h

section

variable {word : String} {key : List Char} (hkey : Keyword word key) (hword : word ∈ keywords)

include hkey hword

theorem Keyword.isAlphanum : ∀ c ∈ key, c.isAlphanum = true := by
  intro c hc
  have hlower : c.toLower ∈ word.toList := by
    rw [← hkey, toList_asciiLower, String.toList_ofList]
    exact List.mem_map_of_mem hc
  have hall := (isLower_of_mem_keywords word hword).2
  exact isAlphanum_of_toLower (List.all_eq_true.mp hall _ hlower)

theorem Keyword.ne_nil : key ≠ [] := by
  intro hnil
  apply (isLower_of_mem_keywords word hword).1
  rw [← hkey, hnil, toList_asciiLower, String.toList_ofList, List.map_nil]

theorem Keyword.plain : Plain key := plain_of_isAlphanum (hkey.isAlphanum hword)

theorem Keyword.noBlank : ∀ c ∈ key, isBlank c = false :=
  fun c hc => isBlank_of_isAlphanum (hkey.isAlphanum hword c hc)

theorem keyword_alone : keyword (trim key) = (word, []) := by
  have htrim : trim key = key := (tidy_of_forall (hkey.noBlank hword)).trim_eq
  rw [htrim, keyword, cutAt?_of_forall (hkey.noBlank hword)]
  exact congrArg (·, []) hkey

/-- A keyword is read with what follows it, whatever blanks lie between and at the end. -/
theorem keyword_followed {gap : List Char} (hgap : Blanks gap) (hsome : gap ≠ [])
    (rest : List Char) : keyword (trim (key ++ (gap ++ rest))) = (word, trim rest) := by
  have hnoBlank := hkey.noBlank hword
  obtain ⟨before, after, hbefore, hafter, htidy, hrest⟩ := exists_trim rest
  by_cases hempty : trim rest = []
  · have hblanks : Blanks (gap ++ rest) := by
      rw [hrest, hempty]
      exact hgap.append (hbefore.append hafter)
    rw [trim_append_blanks hblanks, hempty]
    exact keyword_alone hkey hword
  · have htext : trim (key ++ (gap ++ rest)) = key ++ (gap ++ before ++ trim rest) := by
      have hall : key ++ (gap ++ rest) = key ++ (gap ++ before ++ trim rest) ++ after := by
        conv_lhs => rw [hrest]
        simp only [List.append_assoc]
      rw [hall, trim_append_blanks hafter]
      exact ((tidy_of_forall hnoBlank).around htidy (hkey.ne_nil hword) hempty _).trim_eq
    obtain ⟨c, gap', hcons⟩ := List.exists_cons_of_ne_nil hsome
    rw [hcons] at hgap htext
    have hc : isBlank c = true := hgap c List.mem_cons_self
    have hgap' : Blanks gap' := fun d hd => hgap d (List.mem_cons_of_mem c hd)
    rw [hcons, htext, keyword, List.cons_append, List.cons_append, cutAt?_append hnoBlank hc]
    change (asciiLower (String.ofList key), trim (gap' ++ before ++ trim rest)) = _
    rw [trim_blanks_append (hgap'.append hbefore), htidy.trim_eq]
    exact congrArg (·, trim rest) hkey

end

/-! ### Lists of names -/

/-- Names with commas between them and blanks around them; a place may be left empty. -/
inductive Listing : List String → List Char → Prop
  | blank {gap : List Char} : Gap gap → Listing [] gap
  | item {name : String} {before after : List Char} : Gap before → Nameable name →
      ',' ∉ name.toList → Gap after → Listing [name] (before ++ (name.toList ++ after))
  | join {names names' : List String} {cs ds : List Char} : Listing names cs →
      Listing names' ds → Listing (names ++ names') (cs ++ ',' :: ds)

theorem Listing.plain {names : List String} {cs : List Char} (h : Listing names cs) :
    Plain cs := by
  induction h with
  | blank hgap => exact hgap.plain
  | item hbefore hname _ hafter => exact hbefore.plain.append (hname.plain.append hafter.plain)
  | join _ _ ih ih' =>
    rw [List.append_cons]
    exact (ih.append plain_singleton_comma).append ih'

theorem Listing.commaList_eq {names : List String} {cs : List Char} (h : Listing names cs) :
    commaList cs = names := by
  induction h with
  | blank hgap => rw [commaList_of_noComma hgap.blanks.noComma, trim_of_blanks hgap.blanks]; rfl
  | item hbefore hname hcomma hafter =>
    exact commaList_item ⟨hname.filled, hname.tidy, hcomma⟩ hbefore.blanks hafter.blanks
  | join _ _ ih ih' => rw [commaList_append, ih, ih']

/-! ### Phrases -/

/-- How an answer is put into words. -/
inductive Phrase : ScriptedAnswer → List Char → Prop
  | card {key gap : List Char} {name : String} : Keyword "card" key → Gap gap → gap ≠ [] →
      Nameable name → Phrase (.card name) (key ++ (gap ++ name.toList))
  | cards {key gap cs : List Char} {names : List String} : Keyword "cards" key → Gap gap →
      gap ≠ [] → Listing names cs → Phrase (.cards names) (key ++ (gap ++ cs))
  | noCards {key : List Char} : Keyword "cards" key → Phrase (.cards []) key
  | pile {key gap : List Char} {name : String} : Keyword "pile" key ∨ Keyword "buy" key →
      Gap gap → gap ≠ [] → Nameable name → Phrase (.pile name) (key ++ (gap ++ name.toList))
  | yes {key : List Char} : Keyword "yes" key ∨ Keyword "true" key → Phrase (.bool true) key
  | no {key : List Char} : Keyword "no" key ∨ Keyword "false" key → Phrase (.bool false) key
  | options {key gap cs : List Char} {places : List Nat} : Keyword "effects" key → Gap gap →
      gap ≠ [] → Listing (places.map toString) cs → (∀ n ∈ places, n ≤ maxWord) →
      Phrase (.options places) (key ++ (gap ++ cs))
  | noOptions {key : List Char} : Keyword "effects" key → Phrase (.options []) key
  | integer {key gap : List Char} {n : Int} : Keyword "int" key → Gap gap → gap ≠ [] →
      -0x8000000000000000 ≤ n → n ≤ 0x7FFFFFFFFFFFFFFF →
      Phrase (.integer n) (key ++ (gap ++ (toString n).toList))
  | pass {key : List Char} : Keyword "pass" key → Phrase .pass key

theorem toString_toList_ne_nil (n : Int) : (toString n).toList ≠ [] := by
  cases n with
  | ofNat m =>
    change (toString m).toList ≠ []
    rw [toList_toString_nat]
    exact Nat.toDigits_ne_nil
  | negSucc m =>
    rw [toList_toString_negSucc]
    exact List.cons_ne_nil _ _

theorem isDigit_of_mem_toString (n : Int) :
    ∀ c ∈ (toString n).toList, c.isDigit = true ∨ c = '-' := by
  cases n with
  | ofNat m =>
    intro c hc
    change c ∈ (toString m).toList at hc
    rw [toList_toString_nat] at hc
    exact .inl (isDigit_toDigits m c hc)
  | negSucc m =>
    intro c hc
    rw [toList_toString_negSucc] at hc
    rcases List.mem_cons.mp hc with hc | hc
    · exact .inr hc
    · exact .inl (isDigit_toDigits (m + 1) c hc)

/-- A number stands in a script as a name does. -/
theorem nameable_toString (n : Int) : Nameable (toString n) := by
  refine ⟨toString_toList_ne_nil n, tidy_of_forall fun c hc => ?_, fun c hc => ?_⟩
  · rcases isDigit_of_mem_toString n c hc with hdigit | hminus
    · exact isBlank_of_isAlphanum (isAlphanum_of_isDigit hdigit)
    · rw [hminus]
      rfl
  · rcases isDigit_of_mem_toString n c hc with hdigit | hminus
    · exact plain_char_of_isAlphanum (isAlphanum_of_isDigit hdigit)
    · rw [hminus]
      decide

theorem comma_notMem_toString (n : Int) : ',' ∉ (toString n).toList := by
  intro hcomma
  rcases isDigit_of_mem_toString n ',' hcomma with hdigit | hminus
  · cases hdigit
  · cases hminus

theorem mapM_word?_toString {places : List Nat} (h : ∀ n ∈ places, n ≤ maxWord) :
    ((places.map toString).mapM fun n => word? n.toList) = some places := by
  induction places with
  | nil => rfl
  | cons n rest ih =>
    obtain ⟨hn, hrest⟩ := List.forall_mem_cons.mp h
    rw [List.map_cons, List.mapM_cons, word?_toString hn, ih hrest]
    rfl

theorem Phrase.plain {a : ScriptedAnswer} {cs : List Char} (h : Phrase a cs) : Plain cs := by
  cases h with
  | card hkey hgap _ hname =>
    exact (hkey.plain (by decide)).append (hgap.plain.append hname.plain)
  | cards hkey hgap _ hlist =>
    exact (hkey.plain (by decide)).append (hgap.plain.append hlist.plain)
  | noCards hkey => exact hkey.plain (by decide)
  | @pile key _ _ hkey hgap _ hname =>
    have hplain : Plain key := by rcases hkey with hkey | hkey <;> exact hkey.plain (by decide)
    exact hplain.append (hgap.plain.append hname.plain)
  | yes hkey => rcases hkey with hkey | hkey <;> exact hkey.plain (by decide)
  | no hkey => rcases hkey with hkey | hkey <;> exact hkey.plain (by decide)
  | options hkey hgap _ hlist =>
    exact (hkey.plain (by decide)).append (hgap.plain.append hlist.plain)
  | noOptions hkey => exact hkey.plain (by decide)
  | integer hkey hgap =>
    exact (hkey.plain (by decide)).append (hgap.plain.append (nameable_toString _).plain)
  | pass hkey => exact hkey.plain (by decide)

/-- A phrase is read as the answer it stands for. -/
theorem Phrase.answer?_eq {a : ScriptedAnswer} {cs : List Char} (h : Phrase a cs) :
    answer? (trim cs) = some a := by
  cases h with
  | card hkey hgap hsome hname =>
    have hread := keyword_followed hkey (by decide) hgap.blanks hsome
    simp [answer?, hread, hname.tidy.trim_eq, hname.filled]
  | cards hkey hgap hsome hlist =>
    have hread := keyword_followed hkey (by decide) hgap.blanks hsome
    simp [answer?, hread, commaList_trim, hlist.commaList_eq]
  | noCards hkey =>
    have hread := keyword_alone hkey (by decide)
    simp [answer?, hread, commaList_nil]
  | pile hkey hgap hsome hname =>
    rcases hkey with hkey | hkey
    · have hread := keyword_followed hkey (by decide) hgap.blanks hsome
      simp [answer?, hread, hname.tidy.trim_eq, hname.filled]
    · have hread := keyword_followed hkey (by decide) hgap.blanks hsome
      simp [answer?, hread, hname.tidy.trim_eq, hname.filled]
  | yes hkey =>
    rcases hkey with hkey | hkey
    · simp [answer?, keyword_alone hkey (by decide)]
    · simp [answer?, keyword_alone hkey (by decide)]
  | no hkey =>
    rcases hkey with hkey | hkey
    · simp [answer?, keyword_alone hkey (by decide)]
    · simp [answer?, keyword_alone hkey (by decide)]
  | options hkey hgap hsome hlist hplaces =>
    have hread := keyword_followed hkey (by decide) hgap.blanks hsome
    simp [answer?, hread, commaList_trim, hlist.commaList_eq, mapM_word?_toString hplaces]
  | noOptions hkey =>
    have hread := keyword_alone hkey (by decide)
    simp [answer?, hread, commaList_nil]
  | @integer _ _ n hkey hgap hsome hlow hhigh =>
    have hread := keyword_followed hkey (by decide) hgap.blanks hsome
    have hvalue : signedWord? (trim (toString n).toList) = some n := by
      rw [(nameable_toString n).tidy.trim_eq, signedWord?_toString hlow hhigh]
    simpa [answer?, hread] using hvalue
  | pass hkey => simp [answer?, keyword_alone hkey (by decide)]

theorem answer?_nil : answer? [] = none := by
  have hread : keyword [] = ("", []) := by
    rw [keyword, cutAt?_of_forall (by simp)]
    exact congrArg (·, []) (String.toList_inj.mp (toList_asciiLower _))
  simp [answer?, hread]

/-! ### Entries -/

/-- What may stand between two separators, with the answers in it. -/
inductive Entry : List ScriptedAnswer → List Char → Prop
  | blank {gap : List Char} : Gap gap → Entry [] gap
  | phrase {a : ScriptedAnswer} {before cs after : List Char} : Gap before → Phrase a cs →
      Gap after → Entry [a] (before ++ (cs ++ after))
  | comment {answers : List ScriptedAnswer} {cs note : List Char} : Entry answers cs →
      (∀ c ∈ note, isSeparator c = false) → Entry answers (cs ++ '#' :: note)

theorem bare_of_plain {cs : List Char} (h : Plain cs) : bare cs = trim cs := by
  have hall : cs.takeWhile (· != '#') = cs := by
    apply List.takeWhile_eq_self_iff.mpr
    intro c hc
    exact bne_iff_ne.mpr (h c hc).2
  rw [bare, hall]

theorem bare_append_comment (cs note : List Char) : bare (cs ++ '#' :: note) = bare cs := by
  have hcut : (cs ++ '#' :: note).takeWhile (· != '#') = cs.takeWhile (· != '#') := by
    induction cs with
    | nil => rfl
    | cons c cs ih =>
      rw [List.cons_append, List.takeWhile_cons, List.takeWhile_cons, ih]
  rw [bare, bare, hcut]

theorem Entry.noSeparator {answers : List ScriptedAnswer} {cs : List Char}
    (h : Entry answers cs) : ∀ c ∈ cs, isSeparator c = false := by
  induction h with
  | blank hgap => exact hgap.plain.noSeparator
  | phrase hbefore hphrase hafter =>
    exact (hbefore.plain.append (hphrase.plain.append hafter.plain)).noSeparator
  | comment _ hnote ih =>
    intro c hc
    rcases List.mem_append.mp hc with hc | hc
    · exact ih c hc
    rcases List.mem_cons.mp hc with hc | hc
    · rw [hc]
      rfl
    · exact hnote c hc

theorem Entry.read {answers : List ScriptedAnswer} {cs : List Char} (h : Entry answers cs) :
    bare cs = [] ∧ answers = [] ∨ ∃ a, answers = [a] ∧ answer? (bare cs) = some a := by
  induction h with
  | blank hgap =>
    rw [bare_of_plain hgap.plain, trim_of_blanks hgap.blanks]
    exact .inl ⟨rfl, rfl⟩
  | @phrase a before cs after hbefore hphrase hafter =>
    have hplain := hbefore.plain.append (hphrase.plain.append hafter.plain)
    have hbare : bare (before ++ (cs ++ after)) = trim cs := by
      rw [bare_of_plain hplain, trim_blanks_append hbefore.blanks, trim_append_blanks hafter.blanks]
    rw [hbare]
    exact .inr ⟨a, rfl, hphrase.answer?_eq⟩
  | comment _ _ ih =>
    rw [bare_append_comment]
    exact ih

/-- An entry by itself is a script with the answers in it. -/
theorem Entry.parse_eq {answers : List ScriptedAnswer} {text : String}
    (h : Entry answers text.toList) : parse text = .ok answers := by
  have hfields : entries text = [bare text.toList].filter (!·.isEmpty) := by
    rw [entries, fieldsBy_of_forall h.noSeparator]
    rfl
  rcases h.read with ⟨hbare, hanswers⟩ | ⟨a, hanswers, hread⟩
  · rw [parse, hfields, hbare, hanswers]
    rfl
  · have hfilled : bare text.toList ≠ [] := by
      intro hnil
      rw [hnil, answer?_nil] at hread
      cases hread
    have hone : entries text = [bare text.toList] := by
      rw [hfields]
      simp [hfilled]
    rw [parse, hone, hanswers, List.mapM_cons, hread]
    rfl

/-! ### Scripts -/

/-- Entries with separators between them, with all the answers in them. -/
inductive Written : List ScriptedAnswer → String → Prop
  | entry {answers : List ScriptedAnswer} {text : String} : Entry answers text.toList →
      Written answers text
  | join {answers answers' : List ScriptedAnswer} {text text' : String} {sep : Char} :
      Written answers text → isSeparator sep = true → Written answers' text' →
      Written (answers ++ answers') (text ++ sep.toString ++ text')

theorem entries_append {sep : Char} (hsep : isSeparator sep = true) (a b : String) :
    entries (a ++ sep.toString ++ b) = entries a ++ entries b := by
  have hchars : (a ++ sep.toString ++ b).toList = a.toList ++ sep :: b.toList := by
    simp
  simp only [entries, hchars, fieldsBy_append_cons hsep, List.map_append, List.filter_append]

theorem parse_append {sep : Char} (hsep : isSeparator sep = true) (a b : String) :
    parse (a ++ sep.toString ++ b) = (do
      let answers ← parse a
      let answers' ← parse b
      return answers ++ answers') := by
  rw [parse, entries_append hsep, List.mapM_append]
  rfl

theorem Written.parse_eq {answers : List ScriptedAnswer} {text : String}
    (h : Written answers text) : parse text = .ok answers := by
  induction h with
  | entry hentry => exact hentry.parse_eq
  | join _ hsep _ ih ih' =>
    rw [parse_append hsep, ih, ih']
    rfl

/-! ### Writing -/

/-- What can be written down. -/
def Writable : ScriptedAnswer → Prop
  | .card name => Nameable name
  | .cards names => ∀ name ∈ names, Nameable name ∧ ',' ∉ name.toList
  | .pile name => Nameable name
  | .options places => ∀ n ∈ places, n ≤ maxWord
  | .integer n => -0x8000000000000000 ≤ n ∧ n ≤ 0x7FFFFFFFFFFFFFFF
  | .bool _ | .pass => True

def phrase : ScriptedAnswer → String
  | .card name => "card " ++ name
  | .cards names => "cards " ++ ",".intercalate names
  | .pile name => "pile " ++ name
  | .bool true => "yes"
  | .bool false => "no"
  | .options places => "effects " ++ ",".intercalate (places.map toString)
  | .integer n => "int " ++ toString n
  | .pass => "pass"

/-- The answers, one to a line. -/
def write (answers : List ScriptedAnswer) : String := "\n".intercalate (answers.map phrase)

theorem gap_nil : Gap [] := ⟨blanks_nil, plain_nil⟩

theorem gap_space : Gap [' '] := by
  refine ⟨fun c hc => ?_, fun c hc => ?_⟩
  · rw [List.mem_singleton.mp hc]
    rfl
  · rw [List.mem_singleton.mp hc]
    decide

theorem listing_intercalate {names : List String}
    (h : ∀ name ∈ names, Nameable name ∧ ',' ∉ name.toList) :
    Listing names (",".intercalate names).toList := by
  induction names with
  | nil => exact .blank gap_nil
  | cons name rest ih =>
    obtain ⟨⟨hname, hcomma⟩, hrest⟩ := List.forall_mem_cons.mp h
    have hone : Listing [name] name.toList := by
      simpa using Listing.item gap_nil hname hcomma gap_nil
    cases rest with
    | nil =>
      rw [String.intercalate_singleton]
      exact hone
    | cons name' rest =>
      rw [String.intercalate_cons_cons, String.toList_append, String.toList_append,
        List.append_assoc]
      exact hone.join (ih hrest)

/-- Every answer that can be written down has a phrase. -/
theorem phrase_of_writable {a : ScriptedAnswer} (h : Writable a) : Phrase a (phrase a).toList := by
  have hspace : [' '] ≠ ([] : List Char) := List.cons_ne_nil _ _
  cases a with
  | card name =>
    have hkey : Keyword "card" "card".toList := keyword_of_toLower (by decide)
    simpa [phrase] using Phrase.card hkey gap_space hspace h
  | cards names =>
    have hkey : Keyword "cards" "cards".toList := keyword_of_toLower (by decide)
    simpa [phrase] using Phrase.cards hkey gap_space hspace (listing_intercalate h)
  | pile name =>
    have hkey : Keyword "pile" "pile".toList := keyword_of_toLower (by decide)
    simpa [phrase] using Phrase.pile (.inl hkey) gap_space hspace h
  | bool yes =>
    cases yes with
    | true => exact .yes (.inl (keyword_of_toLower (by decide)))
    | false => exact .no (.inl (keyword_of_toLower (by decide)))
  | options places =>
    have hkey : Keyword "effects" "effects".toList := keyword_of_toLower (by decide)
    have hlist : Listing (places.map toString) (",".intercalate (places.map toString)).toList := by
      apply listing_intercalate
      intro name hname
      obtain ⟨n, -, heq⟩ := List.mem_map.mp hname
      rw [← heq]
      exact ⟨nameable_toString n, comma_notMem_toString n⟩
    simpa [phrase] using Phrase.options hkey gap_space hspace hlist h
  | integer n =>
    have hkey : Keyword "int" "int".toList := keyword_of_toLower (by decide)
    simpa [phrase] using Phrase.integer hkey gap_space hspace h.1 h.2
  | pass => exact .pass (keyword_of_toLower (by decide))

theorem written_write {answers : List ScriptedAnswer} (h : ∀ a ∈ answers, Writable a) :
    Written answers (write answers) := by
  induction answers with
  | nil => exact .entry (.blank gap_nil)
  | cons a rest ih =>
    obtain ⟨ha, hrest⟩ := List.forall_mem_cons.mp h
    have hone : Written [a] (phrase a) := by
      apply Written.entry
      simpa using Entry.phrase gap_nil (phrase_of_writable ha) gap_nil
    cases rest with
    | nil => simpa [write] using hone
    | cons b rest =>
      have hsep : isSeparator '\n' = true := rfl
      have htext : write (a :: b :: rest) = phrase a ++ '\n'.toString ++ write (b :: rest) := by
        rw [write, List.map_cons, List.map_cons, String.intercalate_cons_cons]
        rfl
      rw [htext]
      exact hone.join hsep (ih hrest)

/-- Reading undoes writing, in whatever way the answers are written down; all answers that can be written
down are; and a script of two parts is read part by part. -/
theorem scripts_read_as_written :
    (∀ (answers : List ScriptedAnswer) (text : String), Written answers text →
      parse text = .ok answers) ∧
    (∀ answers : List ScriptedAnswer, (∀ a ∈ answers, Writable a) →
      Written answers (write answers)) ∧
    ∀ (a b : String) (sep : Char), isSeparator sep = true →
      parse (a ++ sep.toString ++ b) = (do
        let answers ← parse a
        let answers' ← parse b
        return answers ++ answers') ∧
      ((∃ e, parse (a ++ sep.toString ++ b) = .error e) ↔
        (∃ e, parse a = .error e) ∨ ∃ e, parse b = .error e) := by
  refine ⟨fun _ _ h => h.parse_eq, fun _ h => written_write h, fun a b sep hsep => ?_⟩
  have hparts := parse_append hsep a b
  refine ⟨hparts, ?_⟩
  rw [hparts]
  cases parse a with
  | error e => simp [bind, Except.bind]
  | ok answers =>
    cases parse b with
    | error e => simp [bind, Except.bind]
    | ok answers' => simp [bind, Except.bind, pure, Except.pure]

theorem smithy_script_reads_as_written :
    Written [.pile "Smithy"] "BUY Smithy # cheap" ∧
    parse "BUY Smithy # cheap" = .ok [.pile "Smithy"] ∧
    (∀ a ∈ [ScriptedAnswer.options [0, 2], .integer (-3)], Writable a) ∧
    parse (write [.options [0, 2], .integer (-3)]) = .ok [.options [0, 2], .integer (-3)] ∧
    isSeparator ';' = true ∧
    parse ("BUY Smithy # cheap" ++ ';'.toString ++ "BUY Smithy # cheap") =
      .ok [.pile "Smithy", .pile "Smithy"] := by
  obtain ⟨hread, hwrite, hparts⟩ := scripts_read_as_written
  have hkey : Keyword "buy" "BUY".toList := keyword_of_toLower (by decide)
  have hletters : ∀ c ∈ "Smithy".toList, c.isAlphanum = true := List.all_eq_true.mp rfl
  have hname : Nameable "Smithy" :=
    ⟨by decide, tidy_of_forall fun c hc => isBlank_of_isAlphanum (hletters c hc),
      plain_of_isAlphanum hletters⟩
  have hphrase : Phrase (.pile "Smithy") "BUY Smithy".toList :=
    .pile (.inr hkey) gap_space (by decide) hname
  have hentry : Entry [.pile "Smithy"] "BUY Smithy ".toList := .phrase gap_nil hphrase gap_space
  have hnote : Plain " cheap".toList :=
    gap_space.plain.append (plain_of_isAlphanum (List.all_eq_true.mp rfl) : Plain "cheap".toList)
  have hwritten : Written [.pile "Smithy"] "BUY Smithy # cheap" := .entry (hentry.comment hnote.noSeparator)
  have hwritable : ∀ a ∈ [ScriptedAnswer.options [0, 2], .integer (-3)], Writable a := by
    simp [Writable, maxWord]
  refine ⟨hwritten, hread _ _ hwritten, hwritable, hread _ _ (hwrite _ hwritable), rfl, ?_⟩
  rw [(hparts _ _ ';' rfl).1, hread _ _ hwritten]
  rfl

end DeckBuilder.Script
