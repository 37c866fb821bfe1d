/-!
Blank characters and the cutting of text at separators.  `trim` takes the blanks off both ends;
`fieldsBy` cuts at every separator, so that n separators leave n + 1 fields, some of them empty.
-/
namespace DeckBuilder.Text

/-- The Unicode property White_Space. -/
def isBlank (c : Char) : Bool :=
  let n := c.toNat
  (9 ≤ n && n ≤ 13) || n == 0x20 || n == 0x85 || n == 0xA0 || n == 0x1680 ||
  (0x2000 ≤ n && n ≤ 0x200A) || n == 0x2028 || n == 0x2029 || n == 0x202F || n == 0x205F ||
  n == 0x3000

theorem isBlank_of_isWhitespace {c : Char} (h : c.isWhitespace = true) : isBlank c = true := by
  simp only [Char.isWhitespace, Bool.or_eq_true, decide_eq_true_eq] at h
  rcases h with ((rfl | rfl) | rfl) | rfl <;> rfl

def trimStart (cs : List Char) : List Char := cs.dropWhile isBlank

def trimEnd (cs : List Char) : List Char := cs.reverse.dropWhile isBlank |>.reverse

def trim (cs : List Char) : List Char := trimEnd (trimStart cs)

/-- The text without the blanks at its ends. -/
def trimmed (s : String) : String := String.ofList (trim s.toList)

def fieldsBy (sep : Char → Bool) : List Char → List (List Char)
  | [] => [[]]
  | c :: cs =>
    if sep c then [] :: fieldsBy sep cs
    else match fieldsBy sep cs with
      | field :: fields => (c :: field) :: fields
      | [] => [[c]]

theorem fieldsBy_ne_nil (sep : Char → Bool) (cs : List Char) : fieldsBy sep cs ≠ [] := by
  cases cs with
  | nil => simp [fieldsBy]
  | cons c cs => simp only [fieldsBy]; split <;> (try split) <;> simp

/-- A text without separators is one field. -/
theorem fieldsBy_of_forall {sep : Char → Bool} {cs : List Char} (h : ∀ c ∈ cs, sep c = false) :
    fieldsBy sep cs = [cs] := by
  induction cs with
  | nil => rfl
  | cons c cs ih =>
    rw [fieldsBy, ih fun d hd => h d (List.mem_cons_of_mem c hd)]
    simp [h c List.mem_cons_self]

/-- The fields before a separator do not depend on what follows it. -/
theorem fieldsBy_append_cons {sep : Char → Bool} {c : Char} (hc : sep c = true)
    (cs ds : List Char) : fieldsBy sep (cs ++ c :: ds) = fieldsBy sep cs ++ fieldsBy sep ds := by
  induction cs with
  | nil => simp [fieldsBy, hc]
  | cons d cs ih =>
    simp only [List.cons_append, fieldsBy, ih]
    split
    · rfl
    · cases hf : fieldsBy sep cs with
      | nil => exact absurd hf (fieldsBy_ne_nil sep cs)
      | cons field fields => rfl

/-- The text up to the first character with the property, and what follows that character. -/
def cutAt? (p : Char → Bool) (cs : List Char) : Option (List Char × List Char) :=
  match cs.span (fun c => !p c) with
  | (head, _ :: rest) => some (head, rest)
  | (_, []) => none

/-- The fields between commas, trimmed, without the empty ones. -/
def commaList (cs : List Char) : List String :=
  (fieldsBy (· == ',') cs).map trim |>.filter (!·.isEmpty) |>.map String.ofList

end DeckBuilder.Text
