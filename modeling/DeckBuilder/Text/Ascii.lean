/-!
Comparison that takes the letters A to Z for equal to a to z and tells every other character apart.
-/
namespace DeckBuilder.Text

/-- Small letters for A to Z; other characters stay. -/
def asciiLower (s : String) : String := s.map Char.toLower

/-- Equal up to the case of the letters A to Z. -/
def sameAscii (s t : String) : Bool := asciiLower s == asciiLower t

theorem sameAscii_iff {s t : String} : sameAscii s t = true ↔ asciiLower s = asciiLower t := by
  simp [sameAscii]

/-- Whether the first list occurs in the second without a gap. -/
def occursIn (needle : List Char) : List Char → Bool
  | [] => needle.isEmpty
  | c :: cs => needle.isPrefixOf (c :: cs) || occursIn needle cs

theorem occursIn_iff {needle cs : List Char} : occursIn needle cs = true ↔ needle <:+: cs := by
  induction cs with
  | nil => simp [occursIn]
  | cons c cs ih => simp [occursIn, ih, List.infix_cons_iff]

/-- Whether the text holds the word somewhere. -/
def contains (text word : String) : Bool := occursIn word.toList text.toList

end DeckBuilder.Text
