import DeckBuilder.Text.GraphemeExtend
import DeckBuilder.Text.Unprintable

/-!
Text in quotation marks for messages: what would not be seen, or would be taken for the end of the
text, is written as an escape.
-/
namespace DeckBuilder.Text

/-- The digits of the number in base sixteen, small letters, no leading zeros. -/
def hexDigits (n : Nat) : List Char := Nat.toDigits 16 n

/-- One character inside quotation marks. -/
def quotedChar (c : Char) : List Char :=
  if c = '"' then ['\\', '"']
  else if c = '\\' then ['\\', '\\']
  else if c = '\n' then ['\\', 'n']
  else if c = '\t' then ['\\', 't']
  else if c = '\r' then ['\\', 'r']
  else if c = Char.ofNat 0 then ['\\', '0']
  else if extendsGrapheme c || !isPrintable c then ['\\', 'u', '\x7b'] ++ hexDigits c.toNat ++ ['\x7d']
  else [c]

def quote (s : String) : String := String.ofList ('"' :: s.toList.flatMap quotedChar ++ ['"'])

/-- A name that may be missing: `Some("Gold")` or `None`. -/
def quoteOption : Option String → String
  | some s => "Some(" ++ quote s ++ ")"
  | none => "None"

/-- A list of numbers in square brackets. -/
def bracketed {α : Type} [ToString α] (xs : List α) : String :=
  "[" ++ ", ".intercalate (xs.map toString) ++ "]"

end DeckBuilder.Text
