import DeckBuilder.Json.Value

/-!
JSON text without any blanks: fields in their order, and in strings only the quotation mark, the
backslash and the control characters escaped.
-/
namespace DeckBuilder.Json

def hexDigit (n : Nat) : Char :=
  if n < 10 then Char.ofNat (n + '0'.toNat) else Char.ofNat (n - 10 + 'a'.toNat)

/-- A character inside a JSON string. -/
def escapedChar (c : Char) : List Char :=
  if c = '"' then ['\\', '"']
  else if c = '\\' then ['\\', '\\']
  else if c = '\n' then ['\\', 'n']
  else if c = '\t' then ['\\', 't']
  else if c = '\r' then ['\\', 'r']
  else if c = Char.ofNat 8 then ['\\', 'b']
  else if c = Char.ofNat 12 then ['\\', 'f']
  else if c.toNat < 0x20 then
    ['\\', 'u', '0', '0', hexDigit (c.toNat / 16), hexDigit (c.toNat % 16)]
  else [c]

def quoted (s : String) : String := String.ofList ('"' :: s.toList.flatMap escapedChar ++ ['"'])

/-- A number that is not whole, in the form digits, exponent. -/
def decimalText (negative : Bool) (digits : Nat) (exponent : Int) : String :=
  (if negative then "-" else "") ++ toString digits ++ "e" ++ toString exponent

mutual
def render : Json → String
  | .null => "null"
  | .bool b => toString b
  | .int n => toString n
  | .decimal negative digits exponent => decimalText negative digits exponent
  | .str s => quoted s
  | .arr items => "[" ++ ",".intercalate (renderItems items) ++ "]"
  | .obj fields => "\x7b" ++ ",".intercalate (renderFields fields) ++ "\x7d"
def renderItems : List Json → List String
  | [] => []
  | j :: js => j.render :: renderItems js
def renderFields : List (String × Json) → List String
  | [] => []
  | (name, j) :: fields => (quoted name ++ ":" ++ j.render) :: renderFields fields
end

end DeckBuilder.Json
