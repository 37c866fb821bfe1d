import DeckBuilder.Json.Value

/-!
Reading JSON text.  A value is read off the front of a list of characters; reading a whole text fails
if anything but blanks follows the value.  The depth of nesting is bounded by the length of the text.
-/
namespace DeckBuilder.Json

/-- The four blanks of the format. -/
def isSpace (c : Char) : Bool := c = ' ' || c = '\n' || c = '\t' || c = '\r'

def skip (cs : List Char) : List Char := cs.dropWhile isSpace

def hexValue? (c : Char) : Option Nat :=
  if c.isDigit then some (c.toNat - '0'.toNat)
  else if 'a' ≤ c ∧ c ≤ 'f' then some (c.toNat - 'a'.toNat + 10)
  else if 'A' ≤ c ∧ c ≤ 'F' then some (c.toNat - 'A'.toNat + 10)
  else none

def hex4? (a b c d : Char) : Option Nat := do
  return (((← hexValue? a) * 16 + (← hexValue? b)) * 16 + (← hexValue? c)) * 16 + (← hexValue? d)

/-- The character of an escape of one letter. -/
def escape? (c : Char) : Option Char :=
  if c = '"' then some '"'
  else if c = '\\' then some '\\'
  else if c = '/' then some '/'
  else if c = 'b' then some (Char.ofNat 8)
  else if c = 'f' then some (Char.ofNat 12)
  else if c = 'n' then some '\n'
  else if c = 'r' then some '\r'
  else if c = 't' then some '\t'
  else none

/-- The rest of a string after its opening quotation mark; `seen` is what was read, backwards. -/
def stringBody? (seen : List Char) : List Char → Option (String × List Char)
  | '"' :: cs => some (String.ofList seen.reverse, cs)
  | '\\' :: 'u' :: a :: b :: c :: d :: '\\' :: 'u' :: a' :: b' :: c' :: d' :: cs => do
    let high ← hex4? a b c d
    if 0xD800 ≤ high ∧ high < 0xDC00 then
      let low ← hex4? a' b' c' d'
      if 0xDC00 ≤ low ∧ low < 0xE000 then
        stringBody? (Char.ofNat (0x10000 + (high - 0xD800) * 0x400 + (low - 0xDC00)) :: seen) cs
      else none
    else if 0xDC00 ≤ high ∧ high < 0xE000 then none
    else stringBody? (Char.ofNat high :: seen) ('\\' :: 'u' :: a' :: b' :: c' :: d' :: cs)
  | '\\' :: 'u' :: a :: b :: c :: d :: cs => do
    let n ← hex4? a b c d
    if 0xD800 ≤ n ∧ n < 0xE000 then none else stringBody? (Char.ofNat n :: seen) cs
  | '\\' :: c :: cs => do stringBody? ((← escape? c) :: seen) cs
  | c :: cs => if c.toNat < 0x20 then none else stringBody? (c :: seen) cs
  | [] => none

def digitsValue (cs : List Char) : Nat := cs.foldl (fun n c => 10 * n + (c.toNat - '0'.toNat)) 0

/-- The exponent of a number, zero if there is none. -/
def exponent? : List Char → Option (Int × List Char)
  | c :: cs =>
    if c = 'e' ∨ c = 'E' then
      let (minus, cs) := match cs with
        | '+' :: rest => (false, rest)
        | '-' :: rest => (true, rest)
        | _ => (false, cs)
      let (digits, rest) := cs.span Char.isDigit
      if digits.isEmpty then none
      else
        let n : Int := digitsValue digits
        some (if minus then -n else n, rest)
    else some (0, c :: cs)
  | [] => some (0, [])

/-- A number without its minus sign. -/
def number? (negative : Bool) (cs : List Char) : Option (Json × List Char) := do
  let (whole, rest) := cs.span Char.isDigit
  if whole.isEmpty then none
  else if whole.length > 1 && whole.head? == some '0' then none
  else
    let (fraction, rest) ← match rest with
      | '.' :: rest =>
        let (fraction, rest) := rest.span Char.isDigit
        if fraction.isEmpty then none else some (fraction, rest)
      | _ => some ([], rest)
    let written := rest.head? == some 'e' || rest.head? == some 'E'
    let (exponent, rest) ← exponent? rest
    let value := digitsValue (whole ++ fraction)
    if fraction.isEmpty && !written && !(negative && value == 0) then
      some (.int (if negative then -(value : Int) else value), rest)
    else some (.decimal negative value (exponent - fraction.length), rest)

mutual
/-- Reads a value at the front; `depth` bounds how deep it may nest. -/
def value? : Nat → List Char → Option (Json × List Char)
  | 0, _ => none
  | depth + 1, cs =>
    match skip cs with
    | 'n' :: 'u' :: 'l' :: 'l' :: cs => some (.null, cs)
    | 't' :: 'r' :: 'u' :: 'e' :: cs => some (.bool true, cs)
    | 'f' :: 'a' :: 'l' :: 's' :: 'e' :: cs => some (.bool false, cs)
    | '"' :: cs => do
      let (s, cs) ← stringBody? [] cs
      some (.str s, cs)
    | '[' :: cs =>
      match skip cs with
      | ']' :: cs => some (.arr [], cs)
      | cs => do
        let (items, cs) ← items? depth [] cs
        some (.arr items, cs)
    | '\x7b' :: cs =>
      match skip cs with
      | '\x7d' :: cs => some (.obj [], cs)
      | cs => do
        let (fields, cs) ← fields? depth [] cs
        some (.obj fields, cs)
    | '-' :: cs => number? true cs
    | cs => number? false cs
/-- Reads values with commas between them up to the closing bracket. -/
def items? : Nat → List Json → List Char → Option (List Json × List Char)
  | 0, _, _ => none
  | depth + 1, seen, cs => do
    let (j, cs) ← value? depth cs
    match skip cs with
    | ',' :: cs => items? depth (j :: seen) cs
    | ']' :: cs => some ((j :: seen).reverse, cs)
    | _ => none
/-- Reads names and values with commas between them up to the closing brace. -/
def fields? : Nat → List (String × Json) → List Char → Option (List (String × Json) × List Char)
  | 0, _, _ => none
  | depth + 1, seen, cs =>
    match skip cs with
    | '"' :: cs => do
      let (name, cs) ← stringBody? [] cs
      match skip cs with
      | ':' :: cs =>
        let (j, cs) ← value? depth cs
        match skip cs with
        | ',' :: cs => fields? depth ((name, j) :: seen) cs
        | '\x7d' :: cs => some (((name, j) :: seen).reverse, cs)
        | _ => none
      | _ => none
    | _ => none
end

/-- The value a text holds, if it is JSON. -/
def parse? (s : String) : Option Json := do
  let cs := s.toList
  let (j, rest) ← value? (2 * cs.length + 2) cs
  if (skip rest).isEmpty then some j else none

end DeckBuilder.Json
