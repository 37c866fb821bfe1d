/-!
Whole numbers as people type them: ASCII digits, leading zeros allowed, perhaps a sign, and a value
within the bounds asked for.
-/
namespace DeckBuilder.Text

def digitsValue? (cs : List Char) : Option Nat :=
  if !cs.isEmpty && cs.all Char.isDigit then
    some (cs.foldl (fun n c => 10 * n + (c.toNat - '0'.toNat)) 0)
  else none

/-- A number from zero to `limit`; a plus sign may stand before it. -/
def natural? (limit : Nat) (cs : List Char) : Option Nat :=
  (digitsValue? (match cs with | '+' :: rest => rest | _ => cs)).filter (· ≤ limit)

/-- A number from `low` to `high`; a plus or minus sign may stand before it. -/
def integer? (low high : Int) (cs : List Char) : Option Int :=
  let value : Option Int := match cs with
    | '+' :: rest => (digitsValue? rest).map Int.ofNat
    | '-' :: rest => (digitsValue? rest).map fun n => -(n : Int)
    | _ => (digitsValue? cs).map Int.ofNat
  value.filter fun n => low ≤ n && n ≤ high

/-- The largest number of 64 bits. -/
def maxWord : Nat := 0xFFFFFFFFFFFFFFFF

/-- A number that fits 64 bits without sign. -/
def word? (cs : List Char) : Option Nat := natural? maxWord cs

/-- A number that fits 64 bits with sign. -/
def signedWord? (cs : List Char) : Option Int :=
  integer? (-0x8000000000000000) 0x7FFFFFFFFFFFFFFF cs

theorem natural?_le {limit n : Nat} {cs : List Char} (h : natural? limit cs = some n) :
    n ≤ limit := by
  simp only [natural?, Option.filter_eq_some_iff, decide_eq_true_eq] at h
  exact h.2

theorem integer?_bounds {low high n : Int} {cs : List Char} (h : integer? low high cs = some n) :
    low ≤ n ∧ n ≤ high := by
  simp only [integer?, Option.filter_eq_some_iff, Bool.and_eq_true, decide_eq_true_eq] at h
  exact h.2

end DeckBuilder.Text
