/-!
Rounding to the 53 binary digits that a floating-point number holds, in whole-number arithmetic.
-/
namespace DeckBuilder.Random

/-- The number of binary digits of a number, none for zero. -/
def bitLength (n : Nat) : Nat := if n = 0 then 0 else n.log2 + 1

theorem bitLength_le_iff {n k : Nat} : bitLength n ≤ k ↔ n < 1 <<< k := by
  rw [Nat.one_shiftLeft]
  unfold bitLength
  split
  · next h => subst h; exact ⟨fun _ => Nat.two_pow_pos k, fun _ => Nat.zero_le _⟩
  · next h => exact Nat.log2_lt h

/-- The number rounded to its leading 53 binary digits, a half to the even neighbour. -/
def round53 (n : Nat) : Nat :=
  let drop := bitLength n - 53
  let unit := 1 <<< drop
  let q := n / unit
  let r := 2 * (n % unit)
  let q := if r < unit then q else if unit < r then q + 1 else q + q % 2
  q * unit

theorem round53_of_lt {n : Nat} (h : n < 1 <<< 53) : round53 n = n := by
  have hd : bitLength n - 53 = 0 := by have := bitLength_le_iff.2 h; omega
  simp [round53, hd, Nat.mod_one]

/-- The whole part of the product of `span` and the fraction `k / 2 ^ 53`, when both the span and
the product are rounded to 53 digits. -/
def scaledFloor (span k : Nat) : Nat := round53 (round53 span * k) >>> 53

end DeckBuilder.Random
