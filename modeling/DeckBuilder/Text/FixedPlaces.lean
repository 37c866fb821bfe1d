/-!
Numbers with a fixed count of decimal places.  The value of a binary floating-point number is a
fraction of whole numbers, so it is rounded exactly: to the nearest decimal, a half to the even one.
-/
namespace DeckBuilder.Text

/-- The quotient rounded to the nearest whole number, a half to the even neighbour. -/
def roundHalfEven (num den : Nat) : Nat :=
  let q := num / den
  let r := num % den
  if 2 * r < den then q
  else if den < 2 * r then q + 1
  else if q % 2 = 0 then q else q + 1

/-- What the bits of a number stand for: its value is `mantissa * 2 ^ power`, if it is finite. -/
structure Binary where
  negative : Bool
  mantissa : Nat
  power : Int
deriving DecidableEq, Repr

/-- Reads the 64 bits of a floating-point number, or gives nothing for infinities and NaN. -/
def Binary.ofBits? (bits : Nat) : Option Binary :=
  let negative := bits >>> 63 % 2 == 1
  let exponent : Nat := bits >>> 52 % 1 <<< 11
  let fraction := bits % 1 <<< 52
  if exponent = 1 <<< 11 - 1 then none
  else if exponent = 0 then some ⟨negative, fraction, -1074⟩
  else some ⟨negative, fraction + 1 <<< 52, Int.ofNat exponent - 1075⟩

/-- The value times `10 ^ places`, rounded to a whole number. -/
def Binary.scaled (b : Binary) (places : Nat) : Nat :=
  match b.power with
  | .ofNat p => b.mantissa <<< p * Nat.pow 10 places
  | .negSucc p => roundHalfEven (b.mantissa * Nat.pow 10 places) (1 <<< (p + 1))

/-- The whole part, a point and `places` digits of a number given in units of the last place. -/
def decimalText (places units : Nat) : String :=
  let digits := toString (units % Nat.pow 10 places)
  let zeros := String.ofList (List.replicate (places - digits.length) '0')
  toString (units / Nat.pow 10 places) ++ "." ++ zeros ++ digits

/-- The number with the given count of places after the point. -/
def fixedPlaces (places : Nat) (x : Float) : String :=
  match Binary.ofBits? x.toBits.toNat with
  | some b => (if b.negative then "-" else "") ++ decimalText places (b.scaled places)
  | none => if x.isNaN then "NaN" else if x < 0 then "-inf" else "inf"

end DeckBuilder.Text
