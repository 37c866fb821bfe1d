import DeckBuilder.Random.ChaCha
import DeckBuilder.Random.Rounding

/-!
The random source of a game: a place in a ChaCha stream.  A draw takes two words and keeps the upper
53 bits of the 64, so it is one of 2^53 evenly spaced fractions; whole numbers and truth values are
made from that fraction.  Two generators with the same key, stream and place give the same draws.
-/
namespace DeckBuilder

open DeckBuilder.Random

structure Generator where
  key : Key
  stream : UInt64 := 0
  /-- The number of words taken, below the length of the stream. -/
  position : Nat := 0
  seed : UInt64
deriving DecidableEq, Repr, Inhabited

namespace Generator

/-- One step of the seed expansion: the next state and the word it gives. -/
def expand (s : UInt64) : UInt64 × UInt32 :=
  let s := s * 6364136223846793005 + 11634580027462260723
  let x := (((s >>> 18) ^^^ s) >>> 27).toUInt32
  let turn := (s >>> 59).toUInt32
  (s, (x >>> turn) ||| (x <<< ((32 - turn) % 32)))

def expandRow (s : UInt64) : UInt64 × Row :=
  let (s, a) := expand s
  let (s, b) := expand s
  let (s, c) := expand s
  let (s, d) := expand s
  (s, ⟨a, b, c, d⟩)

/-- The generator at the start of the stream of a seed. -/
def ofSeed (seed : UInt64) : Generator :=
  let (s, left) := expandRow seed
  let (_, right) := expandRow s
  { key := ⟨left, right⟩, seed }

/-- The generator after `n` more words have been taken. -/
def advance (g : Generator) (n : Nat) : Generator :=
  { g with position := (g.position + n) % streamLength }

/-- The word `i` places ahead. -/
def wordAhead (g : Generator) (i : Nat) : UInt32 := streamWord g.key g.stream (g.position + i)

/-- The numerator of the next fraction: the upper 53 bits of two words, the second one above. -/
def peek (g : Generator) : Nat :=
  ((g.wordAhead 0).toNat + (g.wordAhead 1).toNat <<< 32) >>> 11

/-- Draws the numerator of a fraction whose denominator is `2 ^ 53`. -/
def draw (g : Generator) : Nat × Generator := (g.peek, g.advance 2)

/-- Draws a number from zero up to, but not including, one. -/
def float (g : Generator) : Float × Generator :=
  let (k, g) := g.draw
  (Float.scaleB (Float.ofNat k) (-53), g)

/-- Draws a whole number from `low` up to, but not including, `high`.  Without such a number the
answer is `low` and nothing is drawn. -/
def int (g : Generator) (low high : Int) : Int × Generator :=
  if high ≤ low then (low, g)
  else
    let span := (high - low).toNat
    let (k, g) := g.draw
    (low + min (scaledFloor span k) (span - 1), g)

/-- Draws an index into a list of `n` things; zero if there are none. -/
def index (g : Generator) (n : Nat) : Nat × Generator :=
  let (i, g) := g.int 0 n
  (i.toNat, g)

/-- Draws yes or no, each half the time. -/
def bool (g : Generator) : Bool × Generator :=
  let (k, g) := g.draw
  (k < 1 <<< 52, g)

/-- Draws a number between two others. -/
def floatBetween (g : Generator) (low high : Float) : Float × Generator :=
  let (x, g) := g.float
  (low + x * (high - low), g)

theorem advance_seed (g : Generator) (n : Nat) : (g.advance n).seed = g.seed := rfl

theorem index_zero (g : Generator) : g.index 0 = (0, g) := by simp [index, int]

theorem int_of_lt (g : Generator) {low high : Int} (h : low < high) :
    g.int low high =
      (low + min (scaledFloor (high - low).toNat g.peek) ((high - low).toNat - 1), g.advance 2) := by
  simp only [int, Int.not_le.2 h, if_false, draw]

theorem index_of_pos (g : Generator) {n : Nat} (h : 0 < n) :
    g.index n = (min (scaledFloor n g.peek) (n - 1), g.advance 2) := by
  have hn : (0 : Int) < n := by omega
  unfold index
  rw [int_of_lt g hn, Int.sub_zero, Int.toNat_natCast]
  generalize scaledFloor n g.peek = x
  generalize g.advance 2 = g'
  refine Prod.ext ?_ rfl
  change ((0 : Int) + ((min x (n - 1) : Nat) : Int)).toNat = min x (n - 1)
  rw [Int.zero_add, Int.toNat_natCast]

theorem index_lt (g : Generator) {n : Nat} (h : 0 < n) : (g.index n).1 < n := by
  rw [index_of_pos g h]
  exact Nat.lt_of_le_of_lt (Nat.min_le_right _ _) (Nat.sub_lt h Nat.one_pos)

theorem index_snd (g : Generator) {n : Nat} (h : 0 < n) : (g.index n).2 = g.advance 2 := by
  rw [index_of_pos g h]

end Generator

end DeckBuilder
