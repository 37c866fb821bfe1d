/-!
The ChaCha stream of 32-bit words with twelve rounds.  A block is a four by four table of words kept
row by row, so that a quarter round on every column is one operation on whole rows, and the diagonals
become columns when the rows are turned.
-/
namespace DeckBuilder.Random

/-- A row of four words. -/
structure Row where
  a : UInt32
  b : UInt32
  c : UInt32
  d : UInt32
deriving DecidableEq, Repr, Inhabited

namespace Row

@[inline] def add (x y : Row) : Row := ⟨x.a + y.a, x.b + y.b, x.c + y.c, x.d + y.d⟩

@[inline] def xor (x y : Row) : Row := ⟨x.a ^^^ y.a, x.b ^^^ y.b, x.c ^^^ y.c, x.d ^^^ y.d⟩

@[inline] def spin (x : UInt32) (n m : UInt32) : UInt32 := (x <<< n) ||| (x >>> m)

/-- Every word turned left by `n` bits, where `m` is the rest of the 32. -/
@[inline] def spinAll (x : Row) (n m : UInt32) : Row :=
  ⟨spin x.a n m, spin x.b n m, spin x.c n m, spin x.d n m⟩

/-- The row turned left by one, two or three places. -/
@[inline] def turn1 (x : Row) : Row := ⟨x.b, x.c, x.d, x.a⟩
@[inline] def turn2 (x : Row) : Row := ⟨x.c, x.d, x.a, x.b⟩
@[inline] def turn3 (x : Row) : Row := ⟨x.d, x.a, x.b, x.c⟩

end Row

structure Block where
  top : Row
  upper : Row
  lower : Row
  bottom : Row
deriving DecidableEq, Repr, Inhabited

namespace Block

/-- A quarter round on each of the four columns. -/
def columns (x : Block) : Block :=
  let a := x.top.add x.upper
  let d := (x.bottom.xor a).spinAll 16 16
  let c := x.lower.add d
  let b := (x.upper.xor c).spinAll 12 20
  let a := a.add b
  let d := (d.xor a).spinAll 8 24
  let c := c.add d
  let b := (b.xor c).spinAll 7 25
  ⟨a, b, c, d⟩

/-- A quarter round on each of the four diagonals. -/
def diagonals (x : Block) : Block :=
  let y := columns ⟨x.top, x.upper.turn1, x.lower.turn2, x.bottom.turn3⟩
  ⟨y.top, y.upper.turn3, y.lower.turn2, y.bottom.turn1⟩

def doubleRound (x : Block) : Block := x.columns.diagonals

/-- The block after `n` double rounds. -/
def rounds : Nat → Block → Block
  | 0, x => x
  | n + 1, x => rounds n x.doubleRound

def add (x y : Block) : Block :=
  ⟨x.top.add y.top, x.upper.add y.upper, x.lower.add y.lower, x.bottom.add y.bottom⟩

/-- The words of a block, row by row. -/
def word (x : Block) (i : Nat) : UInt32 :=
  let row := match i / 4 with
    | 0 => x.top
    | 1 => x.upper
    | 2 => x.lower
    | _ => x.bottom
  match i % 4 with
  | 0 => row.a
  | 1 => row.b
  | 2 => row.c
  | _ => row.d

end Block

/-- The eight words of a key. -/
structure Key where
  left : Row
  right : Row
deriving DecidableEq, Repr, Inhabited

/-- The constants in the first row of every block. -/
def constants : Row := ⟨0x61707865, 0x3320646E, 0x79622D32, 0x6B206574⟩

/-- Block number `n` of the stream numbered `stream`. -/
def keyBlock (key : Key) (stream : UInt64) (n : Nat) : Block :=
  let counter := UInt64.ofNat n
  let start : Block :=
    ⟨constants, key.left, key.right,
      ⟨counter.toUInt32, (counter >>> 32).toUInt32, stream.toUInt32, (stream >>> 32).toUInt32⟩⟩
  (start.rounds 6).add start

/-- The number of words after which the stream begins again. -/
def streamLength : Nat := 1 <<< 68

/-- Word number `n` of the stream. -/
def streamWord (key : Key) (stream : UInt64) (n : Nat) : UInt32 :=
  (keyBlock key stream (n % streamLength / 16)).word (n % 16)

end DeckBuilder.Random
