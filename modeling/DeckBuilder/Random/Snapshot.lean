import DeckBuilder.Json.Parser
import DeckBuilder.Json.Printer
import DeckBuilder.Random.Generator

/-!
A generator as JSON text: the 32 bytes of the key, the stream, the place in it and the seed.  A
snapshot that was written reads back as the same generator.
-/
namespace DeckBuilder.Generator

open DeckBuilder.Random

def wordBytes (w : UInt32) : List Nat :=
  let n := w.toNat
  [n % 256, n / 256 % 256, n / 65536 % 256, n / 16777216]

def rowBytes (r : Row) : List Nat := [r.a, r.b, r.c, r.d].flatMap wordBytes

def keyBytes (k : Key) : List Nat := rowBytes k.left ++ rowBytes k.right

def wordOfBytes (a b c d : Nat) : UInt32 := UInt32.ofNat (a + 256 * (b + 256 * (c + 256 * d)))

def words : List Nat → List UInt32
  | a :: b :: c :: d :: rest => wordOfBytes a b c d :: words rest
  | _ => []

def keyOfBytes? (bytes : List Nat) : Option Key :=
  match words bytes with
  | [a, b, c, d, e, f, g, h] =>
    if bytes.length = 32 then some ⟨⟨a, b, c, d⟩, ⟨e, f, g, h⟩⟩ else none
  | _ => none

def toJson (g : Generator) : Json :=
  .obj [
    ("inner", .obj [
      ("seed", .arr ((keyBytes g.key).map fun (b : Nat) => Json.int b)),
      ("stream", .int g.stream.toNat),
      ("word_pos", .int g.position)]),
    ("seed", .int g.seed.toNat)]

/-- Reads a generator; a place past the end of the stream counts from its start again. -/
def ofJson? (j : Json) : Option Generator := do
  let [some inner, some seed] ← j.record? ["inner", "seed"] | none
  let [some bytes, some stream, some place] ← inner.record? ["seed", "stream", "word_pos"] | none
  let key ← keyOfBytes? (← (← bytes.arr?).mapM (Json.natural? 255))
  let stream ← stream.word?
  let place ← place.natural? (1 <<< 128 - 1)
  let seed ← seed.word?
  return {
    key, stream := UInt64.ofNat stream, position := place % streamLength, seed := UInt64.ofNat seed }

def save (g : Generator) : String := g.toJson.render

def load? (text : String) : Option Generator := do ofJson? (← Json.parse? text)

end DeckBuilder.Generator
