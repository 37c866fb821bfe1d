/-!
Lines of input.  A line keeps the line end that closes it; only the last line may lack one.
-/
namespace DeckBuilder.Text

/-- The lines of a text, each with its line end. -/
def linesOf : List Char → List (List Char)
  | [] => []
  | c :: cs =>
    if c = '\n' then [c] :: linesOf cs
    else match linesOf cs with
      | [] => [[c]]
      | line :: lines => (c :: line) :: lines

/-- Nothing of a text is lost when it is cut into lines. -/
theorem flatten_linesOf (cs : List Char) : (linesOf cs).flatten = cs := by
  induction cs with
  | nil => rfl
  | cons c cs ih =>
    simp only [linesOf]
    split
    · simp [ih]
    · split
      · next h => simp [h] at ih; simp [← ih]
      · next h => rw [h] at ih; simp [← ih]

/-- Cuts a text after every `size` bytes of its UTF-8 form: the first block, which has room for `room`
bytes, and the others.  A character that does not fit whole goes into the next block. -/
def blocksWithin (size room : Nat) : List Char → List Char × List (List Char)
  | [] => ([], [])
  | c :: cs =>
    let n := c.utf8Size
    if n ≤ room then
      let (block, blocks) := blocksWithin size (room - n) cs
      (c :: block, blocks)
    else
      let (block, blocks) := blocksWithin size (size + room - n) cs
      ([], (c :: block) :: blocks)

/-- The blocks of a text, in order. -/
def blocksOf (size : Nat) (cs : List Char) : List (List Char) :=
  let (block, blocks) := blocksWithin size size cs
  block :: blocks

/-- Nothing of a text is lost when it is cut into blocks. -/
theorem flatten_blocksOf (size : Nat) (cs : List Char) : (blocksOf size cs).flatten = cs := by
  suffices h : ∀ room, (blocksWithin size room cs).1 ++ (blocksWithin size room cs).2.flatten = cs by
    simpa [blocksOf] using h size
  induction cs with
  | nil => intro room; rfl
  | cons c cs ih =>
    intro room
    simp only [blocksWithin]
    split <;> simp [ih]

end DeckBuilder.Text
