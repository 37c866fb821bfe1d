import DeckBuilder.CommandLine.Outcome

/-!
The program: it carries out its command line.  A game at the terminal is carried out again with every
line that is typed, and each time only what is new is printed.
-/
open DeckBuilder

namespace DeckBuilder.CommandLine

/-- Prints the pieces after the first `shown`, up to the place where a player waits for a line; goes
on with the line as one more block of input. -/
partial def converse (words : List String) (clock : Nat) (blocks : List (List Char)) (shown : Nat) :
    IO UInt32 := do
  let start ← IO.monoNanosNow
  let o := outcome words clock { blocks }
  let next := o.waiting.getD o.printed.length
  let stdout ← IO.getStdout
  stdout.putStr (String.join ((o.printed.take next).drop shown))
  stdout.flush
  let line ← if o.waiting.isSome then (← IO.getStdin).getLine else pure ""
  if line.isEmpty then
    (← IO.getStderr).putStr o.errorOutput
    let elapsed := (← IO.monoNanosNow) - start
    stdout.putStr ({ o with printed := o.printed.drop next }.output elapsed)
    stdout.flush
    return UInt32.ofNat o.exit
  else converse words clock (blocks ++ [line.toList]) next

end DeckBuilder.CommandLine

def main (words : List String) : IO UInt32 := do
  CommandLine.converse words (← IO.monoNanosNow) [] 0
