import DeckBuilder.Error
import DeckBuilder.Json.Parser
import DeckBuilder.Json.Printer
import DeckBuilder.Text.Ascii
import DeckBuilder.Text.Blank
import DeckBuilder.Text.Numeral
import DeckBuilder.Text.Quoted

/-!
Scripts: answers written down before the game.  Cards and piles are named, since their numbers are
not known yet.  A script is a text of entries with semicolons or line ends between them; an entry is
a keyword and what it needs, and a comment runs from a number sign to the end of the entry.
-/
namespace DeckBuilder

inductive ScriptedAnswer
  | card (name : String)
  | cards (names : List String)
  | pile (name : String)
  | bool (yes : Bool)
  | options (places : List Nat)
  | integer (n : Int)
  | pass
deriving DecidableEq, Repr, Inhabited

namespace ScriptedAnswer

def toJson : ScriptedAnswer → Json
  | .card name => .obj [("Card", .str name)]
  | .cards names => .obj [("Cards", .arr (names.map .str))]
  | .pile name => .obj [("Pile", .str name)]
  | .bool yes => .obj [("Bool", .bool yes)]
  | .options places => .obj [("Effects", .arr (places.map fun (n : Nat) => Json.int n))]
  | .integer n => .obj [("Integer", .int n)]
  | .pass => .str "Pass"

def ofJson? (j : Json) : Option ScriptedAnswer := do
  if j.emptyVariant? = some "Pass" then return .pass
  let (name, some content) ← j.variant? | none
  match name with
  | "Card" => return .card (← content.str?)
  | "Cards" => return .cards (← content.strings?)
  | "Pile" => return .pile (← content.str?)
  | "Bool" => return .bool (← content.bool?)
  | "Effects" => return .options (← (← content.arr?).mapM Json.word?)
  | "Integer" => return .integer (← content.signedWord?)
  | _ => none

end ScriptedAnswer

namespace Script

/-- An entry without its comment and without blanks at its ends. -/
def bare (entry : List Char) : List Char := Text.trim (entry.takeWhile (· != '#'))

/-- The keyword of an entry in small letters, and the rest. -/
def keyword (entry : List Char) : String × List Char :=
  match Text.cutAt? Text.isBlank entry with
  | some (key, rest) => (Text.asciiLower (String.ofList key), Text.trim rest)
  | none => (Text.asciiLower (String.ofList entry), [])

/-- The answer of an entry that is not empty. -/
def answer? (entry : List Char) : Option ScriptedAnswer :=
  let (key, rest) := keyword entry
  let name := String.ofList rest
  if key = "card" then if rest.isEmpty then none else some (.card name)
  else if key = "cards" then some (.cards (Text.commaList rest))
  else if key = "pile" || key = "buy" then if rest.isEmpty then none else some (.pile name)
  else if key = "yes" || key = "true" then some (.bool true)
  else if key = "no" || key = "false" then some (.bool false)
  else if key = "effects" then
    ((Text.commaList rest).mapM fun n => Text.word? n.toList).map .options
  else if key = "int" then (Text.signedWord? rest).map .integer
  else if key = "pass" then some .pass
  else none

def isSeparator (c : Char) : Bool := c = '\n' || c = ';'

/-- The entries of a script that are not empty. -/
def entries (text : String) : List (List Char) :=
  ((Text.fieldsBy isSeparator text.toList).map bare).filter (!·.isEmpty)

/-- Reads a script; the first entry that says nothing known is the error. -/
def parse (text : String) : Except GameError (List ScriptedAnswer) :=
  (entries text).mapM fun entry =>
    match answer? entry with
    | some a => .ok a
    | none => .error (.invalidSetup ("bad script entry " ++ Text.quote (String.ofList entry)))

end Script

end DeckBuilder
