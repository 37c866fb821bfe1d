import DeckBuilder.Json.Value

/-!
Lenient reading: a part of a value that is missing or of another type counts as null, zero, false or
empty.
-/
namespace DeckBuilder.Json

def isNull : Json → Bool
  | .null => true
  | _ => false

def nat (j : Json) : Nat := j.word?.getD 0

def integer (j : Json) : Int := j.signedWord?.getD 0

def text (j : Json) : String := j.str?.getD ""

def flag (j : Json) : Bool := j.bool?.getD false

def items (j : Json) : List Json := j.arr?.getD []

def texts (j : Json) : List String := j.items.map text

def get (j : Json) (name : String) : Json := (j.field? name).getD .null

def natAt (j : Json) (name : String) : Nat := (j.get name).nat

def integerAt (j : Json) (name : String) : Int := (j.get name).integer

def textAt (j : Json) (name : String) : String := (j.get name).text

def flagAt (j : Json) (name : String) : Bool := (j.get name).flag

def itemsAt (j : Json) (name : String) : List Json := (j.get name).items

def textsAt (j : Json) (name : String) : List String := (j.get name).texts

/-- The item of an array at a place. -/
def item (j : Json) (i : Nat) : Json := (j.items[i]?).getD .null

mutual
/-- How deep the value nests: a value with no parts has depth one. -/
def depth : Json → Nat
  | .arr items => depthOfItems items + 1
  | .obj fields => depthOfFields fields + 1
  | _ => 1
def depthOfItems : List Json → Nat
  | [] => 0
  | j :: js => max j.depth (depthOfItems js)
def depthOfFields : List (String × Json) → Nat
  | [] => 0
  | (_, j) :: fields => max j.depth (depthOfFields fields)
end

end DeckBuilder.Json
