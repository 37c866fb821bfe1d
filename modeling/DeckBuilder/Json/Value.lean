/-!
Values of the JSON data format.  A whole number is kept apart from a number written with a point, an
exponent or a minus sign before zero, because a field that wants a whole number takes only the
former.  An object keeps its fields in written order, repeated names included.
-/
namespace DeckBuilder

inductive Json
  | null
  | bool (value : Bool)
  | int (value : Int)
  | decimal (negative : Bool) (digits : Nat) (exponent : Int)
  | str (text : String)
  | arr (items : List Json)
  | obj (fields : List (String × Json))
deriving Inhabited

namespace Json

/-- The first field of the name, if this is an object that has one. -/
def field? (name : String) : Json → Option Json
  | .obj fields => (fields.find? (·.1 == name)).map (·.2)
  | _ => none

/-- A natural number up to `limit`. -/
def natural? (limit : Nat) : Json → Option Nat
  | .int (.ofNat n) => if n ≤ limit then some n else none
  | _ => none

/-- A natural number of 64 bits. -/
def word? : Json → Option Nat := natural? 0xFFFFFFFFFFFFFFFF

/-- A whole number of 64 bits with sign. -/
def signedWord? : Json → Option Int
  | .int n => if -0x8000000000000000 ≤ n && n < 0x8000000000000000 then some n else none
  | _ => none

def bool? : Json → Option Bool
  | .bool b => some b
  | _ => none

def str? : Json → Option String
  | .str s => some s
  | _ => none

def arr? : Json → Option (List Json)
  | .arr items => some items
  | _ => none

def strings? (j : Json) : Option (List String) := do (← j.arr?).mapM str?

/-- The parts of a record: an object in which none of the names is repeated, other fields being
passed over, or an array with a value for the names in order.  An array may leave off the last
names; it may not have more values than there are names. -/
def record? (names : List String) : Json → Option (List (Option Json))
  | .obj fields =>
    if names.all fun n => (fields.filter (·.1 == n)).length ≤ 1 then
      some (names.map fun n => (fields.find? (·.1 == n)).map (·.2))
    else none
  | .arr items =>
    if items.length ≤ names.length then
      some (items.map some ++ List.replicate (names.length - items.length) none)
    else none
  | _ => none

/-- A case of a sum: its name alone, or an object whose one field is the name and the content. -/
def variant? : Json → Option (String × Option Json)
  | .str name => some (name, none)
  | .obj [(name, content)] => some (name, some content)
  | _ => none

/-- A case without content; a null may stand for the content. -/
def emptyVariant? (j : Json) : Option String :=
  match j.variant? with
  | some (name, none) | some (name, some .null) => some name
  | _ => none

end Json

end DeckBuilder
