/-!
Reading options off a command line.  The words are read from left to right, and the first one that
does not fit ends the reading.  An option is written with two dashes and its name, or with one dash
and its letter; its value is the next word, or stands in the same word.
-/
namespace DeckBuilder.CommandLine

/-- How often an option may be given, and whether it has a value. -/
inductive Arity
  /-- No value, at most once. -/
  | switch
  /-- A value, at most once. -/
  | single
  /-- A value every time, any number of times. -/
  | repeatable
deriving DecidableEq, Repr, Inhabited

structure OptionRule where
  name : String
  letter : Option Char := none
  arity : Arity := .single
  /-- The values that can be understood. -/
  accepts : String → Bool := fun _ => true

/-- One occurrence of an option, with its value; a switch has the empty value. -/
structure Use where
  option : String
  value : String
deriving DecidableEq, Repr, Inhabited

/-- Why a command line is not carried out. -/
inductive Refusal
  /-- It does not fit the rules. -/
  | misuse
  /-- It asks how to write one. -/
  | help
deriving DecidableEq, Repr, Inhabited

/-- What a word looks like. -/
inductive Word
  /-- Two dashes alone: no options follow. -/
  | divider
  | long (name : String) (value : Option String)
  /-- A letter, and what follows it in the same word. -/
  | short (letter : Char) (rest : List Char)
  | plain (text : String)
deriving DecidableEq, Repr, Inhabited

def Word.ofText (text : String) : Word :=
  match text.toList with
  | ['-', '-'] => .divider
  | '-' :: '-' :: cs =>
    match cs.span (· != '=') with
    | (name, _ :: value) => .long (String.ofList name) (some (String.ofList value))
    | (name, []) => .long (String.ofList name) none
  | '-' :: letter :: rest => .short letter rest
  | _ => .plain text

/-- How far a command line has been read. -/
structure Reading where
  uses : List Use := []
  /-- The option whose value must be the next word. -/
  pending : Option OptionRule := none
  /-- Whether the divider has been read. -/
  closed : Bool := false

namespace Reading

/-- Adds an occurrence of an option. -/
def use (r : Reading) (rule : OptionRule) (value : String) : Except Refusal Reading :=
  if !rule.accepts value then .error .misuse
  else if rule.arity ≠ .repeatable ∧ r.uses.any (·.option == rule.name) then .error .misuse
  else .ok { r with uses := r.uses ++ [⟨rule.name, value⟩], pending := none }

/-- Meets an option that stands together with a value or alone. -/
def meet (r : Reading) (rule : OptionRule) (value : Option String) : Except Refusal Reading :=
  match rule.arity, value with
  | .switch, none => r.use rule ""
  | .switch, some _ => .error .misuse
  | _, some value => r.use rule value
  | _, none => .ok { r with pending := some rule }

/-- Meets the letter of an option; what follows it in the same word is its value, and an equals sign
between them does not count. -/
def short (rules : List OptionRule) (r : Reading) (letter : Char) (rest : List Char) :
    Except Refusal Reading :=
  if letter = 'h' then .error .help
  else match rules.find? (·.letter == some letter), rest with
    | none, _ => .error .misuse
    | some rule, [] => r.meet rule none
    | some rule, '=' :: value => r.meet rule (some (String.ofList value))
    | some rule, value => r.meet rule (some (String.ofList value))

/-- Reads the next word. -/
def word (rules : List OptionRule) (r : Reading) (text : String) : Except Refusal Reading :=
  if r.closed then .error .misuse
  else match r.pending, Word.ofText text with
    | some rule, .plain value => r.use rule value
    | some _, _ => .error .misuse
    | none, .plain _ => .error .misuse
    | none, .divider => .ok { r with closed := true }
    | none, .short letter rest => r.short rules letter rest
    | none, .long name value =>
      match rules.find? (·.name == name) with
      | some rule => r.meet rule value
      | none => .error (if name = "help" ∧ value = none then .help else .misuse)

end Reading

/-- The options used on a command line, in order. -/
def readOptions (rules : List OptionRule) (words : List String) : Except Refusal (List Use) := do
  let r ← words.foldlM (·.word rules) ({} : Reading)
  match r.pending with
  | some _ => .error .misuse
  | none => .ok r.uses

/-- The values given for an option, in order. -/
def valuesOf (uses : List Use) (option : String) : List String :=
  (uses.filter (·.option == option)).map (·.value)

/-- The value given for an option that has one value. -/
def valueOf? (uses : List Use) (option : String) : Option String := (valuesOf uses option).head?

def isUsed (uses : List Use) (option : String) : Bool := uses.any (·.option == option)

end DeckBuilder.CommandLine
