import RoutePattern.Text.Split

/-! # Arguments

The arguments of a command: flags, options with a value, and all else by position. Behind `--`
everything counts by position.
-/

namespace RoutePattern.CommandLine

/-- Which arguments a command takes. -/
structure Shape where
  flags : List String := []
  /-- The options with a value, each with the letter that stands for it. -/
  valued : List (String × Char) := []
  /-- How many arguments by position there must be, and may be. -/
  least : Nat
  most : Option Nat

structure Arguments where
  flags : List String := []
  values : List (String × Text) := []
  positional : List Text := []
deriving DecidableEq, Repr

namespace Arguments

def has (a : Arguments) (flag : String) : Bool := a.flags.contains flag

def value? (a : Arguments) (option : String) : Option Text := a.values.lookup option

/-- A flag may be given once. -/
def addFlag? (a : Arguments) (flag : String) : Option Arguments :=
  if a.has flag then none else some { a with flags := a.flags ++ [flag] }

/-- An option may be given once, and its value is not empty. -/
def addValue? (a : Arguments) (option : String) (value : Text) : Option Arguments :=
  if value.isEmpty || (a.value? option).isSome then none
  else some { a with values := a.values ++ [(option, value)] }

def addPositional? (a : Arguments) (most : Option Nat) (t : Text) : Option Arguments :=
  if most.any (· ≤ a.positional.length) then none
  else some { a with positional := a.positional ++ [t] }

end Arguments

inductive Reading where
  | given (a : Arguments)
  /-- The help of the command is asked for. -/
  | help
  | misuse
deriving DecidableEq, Repr

/-- Whether an argument begins like an option, which a value does not. -/
def beginsOption : Text → Bool
  | '-' :: _ :: _ => true
  | _ => false

namespace Shape

def optionOf? (s : Shape) (letter : Char) : Option String :=
  (s.valued.find? (·.2 == letter)).map (·.1)

/-- Reads arguments behind those that are read; `free` behind `--`. -/
def readFrom (s : Shape) (free : Bool) (a : Arguments) : List Text → Reading
  | [] => if a.positional.length < s.least then .misuse else .given a
  | t :: rest =>
    let go (a : Option Arguments) : Reading := a.elim .misuse fun a => s.readFrom free a rest
    let withNext (option : String) : Reading :=
      match rest with
      | [] => .misuse
      | value :: rest =>
        if beginsOption value then .misuse
        else (a.addValue? option value).elim .misuse fun a => s.readFrom free a rest
    if free || !beginsOption t then go (a.addPositional? s.most t)
    else
      match t with
      | ['-', '-'] => s.readFrom true a rest
      | '-' :: '-' :: long =>
        let (name, value) := Text.splitFirst '=' long
        let name := String.ofList name
        match value with
        | none =>
          if name = "help" then .help
          else if s.flags.contains name then go (a.addFlag? name)
          else if (s.valued.lookup name).isSome then withNext name
          else .misuse
        | some value =>
          if (s.valued.lookup name).isSome then go (a.addValue? name value) else .misuse
      | _ :: letter :: attached =>
        if letter = 'h' then .help
        else
          match s.optionOf? letter, attached with
          | none, _ => .misuse
          | some option, [] => withNext option
          | some option, '=' :: value => go (a.addValue? option value)
          | some option, value => go (a.addValue? option value)
      | _ => .misuse

def read (s : Shape) (args : List Text) : Reading := s.readFrom false {} args

end Shape

end RoutePattern.CommandLine
