import RoutePattern.Text

/-! # TOML

The values of a configuration file. A table remembers how it came to be, as that settles which later
lines may add to it.
-/

namespace RoutePattern.Toml

/-- How a table came to be. -/
inductive Origin where
  /-- Between braces. -/
  | inline
  /-- On the way to the table of a header. -/
  | passed
  /-- On the way to the value of a dotted key. -/
  | dotted
  /-- By a header of its own. -/
  | header
deriving DecidableEq, Repr

inductive Value where
  | string (t : Text)
  | boolean (b : Bool)
  | number
  | date (t : Text)
  | array (items : List Value)
  | table (origin : Origin) (members : List (Text × Value))
  /-- The tables of repeated headers in double brackets, the last one first. -/
  | rows (last : List (Text × Value)) (before : List (List (Text × Value)))
deriving Repr

abbrev Members := List (Text × Value)

namespace Members

/-- Members with a new value at a key that is there, or at the end. -/
def put (key : Text) (value : Value) : Members → Members
  | [] => [(key, value)]
  | (k, v) :: rest => if k = key then (k, value) :: rest else (k, v) :: put key value rest

/-- Members with one more, unless the key is taken. -/
def add? (key : Text) (value : Value) (ms : Members) : Option Members :=
  if (ms.lookup key).isSome then none else some (ms ++ [(key, value)])

/-- Changes the table that a path leads to from one of the given origin, and makes the tables that are
missing on the way. The path of a key does not lead into tables with a header, and no path leads into
values between brackets or braces. -/
def within (made : Origin) (change : Origin → Members → Option Members) :
    (path : List Text) → Origin → Members → Option Members
  | [], origin, ms => change origin ms
  | key :: path, _, ms =>
    match ms.lookup key with
    | none => do some (put key (.table made (← within made change path made [])) ms)
    | some (.table origin inner) =>
      if origin = .inline || (origin = .header && made = .dotted) then none
      else do some (put key (.table origin (← within made change path origin inner)) ms)
    | some (.rows last before) => do
      some (put key (.rows (← within made change path .header last) before) ms)
    | some _ => none

/-- Members with the value at a dotted key. Only tables that dotted keys made take further ones. -/
def assign? (path : List Text) (key : Text) (value : Value) (origin : Origin) (ms : Members) :
    Option Members :=
  within .dotted (fun origin ms =>
    if !path.isEmpty && origin ≠ .dotted then none else add? key value ms) path origin ms

/-- Members with the table of a header. -/
def open? (path : List Text) (key : Text) (ms : Members) : Option Members :=
  within .passed (fun _ ms =>
    match ms.lookup key with
    | none => some (put key (.table .header []) ms)
    | some (.table .passed inner) => some (put key (.table .header inner) ms)
    | some _ => none) path .header ms

/-- Members with one more table of a header in double brackets. -/
def openRow? (path : List Text) (key : Text) (ms : Members) : Option Members :=
  within .passed (fun _ ms =>
    match ms.lookup key with
    | none => some (put key (.rows [] []) ms)
    | some (.rows last before) => some (put key (.rows [] (last :: before)) ms)
    | some _ => none) path .header ms

end Members

namespace Value

def string? : Value → Option Text
  | string t => some t
  | _ => none

def boolean? : Value → Option Bool
  | boolean b => some b
  | _ => none

def items? : Value → Option (List Value)
  | array items => some items
  | rows last before => some ((last :: before).reverse.map (table .header))
  | _ => none

/-- The members of a table. A date counts as a table that holds its text. -/
def members? : Value → Option Members
  | table _ ms => some ms
  | date t => some [("$__toml_private_datetime".toList, string t)]
  | _ => none

end Value

end RoutePattern.Toml
