import RoutePattern.Token

/-! # Parameters

The values of parameters by name, in the order in which the names came. A name that comes again
keeps its place and gets the new value.
-/

namespace RoutePattern

/-- A repeated parameter has all its values, any other a single one. -/
inductive Value where
  | single (t : Text)
  | repeated (ts : List Text)
deriving DecidableEq, Repr

namespace Value

def single? : Value → Option Text
  | single t => some t
  | repeated _ => none

def repeated? : Value → Option (List Text)
  | single _ => none
  | repeated ts => some ts

end Value

structure Params where
  entries : List (Name × Value)
deriving DecidableEq, Repr

namespace Params

def empty : Params := ⟨[]⟩

/-- Entries with the value at its name, which comes last if it is new. -/
def put (name : Name) (value : Value) : List (Name × Value) → List (Name × Value)
  | [] => [(name, value)]
  | (n, v) :: rest => if n = name then (n, value) :: rest else (n, v) :: put name value rest

/-- A name keeps its place; a new one comes last. -/
theorem names_put (name : Name) (value : Value) (entries : List (Name × Value)) :
    (put name value entries).map (·.1) =
      if name ∈ entries.map (·.1) then entries.map (·.1) else entries.map (·.1) ++ [name] := by
  induction entries with
  | nil => simp [put]
  | cons entry rest ih =>
    obtain ⟨n, v⟩ := entry
    by_cases same : n = name
    · simp [put, same]
    · simp only [put, same, if_false, List.map_cons, ih, List.mem_cons, Ne.symm same, false_or]
      split <;> simp

theorem lookup_put_same (name : Name) (value : Value) (entries : List (Name × Value)) :
    (put name value entries).lookup name = some value := by
  induction entries with
  | nil => simp [put]
  | cons entry rest ih =>
    obtain ⟨n, v⟩ := entry
    by_cases same : n = name
    · simp [put, same]
    · simp [put, same, List.lookup_cons, beq_false_of_ne (Ne.symm same), ih]

theorem lookup_put_other {name other : Name} (differs : other ≠ name) (value : Value)
    (entries : List (Name × Value)) :
    (put name value entries).lookup other = entries.lookup other := by
  induction entries with
  | nil => simp [put, List.lookup_cons, beq_false_of_ne differs]
  | cons entry rest ih =>
    obtain ⟨n, v⟩ := entry
    by_cases same : n = name
    · subst same
      simp [put, List.lookup_cons, beq_false_of_ne differs]
    · simp [put, same, List.lookup_cons, ih]

def insert (p : Params) (name : Name) (value : Value) : Params := ⟨put name value p.entries⟩

def ofList (entries : List (Name × Value)) : Params :=
  entries.foldl (fun p e => p.insert e.1 e.2) empty

/-- The value of the first name that the text refers to. -/
def get? (p : Params) (key : Text) : Option Value :=
  (p.entries.find? (·.1.answersTo key)).map (·.2)

/-- The value under exactly this name. -/
def getNamed? (p : Params) (name : Name) : Option Value := p.entries.lookup name

def contains (p : Params) (key : Text) : Bool := (p.get? key).isSome

def size (p : Params) : Nat := p.entries.length

def isEmpty (p : Params) : Bool := p.entries.isEmpty

end Params

end RoutePattern
