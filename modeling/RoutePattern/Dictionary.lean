import RoutePattern.Text

/-! # Dictionaries

Values by key, in the order of the keys. A key that comes again gets the new value.
-/

namespace RoutePattern

structure Dictionary (α : Type) where
  entries : List (Text × α)
deriving DecidableEq, Repr

namespace Dictionary

variable {α β : Type}

def empty : Dictionary α := ⟨[]⟩

/-- Ordered entries with the value at its key. -/
def put (key : Text) (value : α) : List (Text × α) → List (Text × α)
  | [] => [(key, value)]
  | (k, v) :: rest =>
    if k = key then (key, value) :: rest
    else if key < k then (key, value) :: (k, v) :: rest
    else (k, v) :: put key value rest

def insert (d : Dictionary α) (key : Text) (value : α) : Dictionary α := ⟨put key value d.entries⟩

def ofList (entries : List (Text × α)) : Dictionary α :=
  entries.foldl (fun d e => d.insert e.1 e.2) empty

def get? (d : Dictionary α) (key : Text) : Option α := d.entries.lookup key

def map (f : α → β) (d : Dictionary α) : Dictionary β := ⟨d.entries.map fun e => (e.1, f e.2)⟩

end Dictionary

end RoutePattern
