import RoutePattern.Toml

/-! # Records

A record in a configuration is a table with the values by key, or an array with the values in the
order of the keys. Keys that are not asked for do not count.
-/

namespace RoutePattern.Toml

inductive Record where
  | named (members : Members)
  | listed (items : List Value)

namespace Record

def ofValue? (v : Value) : Option Record :=
  (v.members?.map named) <|> (v.items?.map listed)

/-- The value of a key, which is the `place`-th of all keys. -/
def get? (r : Record) (place : Nat) (key : String) : Option Value :=
  match r with
  | named ms => ms.lookup key.toList
  | listed items => items[place]?

/-- What a key gives. A value that is missing has a default, one that is there must be readable. -/
def field? {α : Type} (r : Record) (place : Nat) (key : String) (read? : Value → Option α)
    (default : α) : Option α :=
  match r.get? place key with
  | none => some default
  | some v => read? v

end Record

end RoutePattern.Toml
