import RoutePattern.CommandLine.Arguments
import RoutePattern.Params

/-! # Assignments

Parameters as arguments `name=value`. A name that is given once has a single value, one that is given
more often the list of its values.
-/

namespace RoutePattern.CommandLine.Assignments

/-- The name and the value of an argument, which is divided at its first `=`. -/
def read? (t : Text) : Option (Text × Text) :=
  match Text.splitFirst '=' t with
  | (name, some value) => some (name, value)
  | (_, none) => none

/-- The values of each name, the names in the order in which they first came. -/
def put (name value : Text) : List (Text × List Text) → List (Text × List Text)
  | [] => [(name, [value])]
  | (n, values) :: rest =>
    if n = name then (n, values ++ [value]) :: rest else (n, values) :: put name value rest

def group (assignments : List (Text × Text)) : List (Text × List Text) :=
  assignments.foldl (fun groups a => put a.1 a.2 groups) []

def valueOf : List Text → Value
  | [t] => .single t
  | ts => .repeated ts

/-- The parameters of all arguments, or the first argument that gives none. -/
def params (args : List Text) : Except Text Params := do
  let assignments ← args.mapM fun t => (read? t).elim (.error t) .ok
  .ok (.ofList ((group assignments).map fun g => (.named g.1, valueOf g.2)))

end RoutePattern.CommandLine.Assignments
