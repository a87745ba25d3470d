import RoutePattern.Json
import RoutePattern.Params

/-! # Parameters as JSON

A member per parameter, called as its name is shown. In their own order a name and an ordinal that
look alike are both written; as a dictionary the later one stays.
-/

namespace RoutePattern

namespace Value

def toJson : Value → Json
  | single t => .string t
  | repeated ts => .array (ts.map .string)

end Value

namespace Params

def members (p : Params) : List (Text × Json) := p.entries.map fun e => (e.1.text, e.2.toJson)

def toJson (p : Params) : Json := .object p.members

/-- The members in the order of their keys. -/
def toOrderedJson (p : Params) : Json := .ofDictionary (.ofList p.members)

end Params

end RoutePattern
