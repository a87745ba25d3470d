import RoutePattern.Config
import RoutePattern.Json

/-! # Configurations as JSON

The form in which a configuration is passed on. Codecs are written by name, so there is none for a
configuration with a custom codec.
-/

namespace RoutePattern

def Codec.toJson? (c : Codec) : Option Json := c.key?.map fun key => .string key.toList

def Options.toJson? (o : Options) : Option Json := do
  some (.object [
    ("sensitive".toList, .bool o.sensitive),
    ("strict".toList, .bool o.strict),
    ("start".toList, .bool o.anchoredStart),
    ("end".toList, .bool o.anchoredEnd),
    ("delimiter".toList, .string o.delimiter),
    ("ends_with".toList, .string o.endsWith),
    ("prefixes".toList, .string o.prefixes),
    ("encode".toList, ← o.encode.toJson?),
    ("decode".toList, ← o.decode.toJson?),
    ("validate".toList, .bool o.validate)])

namespace Json

def ofLabels (labels : Dictionary Text) : Json := ofDictionary (labels.map string)

def ofText? (t : Option Text) : Json := t.elim null string

end Json

def RouteSpec.toJson (s : RouteSpec) : Json :=
  .object [
    ("pattern".toList, .string s.pattern),
    ("name".toList, .ofText? s.name),
    ("meta".toList, .ofLabels s.labels)]

def Config.toJson? (c : Config) : Option Json := do
  some (.object [
    ("prefix".toList, .ofText? c.mount),
    ("options".toList, ← c.options.toJson?),
    ("routes".toList, .array (c.routes.map (·.toJson)))])

end RoutePattern
