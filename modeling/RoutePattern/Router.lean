import RoutePattern.Pattern
import RoutePattern.Prefix

/-! # Routers

A table of patterns, each with some information. Patterns without parameters and groups are tried
before all others, and among each kind the one that was registered first wins. A prefix is applied to
a pattern when it is registered and to a path when it is resolved.
-/

namespace RoutePattern

structure Entry (M : Type) where
  pattern : Pattern
  info : M

structure Resolved (M : Type) where
  /-- The text of the pattern that matched. -/
  pattern : Text
  /-- The path behind the prefix. -/
  path : Text
  info : M
  params : Params
deriving DecidableEq, Repr

structure Router (M : Type) where
  options : Options
  plain : List (Entry M)
  dynamic : List (Entry M)

variable {M : Type}

namespace Entry

/-- What an entry makes of a path that has its prefix. -/
def resolve? (e : Entry M) (path : Text) : Option (Resolved M) :=
  (e.pattern.match? path).map fun found => ⟨e.pattern.text, path, e.info, found.params⟩

end Entry

namespace Router

def empty (o : Options) : Router M := ⟨o, [], []⟩

/-- The entries in the order in which they are tried. -/
def entries (r : Router M) : List (Entry M) := r.plain ++ r.dynamic

def size (r : Router M) : Nat := r.plain.length + r.dynamic.length

/-- The options apply to what is registered from now on. -/
def withOptions (r : Router M) (o : Options) : Router M := { r with options := o }

def add (r : Router M) (e : Entry M) : Router M :=
  if e.pattern.plain then { r with plain := r.plain ++ [e] }
  else { r with dynamic := r.dynamic ++ [e] }

theorem size_add (r : Router M) (e : Entry M) : (r.add e).size = r.size + 1 := by
  cases plain : e.pattern.plain <;> simp [add, size, plain] <;> omega

theorem entries_add_dynamic {e : Entry M} (dynamic : e.pattern.plain = false) (r : Router M) :
    (r.add e).entries = r.entries ++ [e] := by
  simp [add, entries, dynamic]

/-- Every entry is a pattern of URL paths, whatever codecs the options name. -/
def register (r : Router M) (p : Prefix) (pattern : Text) (info : M) :
    Except SyntaxError (Router M) := do
  .ok (r.add ⟨← Pattern.forUrl r.options (p.apply pattern), info⟩)

/-- What the first entry that matches makes of a path. -/
def resolve? (r : Router M) (p : Prefix) (path : Text) : Option (Resolved M) :=
  r.entries.findSome? (·.resolve? (p.apply path))

/-- The path that the first entry of a pattern builds, if there is such an entry. -/
def build? (r : Router M) (p : Prefix) (pattern : Text) (data : Params) :
    Option (Except BuildError Text) :=
  (r.entries.find? (·.pattern.text == p.apply pattern)).map (·.pattern.build data)

end Router

end RoutePattern
