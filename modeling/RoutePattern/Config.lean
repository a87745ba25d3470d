import RoutePattern.Dictionary
import RoutePattern.Router

/-! # Configurations

The routes of a program as they are written down: their prefix, the options they share, and for each
pattern a name and some labels.
-/

namespace RoutePattern

structure RouteSpec where
  pattern : Text
  name : Option Text := none
  labels : Dictionary Text := .empty
deriving DecidableEq, Repr

/-- What a router knows about a route. -/
structure RouteInfo where
  name : Text
  labels : Dictionary Text
deriving DecidableEq, Repr

namespace RouteSpec

/-- The name of a route is its pattern unless it has one of its own. -/
def effectiveName (s : RouteSpec) : Text := s.name.getD s.pattern

def info (s : RouteSpec) : RouteInfo := ⟨s.effectiveName, s.labels⟩

end RouteSpec

structure Config where
  mount : Option Text := none
  options : Options := {}
  routes : List RouteSpec := []

namespace Config

def mountPrefix (c : Config) : Prefix := ⟨c.mount.getD []⟩

/-- A router of all routes in their order. The first route that is refused ends it. -/
def router (c : Config) : Except SyntaxError (Router RouteInfo) :=
  c.routes.foldlM (fun r s => r.register c.mountPrefix s.pattern s.info) (.empty c.options)

end Config

end RoutePattern
