import RoutePattern.Text.Quoted

/-! # Prefixes

A prefix is put before every path that does not start with it.
-/

namespace RoutePattern

structure Prefix where
  text : Text
deriving DecidableEq, Repr

namespace Prefix

def isEmpty (p : Prefix) : Bool := p.text.isEmpty

def apply (p : Prefix) (path : Text) : Text :=
  if p.text.isPrefixOf path then path else p.text ++ path

/-- A prefix as it is shown. -/
def shown (p : Prefix) : Text := "RoutePrefix(".toList ++ Text.Quoted.write p.text ++ [')']

theorem apply_of_start (p : Prefix) (rest : Text) : p.apply (p.text ++ rest) = p.text ++ rest := by
  simp [apply]

@[simp] theorem apply_apply (p : Prefix) (path : Text) : p.apply (p.apply path) = p.apply path := by
  by_cases starts : p.text.isPrefixOf path <;> simp [apply, starts]

end Prefix

end RoutePattern
