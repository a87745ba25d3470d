/-! # Runs of code points

The sets of the Unicode character database are written as lists of runs. A run holds every
`step`-th code point between two ends, so that the alternating capitals of the Latin and Cyrillic
blocks take one entry.
-/

namespace RoutePattern.Unicode

/-- The code points `first`, `first + step`, … up to `last`. -/
structure Run where
  first : Nat
  last : Nat
  step : Nat
deriving DecidableEq, Repr

namespace Run

def has (r : Run) (c : Nat) : Bool :=
  r.first ≤ c && c ≤ r.last && (c - r.first) % r.step == 0

/-- Membership in a list of runs whose first points increase: the search ends at the first run
that starts behind `c`. -/
def mem (c : Nat) : List Run → Bool
  | [] => false
  | r :: rs => r.first ≤ c && (r.has c || mem c rs)

end Run

end RoutePattern.Unicode
