import RoutePattern.Text.Percent

/-! # Options

How patterns are read, matched and built. A codec changes parameter values on their way into a path
and out of it.
-/

namespace RoutePattern

inductive Codec where
  | identity
  | percent
  /-- A function that is used in both directions. -/
  | custom (f : Text → Text)

namespace Codec

def encode : Codec → Text → Text
  | identity, t => t
  | percent, t => Text.Percent.encode t
  | custom f, t => f t

def decode : Codec → Text → Text
  | identity, t => t
  | percent, t => Text.Percent.decode t
  | custom f, t => f t

/-- The name under which a codec is shown. -/
def label : Codec → String
  | identity => "Identity"
  | percent => "Percent"
  | custom _ => "Custom(..)"

/-- The name under which a codec is configured; a custom one has none. -/
def key? : Codec → Option String
  | identity => some "identity"
  | percent => some "percent"
  | custom _ => none

def ofKey? : String → Option Codec
  | "identity" => some identity
  | "percent" => some percent
  | _ => none

end Codec

structure Options where
  /-- Letters match only in their own case. -/
  sensitive : Bool := false
  /-- No delimiter is allowed behind a path. -/
  strict : Bool := false
  /-- A match starts at the start of the path. -/
  anchoredStart : Bool := true
  /-- A match ends at the end of the path. -/
  anchoredEnd : Bool := true
  /-- The characters that a parameter without a fragment of its own does not hold. -/
  delimiter : Text := ['/', '#', '?']
  /-- Characters that may follow a match. -/
  endsWith : Text := []
  /-- Characters that belong to a parameter that stands right behind them. -/
  prefixes : Text := ['.', '/']
  encode : Codec := .identity
  decode : Codec := .identity
  /-- Built values are checked against the fragments of their parameters. -/
  validate : Bool := true

end RoutePattern
