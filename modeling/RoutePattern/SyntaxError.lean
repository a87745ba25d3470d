import RoutePattern.Lexeme

/-! # Syntax errors

Why a pattern is refused. Every error but the last carries the byte offset at which it was found.
-/

namespace RoutePattern

inductive SyntaxError where
  | missingParameterName (index : Nat)
  | fragmentStartsWithQuestion (index : Nat)
  | capturingGroup (index : Nat)
  | unbalancedFragment (index : Nat)
  | missingFragment (index : Nat)
  | danglingEscape (index : Nat)
  | unexpected (found : Lexeme) (expected : Lexeme.Body)
  /-- The expression of the pattern, without the flag for case. -/
  | invalidExpression (source : Text)
deriving DecidableEq, Repr

namespace SyntaxError

def message : SyntaxError → String
  | missingParameterName index => s!"missing parameter name at {index}"
  | fragmentStartsWithQuestion index => s!"pattern cannot start with \"?\" at {index}"
  | capturingGroup index => s!"capturing groups are not allowed at {index}"
  | unbalancedFragment index => s!"unbalanced pattern at {index}"
  | missingFragment index => s!"missing pattern at {index}"
  | danglingEscape index => s!"dangling escape character at {index}"
  | unexpected found expected =>
    s!"unexpected {found.body.label} at {found.index}, expected {expected.label}"
  | invalidExpression source => s!"invalid pattern {String.ofList source}"

end SyntaxError

end RoutePattern
